import AlertRelay.Store.Value

/-!
# Replies to statements

A statement that runs gives rows or only says how many it affected. What a reply means depends on
how many rows were asked for: of several rows that answer a question for one, the first counts.

## Main definitions

* `StoreReply` — the replies
* `StoreReply.all`, `StoreReply.first?`, `StoreReply.one` — the rows read as records
* `StoreReply.affected?` — how many rows a statement affected
-/

namespace AlertRelay

/-- The reply to a statement. -/
inductive StoreReply where
  | rows (found : List Row)
  | affected (count : Nat)
  | failed (error : DbError)

namespace StoreReply

variable {α : Type}

/-- The rows of a reply. -/
def rows? : StoreReply → Except DbError (List Row)
  | .rows found => .ok found
  | .affected _ => .ok []
  | .failed e => .error e

/-- Every row read in order, up to the first that does not read. -/
def readAll (read : Row → Except DbError α) : List Row → Except DbError (List α)
  | [] => .ok []
  | r :: rest =>
    match read r with
    | .error e => .error e
    | .ok a =>
      match readAll read rest with
      | .error e => .error e
      | .ok as => .ok (a :: as)

/-- The records of all rows. -/
def all (read : Row → Except DbError α) (reply : StoreReply) : Except DbError (List α) :=
  reply.rows?.bind (readAll read)

/-- The record of the first row, if there is a row. -/
def first? (read : Row → Except DbError α) (reply : StoreReply) : Except DbError (Option α) :=
  reply.rows?.bind fun found =>
    match found with
    | [] => .ok none
    | r :: _ => (read r).map some

/-- The record of the first row, which must be there. -/
def one (read : Row → Except DbError α) (reply : StoreReply) : Except DbError α :=
  reply.rows?.bind fun found =>
    match found with
    | [] => .error .noRows
    | r :: _ => read r

/-- How many rows a statement affected. -/
def affected? : StoreReply → Except DbError Nat
  | .rows found => .ok found.length
  | .affected count => .ok count
  | .failed e => .error e

/-- Whether a statement affected a row. -/
def anyAffected (reply : StoreReply) : Except DbError Bool :=
  reply.affected?.map fun count => decide (0 < count)

/-- Whether a statement ran. -/
def ran (reply : StoreReply) : Except DbError Unit := reply.affected?.map fun _ => ()

end StoreReply

end AlertRelay
