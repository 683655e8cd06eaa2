import AlertRelay.Decode.Error

/-!
# Decoding JSON values

Decoders of scalars, lists, options, named variants and records. A record is accepted as an object
or as the array of its fields in declaration order. Of an object all fields are decoded in the
order of the document before a missing one is reported; of an array the fields are decoded in
turn.

## Main definitions

* `Decoder` — a function from JSON values
* `Decode.string`, `Decode.boolean`, `Decode.integer`, `Decode.float`, `Decode.instant` — scalars
* `Decode.list`, `Decode.option`, `Decode.variant` — composed values
* `Decode.record` — records, by way of `Decode.Fields`
-/

namespace AlertRelay

/-- A function that decodes a JSON value. -/
abbrev Decoder (α : Type) := Json → Except Decode.Error α

namespace Decode

/-- The value has another type than expected. -/
def wrongType {α : Type} (j : Json) (expected : String) : Except Error α :=
  .error (.invalidType (.ofJson j) expected)

/-! ### Scalars -/

/-- A string. -/
def string : Decoder String
  | .str s => .ok s
  | j => wrongType j "a string"

/-- A boolean. -/
def boolean : Decoder Bool
  | .bool b => .ok b
  | j => wrongType j "a boolean"

/-- The integers of a signed word of `bits` bits. -/
def fitsBits (bits : Nat) (i : Int) : Bool :=
  -(Nat.pow 2 (bits - 1)) ≤ i && i < Nat.pow 2 (bits - 1)

/-- An integer of a signed word; doubles are refused even when they are whole. -/
def integer (bits : Nat) : Decoder Int
  | .int i =>
    if fitsBits bits i then .ok i else .error (.invalidValue (.int i) s!"i{bits}")
  | j => wrongType j s!"i{bits}"

/-- A double; integers are accepted. -/
def float : Decoder Float
  | .int i => .ok (Float.ofInt i)
  | .double x => .ok x
  | j => wrongType j "f64"

/-- Any value. -/
def value : Decoder Json := .ok

/-- A timestamp in a string. -/
def instant : Decoder Instant
  | .str s =>
    match Timestamp.read s with
    | .ok t => .ok t
    | .error p => .error (.timestamp p)
  | j => wrongType j "an RFC 3339 formatted date and time string"

/-! ### Composed values -/

/-- All items decoded in order, up to the first failure. -/
def items {α : Type} (decode : Decoder α) : List Json → Except Error (List α)
  | [] => .ok []
  | j :: r =>
    match decode j with
    | .error e => .error e
    | .ok a =>
      match items decode r with
      | .error e => .error e
      | .ok as => .ok (a :: as)

/-- A list. -/
def list {α : Type} (decode : Decoder α) : Decoder (List α)
  | .arr l => items decode l
  | j => wrongType j "a sequence"

/-- A value that may be null. -/
def option {α : Type} (decode : Decoder α) : Decoder (Option α)
  | .null => .ok none
  | j => (decode j).map some

/-- The value named by a variant. -/
def named {α : Type} (variants : List (String × α)) (name : String) : Except Error α :=
  match variants.lookup name with
  | some a => .ok a
  | none => .error (.unknownVariant name (variants.map Prod.fst))

/-- A named variant: its name, or an object with the name as single key and null under it. -/
def variant {α : Type} (variants : List (String × α)) : Decoder α
  | .str s => named variants s
  | .obj [(name, content)] =>
    match named variants name with
    | .error e => .error e
    | .ok a =>
      match content with
      | .null => .ok a
      | j => wrongType j "unit"
  | .obj _ => .error (.invalidValue .map "map with a single key")
  | j => wrongType j "string or map"

/-! ### Records -/

/-- The fields of a record under decoding: their values by name, what to report for a missing one,
and whether an optional one may be missing. -/
structure Fields where
  value? : String → Option Json
  missing : String → Error
  mayOmit : Bool

/-- A field that must be there. -/
def Fields.required {α : Type} (f : Fields) (name : String) (decode : Decoder α) : Except Error α :=
  match f.value? name with
  | some j => decode j
  | none => .error (f.missing name)

/-- A field that may be null, and in an object missing. -/
def Fields.optional {α : Type} (f : Fields) (name : String) (decode : Decoder α) :
    Except Error (Option α) :=
  match f.value? name with
  | some j => option decode j
  | none => if f.mayOmit then .ok none else .error (f.missing name)

/-- The fields of an object. -/
def Fields.ofObject (fields : List (String × Json)) : Fields :=
  { value? := fun name => Json.lookup name fields
    missing := .missingField
    mayOmit := true }

/-- The fields of an array, in the order of the names. -/
def Fields.ofArray (record : String) (names : List String) (items : List Json) : Fields :=
  { value? := fun name => items[names.idxOf name]?
    missing := fun _ =>
      .invalidLength items.length s!"struct {record} with {names.length} elements"
    mayOmit := false }

/-- The error of a value that does not decode. -/
def failure? {α : Type} (decode : Decoder α) (j : Json) : Option Error :=
  match decode j with
  | .ok _ => none
  | .error e => some e

/-- The first error among the known fields of an object, in the order of the object. -/
def firstFailure? (rules : List (String × (Json → Option Error))) :
    List (String × Json) → Option Error
  | [] => none
  | (name, j) :: r =>
    match (rules.lookup name).bind (· j) with
    | some e => some e
    | none => firstFailure? rules r

/-- A record: `rules` gives its field names in declaration order with the failure of each field's
value, and `build` puts the fields together, reading them in declaration order. -/
def record {α : Type} (name : String) (rules : List (String × (Json → Option Error)))
    (build : Fields → Except Error α) : Decoder α
  | .obj fields =>
    match firstFailure? rules fields with
    | some e => .error e
    | none => build (.ofObject fields)
  | .arr items =>
    match build (.ofArray name (rules.map Prod.fst) items) with
    | .error e => .error e
    | .ok a =>
      if rules.length < items.length then
        .error (.invalidLength items.length "fewer elements in array")
      else .ok a
  | j => wrongType j s!"struct {name}"

/-- Decoding a list succeeds exactly when every item decodes. -/
theorem items_eq_ok_iff {α : Type} (decode : Decoder α) (l : List Json) (as : List α) :
    items decode l = .ok as ↔ l.map decode = as.map .ok := by
  induction l generalizing as with
  | nil => cases as <;> simp [items]
  | cons j r ih =>
    rw [items]
    cases hj : decode j with
    | error e => cases as <;> simp [hj]
    | ok a =>
      cases hr : items decode r with
      | error e =>
        cases as with
        | nil => simp
        | cons b bs =>
          have := ih bs
          rw [hr] at this
          simp only [reduceCtorEq, false_iff] at this
          simp [hj, this]
      | ok bs =>
        cases as with
        | nil => simp
        | cons b cs =>
          have := ih cs
          rw [hr] at this
          simp only [Except.ok.injEq, List.cons.injEq, List.map_cons, hj, ← this]

end Decode

end AlertRelay
