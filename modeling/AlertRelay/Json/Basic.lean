/-!
# JSON values

A JSON value as the relay stores and sends it. Integers from `-2^63` to `2^64 - 1` are kept apart
from doubles, so that a number is written back as it was read. An object is a list of fields: a
document that is written in a declared order lists them in that order, while a document that went
through storage has its fields sorted by key at every level.

## Main definitions

* `Json` — the values
* `Json.field?` — the value under a key
* `Json.sorted` — the value with the fields of every object sorted by key
* `Json.ofFloat` — a double, or null when it is not finite

## Main results

* `field?_insertField` — inserting a field sets its value and leaves the others
-/

namespace AlertRelay

/-- A JSON value. -/
inductive Json where
  | null
  | bool (b : Bool)
  | int (i : Int)
  | double (x : Float)
  | str (s : String)
  | arr (items : List Json)
  | obj (fields : List (String × Json))

namespace Json

instance : Inhabited Json := ⟨.null⟩

/-- The least integer that stays an integer. -/
def minInt : Int := -0x8000_0000_0000_0000

/-- The greatest integer that stays an integer. -/
def maxInt : Int := 0xFFFF_FFFF_FFFF_FFFF

/-- The value of the first field with the key. -/
def lookup (key : String) : List (String × Json) → Option Json
  | [] => none
  | (k, v) :: r => if k = key then some v else lookup key r

/-- The value under a key of an object. -/
def field? (key : String) : Json → Option Json
  | .obj fields => lookup key fields
  | _ => none

/-- Inserts a field before the first greater key, replacing a field of the same key. -/
def insertField (key : String) (value : Json) : List (String × Json) → List (String × Json)
  | [] => [(key, value)]
  | (k, v) :: r =>
    if key < k then (key, value) :: (k, v) :: r
    else if k = key then (key, value) :: r
    else (k, v) :: insertField key value r

/-- Inserts a field unless its key is there already. -/
def insertNew (key : String) (value : Json) (fields : List (String × Json)) :
    List (String × Json) :=
  match lookup key fields with
  | some _ => fields
  | none => insertField key value fields

mutual

/-- The value with the fields of every object sorted by key; of several fields with one key the last
counts. -/
def sorted : Json → Json
  | .null => .null
  | .bool b => .bool b
  | .int i => .int i
  | .double x => .double x
  | .str s => .str s
  | .arr items => .arr (sortedItems items)
  | .obj fields => .obj (sortedFields fields)

/-- Every item sorted. -/
def sortedItems : List Json → List Json
  | [] => []
  | v :: r => sorted v :: sortedItems r

/-- The fields sorted by key, each value sorted. -/
def sortedFields : List (String × Json) → List (String × Json)
  | [] => []
  | (k, v) :: r => insertNew k (sorted v) (sortedFields r)

end

/-- A double as a stored value: infinities and NaN have none and become null. -/
def ofFloat (x : Float) : Json := if x.isFinite then .double x else .null

/-- An optional value, null when absent. -/
def ofOption {α : Type} (f : α → Json) : Option α → Json
  | some a => f a
  | none => .null

theorem lookup_insertField (key other : String) (value : Json) (fields : List (String × Json)) :
    lookup other (insertField key value fields) =
      if key = other then some value else lookup other fields := by
  induction fields with
  | nil => simp [insertField, lookup]
  | cons f r ih =>
    obtain ⟨k, v⟩ := f
    rw [insertField]
    split
    · simp [lookup]
    · split
      · next hk =>
        subst hk
        by_cases h : k = other <;> simp [lookup, h]
      · next hk =>
        by_cases h : k = other
        · subst h
          have : ¬ key = k := fun e => hk e.symm
          simp [lookup, this]
        · simp [lookup, h, ih]

theorem lookup_insertNew (key other : String) (value : Json) (fields : List (String × Json)) :
    lookup other (insertNew key value fields) =
      if key = other then (lookup key fields).or (some value) else lookup other fields := by
  rw [insertNew]
  split
  · next v h =>
    by_cases e : key = other
    · subst e
      simp [h]
    · simp [e]
  · next h => rw [lookup_insertField, h]; rfl

end Json

end AlertRelay
