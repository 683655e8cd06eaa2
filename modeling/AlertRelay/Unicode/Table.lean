import AlertRelay.Text.Hex
import AlertRelay.Text.Pieces

/-!
# Tables of character properties

A property of characters is given by a table: rows in ascending order, each for the code points
from a first to a last one. A code point that no row holds has no value. Tables are written as
lines of rows with blanks between them, a row being its first and last code point in base sixteen
(the last one may be left out) and, after a colon, its value. All tables are those of version 17 of
the character database, with characters that version 18 adds.

## Main definitions

* `Unicode.Table` — a table
* `Unicode.Table.find?` — the row that holds a code point
* `Unicode.Table.ofLines` — the table that lines of text write

## Main results

* `Table.find?_holds` — the row that is found holds the code point
-/

namespace AlertRelay.Unicode

/-- The value of the code points from the first to the last one. -/
structure Row (α : Type) where
  first : Nat
  last : Nat
  value : α

/-- Rows in ascending order. -/
abbrev Table (α : Type) := Array (Row α)

namespace Table

variable {α : Type}

/-- The row at the positions from `low` up to `high` that holds the code point. -/
def search (t : Table α) (n low high : Nat) : Option (Row α) :=
  if low < high then
    let middle := (low + high) / 2
    match t[middle]? with
    | none => none
    | some row =>
      if n < row.first then search t n low middle
      else if row.last < n then search t n (middle + 1) high
      else some row
  else none
termination_by high - low

/-- The row that holds the code point. -/
def find? (t : Table α) (n : Nat) : Option (Row α) := search t n 0 t.size

theorem search_holds (t : Table α) (n low high : Nat) (row : Row α)
    (found : search t n low high = some row) : row.first ≤ n ∧ n ≤ row.last := by
  fun_induction search t n low high with
  | case1 => simp at found
  | case2 low high _ middle r _ _ ih => exact ih found
  | case3 low high _ middle r _ _ _ ih => exact ih found
  | case4 low high _ middle r _ above below =>
    obtain rfl := Option.some.inj found
    omega
  | case5 => simp at found

/-- The row that is found holds the code point. -/
theorem find?_holds {t : Table α} {n : Nat} {row : Row α} (found : t.find? n = some row) :
    row.first ≤ n ∧ n ≤ row.last :=
  search_holds t n 0 t.size row found

/-! ### Written tables -/

/-- The number that digits of base sixteen write. -/
def hexNumber (cs : List Char) : Nat :=
  cs.foldl (fun n c => 16 * n + (Text.hexValue? c).getD 0) 0

/-- The numbers that are written with commas between them. -/
def hexNumbers (cs : List Char) : List Nat := (Text.pieces ',' cs).map hexNumber

/-- The row that a text writes, its value read from what follows the colon. -/
def readRow (value : List Char → α) (cs : List Char) : Row α :=
  let range := cs.takeWhile (· != ':')
  let lower := range.takeWhile (· != '-')
  let upper := (range.drop lower.length).tail
  { first := hexNumber lower
    last := hexNumber (if upper.isEmpty then lower else upper)
    value := value (cs.drop range.length).tail }

/-- The table that lines of text write. -/
def ofLines (value : List Char → α) (lines : List String) : Table α :=
  (lines.flatMap fun line => (Text.pieces ' ' line.toList).map (readRow value)).toArray

end Table

end AlertRelay.Unicode
