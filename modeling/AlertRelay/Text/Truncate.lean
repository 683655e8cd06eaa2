/-!
# Truncation to a byte budget

A stored text is bounded in bytes, not in characters, and must not be cut inside a character. The
cut is placed at the last character boundary that does not exceed the budget, found by stepping
back from the budget one byte at a time.

## Main definitions

* `Text.byteSize` — bytes of a list of characters in UTF-8
* `Text.isBoundary` — a byte offset that falls between two characters
* `Text.boundaryAtMost` — the last boundary not after an offset
* `Text.takeBytes` — the characters before a byte offset
* `Text.truncate` — the text cut to a budget
-/

namespace AlertRelay.Text

/-- Bytes of the characters in UTF-8. -/
def byteSize : List Char → Nat
  | [] => 0
  | c :: r => c.utf8Size + byteSize r

/-- The offset `n` falls between two characters, at the start or at the end. -/
def isBoundary : List Char → Nat → Bool
  | [], n => n == 0
  | c :: r, n => n == 0 || (c.utf8Size ≤ n && isBoundary r (n - c.utf8Size))

/-- The last boundary that is not after the given offset. -/
def boundaryAtMost (cs : List Char) : Nat → Nat
  | 0 => 0
  | n + 1 => if isBoundary cs (n + 1) then n + 1 else boundaryAtMost cs n

/-- The characters that end at or before the byte offset. -/
def takeBytes : List Char → Nat → List Char
  | [], _ => []
  | c :: r, n => if c.utf8Size ≤ n then c :: takeBytes r (n - c.utf8Size) else []

/-- The text cut to at most `limit` bytes, whole characters only. -/
def truncateChars (limit : Nat) (cs : List Char) : List Char :=
  if byteSize cs ≤ limit then cs else takeBytes cs (boundaryAtMost cs limit)

/-- The text cut to at most `limit` bytes, whole characters only. -/
def truncate (limit : Nat) (s : String) : String :=
  String.ofList (truncateChars limit s.toList)

theorem isBoundary_zero (cs : List Char) : isBoundary cs 0 = true := by
  cases cs <;> simp [isBoundary]

theorem boundaryAtMost_le (cs : List Char) (n : Nat) : boundaryAtMost cs n ≤ n := by
  induction n with
  | zero => simp [boundaryAtMost]
  | succ n ih =>
    rw [boundaryAtMost]
    split <;> omega

theorem isBoundary_boundaryAtMost (cs : List Char) (n : Nat) :
    isBoundary cs (boundaryAtMost cs n) = true := by
  induction n with
  | zero => exact isBoundary_zero cs
  | succ n ih =>
    rw [boundaryAtMost]
    split
    · assumption
    · exact ih

theorem byteSize_takeBytes_le (cs : List Char) (n : Nat) : byteSize (takeBytes cs n) ≤ n := by
  induction cs generalizing n with
  | nil => simp [takeBytes, byteSize]
  | cons c r ih =>
    rw [takeBytes]
    split
    · have := ih (n - c.utf8Size)
      simp only [byteSize]
      omega
    · simp [byteSize]

/-- The cut text fits the budget. -/
theorem byteSize_truncateChars_le (limit : Nat) (cs : List Char) :
    byteSize (truncateChars limit cs) ≤ limit := by
  rw [truncateChars]
  split
  · assumption
  · exact Nat.le_trans (byteSize_takeBytes_le _ _) (boundaryAtMost_le _ _)

end AlertRelay.Text
