import AlertRelay.Text.Truncate

/-!
# Slices of a text

The part of a text between two byte offsets. There is one when the text is long enough and both
offsets fall between characters; an offset inside a character would split it.

## Main definitions

* `Text.slice` — the part between two offsets, or why there is none

## Main results

* `Text.isBoundary_toList` — the offsets between characters are the valid positions of the text
* `Text.slice_add` — a slice behind the first character
-/

namespace AlertRelay.Text

variable {c : Char} {cs r : List Char} {i j n : Nat}

/-- Why a text has no part between two byte offsets. -/
inductive SliceFault where
  | beyondEnd
  | insideCharacter
  deriving DecidableEq, Repr

/-- The characters from a byte offset on. -/
def dropBytes : List Char → Nat → List Char
  | [], _ => []
  | c :: r, n => if c.utf8Size ≤ n then dropBytes r (n - c.utf8Size) else c :: r

/-- The part of a text between two byte offsets, which must both fall between characters. -/
def slice (cs : List Char) (i j : Nat) : Except SliceFault (List Char) :=
  if byteSize cs < j then .error .beyondEnd
  else if isBoundary cs i && isBoundary cs j then .ok (takeBytes (dropBytes cs i) (j - i))
  else .error .insideCharacter

theorem dropBytes_zero (cs : List Char) : dropBytes cs 0 = cs := by
  cases cs with
  | nil => rfl
  | cons c r => rw [dropBytes, if_neg (Nat.not_le_of_gt c.utf8Size_pos)]

theorem takeBytes_zero (cs : List Char) : takeBytes cs 0 = [] := by
  cases cs with
  | nil => rfl
  | cons c r => rw [takeBytes, if_neg (Nat.not_le_of_gt c.utf8Size_pos)]

/-! ## Offsets -/

theorem utf8ByteSize_ofList (cs : List Char) : (String.ofList cs).utf8ByteSize = byteSize cs := by
  induction cs with
  | nil => rfl
  | cons c r ih =>
    rw [String.ofList_cons, String.utf8ByteSize_append, String.utf8ByteSize_singleton, ih, byteSize]

theorem byteSize_toList (s : String) : byteSize s.toList = s.utf8ByteSize := by
  rw [← utf8ByteSize_ofList, String.ofList_toList]

theorem isBoundary_add : isBoundary (c :: r) (n + c.utf8Size) = isBoundary r n := by
  have := c.utf8Size_pos
  rw [isBoundary, Nat.add_sub_cancel]
  have later : (n + c.utf8Size == 0) = false := by rw [beq_eq_false_iff_ne]; omega
  rw [later, Bool.false_or, decide_eq_true (by omega), Bool.true_and]

/-- An offset falls inside the first character when it is not behind it. -/
theorem isBoundary_eq_false (after : 0 < n) (before : n < c.utf8Size) :
    isBoundary (c :: r) n = false := by
  rw [isBoundary, Bool.or_eq_false_iff, Bool.and_eq_false_iff, beq_eq_false_iff_ne]
  exact ⟨by omega, .inl (decide_eq_false (by omega))⟩

/-- An offset falls between characters when so many bytes are those of the first characters. -/
theorem isBoundary_iff : isBoundary cs n = true ↔ ∃ k, n = byteSize (cs.take k) := by
  induction cs generalizing n with
  | nil => simp [isBoundary, byteSize]
  | cons c r ih =>
    constructor
    · intro boundary
      by_cases start : n = 0
      · exact ⟨0, start⟩
      · by_cases behind : c.utf8Size ≤ n
        · obtain ⟨m, rfl⟩ := Nat.exists_eq_add_of_le' behind
          rw [isBoundary_add] at boundary
          obtain ⟨k, rfl⟩ := ih.mp boundary
          exact ⟨k + 1, Nat.add_comm _ _⟩
        · rw [isBoundary_eq_false (by omega) (by omega)] at boundary
          cases boundary
    · rintro ⟨k, rfl⟩
      cases k with
      | zero => exact isBoundary_zero _
      | succ k =>
        rw [List.take_succ_cons, byteSize, Nat.add_comm, isBoundary_add]
        exact ih.mpr ⟨k, rfl⟩

/-- The offsets between the characters of a text are its valid positions. -/
theorem isBoundary_toList (s : String) (n : Nat) :
    isBoundary s.toList n = true ↔ String.Pos.Raw.IsValid s ⟨n⟩ := by
  rw [isBoundary_iff, String.Pos.Raw.isValid_iff_exists_take_toList]
  simp only [utf8ByteSize_ofList]

/-- A slice behind the first character is one of the others. -/
theorem slice_add : slice (c :: r) (i + c.utf8Size) (j + c.utf8Size) = slice r i j := by
  have size : byteSize (c :: r) < j + c.utf8Size ↔ byteSize r < j := by
    have : byteSize (c :: r) = c.utf8Size + byteSize r := rfl
    omega
  simp only [slice, size, isBoundary_add, dropBytes, Nat.le_add_left, if_true, Nat.add_sub_cancel,
    Nat.add_sub_add_right]

end AlertRelay.Text
