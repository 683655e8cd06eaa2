import AlertRelay.Text.Blank
import AlertRelay.Text.Digits

/-!
# Numbers of fixed width

A number that is written with leading zeros is read back from its digits. It has at least the given
width, and exactly that width as long as it fits. It starts with a digit, so there is no blank to be
skipped in front of it.

## Main results

* `Text.digitsValue_padded` — the digits of a number write the number
* `Text.length_padded` — a number that fits has the given width
* `Text.trimStart_padded` — no blank comes before a number
-/

namespace AlertRelay.Text

variable {width n : Nat}

theorem digitsValue_eq_ofDigitChars (ds : List Char) : digitsValue ds = Nat.ofDigitChars 10 ds 0 := by
  rw [Nat.ofDigitChars_eq_foldl, digitsValue]
  simp only [Nat.mul_comm 10]
  rfl

/-- The digits of a number write the number, whatever zeros lead. -/
theorem digitsValue_padded (width n : Nat) : digitsValue (padded width n) = n := by
  rw [digitsValue_eq_ofDigitChars, padded, Nat.ofDigitChars_append, Nat.ofDigitChars_replicate_zero,
    Nat.mul_zero, Nat.ofDigitChars_ten_toDigits]

theorem isDigit_of_mem_padded {c : Char} (member : c ∈ padded width n) : c.isDigit = true := by
  rcases List.mem_append.mp member with leading | own
  · rw [List.eq_of_mem_replicate leading]
    rfl
  · exact Nat.isDigit_of_mem_toDigits (by decide) (by decide) own

theorem padded_ne_nil : padded width n ≠ [] := by
  have own : Nat.toDigits 10 n ≠ [] := List.length_pos_iff.mp Nat.length_toDigits_pos
  simp [padded, own]

/-- A number that fits has the given width. -/
theorem length_padded (positive : 0 < width) (fits : n < Nat.pow 10 width) :
    (padded width n).length = width := by
  have short : (Nat.toDigits 10 n).length ≤ width :=
    (Nat.length_toDigits_le_iff (by decide) positive).mpr fits
  rw [padded, List.length_append, List.length_replicate, Nat.sub_add_cancel short]

theorem isBlank_of_isDigit {c : Char} (digit : c.isDigit = true) : isBlank c = false := by
  have bounds : 48 ≤ c.toNat ∧ c.toNat ≤ 57 := Char.isDigit_iff_toNat.mp digit
  -- the first of the blanks lie below the digits, and all others above
  simp [isBlank, UInt32.le_iff_toNat_le, ← UInt32.toNat_inj]
  omega

/-- Text that starts with another character has no blanks to be skipped. -/
theorem trimStart_cons {c : Char} (visible : isBlank c = false) (rest : List Char) :
    trimStart (c :: rest) = c :: rest := by
  rw [trimStart, List.dropWhile_cons_of_neg (by simp [visible])]

/-- No blank comes before a number. -/
theorem trimStart_padded (width n : Nat) (rest : List Char) :
    trimStart (padded width n ++ rest) = padded width n ++ rest := by
  cases shown : padded width n with
  | nil => exact absurd shown padded_ne_nil
  | cons c ds =>
    have digit : c.isDigit = true := isDigit_of_mem_padded (shown ▸ List.mem_cons_self)
    exact trimStart_cons (isBlank_of_isDigit digit) _

end AlertRelay.Text
