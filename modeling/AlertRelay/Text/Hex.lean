/-!
# Hexadecimal digits

## Main definitions

* `Text.hexValue?` — the value of a digit, in either case
* `Text.hexDigit` — the lowercase digit of a value below sixteen

## Main results

* `hexValue?_hexDigit` — a written digit reads back
-/

namespace AlertRelay.Text

/-- The value of a hexadecimal digit. -/
def hexValue? (c : Char) : Option Nat :=
  if '0' ≤ c ∧ c ≤ '9' then some (c.toNat - 48)
  else if 'a' ≤ c ∧ c ≤ 'f' then some (c.toNat - 87)
  else if 'A' ≤ c ∧ c ≤ 'F' then some (c.toNat - 55)
  else none

/-- The lowercase digit of a value below sixteen. -/
def hexDigit (n : Nat) : Char := if n < 10 then Char.ofNat (48 + n) else Char.ofNat (87 + n)

/-- A written digit reads back as its value. -/
theorem hexValue?_hexDigit {n : Nat} (h : n < 16) : hexValue? (hexDigit n) = some n := by
  have all : ∀ m : Fin 16, hexValue? (hexDigit m.val) = some m.val := by decide
  exact all ⟨n, h⟩

/-- A digit's value is below sixteen. -/
theorem lt_of_hexValue? {c : Char} {n : Nat} (h : hexValue? c = some n) : n < 16 := by
  simp only [hexValue?, Char.le_def, UInt32.le_iff_toNat_le] at h
  have hc : c.val.toNat = c.toNat := rfl
  split at h
  · next hr =>
    have h1 : c.val.toNat ≤ 57 := hr.2
    obtain rfl := Option.some.inj h
    omega
  · split at h
    · next hr =>
      have h1 : c.val.toNat ≤ 102 := hr.2
      obtain rfl := Option.some.inj h
      omega
    · split at h
      · next hr =>
        have h1 : c.val.toNat ≤ 70 := hr.2
        obtain rfl := Option.some.inj h
        omega
      · exact nomatch h

end AlertRelay.Text
