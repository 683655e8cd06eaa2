import AlertRelay.Text.Digits
import AlertRelay.Text.Integer

/-!
# Numerals

A numeral is an optional sign and at least one decimal digit, and a minus sign only where negative
numbers are allowed. Its digits are read on from the first, and reading stops where they leave the
bounds. They only grow, so that is exactly where the whole number is out of bounds. What is wrong
with a text that is no numeral is decided by the first character that does not fit.

## Main definitions

* `Text.Numeral` — a text that writes a number between bounds
* `Text.BreaksOff` — digits that stop being a number up to a limit, and why
* `Text.Misspelt` — what is wrong with a text

## Main results

* `Text.readMagnitude_eq_ok_iff`, `Text.readMagnitude_eq_error_iff` — digits that are read on from a
  number
* `Text.readInteger_eq_ok_iff` — what is read is what the text writes
* `Text.readInteger_eq_error_iff` — what is reported is what is wrong with the text
-/

namespace AlertRelay.Text

variable {low high : Int} {s : String} {n : Int} {limit m k : Nat} {c : Char}
  {ds : List Char} {beyond problem : IntegerProblem}

/-- The text writes the number, which lies between the bounds. -/
def Numeral (low high : Int) (s : String) (n : Int) : Prop :=
  low ≤ n ∧ n ≤ high ∧ ∃ ds, ds ≠ [] ∧ (∀ c ∈ ds, c.isDigit = true) ∧
    ((s.toList = ds ∨ s.toList = '+' :: ds) ∧ n = digitsValue ds ∨
      low < 0 ∧ s.toList = '-' :: ds ∧ n = -(digitsValue ds : Int))

/-- The digits stop being a number up to the limit, and this is the problem: there is none, or the
first character that does not fit is no digit, or it is one digit too many. -/
def BreaksOff (limit : Nat) (beyond : IntegerProblem) (ds : List Char) (problem : IntegerProblem) :
    Prop :=
  (ds = [] ∧ problem = .invalidDigit) ∨
    ∃ front c rest, ds = front ++ c :: rest ∧ (∀ d ∈ front, d.isDigit = true) ∧
      digitsValue front ≤ limit ∧
      (c.isDigit = false ∧ problem = .invalidDigit ∨
        c.isDigit = true ∧ limit < digitsValue (front ++ [c]) ∧ problem = beyond)

/-- What is wrong with a text that writes no number between the bounds. A minus sign is a sign only
where negative numbers are allowed, and else a character that is no digit. -/
def Misspelt (low high : Int) (s : String) (problem : IntegerProblem) : Prop :=
  (s.toList = [] ∧ problem = .empty) ∨
    (∃ ds, s.toList = '+' :: ds ∧ BreaksOff high.toNat .tooLarge ds problem) ∨
    (∃ ds, s.toList = '-' :: ds ∧ low < 0 ∧ BreaksOff (-low).toNat .tooSmall ds problem) ∨
    (s.toList ≠ [] ∧ (∀ ds, s.toList ≠ '+' :: ds) ∧ (low < 0 → ∀ ds, s.toList ≠ '-' :: ds) ∧
      BreaksOff high.toNat .tooLarge s.toList problem)

/-! ## Digits -/

/-- The number that the digits write behind the given one. -/
def digitsFrom (m : Nat) (ds : List Char) : Nat := ds.foldl (fun n c => n * 10 + (c.toNat - 48)) m

theorem digitsFrom_cons (m : Nat) (c : Char) (ds : List Char) :
    digitsFrom m (c :: ds) = digitsFrom (m * 10 + (c.toNat - 48)) ds := by
  rw [digitsFrom, digitsFrom, List.foldl_cons]

theorem le_digitsFrom (m : Nat) (ds : List Char) : m ≤ digitsFrom m ds := by
  induction ds generalizing m with
  | nil => exact Nat.le_refl m
  | cons c rest ih =>
    have grown := ih (m * 10 + (c.toNat - 48))
    exact Nat.le_trans (by omega) grown

/-- Digits are read to their end when they write a number up to the limit. -/
theorem readMagnitude_eq_ok_iff (within : m ≤ limit) : readMagnitude limit beyond m ds = .ok k ↔
    (∀ c ∈ ds, c.isDigit = true) ∧ digitsFrom m ds = k ∧ k ≤ limit := by
  induction ds generalizing m with
  | nil =>
    simp only [readMagnitude, digitsFrom, List.foldl_nil, Except.ok.injEq, List.not_mem_nil,
      false_imp_iff, implies_true, true_and]
    omega
  | cons c rest ih =>
    rw [List.forall_mem_cons, digitsFrom_cons]
    by_cases digit : c.isDigit = true
    · by_cases fits : m * 10 + (c.toNat - 48) ≤ limit
      · simp only [readMagnitude, digit, fits, if_true, ih fits, true_and]
      · -- the digits that follow only make the number greater
        have grown := le_digitsFrom (m * 10 + (c.toNat - 48)) rest
        simp only [readMagnitude, digit, fits, if_true, if_false, reduceCtorEq, false_iff]
        omega
    · simp [readMagnitude, digit]

/-- A character behind some of a list is the first of it, or behind some of the others. -/
theorem exists_split_cons {P : List Char → Char → Prop} :
    (∃ front d rest, c :: ds = front ++ d :: rest ∧ P front d) ↔
      P [] c ∨ ∃ front d rest, ds = front ++ d :: rest ∧ P (c :: front) d := by
  constructor
  · rintro ⟨front, d, rest, split, holds⟩
    cases front with
    | nil =>
      obtain ⟨rfl, -⟩ := List.cons.inj split
      exact .inl holds
    | cons first front =>
      obtain ⟨rfl, rfl⟩ := List.cons.inj split
      exact .inr ⟨front, d, rest, rfl, holds⟩
  · rintro (holds | ⟨front, d, rest, rfl, holds⟩)
    · exact ⟨[], c, ds, rfl, holds⟩
    · exact ⟨c :: front, d, rest, rfl, holds⟩

/-- Reading fails at the first character that is no digit or leads beyond the limit. -/
theorem readMagnitude_eq_error_iff (within : m ≤ limit) :
    readMagnitude limit beyond m ds = .error problem ↔
      ∃ front c rest, ds = front ++ c :: rest ∧ (∀ d ∈ front, d.isDigit = true) ∧
        digitsFrom m front ≤ limit ∧
        (c.isDigit = false ∧ problem = .invalidDigit ∨
          c.isDigit = true ∧ limit < digitsFrom m (front ++ [c]) ∧ problem = beyond) := by
  induction ds generalizing m with
  | nil => simp [readMagnitude]
  | cons c rest ih =>
    have start : digitsFrom m [] = m := rfl
    simp only [exists_split_cons, List.nil_append, List.cons_append, List.forall_mem_cons,
      digitsFrom_cons, start, List.not_mem_nil, false_imp_iff, implies_true, true_and, within]
    by_cases digit : c.isDigit = true
    · by_cases fits : m * 10 + (c.toNat - 48) ≤ limit
      · have kept : ¬ limit < digitsFrom (m * 10 + (c.toNat - 48)) [] := Nat.not_lt.mpr fits
        simp only [readMagnitude, digit, fits, if_true, ih fits, kept, reduceCtorEq, false_and,
          and_false, or_false, false_or, true_and]
      · have left : limit < digitsFrom (m * 10 + (c.toNat - 48)) [] := Nat.lt_of_not_le fits
        simp only [readMagnitude, digit, fits, if_true, if_false, left, Except.error.injEq,
          reduceCtorEq, false_and, false_or, true_and]
        constructor
        · exact fun same => .inl same.symm
        · -- the digits that follow only make the number greater
          rintro (same | ⟨front, d, later, -, -, kept, -⟩)
          · exact same.symm
          · have grown := le_digitsFrom (m * 10 + (c.toNat - 48)) front
            omega
    · have stops : c.isDigit = false := Bool.not_eq_true _ ▸ digit
      simp [readMagnitude, stops, eq_comm (a := problem)]

theorem readDigits_eq_error_iff :
    readDigits limit beyond ds = .error problem ↔ BreaksOff limit beyond ds problem := by
  cases ds with
  | nil => simp [readDigits, BreaksOff, eq_comm (a := problem)]
  | cons c rest =>
    rw [readDigits, List.isEmpty_cons, if_neg Bool.false_ne_true,
      readMagnitude_eq_error_iff (Nat.zero_le limit), BreaksOff]
    simp only [reduceCtorEq, false_and, false_or]
    rfl

/-- What does not begin with a digit is no number. -/
theorem breaksOff_of_not_digit (other : c.isDigit = false) :
    BreaksOff limit beyond (c :: ds) problem ↔ problem = .invalidDigit := by
  rw [← readDigits_eq_error_iff]
  simp [readDigits, readMagnitude, other, eq_comm (a := problem)]

theorem readDigits_eq_ok_iff : readDigits limit beyond ds = .ok k ↔
    ds ≠ [] ∧ (∀ c ∈ ds, c.isDigit = true) ∧ digitsValue ds = k ∧ k ≤ limit := by
  cases ds with
  | nil => simp [readDigits]
  | cons c rest =>
    rw [readDigits, List.isEmpty_cons, if_neg Bool.false_ne_true,
      readMagnitude_eq_ok_iff (Nat.zero_le limit)]
    simp only [ne_eq, reduceCtorEq, not_false_eq_true, true_and]
    rfl

theorem map_eq_ok_iff {ε α β : Type} {x : Except ε α} {f : α → β} {b : β} :
    x.map f = .ok b ↔ ∃ a, x = .ok a ∧ f a = b := by
  cases x <;> simp [Except.map]

theorem map_eq_error_iff {ε α β : Type} {x : Except ε α} {f : α → β} {e : ε} :
    x.map f = .error e ↔ x = .error e := by
  cases x <;> simp [Except.map]

/-! ## Signs -/

/-- Digits that are read as a number that is not negative. -/
theorem map_readDigits_eq_ok_iff (highest : 0 ≤ high) :
    (readDigits high.toNat beyond ds).map (fun k : Nat => (k : Int)) = .ok n ↔
      ds ≠ [] ∧ (∀ c ∈ ds, c.isDigit = true) ∧ n = digitsValue ds ∧ n ≤ high := by
  simp only [map_eq_ok_iff, readDigits_eq_ok_iff]
  constructor
  · rintro ⟨k, ⟨nonempty, digits, rfl, fits⟩, rfl⟩
    exact ⟨nonempty, digits, rfl, by omega⟩
  · rintro ⟨nonempty, digits, rfl, fits⟩
    exact ⟨_, ⟨nonempty, digits, rfl, by omega⟩, rfl⟩

/-- Digits that are read as a number that is not positive. -/
theorem map_neg_readDigits_eq_ok_iff (lowest : low ≤ 0) :
    (readDigits (-low).toNat beyond ds).map (fun k : Nat => -(k : Int)) = .ok n ↔
      ds ≠ [] ∧ (∀ c ∈ ds, c.isDigit = true) ∧ n = -(digitsValue ds : Int) ∧ low ≤ n := by
  simp only [map_eq_ok_iff, readDigits_eq_ok_iff]
  constructor
  · rintro ⟨k, ⟨nonempty, digits, rfl, fits⟩, rfl⟩
    exact ⟨nonempty, digits, rfl, by omega⟩
  · rintro ⟨nonempty, digits, rfl, fits⟩
    exact ⟨_, ⟨nonempty, digits, rfl, by omega⟩, rfl⟩

/-- What is read is what the text writes, between bounds around zero. -/
theorem readInteger_eq_ok_iff (lowest : low ≤ 0) (highest : 0 ≤ high) :
    readInteger low high s = .ok n ↔ Numeral low high s n := by
  -- a sign is no digit, so a text with a sign is not also one without
  have unsigned {sign : Char} (other : sign.isDigit = false) {r : List Char} :
      ¬ ∀ c ∈ sign :: r, c.isDigit = true := by simp [other]
  rw [readInteger, Numeral]
  split
  case h_1 shown =>
    refine iff_of_false (fun read => nomatch read) ?_
    rintro ⟨-, -, ds, nonempty, -, ⟨same | same, -⟩ | ⟨-, same, -⟩⟩
    · exact nonempty (same.symm.trans shown)
    · cases same.symm.trans shown
    · cases same.symm.trans shown
  case h_2 r shown =>
    rw [map_readDigits_eq_ok_iff highest, shown]
    constructor
    · rintro ⟨nonempty, digits, rfl, fits⟩
      exact ⟨by omega, fits, r, nonempty, digits, .inl ⟨.inr rfl, rfl⟩⟩
    · rintro ⟨-, fits, ds, nonempty, digits, ⟨same | same, value⟩ | ⟨-, same, -⟩⟩
      · exact absurd digits (same ▸ unsigned rfl)
      · obtain rfl := (List.cons.inj same).2
        exact ⟨nonempty, digits, value, fits⟩
      · exact absurd (List.cons.inj same).1 (by decide)
  case h_3 r shown =>
    rw [shown]
    split
    case isTrue negative =>
      rw [map_neg_readDigits_eq_ok_iff lowest]
      constructor
      · rintro ⟨nonempty, digits, rfl, fits⟩
        exact ⟨fits, by omega, r, nonempty, digits, .inr ⟨negative, rfl, rfl⟩⟩
      · rintro ⟨fits, -, ds, nonempty, digits, ⟨same | same, -⟩ | ⟨-, same, value⟩⟩
        · exact absurd digits (same ▸ unsigned rfl)
        · exact absurd (List.cons.inj same).1 (by decide)
        · obtain rfl := (List.cons.inj same).2
          exact ⟨nonempty, digits, value, fits⟩
    case isFalse natural =>
      refine iff_of_false (fun read => nomatch read) ?_
      rintro ⟨-, -, ds, -, digits, ⟨same | same, -⟩ | ⟨negative, -⟩⟩
      · exact absurd digits (same ▸ unsigned rfl)
      · exact absurd (List.cons.inj same).1 (by decide)
      · exact natural negative
  case h_4 plus minus =>
    rw [map_readDigits_eq_ok_iff highest]
    constructor
    · rintro ⟨nonempty, digits, rfl, fits⟩
      exact ⟨by omega, fits, _, nonempty, digits, .inl ⟨.inl rfl, rfl⟩⟩
    · rintro ⟨-, fits, ds, nonempty, digits, ⟨same | same, value⟩ | ⟨-, same, -⟩⟩
      · exact same ▸ ⟨nonempty, digits, value, fits⟩
      · exact absurd same (plus ds)
      · exact absurd same (minus ds)

/-- What is reported is what is wrong with the text. -/
theorem readInteger_eq_error_iff :
    readInteger low high s = .error problem ↔ Misspelt low high s problem := by
  rw [readInteger, Misspelt]
  split
  case h_1 shown => simp [shown, eq_comm (a := problem)]
  case h_2 r shown => simp [shown, map_eq_error_iff, readDigits_eq_error_iff]
  case h_3 r shown =>
    by_cases negative : low < 0
    · simp [shown, negative, map_eq_error_iff, readDigits_eq_error_iff]
    · -- it is read as a digit, and is none
      have stops : BreaksOff high.toNat .tooLarge ('-' :: r) problem ↔ problem = .invalidDigit :=
        breaksOff_of_not_digit (by decide)
      simp [shown, negative, stops, eq_comm (a := problem)]
  case h_4 nonempty plus minus =>
    rw [map_eq_error_iff, readDigits_eq_error_iff]
    constructor
    · exact fun broken => .inr (.inr (.inr ⟨nonempty, plus, fun _ => minus, broken⟩))
    · rintro (⟨shown, -⟩ | ⟨r, shown, -⟩ | ⟨r, shown, -⟩ | ⟨-, -, -, broken⟩)
      · exact (nonempty shown).elim
      · exact (plus r shown).elim
      · exact (minus r shown).elim
      · exact broken

end AlertRelay.Text
