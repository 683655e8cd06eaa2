import AlertRelay.Signature.Basic

/-!
# Spellings of a signature

A signature header is written as `sha256=` and two hexadecimal digits for every byte of the digest.
A reader takes the letters among them in either case. It reads each byte as an integer, though, and
an integer may have a plus sign in front: so a byte below sixteen is also read when a plus sign
stands in place of its leading zero, and a header that is no signature is accepted. Every accepted
header is a signature but for such signs.

## Main definitions

* `Signature.IsDigitOf`, `Signature.Spells` — digits of numbers, and of bytes
* `Signature.Fits` — a header that is the signature of a body
* `Signature.withoutSigns` — plus signs in front of pairs taken for zeros

## Main results

* `Signature.hexValue?_eq_some_iff` — what has a value is a digit of it
* `Signature.readHex_eq_some_iff` — what is read from some characters
* `Signature.verify_takesSigns` — which headers are accepted
-/

namespace AlertRelay.Signature

variable {a b c : Char} {n : Nat} {x : UInt8} {cs digits : List Char} {bytes : List UInt8}

/-! ## Digits -/

/-- A decimal digit, or a letter up to F in either case. -/
def IsHexDigit (c : Char) : Prop :=
  ('0' ≤ c ∧ c ≤ '9') ∨ ('a' ≤ c ∧ c ≤ 'f') ∨ ('A' ≤ c ∧ c ≤ 'F')

instance (c : Char) : Decidable (IsHexDigit c) :=
  inferInstanceAs (Decidable (_ ∨ _))

/-- The digits of the numbers from zero on, with small letters. -/
def smallDigits : List Char :=
  ['0', '1', '2', '3', '4', '5', '6', '7', '8', '9', 'a', 'b', 'c', 'd', 'e', 'f']

/-- The digits of the numbers from zero on, with capital letters. -/
def capitalDigits : List Char :=
  ['0', '1', '2', '3', '4', '5', '6', '7', '8', '9', 'A', 'B', 'C', 'D', 'E', 'F']

/-- The character is the digit of the number, in either case. -/
def IsDigitOf (c : Char) (n : Nat) : Prop := smallDigits[n]? = some c ∨ capitalDigits[n]? = some c

instance (c : Char) (n : Nat) : Decidable (IsDigitOf c n) :=
  inferInstanceAs (Decidable (_ ∨ _))

theorem lt_of_isDigitOf (digit : IsDigitOf c n) : n < 16 := by
  rcases digit with small | capital
  · exact (List.getElem?_eq_some_iff.mp small).1
  · exact (List.getElem?_eq_some_iff.mp capital).1

theorem isHexDigit_of_isDigitOf (digit : IsDigitOf c n) : IsHexDigit c := by
  have all : ∀ m : Fin 16, IsHexDigit smallDigits[m] ∧ IsHexDigit capitalDigits[m] := by decide
  rcases digit with small | capital
  · obtain ⟨lt, rfl⟩ := List.getElem?_eq_some_iff.mp small
    exact (all ⟨n, lt⟩).1
  · obtain ⟨lt, rfl⟩ := List.getElem?_eq_some_iff.mp capital
    exact (all ⟨n, lt⟩).2

theorem toNat_lt_of_isHexDigit (digit : IsHexDigit c) : c.toNat < 128 := by
  rcases digit with ⟨-, le⟩ | ⟨-, le⟩ | ⟨-, le⟩
  all_goals exact Nat.lt_of_le_of_lt (UInt32.le_iff_toNat_le.mp le) (by decide)

theorem isHexDigit_of_hexValue? (read : Text.hexValue? c = some n) : IsHexDigit c := by
  rw [Text.hexValue?] at read
  split at read
  next decimal => exact .inl decimal
  split at read
  next small => exact .inr (.inl small)
  split at read
  next capital => exact .inr (.inr capital)
  cases read

/-- What has a value is the digit of that value. -/
theorem hexValue?_eq_some_iff : Text.hexValue? c = some n ↔ IsDigitOf c n := by
  constructor
  · intro read
    have all : ∀ k : Fin 128, (Text.hexValue? (Char.ofNat k)).all
        (fun m => decide (IsDigitOf (Char.ofNat k) m)) = true := by
      decide
    have digit := all ⟨c.toNat, toNat_lt_of_isHexDigit (isHexDigit_of_hexValue? read)⟩
    rw [Char.ofNat_toNat, read, Option.all_some, decide_eq_true_iff] at digit
    exact digit
  · have all : ∀ m : Fin 16, Text.hexValue? smallDigits[m] = some m.val ∧
        Text.hexValue? capitalDigits[m] = some m.val := by
      decide
    rintro (small | capital)
    · obtain ⟨lt, rfl⟩ := List.getElem?_eq_some_iff.mp small
      exact (all ⟨n, lt⟩).1
    · obtain ⟨lt, rfl⟩ := List.getElem?_eq_some_iff.mp capital
      exact (all ⟨n, lt⟩).2

/-! ## Pairs of digits -/

/-- The two characters are the hexadecimal digits of the byte. -/
def Writes (a b : Char) (x : UInt8) : Prop :=
  ∃ high low, IsDigitOf a high ∧ IsDigitOf b low ∧ x.toNat = 16 * high + low

/-- The characters are the hexadecimal digits of the bytes, two for each. -/
inductive Spells : List Char → List UInt8 → Prop
  | nil : Spells [] []
  | cons {a b : Char} {x : UInt8} {cs : List Char} {bytes : List UInt8} (pair : Writes a b x)
      (rest : Spells cs bytes) : Spells (a :: b :: cs) (x :: bytes)

theorem Spells.length (spells : Spells cs bytes) : cs.length = 2 * bytes.length := by
  induction spells with
  | nil => rfl
  | cons _ _ ih => simp only [List.length_cons, ih]; omega

theorem Spells.isHexDigit (spells : Spells cs bytes) : ∀ c ∈ cs, IsHexDigit c := by
  induction spells with
  | nil => simp
  | cons pair _ ih =>
    obtain ⟨high, low, first, second, -⟩ := pair
    rw [List.forall_mem_cons, List.forall_mem_cons]
    exact ⟨isHexDigit_of_isDigitOf first, isHexDigit_of_isDigitOf second, ih⟩

theorem ofNat_eq_iff (fits : n < 256) : UInt8.ofNat n = x ↔ x.toNat = n := by
  rw [← UInt8.toNat_inj, UInt8.toNat_ofNat_of_lt' fits, eq_comm]

/-- Two digits are read as the byte that they write. -/
theorem readByte_eq_some_iff (unsigned : a ≠ '+') : readByte a b = some x ↔ Writes a b x := by
  rw [readByte, if_neg unsigned]
  constructor
  · intro read
    cases first : Text.hexValue? a with
    | none => simp [first] at read
    | some high =>
      cases second : Text.hexValue? b with
      | none => simp [first, second] at read
      | some low =>
        have := Text.lt_of_hexValue? first
        have := Text.lt_of_hexValue? second
        simp only [first, second, Option.some.injEq] at read
        exact ⟨high, low, hexValue?_eq_some_iff.mp first, hexValue?_eq_some_iff.mp second,
          (ofNat_eq_iff (by omega)).mp read⟩
  · rintro ⟨high, low, first, second, value⟩
    have := lt_of_isDigitOf first
    have := lt_of_isDigitOf second
    rw [hexValue?_eq_some_iff.mpr first, hexValue?_eq_some_iff.mpr second]
    exact congrArg some ((ofNat_eq_iff (by omega)).mpr value)

/-- A sign in front of a digit is read as a zero is. -/
theorem readByte_plus (b : Char) : readByte '+' b = readByte '0' b := by
  have zero : Text.hexValue? '0' = some 0 := by decide
  rw [readByte, readByte, if_pos rfl, if_neg (by decide), zero]
  cases Text.hexValue? b <;> simp

/-! ## Signs -/

/-- The characters with a zero for every plus sign in front of a pair. -/
def withoutSigns : List Char → List Char
  | a :: b :: r => (if a = '+' then '0' else a) :: b :: withoutSigns r
  | cs => cs

/-- What is left of the characters after the pairs is none or one. -/
theorem eq_nil_or_singleton (unpaired : ∀ a b r, cs = a :: b :: r → False) :
    cs = [] ∨ ∃ c, cs = [c] := by
  rcases cs with _ | ⟨c, _ | ⟨b, r⟩⟩
  · exact .inl rfl
  · exact .inr ⟨c, rfl⟩
  · exact (unpaired c b r rfl).elim

theorem withoutSigns_of_not_mem (unsigned : '+' ∉ cs) : withoutSigns cs = cs := by
  induction cs using withoutSigns.induct with
  | case1 a b r ih =>
    simp only [List.mem_cons, not_or] at unsigned
    rw [withoutSigns, if_neg (Ne.symm unsigned.1), ih unsigned.2.2]
  | case2 cs => rw [withoutSigns]; assumption

theorem readByte_withoutSigns :
    readByte a b = some x ↔ Writes (if a = '+' then '0' else a) b x := by
  by_cases signed : a = '+'
  · rw [signed, readByte_plus, if_pos rfl, readByte_eq_some_iff (by decide)]
  · rw [if_neg signed, readByte_eq_some_iff signed]

theorem readHex_cons_eq_some_iff : readHex (a :: b :: cs) = some bytes ↔
    ∃ x xs, readByte a b = some x ∧ readHex cs = some xs ∧ bytes = x :: xs := by
  rw [readHex]
  cases readByte a b <;> cases readHex cs <;> simp [eq_comm]

theorem spells_cons_iff : Spells (a :: b :: cs) bytes ↔
    ∃ x xs, Writes a b x ∧ Spells cs xs ∧ bytes = x :: xs := by
  constructor
  · intro spells
    cases spells with
    | cons pair rest => exact ⟨_, _, pair, rest, rfl⟩
  · rintro ⟨x, xs, pair, rest, rfl⟩
    exact .cons pair rest

/-- What is read from some characters is what they spell but for the signs. -/
theorem readHex_eq_some_iff : readHex cs = some bytes ↔ Spells (withoutSigns cs) bytes := by
  -- on the characters, two at a time
  induction cs using withoutSigns.induct generalizing bytes with
  | case1 a b r ih =>
    simp only [readHex_cons_eq_some_iff, withoutSigns, spells_cons_iff, readByte_withoutSigns, ih]
  | case2 cs unpaired =>
    obtain rfl | ⟨c, rfl⟩ := eq_nil_or_singleton unpaired
    · exact ⟨fun read => by cases read; exact .nil, fun spells => by cases spells; rfl⟩
    · exact ⟨fun read => (nomatch read), fun spells => nomatch spells⟩

/-! ## Headers -/

/-- The header is the signature of the body: `sha256=` and 64 hexadecimal digits, which are those of
the 32 bytes of the digest. -/
def Fits (secret : String) (body : List UInt8) (value : String) : Prop :=
  ∃ digits, value = "sha256=" ++ String.ofList digits ∧ digits.length = 64 ∧
    (∀ c ∈ digits, IsHexDigit c) ∧ Spells digits (mac secret body)

theorem afterScheme?_eq_some_iff {ps : List Char} :
    afterScheme? ps cs = some digits ↔ cs = ps ++ digits := by
  induction ps generalizing cs with
  | nil => simp [afterScheme?]
  | cons p ps ih =>
    cases cs with
    | nil => simp [afterScheme?]
    | cons c cs =>
      rw [afterScheme?]
      split
      next same => rw [ih, same, List.cons_append, List.cons.injEq, eq_self_iff_true, true_and]
      next other => simp [Ne.symm other]

theorem toList_header (cs : List Char) : ("sha256=" ++ String.ofList cs).toList = scheme ++ cs :=
  String.toList_append.trans (congrArg (scheme ++ ·) String.toList_ofList)

/-- A header is accepted when it is `sha256=` and characters that spell the digest but for signs. -/
theorem verify_eq_true_iff {secret : String} {body : List UInt8} {value : String} :
    verify secret body value = true ↔ ∃ cs, value = "sha256=" ++ String.ofList cs ∧
      Spells (withoutSigns cs) (mac secret body) := by
  have cut (cs : List Char) : value = "sha256=" ++ String.ofList cs ↔
      afterScheme? scheme value.toList = some cs := by
    rw [afterScheme?_eq_some_iff, ← String.toList_inj, toList_header]
  simp only [cut, ← readHex_eq_some_iff, verify]
  cases afterScheme? scheme value.toList with
  | none => simp
  | some cs =>
    cases read : readHex cs <;> simp [read]

theorem length_mac (secret : String) (body : List UInt8) : (mac secret body).length = 32 :=
  Hmac.length_mac _ _

/-- There is no plus sign in a signature. -/
theorem Fits.unsigned {secret : String} {body : List UInt8} {value : String}
    (fits : Fits secret body value) : '+' ∉ value.toList := by
  obtain ⟨digits, rfl, -, digit, -⟩ := fits
  rw [toList_header, List.mem_append, not_or]
  exact ⟨by decide, fun sign => absurd (digit _ sign) (by decide)⟩

/-- A header is accepted exactly when it is the signature of the body, some leading zeros of bytes
written as plus signs. One without a plus sign is accepted exactly when it is the signature. -/
theorem verify_takesSigns (secret : String) (body : List UInt8) (value : String) :
    (verify secret body value = true ↔ ∃ cs, value = "sha256=" ++ String.ofList cs ∧
        Spells (withoutSigns cs) (mac secret body)) ∧
      (Fits secret body value ↔ verify secret body value = true ∧ '+' ∉ value.toList) := by
  refine ⟨verify_eq_true_iff, ?_⟩
  rw [verify_eq_true_iff]
  constructor
  · intro fits
    refine ⟨?_, fits.unsigned⟩
    obtain ⟨digits, rfl, -, digit, spells⟩ := fits
    have unsigned : '+' ∉ digits := fun sign => absurd (digit _ sign) (by decide)
    exact ⟨digits, rfl, (withoutSigns_of_not_mem unsigned).symm ▸ spells⟩
  · rintro ⟨⟨cs, rfl, spells⟩, unsigned⟩
    rw [toList_header, List.mem_append, not_or] at unsigned
    rw [withoutSigns_of_not_mem unsigned.2] at spells
    refine ⟨cs, rfl, ?_, spells.isHexDigit, spells⟩
    rw [spells.length, length_mac]

/-- The signature of an empty object, but for a plus sign in place of a leading zero. -/
def signedHeader : String :=
  "sha256=ae6341ea7f40a435db57d9+3d02cba19085efb8a913f8cfbd8cff3d7df0c7a2d"

/-- It is no signature, and it is accepted. -/
theorem signedHeader_accepted :
    verify "whsec" (Text.utf8 "{}") signedHeader = true ∧
      ¬ Fits "whsec" (Text.utf8 "{}") signedHeader := by
  refine ⟨by decide +kernel, fun fits => ?_⟩
  exact fits.unsigned (by decide)

end AlertRelay.Signature
