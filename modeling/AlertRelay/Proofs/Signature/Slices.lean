import AlertRelay.Proofs.Signature.Spelling
import AlertRelay.Proofs.Text.Slice

/-!
# Signatures read by byte offsets

A header is received as bytes. What follows its scheme is cut into slices of two bytes, and each is
read as an integer in base sixteen. A slice may begin or end inside a character, or hold a single
character of two bytes. None of these is a byte in hexadecimal, so slices of bytes and pairs of
characters come to the same, on every text. What a signer writes is read back so, and it is accepted
for a body exactly when the digest that it was written from is the digest of the body.

## Main definitions

* `Signature.readOctet` — an integer of eight bits in base sixteen
* `Signature.readSlices` — bytes read from slices of two bytes
* `Signature.Agrees` — signing and checking fit together

## Main results

* `Signature.readSlice_zero` — the first slice is read as the first two characters are
* `Signature.readSlices_eq_readHex` — slices of bytes and pairs of characters come to the same
* `Signature.header_agrees` — signing and checking fit together
-/

namespace AlertRelay

namespace Signature

variable {a b c : Char} {x : UInt8} {cs r : List Char} {i : Nat} {bytes : List UInt8}

/-! ## Slices of two bytes -/

/-- The digits in base sixteen read on from a number, up to eight bits. -/
def readDigits : Nat → List Char → Option Nat
  | n, [] => some n
  | n, c :: r =>
    match Text.hexValue? c with
    | none => none
    | some d => if 16 * n + d < 256 then readDigits (16 * n + d) r else none

/-- An integer of eight bits in base sixteen: digits, with a plus sign in front or without. -/
def readOctet (cs : List Char) : Option UInt8 :=
  let digits := if cs.head? = some '+' then cs.tail else cs
  if digits.isEmpty then none else (readDigits 0 digits).map UInt8.ofNat

/-- The byte that two bytes of a text write. -/
def readSlice (cs : List Char) (i : Nat) : Option UInt8 :=
  match Text.slice cs i (i + 2) with
  | .ok part => readOctet part
  | .error _ => none

/-- The bytes that a text writes, each with two of its own. -/
def readSlices (cs : List Char) : Option (List UInt8) :=
  if Text.byteSize cs % 2 = 0 then
    (List.range (Text.byteSize cs / 2)).mapM fun k => readSlice cs (2 * k)
  else none

/-- A digit in base sixteen is a character of one byte. -/
theorem utf8Size_of_hexValue? {n : Nat} (read : Text.hexValue? c = some n) : c.utf8Size = 1 :=
  Char.utf8Size_eq_one_iff.mpr (UInt32.le_iff_toNat_le.mpr (Nat.le_of_lt_succ
    (toNat_lt_of_isHexDigit (isHexDigit_of_hexValue? read))))

theorem readDigits_cons {n d : Nat} (digit : Text.hexValue? c = some d) (fits : 16 * n + d < 256) :
    readDigits n (c :: r) = readDigits (16 * n + d) r := by
  simp only [readDigits, digit, if_pos fits]

/-- Two characters are read as a pair of digits is. -/
theorem readOctet_pair (a b : Char) : readOctet [a, b] = readByte a b := by
  rw [readOctet, readByte]
  by_cases signed : a = '+'
  · cases second : Text.hexValue? b with
    | none => simp [signed, readDigits, second]
    | some low =>
      have := Text.lt_of_hexValue? second
      simp [signed, readDigits_cons (n := 0) second (by omega), readDigits]
  · cases first : Text.hexValue? a with
    | none => simp [signed, readDigits, first]
    | some high =>
      have := Text.lt_of_hexValue? first
      cases second : Text.hexValue? b with
      | none => simp [signed, readDigits, first, second]
      | some low =>
        have := Text.lt_of_hexValue? second
        have held : readDigits 0 [a, b] = some (16 * high + low) := by
          rw [readDigits_cons first (by omega), readDigits_cons second (by omega), readDigits,
            Nat.mul_zero, Nat.zero_add]
        simp [signed, held]

/-- A character of more than one byte is no number. -/
theorem readOctet_singleton (wide : c.utf8Size ≠ 1) : readOctet [c] = none := by
  have unread : Text.hexValue? c = none := by
    rw [Option.eq_none_iff_forall_ne_some]
    exact fun n read => wide (utf8Size_of_hexValue? read)
  have unsigned : c ≠ '+' := fun sign => wide (sign ▸ rfl)
  simp [readOctet, unsigned, readDigits, unread]

/-- Both characters of a pair that is read take one byte. -/
theorem utf8Size_of_readByte (read : readByte a b = some x) : a.utf8Size = 1 ∧ b.utf8Size = 1 := by
  obtain ⟨high, low, first, second, -⟩ := readByte_withoutSigns.mp read
  refine ⟨?_, utf8Size_of_hexValue? (hexValue?_eq_some_iff.mpr second)⟩
  by_cases signed : a = '+'
  · exact signed ▸ rfl
  · rw [if_neg signed] at first
    exact utf8Size_of_hexValue? (hexValue?_eq_some_iff.mpr first)

theorem readSlice_of_not_isBoundary (inside : Text.isBoundary cs (i + 2) = false) :
    readSlice cs i = none := by
  by_cases beyond : Text.byteSize cs < i + 2 <;> simp [readSlice, Text.slice, beyond, inside]

/-- A text that begins with a character of more than one byte does not begin with a byte. -/
theorem readSlice_zero_of_wide (wide : a.utf8Size ≠ 1) : readSlice (a :: r) 0 = none := by
  have := a.utf8Size_pos
  by_cases two : a.utf8Size = 2
  · -- the slice is this character
    have ends : Text.isBoundary (a :: r) 2 = true := by
      rw [← two, ← Nat.zero_add a.utf8Size, Text.isBoundary_add, Text.isBoundary_zero]
    have part : Text.slice (a :: r) 0 2 = .ok [a] := by
      have long : ¬ Text.byteSize (a :: r) < 2 := by rw [Text.byteSize]; omega
      rw [Text.slice, if_neg long, ends, Text.isBoundary_zero, Text.dropBytes_zero,
        Text.takeBytes, two]
      simp [Text.takeBytes_zero]
    rw [readSlice, part]
    exact readOctet_singleton wide
  · -- the slice ends inside this character
    refine readSlice_of_not_isBoundary ?_
    exact Text.isBoundary_eq_false (by decide) (by omega)

theorem readSlice_zero_singleton (c : Char) : readSlice [c] 0 = none := by
  by_cases narrow : c.utf8Size = 1
  · have short : Text.byteSize [c] < 2 := by rw [Text.byteSize, narrow]; decide
    rw [readSlice, Text.slice, if_pos short]
  · exact readSlice_zero_of_wide narrow

theorem slice_zero_of_narrow (first : a.utf8Size = 1) (second : b.utf8Size = 1) :
    Text.slice (a :: b :: r) 0 2 = .ok [a, b] := by
  have long : ¬ Text.byteSize (a :: b :: r) < 2 := by
    rw [Text.byteSize, Text.byteSize, first, second]
    omega
  have ends : Text.isBoundary (a :: b :: r) 2 = true := by
    have behind := Text.isBoundary_add (c := a) (r := b :: r) (n := 1)
    have later := Text.isBoundary_add (c := b) (r := r) (n := 0)
    rw [first] at behind
    rw [second] at later
    rw [behind, later, Text.isBoundary_zero]
  rw [Text.slice, if_neg long, ends, Text.isBoundary_zero, Text.dropBytes_zero]
  simp [Text.takeBytes, first, second, Text.takeBytes_zero]

/-- The first slice of a text is read as its first two characters are. -/
theorem readSlice_zero (a b : Char) (r : List Char) : readSlice (a :: b :: r) 0 = readByte a b := by
  by_cases first : a.utf8Size = 1
  · by_cases second : b.utf8Size = 1
    · rw [readSlice, slice_zero_of_narrow first second]
      exact readOctet_pair a b
    · -- the slice ends inside the second character
      have := b.utf8Size_pos
      have inside : Text.isBoundary (a :: b :: r) 2 = false := by
        have behind := Text.isBoundary_add (c := a) (r := b :: r) (n := 1)
        rw [first] at behind
        rw [behind]
        exact Text.isBoundary_eq_false (by decide) (by omega)
      rw [readSlice_of_not_isBoundary inside, eq_comm, Option.eq_none_iff_forall_ne_some]
      exact fun x read => second (utf8Size_of_readByte read).2
  · rw [readSlice_zero_of_wide first, eq_comm, Option.eq_none_iff_forall_ne_some]
    exact fun x read => first (utf8Size_of_readByte read).1

/-- Behind two characters of one byte the slices are those of the others. -/
theorem readSlice_add_two (first : a.utf8Size = 1) (second : b.utf8Size = 1) :
    readSlice (a :: b :: r) (i + 2) = readSlice r i := by
  have behind := Text.slice_add (c := a) (r := b :: r) (i := i + 1) (j := i + 3)
  have later := Text.slice_add (c := b) (r := r) (i := i) (j := i + 2)
  rw [first] at behind
  rw [second] at later
  rw [readSlice, behind, later, readSlice]

/-! ## Texts -/

theorem mapM_eq_none {α β : Type} {f : α → Option β} {items : List α} {item : α}
    (member : item ∈ items) (fails : f item = none) : items.mapM f = none := by
  induction member with
  | head rest => rw [List.mapM_cons, fails]; rfl
  | tail first _ ih =>
    rw [List.mapM_cons, ih]
    cases f first <;> rfl

/-- Where a slice is no byte, nothing is read. -/
theorem readSlices_eq_none {k : Nat} (unread : readSlice cs (2 * k) = none)
    (within : 2 * k < Text.byteSize cs) : readSlices cs = none := by
  rw [readSlices]
  split
  next even => exact mapM_eq_none (List.mem_range.mpr (by omega)) unread
  next => rfl

/-- Behind two characters of one byte the others are read on their own. -/
theorem readSlices_cons (read : readByte a b = some x) :
    readSlices (a :: b :: r) = (readSlices r).map (x :: ·) := by
  obtain ⟨first, second⟩ := utf8Size_of_readByte read
  have size : Text.byteSize (a :: b :: r) = Text.byteSize r + 2 := by
    rw [Text.byteSize, Text.byteSize, first, second]
    omega
  have behind : (fun k => readSlice (a :: b :: r) (2 * k)) ∘ Nat.succ =
      fun k => readSlice r (2 * k) :=
    funext fun k => readSlice_add_two first second
  rw [readSlices, readSlices, size, Nat.add_mod_right, Nat.add_div_right _ (by decide)]
  split
  next =>
    rw [List.range_succ_eq_map, List.mapM_cons, List.mapM_map, behind, Nat.mul_zero,
      readSlice_zero, read]
    cases (List.range (Text.byteSize r / 2)).mapM fun k => readSlice r (2 * k) <;> rfl
  next => rfl

/-- Slices of bytes and pairs of characters come to the same, on every text. -/
theorem readSlices_eq_readHex (cs : List Char) : readSlices cs = readHex cs := by
  induction cs using withoutSigns.induct with
  | case1 a b r ih =>
    cases read : readByte a b with
    | none =>
      have unread : readSlice (a :: b :: r) (2 * 0) = none := (readSlice_zero a b r).trans read
      rw [readSlices_eq_none unread (Nat.add_pos_left a.utf8Size_pos _), readHex, read]
    | some x =>
      rw [readSlices_cons read, ih, readHex, read]
      cases readHex r <;> rfl
  | case2 cs unpaired =>
    obtain rfl | ⟨c, rfl⟩ := eq_nil_or_singleton unpaired
    · rfl
    · have unread : readSlice [c] (2 * 0) = none := readSlice_zero_singleton c
      exact readSlices_eq_none unread (Nat.add_pos_left c.utf8Size_pos _)

/-- A slice that begins inside a character leaves the whole unread. -/
theorem readHex_eq_none_of_split {text : String} {k : Nat} (within : 2 * k < text.utf8ByteSize)
    (split : ¬ String.Pos.Raw.IsValid text ⟨2 * k⟩) : readHex text.toList = none := by
  rw [← Text.isBoundary_toList, Bool.not_eq_true] at split
  rw [← Text.byteSize_toList] at within
  have unread : readSlice text.toList (2 * k) = none := by
    by_cases beyond : Text.byteSize text.toList < 2 * k + 2 <;>
      simp [readSlice, Text.slice, beyond, split]
  rw [← readSlices_eq_readHex, readSlices_eq_none unread within]

/-- Each byte that is read takes two bytes of the text. -/
theorem byteSize_of_readHex (read : readHex cs = some bytes) :
    Text.byteSize cs = 2 * bytes.length := by
  induction cs using withoutSigns.induct generalizing bytes with
  | case1 a b r ih =>
    obtain ⟨x, xs, pair, rest, rfl⟩ := readHex_cons_eq_some_iff.mp read
    obtain ⟨first, second⟩ := utf8Size_of_readByte pair
    rw [Text.byteSize, Text.byteSize, first, second, ih rest, List.length_cons]
    omega
  | case2 cs unpaired =>
    obtain rfl | ⟨c, rfl⟩ := eq_nil_or_singleton unpaired
    · cases read; rfl
    · cases read

/-! ## Signing and checking -/

/-- A small letter up to F, or a decimal digit. -/
def IsSmallHexDigit (c : Char) : Prop := ('0' ≤ c ∧ c ≤ '9') ∨ ('a' ≤ c ∧ c ≤ 'f')

instance (c : Char) : Decidable (IsSmallHexDigit c) :=
  inferInstanceAs (Decidable (_ ∨ _))

theorem isSmallHexDigit_hexDigit {n : Nat} (fits : n < 16) : IsSmallHexDigit (Text.hexDigit n) := by
  have all : ∀ m : Fin 16, IsSmallHexDigit (Text.hexDigit m) := by decide
  exact all ⟨n, fits⟩

theorem isSmallHexDigit_of_mem_hex (written : c ∈ hex bytes) : IsSmallHexDigit c := by
  obtain ⟨x, -, digit⟩ := List.mem_flatMap.mp written
  have := x.toNat_lt
  simp only [Text.hexByte, List.mem_cons, List.not_mem_nil, or_false] at digit
  rcases digit with rfl | rfl
  · exact isSmallHexDigit_hexDigit (by omega)
  · exact isSmallHexDigit_hexDigit (by omega)

theorem length_hex (bytes : List UInt8) : (hex bytes).length = 2 * bytes.length := by
  induction bytes with
  | nil => rfl
  | cons x rest ih =>
    have step : hex (x :: rest) = Text.hexByte x ++ hex rest := rfl
    rw [step, List.length_append, ih, List.length_cons, Text.hexByte, List.length_cons,
      List.length_singleton]
    omega

/-- How signing under one secret and checking under another fit together. -/
structure Agrees (secret other : String) (body message : List UInt8) : Prop where
  /-- A signature is `sha256=` and 64 digits with small letters. -/
  written : ∃ digits, header other message = "sha256=" ++ String.ofList digits ∧
    digits.length = 64 ∧ ∀ c ∈ digits, IsSmallHexDigit c
  /-- It is accepted exactly for what has the same digest. -/
  accepted : verify secret body (header other message) = true ↔ mac secret body = mac other message
  /-- So a body's own signature is accepted. -/
  own : verify other message (header other message) = true
  /-- Bytes that are written in hexadecimal read back. -/
  readsBack : ∀ bytes, readHex (hex bytes) = some bytes
  /-- Every text is read as its slices of two bytes are. -/
  sliced : ∀ text : String, readSlices text.toList = readHex text.toList
  /-- It comes to nothing, or to one byte for each two of its own. -/
  ends : ∀ text : String, readHex text.toList = none ∨
    ∃ bytes, readHex text.toList = some bytes ∧ text.utf8ByteSize = 2 * bytes.length
  /-- It comes to nothing where a slice begins inside a character. -/
  split : ∀ (text : String) (k : Nat), 2 * k < text.utf8ByteSize →
    ¬ String.Pos.Raw.IsValid text ⟨2 * k⟩ → readHex text.toList = none

/-- Signing and checking fit together. -/
theorem header_agrees (secret other : String) (body message : List UInt8) :
    Agrees secret other body message := by
  constructor
  case written =>
    refine ⟨hex (mac other message), ?_, ?_, fun c => isSmallHexDigit_of_mem_hex⟩
    · rw [← String.toList_inj, toList_header, header, String.toList_ofList]
    · rw [length_hex, length_mac]
  case accepted => rw [verify_header_iff, eq_comm]
  case own => exact verify_header other message
  case readsBack => exact readHex_hex
  case sliced => exact fun text => readSlices_eq_readHex text.toList
  case ends =>
    intro text
    cases read : readHex text.toList with
    | none => exact .inl rfl
    | some bytes =>
      refine .inr ⟨bytes, rfl, ?_⟩
      rw [← Text.byteSize_toList, byteSize_of_readHex read]
  case split => exact fun text k => readHex_eq_none_of_split

end Signature

end AlertRelay
