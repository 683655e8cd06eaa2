import AlertRelay.Proofs.Text.Slice
import AlertRelay.Text.Bytes

/-!
# Boundaries in bytes

A text is stored as bytes, and whether an offset falls between two of its characters is told by the
single byte that stands there: a character of several bytes goes on with bytes from `0x80` to
`0xBF`, and none begins with one of these. So what a look at one byte tells is the same as what the
widths of all characters before it add up to.

## Main definitions

* `Text.encode` — the bytes of some characters
* `Text.carriesOn` — a byte that goes on with the character before it
* `Text.isEdge` — an offset at which a character begins or the bytes end

## Main results

* `Text.utf8_eq_encode` — the bytes of a text are those of its characters
* `Text.isEdge_encode` — one byte tells whether an offset falls between characters
* `Text.encode_takeBytes` — the characters before a boundary have the bytes before it
-/

namespace AlertRelay.Text

variable {c : Char} {cs : List Char} {bytes : List UInt8} {n : Nat}

/-! ## Bytes of characters -/

/-- The bytes of the characters, one after another. -/
def encode (cs : List Char) : List UInt8 := cs.flatMap String.utf8EncodeChar

@[simp] theorem encode_nil : encode [] = [] := rfl

theorem encode_cons (c : Char) (r : List Char) :
    encode (c :: r) = String.utf8EncodeChar c ++ encode r := List.flatMap_cons

/-- The bytes of a text are those of its characters. -/
theorem utf8_eq_encode (s : String) : utf8 s = encode s.toList := by
  rw [utf8, String.toUTF8_eq_toByteArray, ← String.utf8Encode_toList, List.utf8Encode,
    List.data_toByteArray, encode]

theorem length_encode (cs : List Char) : (encode cs).length = byteSize cs := by
  induction cs with
  | nil => rfl
  | cons c r ih => rw [encode_cons, List.length_append, String.length_utf8EncodeChar, ih, byteSize]

/-! ## The byte at an offset -/

/-- The byte goes on with the character that began before it. -/
def carriesOn (b : UInt8) : Bool := 0x80 ≤ b && b < 0xC0

/-- A character begins at the offset, or the bytes end there. The start is an edge whatever the
first byte is. -/
def isEdge (bytes : List UInt8) (n : Nat) : Bool :=
  n == 0 ||
    match bytes[n]? with
    | some b => !carriesOn b
    | none => n == bytes.length

theorem isEdge_zero (bytes : List UInt8) : isEdge bytes 0 = true := rfl

theorem isEdge_length (bytes : List UInt8) : isEdge bytes bytes.length = true := by
  simp [isEdge]

theorem isEdge_of_byte {b : UInt8} (byte : bytes[n]? = some b) :
    isEdge bytes n = (n == 0 || !carriesOn b) := by
  rw [isEdge, byte]

theorem isEdge_of_none (none : bytes[n]? = none) :
    isEdge bytes n = (n == 0 || n == bytes.length) := by
  rw [isEdge, none]

/-- There is no edge behind the end. -/
theorem le_length_of_isEdge (edge : isEdge bytes n = true) : n ≤ bytes.length := by
  apply Nat.le_of_not_lt
  intro beyond
  rw [isEdge_of_none (List.getElem?_eq_none (Nat.le_of_lt beyond)), Bool.or_eq_true, beq_iff_eq,
    beq_iff_eq] at edge
  omega

/-- Before their end, the first of some bytes have the edges that all of them have. -/
theorem isEdge_take {m : Nat} (before : n < m) (within : m ≤ bytes.length) :
    isEdge (bytes.take m) n = isEdge bytes n := by
  have byte : bytes[n]? = some bytes[n] := List.getElem?_eq_getElem (by omega)
  have taken : (bytes.take m)[n]? = some bytes[n] := by rw [List.getElem?_take_of_lt before, byte]
  rw [isEdge_of_byte taken, isEdge_of_byte byte]

/-- The edges behind some first bytes are those of the others, when the others begin with a
character. -/
theorem isEdge_append {first : List UInt8} (nonempty : 0 < first.length)
    (begins : ∀ b, bytes[0]? = some b → carriesOn b = false) :
    isEdge (first ++ bytes) (n + first.length) = isEdge bytes n := by
  have behind : (first ++ bytes)[n + first.length]? = bytes[n]? := by
    rw [List.getElem?_append_right (Nat.le_add_left _ _), Nat.add_sub_cancel]
  have ends : n + first.length = (first ++ bytes).length ↔ n = bytes.length := by
    rw [List.length_append]
    omega
  have later : n + first.length ≠ 0 := by omega
  rw [Bool.eq_iff_iff]
  cases found : bytes[n]? with
  | none =>
    rw [isEdge_of_none (behind.trans found), isEdge_of_none found]
    simp only [Bool.or_eq_true, beq_iff_eq, later, ends, false_or]
    have beyond := List.getElem?_eq_none_iff.mp found
    omega
  | some b =>
    rw [isEdge_of_byte (behind.trans found), isEdge_of_byte found]
    simp only [Bool.or_eq_true, beq_iff_eq, later, false_or]
    constructor
    · exact .inr
    · -- only their start is an edge of the others whatever its byte is
      rintro (rfl | led)
      · rw [begins b found]
        rfl
      · exact led

/-! ## Characters and their bytes -/

theorem carriesOn_ofNat (small : n < 256) :
    carriesOn (UInt8.ofNat n) = true ↔ 128 ≤ n ∧ n < 192 := by
  simp [carriesOn, UInt8.le_iff_toNat_le, UInt8.lt_iff_toNat_lt, Nat.mod_eq_of_lt small]

/-- The first byte of a character begins it, and the others go on with it. -/
theorem exists_encodeChar (c : Char) : ∃ lead rest, String.utf8EncodeChar c = lead :: rest ∧
    carriesOn lead = false ∧ ∀ b ∈ rest, carriesOn b = true := by
  have valid : c.val.toNat < 0x110000 := by
    have := c.valid
    simp only [UInt32.isValidChar, Nat.isValidChar] at this
    omega
  have later (k : Nat) : carriesOn (UInt8.ofNat (k % 64 + 128)) = true :=
    (carriesOn_ofNat (by omega)).mpr (by omega)
  have leads {k : Nat} (small : k < 256) (outside : k < 128 ∨ 192 ≤ k) :
      carriesOn (UInt8.ofNat k) = false := by
    rw [← Bool.not_eq_true, carriesOn_ofNat small]
    omega
  rw [String.utf8EncodeChar]
  -- a character takes one, two, three or four bytes
  split
  · exact ⟨_, _, rfl, leads (by omega) (by omega), List.forall_mem_nil _⟩
  split
  · refine ⟨_, _, rfl, leads (by omega) (by omega), ?_⟩
    simp only [List.forall_mem_singleton, later]
  split
  · refine ⟨_, _, rfl, leads (by omega) (by omega), ?_⟩
    simp only [List.forall_mem_cons, later, List.not_mem_nil, false_imp_iff, implies_true, and_self]
  · refine ⟨_, _, rfl, leads (by omega) (by omega), ?_⟩
    simp only [List.forall_mem_cons, later, List.not_mem_nil, false_imp_iff, implies_true, and_self]

/-- An offset is the start, or it is inside the first character, or it is behind it. -/
theorem offset_cases (c : Char) (n : Nat) :
    n = 0 ∨ (0 < n ∧ n < c.utf8Size) ∨ ∃ m, n = m + c.utf8Size := by
  by_cases inside : n < c.utf8Size
  · omega
  · exact .inr (.inr (Nat.exists_eq_add_of_le' (Nat.le_of_not_lt inside)))

/-- A character begins at the start of its bytes. -/
theorem carriesOn_of_first {b : UInt8} (first : (encode cs)[0]? = some b) : carriesOn b = false := by
  cases cs with
  | nil => cases first
  | cons c r =>
    obtain ⟨lead, rest, bytes, begins, -⟩ := exists_encodeChar c
    rw [encode_cons, bytes, List.cons_append, List.getElem?_cons_zero, Option.some.injEq] at first
    exact first ▸ begins

/-- There is no edge inside the first character. -/
theorem isEdge_encode_of_lt {r : List Char} (after : 0 < n) (before : n < c.utf8Size) :
    isEdge (encode (c :: r)) n = false := by
  obtain ⟨lead, rest, bytes, -, tail⟩ := exists_encodeChar c
  have width : rest.length + 1 = c.utf8Size := by
    rw [← String.length_utf8EncodeChar, bytes, List.length_cons]
  obtain ⟨m, rfl⟩ := Nat.exists_eq_add_one_of_ne_zero (Nat.ne_of_gt after)
  have inside : m < rest.length := by omega
  have byte : (encode (c :: r))[m + 1]? = some rest[m] := by
    rw [encode_cons, bytes, List.cons_append, List.getElem?_cons_succ,
      List.getElem?_append_left inside, List.getElem?_eq_getElem inside]
  rw [isEdge_of_byte byte, tail _ (List.getElem_mem inside)]
  rfl

/-- The edges behind the first character are those of the others. -/
theorem isEdge_encode_add (c : Char) (r : List Char) (n : Nat) :
    isEdge (encode (c :: r)) (n + c.utf8Size) = isEdge (encode r) n := by
  have width : (String.utf8EncodeChar c).length = c.utf8Size := String.length_utf8EncodeChar c
  rw [encode_cons, ← width]
  apply isEdge_append
  · rw [width]
    exact c.utf8Size_pos
  · intro b first
    exact carriesOn_of_first first

/-- The byte at an offset tells whether it falls between characters. -/
theorem isEdge_encode (cs : List Char) (n : Nat) : isEdge (encode cs) n = isBoundary cs n := by
  induction cs generalizing n with
  | nil => cases n <;> rfl
  | cons c r ih =>
    rcases offset_cases c n with rfl | ⟨after, before⟩ | ⟨m, rfl⟩
    · rw [isEdge_zero, isBoundary_zero]
    · rw [isEdge_encode_of_lt after before, isBoundary_eq_false after before]
    · rw [isEdge_encode_add, isBoundary_add, ih]

/-- The characters before a boundary have the bytes before it. -/
theorem encode_takeBytes (boundary : isBoundary cs n = true) :
    encode (takeBytes cs n) = (encode cs).take n := by
  induction cs generalizing n with
  | nil => rw [takeBytes, encode_nil, List.take_nil]
  | cons c r ih =>
    rcases offset_cases c n with rfl | ⟨after, before⟩ | ⟨m, rfl⟩
    · rw [takeBytes_zero, List.take_zero, encode_nil]
    · rw [isBoundary_eq_false after before] at boundary
      cases boundary
    · rw [isBoundary_add] at boundary
      rw [takeBytes, if_pos (Nat.le_add_left _ _), Nat.add_sub_cancel, encode_cons, ih boundary,
        encode_cons, Nat.add_comm, ← String.length_utf8EncodeChar, List.take_length_add_append]

end AlertRelay.Text
