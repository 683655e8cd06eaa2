/-!
# Punycode

A label with letters beyond ASCII is written in ASCII: first the ASCII letters as they are, behind
them a hyphen if there are any, and then where the other letters go. Each of those is one number,
the distance from the letter before it when letters are put in by their codes and, within one code,
by position. A number is written in digits of base 36, least significant first, with thresholds
that say which digit is its last; they follow the sizes of the numbers so far, the bias.

## Main definitions

* `Punycode.encode` — the written form of a label
* `Punycode.decode` — the label of a written form

## Main results

* `digitValue?_digit` — a written digit reads back
* `length_readNumber_lt` — reading a number uses up digits
-/

namespace AlertRelay.Domain.Punycode

/-! ### Digits -/

/-- The digit of a value below 36. -/
def digit (n : Nat) : Char := if n < 26 then Char.ofNat (97 + n) else Char.ofNat (22 + n)

/-- The value of a digit, in either case. -/
def digitValue? (c : Char) : Option Nat :=
  if 'a' ≤ c ∧ c ≤ 'z' then some (c.toNat - 97)
  else if 'A' ≤ c ∧ c ≤ 'Z' then some (c.toNat - 65)
  else if '0' ≤ c ∧ c ≤ '9' then some (c.toNat - 22)
  else none

/-- A written digit reads back. -/
theorem digitValue?_digit {n : Nat} (h : n < 36) : digitValue? (digit n) = some n := by
  have all : ∀ m : Fin 36, digitValue? (digit m.val) = some m.val := by decide
  exact all ⟨n, h⟩

/-- The least value of a digit, at a weight, that is not the last one of its number. -/
def threshold (bias weight : Nat) : Nat := min 26 (max 1 (weight - bias))

theorem threshold_pos (bias weight : Nat) : 1 ≤ threshold bias weight := by
  unfold threshold
  omega

/-! ### Bias -/

/-- The bias that suits numbers of the given size, from the weight reached so far. -/
def biasFor (size weight : Nat) : Nat :=
  if 455 < size then biasFor (size / 35) (weight + 36) else weight + 36 * size / (size + 38)
termination_by size
decreasing_by exact Nat.div_lt_self (by omega) (by omega)

/-- The bias after a number, with the letters there are by then; the first number is often large. -/
def nextBias (number letters : Nat) (isFirst : Bool) : Nat :=
  let size := if isFirst then number / 700 else number / 2
  biasFor (size + size / letters) 0

/-! ### Writing -/

/-- The digits of a number. -/
def writeNumber (bias weight number : Nat) : List Char :=
  let t := threshold bias weight
  if number < t then [digit number]
  else
    digit (t + (number - t) % (36 - t)) ::
      writeNumber bias (weight + 36) ((number - t) / (36 - t))
termination_by number
decreasing_by
  have := threshold_pos bias weight
  exact Nat.lt_of_le_of_lt (Nat.div_le_self _ _) (by omega)

/-- What is written so far, and how far the next letter is from the last one. -/
structure Writer where
  digits : List Char
  distance : Nat
  bias : Nat
  letters : Nat
  isFirst : Bool

/-- One letter is passed: one of a lower code lies between, and one of this code is written. -/
def Writer.pass (code : Nat) (w : Writer) (c : Char) : Writer :=
  if c.toNat < code then { w with distance := w.distance + 1 }
  else if c.toNat = code then
    { digits := w.digits ++ writeNumber w.bias 36 w.distance
      distance := 0
      bias := nextBias w.distance (w.letters + 1) w.isFirst
      letters := w.letters + 1
      isFirst := false }
  else w

/-- All letters of the label with the codes of a list are written, from the code that is next. -/
def Writer.putAll (label : List Char) : List Nat → Nat → Writer → Writer
  | [], _, w => w
  | code :: r, next, w =>
    let start := { w with distance := w.distance + (code - next) * (w.letters + 1) }
    let done := label.foldl (Writer.pass code) start
    putAll label r (code + 1) { done with distance := done.distance + 1 }

/-- The character is an ASCII character. -/
def isBasic (c : Char) : Bool := c.toNat < 128

/-- The written form of a label. -/
def encode (label : List Char) : List Char :=
  let basic := label.filter isBasic
  let codes := ((label.filter (!isBasic ·)).map Char.toNat).eraseDups.mergeSort
  let writer := Writer.putAll label codes 128 ⟨[], 0, 72, basic.length, true⟩
  basic ++ (if basic.isEmpty then [] else ['-']) ++ writer.digits

/-! ### Reading -/

/-- The number that digits write, added to what is there, and what follows it. -/
def readNumber (bias weight scale number : Nat) : List Char → Option (Nat × List Char)
  | [] => none
  | c :: r =>
    match digitValue? c with
    | none => none
    | some d =>
      let t := threshold bias weight
      if d < t then some (number + d * scale, r)
      else readNumber bias (weight + 36) (scale * (36 - t)) (number + d * scale) r

/-- Reading a number uses up digits. -/
theorem length_readNumber_lt (bias weight scale number : Nat) (cs : List Char)
    (result : Nat × List Char)
    (h : readNumber bias weight scale number cs = some result) :
    result.2.length < cs.length := by
  induction cs generalizing weight scale number with
  | nil => simp [readNumber] at h
  | cons c r ih =>
    simp only [readNumber] at h
    split at h
    · simp at h
    · split at h
      · obtain rfl := Option.some.inj h
        simp
      · have := ih _ _ _ h
        simp only [List.length_cons]
        omega

/-- The character of a code, if it is one. -/
def ofCode? (n : Nat) : Option Char := if n.isValidChar then some (Char.ofNat n) else none

/-- The label with the letters that digits say put in, from the letters there are. -/
def putIn (bias code position : Nat) (letters : List Char) (cs : List Char) :
    Option (List Char) :=
  if cs.isEmpty then some letters
  else
    match _read : readNumber bias 36 1 position cs with
    | none => none
    | some (reached, r) =>
      let places := letters.length + 1
      match ofCode? (code + reached / places) with
      | none => none
      | some c =>
        let place := reached % places
        putIn (nextBias (reached - position) places (position = 0)) (code + reached / places)
          (place + 1) (letters.insertIdx place c) r
termination_by cs.length
decreasing_by exact length_readNumber_lt _ _ _ _ _ _ _read

/-- The label of a written form: what precedes the last hyphen are its ASCII letters. -/
def decode (cs : List Char) : Option (List Char) :=
  let digits := (cs.reverse.takeWhile (· != '-')).reverse
  let basic := cs.take (cs.length - digits.length - 1)
  -- a hyphen with nothing before it is no separator but a digit that does not exist
  if basic.isEmpty && digits.length < cs.length then none
  else if basic.all isBasic then putIn 72 128 0 basic digits
  else none

end AlertRelay.Domain.Punycode
