import AlertRelay.Text.Hex
import AlertRelay.Text.Pieces

/-!
# Numeric addresses

A host may be given by its address: four bytes, or eight words between brackets. Numbers of the
first kind may be written in base eight, ten or sixteen, and the last one fills all the bytes that
are left. Of the second kind a pair of colons stands for the zeros that are missing, and the last
two words may be written as four bytes. Both kinds have one canonical text.

## Main definitions

* `Address.readDotted` / `Address.dotted` — an address of four bytes, read and shown
* `Address.readWords` / `Address.bracketed` — an address of eight words, read and shown
* `Address.endsInNumber` — a name that must be an address of four bytes
-/

namespace AlertRelay.Http.Address

open Text (pieces)

/-! ### Four bytes -/

/-- The value of a digit below a base. -/
def digit? (base : Nat) (c : Char) : Option Nat :=
  (Text.hexValue? c).filter (· < base)

/-- The number that the digits write, behind those read so far. -/
def readDigits (base : Nat) (acc : Nat) : List Char → Option Nat
  | [] => some acc
  | c :: r => (digit? base c).bind fun d => readDigits base (acc * base + d) r

/-- A number in base sixteen after `0x`, in base eight after another zero, else in base ten. -/
def readNumber : List Char → Option Nat
  | [] => none
  | '0' :: 'x' :: r | '0' :: 'X' :: r => readDigits 16 0 r
  | ['0'] => some 0
  | '0' :: r => readDigits 8 0 r
  | cs => readDigits 10 0 cs

/-- The labels of a name without the empty one after a final dot. -/
def labels (cs : List Char) : List (List Char) :=
  let parts := pieces '.' cs
  if parts.length > 1 && parts.getLast? == some [] then parts.dropLast else parts

/-- The last label is a number. -/
def endsInNumber (cs : List Char) : Bool :=
  match (labels cs).getLast? with
  | none => false
  | some [] => false
  | some last => last.all Char.isDigit || (readNumber last).isSome

/-- The address that the parts make: all but the last are single bytes, and the last fills the
rest. -/
def joinParts : Nat → List Nat → Option Nat
  | _, [] => none
  | room, [last] => if last < Nat.pow 256 room then some last else none
  | room, n :: r =>
    if n < 256 then (joinParts (room - 1) r).map (n * Nat.pow 256 (room - 1) + ·) else none

/-- The bytes of a text of one to four numbers. -/
def readDotted (cs : List Char) : Option Nat :=
  let parts := labels cs
  if parts.length ≤ 4 then (parts.mapM readNumber).bind (joinParts 4) else none

/-- An address of four bytes as it is shown. -/
def dotted (n : Nat) : String :=
  ".".intercalate <| [24, 16, 8, 0].map fun shift => toString (n / Nat.pow 2 shift % 256)

/-! ### Eight words -/

/-- A word of one to four digits. -/
def readWord (cs : List Char) : Option Nat :=
  if cs.isEmpty || cs.length > 4 then none else readDigits 16 0 cs

/-- A byte in base ten without leading zeros. -/
def readByte (cs : List Char) : Option Nat :=
  if cs.isEmpty || (cs.head? = some '0' && cs.length > 1) then none
  else (readDigits 10 0 cs).filter (· < 256)

/-- The words of a final group, which may be an address of four bytes with all its dots. -/
def readLastGroup (cs : List Char) : Option (List Nat) :=
  if cs.contains '.' then
    match (pieces '.' cs).mapM readByte with
    | some [a, b, c, d] => some [a * 256 + b, c * 256 + d]
    | _ => none
  else (readWord cs).map fun w => [w]

/-- The words of groups separated by colons. -/
def readGroups : List (List Char) → Option (List Nat)
  | [] => some []
  | [last] => readLastGroup last
  | g :: r => do return (← readWord g) :: (← readGroups r)

/-- The parts before and after the first pair of colons. -/
def splitPair : List Char → Option (List Char × List Char)
  | ':' :: ':' :: r => some ([], r)
  | c :: r => (splitPair r).map fun (a, b) => (c :: a, b)
  | [] => none

/-- The groups of one side of a pair of colons. -/
def side (cs : List Char) : List (List Char) := if cs.isEmpty then [] else pieces ':' cs

/-- The eight words of a text; a pair of colons stands for the zeros that are missing. -/
def readWords (cs : List Char) : Option (List Nat) :=
  match splitPair cs with
  | none => (readGroups (pieces ':' cs)).filter (·.length = 8)
  | some (before, after) => do
    let high ← (side before).mapM readWord
    let low ← readGroups (side after)
    if high.length + low.length ≤ 7 then
      return high ++ List.replicate (8 - high.length - low.length) 0 ++ low
    else none

/-- The zeros at the start of a list. -/
def leadingZeros (ws : List Nat) : Nat := (ws.takeWhile (· == 0)).length

/-- Start and length of the longest run of at least two zeros, the first of several. -/
def longestZeros : Nat → List Nat → Option (Nat × Nat)
  | _, [] => none
  | start, w :: r =>
    let here := leadingZeros (w :: r)
    -- of two runs of one length the first wins
    match longestZeros (start + 1) r with
    | some (s, n) => if here ≥ n then some (start, here) else some (s, n)
    | none => if here ≥ 2 then some (start, here) else none

/-- Words in base sixteen with colons between them. -/
def wordText (ws : List Nat) : String :=
  ":".intercalate (ws.map fun w => String.ofList (Nat.toDigits 16 w))

/-- An address of eight words as it is shown. -/
def bracketed (ws : List Nat) : String :=
  match longestZeros 0 ws with
  | some (start, n) =>
    "[" ++ wordText (ws.take start) ++ "::" ++ wordText (ws.drop (start + n)) ++ "]"
  | none => "[" ++ wordText ws ++ "]"

end AlertRelay.Http.Address
