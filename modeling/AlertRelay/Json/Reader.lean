import AlertRelay.Json.Basic
import AlertRelay.Text.Hex

/-!
# Reading JSON text

A total reader of JSON text. Objects are read with their fields sorted by key, the last of several
fields with one key counting. Integers from `-2^63` to `2^64 - 1` stay integers; every other
number is a double: its digits are gathered into a 64-bit significand, as far as they fit, and
that is scaled by a power of ten in double arithmetic.

## Main definitions

* `Json.read?` — the value of a whole text
* `Json.readValue` — a value at the start of the characters, with what follows it
* `Json.readNumber`, `Json.readString` — the leaves
-/

namespace AlertRelay.Json

/-- The characters without leading JSON blanks. -/
def skipBlanks (cs : List Char) : List Char :=
  cs.dropWhile fun c => c == ' ' || c == '\n' || c == '\t' || c == '\r'

/-! ### Numbers -/

/-- The value of a decimal digit. -/
def digitValue (c : Char) : Nat := c.toNat - 48

/-- The significand so far with the digits appended while it stays below `2^64`, and the digits that
no longer fit. -/
def gather (sig : Nat) : List Char → Nat × List Char
  | [] => (sig, [])
  | c :: r =>
    let next := sig * 10 + digitValue c
    if next < 0x1_0000_0000_0000_0000 then gather next r else (sig, c :: r)

/-- Ten to a power of at most 308, as a double. -/
def tenTo (n : Nat) : Float := Float.ofScientific 1 false n

/-- The double times a power of ten, in steps of at most 308; none when it leaves the range. A
negative scale that is not used up after the last step has reached zero. -/
def scale : Nat → Float → Int → Option Float
  | 0, _, _ => some 0.0
  | fuel + 1, f, e =>
    if 0 ≤ e then
      if e ≤ 308 then
        let g := f * tenTo e.toNat
        if g.isFinite then some g else none
      else if f == 0.0 then some f
      else none
    else if -308 ≤ e then some (f / tenTo (-e).toNat)
    else if f == 0.0 then some f
    else scale fuel (f / tenTo 308) (e + 308)

/-- The double with the given digits before and after the point and the given exponent. -/
def doubleOf (negative : Bool) (whole fraction : List Char) (exponent : Int) : Option Float :=
  let (sig, left) := gather 0 whole
  let (sig', left') := gather sig fraction
  let places : Int := fraction.length - left'.length
  (scale 6 (Float.ofNat sig') (exponent + left.length - places)).map fun f =>
    if negative then -f else f

/-- The digits of an exponent, sign included, with what follows them. -/
def readExponent (cs : List Char) : Option (Int × List Char) :=
  let signed (negative : Bool) (r : List Char) : Option (Int × List Char) :=
    let ds := r.takeWhile Char.isDigit
    if ds.isEmpty then none
    else
      let n : Int := ds.foldl (fun n c => n * 10 + digitValue c) 0
      some (if negative then -n else n, r.dropWhile Char.isDigit)
  match cs with
  | '-' :: r => signed true r
  | '+' :: r => signed false r
  | r => signed false r

/-- A number without fraction and exponent: an integer where it fits, and negative zero a double. -/
def wholeNumber (negative : Bool) (digits : List Char) : Option Json :=
  let n : Nat := digits.foldl (fun n c => n * 10 + digitValue c) 0
  if negative then
    -- no integer is negative zero
    if n = 0 then some (.double (-0.0))
    else if minInt ≤ -(n : Int) then some (.int (-(n : Int)))
    else (doubleOf true digits [] 0).map .double
  else if (n : Int) ≤ maxInt then some (.int n)
  else (doubleOf false digits [] 0).map .double

/-- A number after its sign, with what follows it. -/
def readNumber (negative : Bool) (cs : List Char) : Option (Json × List Char) :=
  let whole := cs.takeWhile Char.isDigit
  let rest := cs.dropWhile Char.isDigit
  -- a leading zero stands alone
  let wellFormed := match whole with
    | [] => false
    | '0' :: _ :: _ => false
    | _ => true
  if !wellFormed then none
  else
    match rest with
    | '.' :: r =>
      let fraction := r.takeWhile Char.isDigit
      if fraction.isEmpty then none
      else
        match r.dropWhile Char.isDigit with
        | 'e' :: t | 'E' :: t => do
          let (e, after) ← readExponent t
          let x ← doubleOf negative whole fraction e
          return (.double x, after)
        | after => (doubleOf negative whole fraction 0).map (.double ·, after)
    | 'e' :: t | 'E' :: t => do
      let (e, after) ← readExponent t
      let x ← doubleOf negative whole [] e
      return (.double x, after)
    | after => (wholeNumber negative whole).map (·, after)

/-! ### Strings -/

/-- The number that four hexadecimal digits write. -/
def hexFour? (a b c d : Char) : Option Nat := do
  let a ← Text.hexValue? a
  let b ← Text.hexValue? b
  let c ← Text.hexValue? c
  let d ← Text.hexValue? d
  return ((a * 16 + b) * 16 + c) * 16 + d

/-- The character a backslash and the given character stand for. -/
def simpleEscape? : Char → Option Char
  | '"' => some '"'
  | '\\' => some '\\'
  | '/' => some '/'
  | 'b' => some '\x08'
  | 'f' => some '\x0c'
  | 'n' => some '\n'
  | 'r' => some '\r'
  | 't' => some '\t'
  | _ => none

/-- The rest of a string after its opening quote, with what follows the closing one. `acc` holds the
characters read so far, last first. -/
def readString (acc : List Char) : List Char → Option (String × List Char)
  | [] => none
  | '"' :: r => some (String.ofList acc.reverse, r)
  | '\\' :: 'u' :: a :: b :: c :: d :: r =>
    match hexFour? a b c d with
    | none => none
    | some n =>
      -- the first half of a pair must be followed by the second
      if 0xD800 ≤ n && n ≤ 0xDBFF then
        match r with
        | '\\' :: 'u' :: a' :: b' :: c' :: d' :: r' =>
          match hexFour? a' b' c' d' with
          | none => none
          | some low =>
            if 0xDC00 ≤ low && low ≤ 0xDFFF then
              readString (Char.ofNat (0x10000 + (n - 0xD800) * 0x400 + (low - 0xDC00)) :: acc) r'
            else none
        | _ => none
      else if 0xDC00 ≤ n && n ≤ 0xDFFF then none
      else readString (Char.ofNat n :: acc) r
  | '\\' :: e :: r =>
    match simpleEscape? e with
    | none => none
    | some c => readString (c :: acc) r
  | c :: r => if c.toNat < 0x20 || c == '\\' then none else readString (c :: acc) r

/-! ### Values -/

mutual

/-- A value at the start of the characters, with what follows it. -/
def readValue : Nat → List Char → Option (Json × List Char)
  | 0, _ => none
  | fuel + 1, cs =>
    match skipBlanks cs with
    | 'n' :: 'u' :: 'l' :: 'l' :: r => some (.null, r)
    | 't' :: 'r' :: 'u' :: 'e' :: r => some (.bool true, r)
    | 'f' :: 'a' :: 'l' :: 's' :: 'e' :: r => some (.bool false, r)
    | '"' :: r => (readString [] r).map fun (s, r) => (.str s, r)
    | '[' :: r =>
      match skipBlanks r with
      | ']' :: r => some (.arr [], r)
      | r => (readItems fuel [] r).map fun (items, r) => (.arr items, r)
    | '{' :: r =>
      match skipBlanks r with
      | '}' :: r => some (.obj [], r)
      | r => (readFields fuel [] r).map fun (fields, r) => (.obj fields, r)
    | '-' :: r => readNumber true r
    | r => readNumber false r

/-- The items of an array up to its end. `acc` holds those read so far, last first. -/
def readItems : Nat → List Json → List Char → Option (List Json × List Char)
  | 0, _, _ => none
  | fuel + 1, acc, cs =>
    match readValue fuel cs with
    | none => none
    | some (v, r) =>
      match skipBlanks r with
      | ',' :: r => readItems fuel (v :: acc) r
      | ']' :: r => some ((v :: acc).reverse, r)
      | _ => none

/-- The fields of an object up to its end, added to those read so far. -/
def readFields : Nat → List (String × Json) → List Char → Option (List (String × Json) × List Char)
  | 0, _, _ => none
  | fuel + 1, acc, cs =>
    match skipBlanks cs with
    | '"' :: r =>
      match readString [] r with
      | none => none
      | some (key, r) =>
        match skipBlanks r with
        | ':' :: r =>
          match readValue fuel r with
          | none => none
          | some (v, r) =>
            match skipBlanks r with
            | ',' :: r => readFields fuel (insertField key v acc) r
            | '}' :: r => some (insertField key v acc, r)
            | _ => none
        | _ => none
    | _ => none

end

/-- The value that the whole text writes. Every call of the reader consumes a character or descends
one level behind a consumed one, so twice the length bounds their nesting. -/
def read? (s : String) : Option Json :=
  let cs := s.toList
  match readValue (2 * cs.length + 2) cs with
  | some (v, r) => if (skipBlanks r).isEmpty then some v else none
  | none => none

end AlertRelay.Json
