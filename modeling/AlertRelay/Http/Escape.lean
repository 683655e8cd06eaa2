import AlertRelay.Text.Bytes

/-!
# Percent encoding

A character that may not stand for itself in a part of an address is written as its bytes, each as
two digits of base sixteen after a percent sign. Every part of an address has a set of characters
that are written so. Reading takes a percent sign with two digits for a byte and leaves any other
percent sign as it is.

## Main definitions

* `Http.percentEncode` — a text with the characters of a set written as bytes
* `Http.percentDecode` — the bytes of a text that was so written
* `Http.userSet`, `Http.pathSet`, `Http.querySet`, `Http.fragmentSet` — the sets of the parts
-/

namespace AlertRelay.Http

/-- A byte after a percent sign. -/
def percentByte (b : UInt8) : List Char := '%' :: (Text.hexByte b).map Char.toUpper

/-- The text with the characters of a set written as bytes. -/
def percentEncode (set : Char → Bool) (cs : List Char) : List Char :=
  cs.flatMap fun c => if set c then (Text.utf8 c.toString).flatMap percentByte else [c]

/-- The bytes of a text, with those after percent signs read. -/
def percentDecode : List Char → List UInt8
  | '%' :: a :: b :: r =>
    match Text.hexValue? a, Text.hexValue? b with
    | some high, some low => UInt8.ofNat (16 * high + low) :: percentDecode r
    | _, _ => 37 :: percentDecode (a :: b :: r)
  | c :: r => Text.utf8 c.toString ++ percentDecode r
  | [] => []

/-- The text that bytes are, if they are one. -/
def ofUtf8? (bytes : List UInt8) : Option (List Char) :=
  (String.fromUTF8? ⟨bytes.toArray⟩).map String.toList

/-! ### Sets -/

/-- The characters outside of printable ASCII. -/
def isOutside (c : Char) : Bool := c.toNat < 0x20 || 0x7e < c.toNat

/-- The characters written as bytes in a fragment. -/
def fragmentSet (c : Char) : Bool := isOutside c || " \"<>`".toList.contains c

/-- The characters written as bytes in a path. -/
def pathSet (c : Char) : Bool := fragmentSet c || "#?\x7b\x7d".toList.contains c

/-- The characters written as bytes in a user name or password. -/
def userSet (c : Char) : Bool := pathSet c || "/:;=@[\\]^|".toList.contains c

/-- The characters written as bytes in a query; of a special address also the apostrophe. -/
def querySet (isSpecial : Bool) (c : Char) : Bool :=
  isOutside c || " \"#<>".toList.contains c || (isSpecial && c.toNat == 0x27)

end AlertRelay.Http
