import AlertRelay.Signature.Hmac
import AlertRelay.Text.Bytes

/-!
# Body signatures

A webhook body is signed with the keyed digest under the webhook's secret. The signature travels
in a header as `sha256=` and the digest in lowercase hexadecimal. A received header is accepted
when what follows the scheme reads, two characters a byte, as the digest of the body. A byte is
read from two hexadecimal digits in either case, or from a plus sign and one digit.

## Main definitions

* `Signature.hex` / `Signature.readHex` — bytes as text and back
* `Signature.header` — the header value of a body
* `Signature.verify` — whether a header value fits a body

## Main results

* `readHex_hex` — written bytes read back
* `verify_header` — a body's own header is accepted
-/

namespace AlertRelay.Signature

/-- Two lowercase digits for every byte. -/
def hex (bytes : List UInt8) : List Char := bytes.flatMap Text.hexByte

/-- The byte that two characters write. -/
def readByte (a b : Char) : Option UInt8 :=
  if a = '+' then (Text.hexValue? b).map UInt8.ofNat
  else
    match Text.hexValue? a, Text.hexValue? b with
    | some high, some low => some (UInt8.ofNat (16 * high + low))
    | _, _ => none

/-- The bytes that the characters write, two for each. -/
def readHex : List Char → Option (List UInt8)
  | [] => some []
  | [_] => none
  | a :: b :: r =>
    match readByte a b, readHex r with
    | some x, some xs => some (x :: xs)
    | _, _ => none

/-- The scheme in front of the digits. -/
def scheme : List Char := "sha256=".toList

/-- The keyed digest of a body under a secret. -/
def mac (secret : String) (body : List UInt8) : List UInt8 := Hmac.mac (Text.utf8 secret) body

/-- The digest of a body in hexadecimal. -/
def sign (secret : String) (body : List UInt8) : String := String.ofList (hex (mac secret body))

/-- The header value of a body. -/
def header (secret : String) (body : List UInt8) : String :=
  String.ofList (scheme ++ hex (mac secret body))

/-- What follows the scheme. -/
def afterScheme? : List Char → List Char → Option (List Char)
  | [], cs => some cs
  | p :: ps, c :: cs => if p = c then afterScheme? ps cs else none
  | _ :: _, [] => none

/-- The header value fits the body. -/
def verify (secret : String) (body : List UInt8) (value : String) : Bool :=
  match (afterScheme? scheme value.toList).bind readHex with
  | some bytes => bytes == mac secret body
  | none => false

theorem hexDigit_ne_plus {n : Nat} (h : n < 16) : Text.hexDigit n ≠ '+' := by
  have all : ∀ m : Fin 16, Text.hexDigit m.val ≠ '+' := by decide
  exact all ⟨n, h⟩

theorem readByte_hexByte (b : UInt8) :
    readByte (Text.hexDigit (b.toNat / 16)) (Text.hexDigit (b.toNat % 16)) = some b := by
  have hb : b.toNat < 256 := b.toNat_lt
  have high : b.toNat / 16 < 16 := by omega
  have low : b.toNat % 16 < 16 := by omega
  rw [readByte, if_neg (hexDigit_ne_plus high), Text.hexValue?_hexDigit high,
    Text.hexValue?_hexDigit low]
  have : 16 * (b.toNat / 16) + b.toNat % 16 = b.toNat := by omega
  simp [this]

/-- Written bytes read back. -/
theorem readHex_hex (bytes : List UInt8) : readHex (hex bytes) = some bytes := by
  induction bytes with
  | nil => rfl
  | cons b r ih =>
    have step : hex (b :: r) =
        Text.hexDigit (b.toNat / 16) :: Text.hexDigit (b.toNat % 16) :: hex r := rfl
    rw [step, readHex, readByte_hexByte, ih]

theorem afterScheme?_append (ps cs : List Char) : afterScheme? ps (ps ++ cs) = some cs := by
  induction ps with
  | nil => rfl
  | cons p r ih => simp [afterScheme?, ih]

/-- A header value fits a body exactly when its digest does. -/
theorem verify_header_iff (secret other : String) (body message : List UInt8) :
    verify secret body (header other message) = true ↔ mac other message = mac secret body := by
  simp [verify, header, afterScheme?_append, readHex_hex]

/-- A body's own header is accepted. -/
theorem verify_header (secret : String) (body : List UInt8) :
    verify secret body (header secret body) = true :=
  (verify_header_iff secret secret body body).2 rfl

end AlertRelay.Signature
