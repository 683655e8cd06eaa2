import AlertRelay.Decimal.Shortest

/-!
# Writing decimals as text

A decimal is written positionally, with at least one digit after the point, when the exponent of its
first digit lies in a given range, and otherwise in scientific form with a signed exponent and no
empty fraction.

## Main definitions

* `Decimal.Layout` — the range of exponents written positionally
* `Decimal.text` — a decimal as text
* `Decimal.ofFloat`'s text with its sign: `Decimal.floatText`
-/

namespace AlertRelay.Decimal

/-- The decimal exponents of the first digit that are written positionally. -/
structure Layout where
  plainFrom : Int
  plainTo : Int
  deriving DecidableEq, Repr

/-- The digits, most significant first. -/
def digitChars (d : Decimal) : List Char := Nat.toDigits 10 d.digits

/-- The exponent of the first digit. -/
def leading (d : Decimal) : Int := d.exponent + d.digitChars.length - 1

/-- Positional notation with at least one fractional digit. -/
def plain (d : Decimal) : List Char :=
  let ds := d.digitChars
  if 0 ≤ d.exponent then ds ++ List.replicate d.exponent.toNat '0' ++ ['.', '0']
  else
    let places := (-d.exponent).toNat
    if places < ds.length then
      ds.take (ds.length - places) ++ '.' :: ds.drop (ds.length - places)
    else '0' :: '.' :: (List.replicate (places - ds.length) '0' ++ ds)

/-- Scientific notation with a signed exponent. -/
def scientific (d : Decimal) : List Char :=
  let e := d.leading
  let mantissa := match d.digitChars with
    | [] => ['0']
    | [c] => [c]
    | c :: r => c :: '.' :: r
  mantissa ++ 'e' :: (if e < 0 then '-' else '+') :: Nat.toDigits 10 e.natAbs

/-- The decimal as text. -/
def text (l : Layout) (d : Decimal) : List Char :=
  if d.digits = 0 then ['0', '.', '0']
  else if l.plainFrom ≤ d.leading ∧ d.leading ≤ l.plainTo then d.plain else d.scientific

/-- A finite double as text, with the sign of negative zero. -/
def floatText (l : Layout) (x : Float) : String :=
  let body := (ofFloat x).text l
  String.ofList (if isNegative x then '-' :: body else body)

end AlertRelay.Decimal
