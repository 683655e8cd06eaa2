/-!
# Decimal digits of fixed width

## Main definitions

* `Text.padded` — a natural number with leading zeros up to a width
* `Text.digitsValue` — the number that a list of digits writes
-/

namespace AlertRelay.Text

/-- The decimal digits of `n`, with leading zeros up to `width` digits. -/
def padded (width n : Nat) : List Char :=
  let ds := Nat.toDigits 10 n
  List.replicate (width - ds.length) '0' ++ ds

/-- The number that the digits write, most significant first. -/
def digitsValue (ds : List Char) : Nat := ds.foldl (fun n c => n * 10 + (c.toNat - 48)) 0

end AlertRelay.Text
