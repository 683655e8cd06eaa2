/-!
# The shortest decimal of a double

A finite double is `m · 2^q`. The reals that round to it form an interval around it, whose ends
belong to it exactly when `m` is even. The shortest decimal of the double is the one with the fewest
significant digits in that interval; of several with that many digits it is the nearest, and of two
equally near ones the even one. Everything is computed in natural numbers.

## Main definitions

* `Decimal` — significant digits and a power of ten
* `Binary` — the magnitude of a finite double as `m · 2^q`, with its lower neighbour's distance
* `Binary.decimal` — the shortest decimal of a positive magnitude
-/

namespace AlertRelay

/-- The number `digits · 10^exponent`. -/
structure Decimal where
  digits : Nat
  exponent : Int
  deriving DecidableEq, Repr

/-- The magnitude `m · 2^q` of a double. `atPower` holds where the double below is only half as far
away as the double above, because `m` is the least of its binade. -/
structure Binary where
  m : Nat
  q : Int
  atPower : Bool
  deriving DecidableEq, Repr

namespace Binary

/-- The magnitude behind the low 63 bits of a finite double. -/
def ofBits (bits : Nat) : Binary :=
  let biased : Nat := bits / 0x10_0000_0000_0000 % 0x800
  let fraction : Nat := bits % 0x10_0000_0000_0000
  if biased = 0 then ⟨fraction, -1074, false⟩
  else ⟨0x10_0000_0000_0000 + fraction, (biased : Int) - 1075, fraction = 0 && 1 < biased⟩

/-- Numerator and denominator of `n · 2^e`. -/
def fraction (n : Nat) (e : Int) : Nat × Nat :=
  if 0 ≤ e then (n * Nat.pow 2 e.toNat, 1) else (n, Nat.pow 2 (-e).toNat)

/-- The decimal `c · 10^g` is at least `n · 2^e`, where `strict` excludes equality. -/
def reaches (n : Nat) (e : Int) (strict : Bool) (c : Nat) (g : Int) : Bool :=
  let (num, den) := fraction n e
  let lhs := c * Nat.pow 10 g.toNat * den
  let rhs := num * Nat.pow 10 (-g).toNat
  if strict then rhs < lhs else rhs ≤ lhs

/-- The decimal `c · 10^g` rounds to the double: it lies between the halfway points to the
neighbours, ends included exactly when `m` is even. -/
def holds (b : Binary) (c : Nat) (g : Int) : Bool :=
  -- halfway points are quarters of a unit here, since below a power of two the gap is halved
  let odd := b.m % 2 == 1
  let low := if b.atPower then 4 * b.m - 1 else 4 * b.m - 2
  reaches low (b.q - 2) odd c g && !reaches (4 * b.m + 2) (b.q - 2) (!odd) c g

/-- The largest `c` with `c · 10^g` at most the magnitude. -/
def floorAt (b : Binary) (g : Int) : Nat :=
  let (num, den) := fraction b.m b.q
  num * Nat.pow 10 (-g).toNat / (den * Nat.pow 10 g.toNat)

/-- How the magnitude lies in the grid of step `10^g`: below the middle between the point below it
and the point above it, at the middle, or beyond. -/
def middle (b : Binary) (g : Int) : Ordering :=
  let (num, den) := fraction b.m b.q
  let step := den * Nat.pow 10 g.toNat
  compare (2 * (num * Nat.pow 10 (-g).toNat % step)) step

/-- The nearer of the two grid points around the magnitude that round to it, if any does. -/
def pick (b : Binary) (g : Int) : Option Nat :=
  let c := b.floorAt g
  match b.holds c g && c != 0, b.holds (c + 1) g with
  | false, false => none
  | true, false => some c
  | false, true => some (c + 1)
  | true, true =>
    -- both grid points round to the double, so distance decides, and at the middle parity
    match b.middle g with
    | .lt => some c
    | .gt => some (c + 1)
    | .eq => some (if c % 2 = 0 then c else c + 1)

/-- The exponent `e` with `10^e` at most the magnitude and `10^(e+1)` beyond it, searched downwards
from `start`, which must not be below it. -/
def magnitudeFrom (b : Binary) : Nat → Int → Int
  | 0, e => e
  | fuel + 1, e => if b.floorAt e = 0 then magnitudeFrom b fuel (e - 1) else e

/-- The decimal exponent of the magnitude's first digit. The search starts at or above it, since
`2^n` is below `10^(n·0.30103 + 1)` for positive and for negative `n`. -/
def magnitude (b : Binary) : Int :=
  let top : Int := b.q + Nat.log2 b.m + 1
  b.magnitudeFrom 5 (top * 30103 / 100000 + 1)

/-- Tries grids of rising fineness, `n` more of them. -/
def pickFrom (b : Binary) : Nat → Int → Decimal
  | 0, g => ⟨b.floorAt g, g⟩
  | n + 1, g =>
    match b.pick g with
    | some c => ⟨c, g⟩
    | none => pickFrom b n (g - 1)

/-- Drops trailing zeros of the digits, at most `n` of them. -/
def dropZeros : Nat → Decimal → Decimal
  | 0, d => d
  | n + 1, d => if d.digits % 10 = 0 then dropZeros n ⟨d.digits / 10, d.exponent + 1⟩ else d

/-- The shortest decimal that rounds to a positive magnitude. Seventeen digits always suffice. -/
def decimal (b : Binary) : Decimal := dropZeros 17 (b.pickFrom 17 b.magnitude)

end Binary

/-- The shortest decimal of the magnitude of a finite double; zero has no digits. -/
def Decimal.ofFloat (x : Float) : Decimal :=
  let bits := x.toBits.toNat % 0x8000_0000_0000_0000
  if bits = 0 then ⟨0, 0⟩ else (Binary.ofBits bits).decimal

/-- The sign bit of a double, which negative zero carries too. -/
def Decimal.isNegative (x : Float) : Bool := 0x8000_0000_0000_0000 ≤ x.toBits.toNat

end AlertRelay
