/-!
# The shortest decimal of a binary fraction

A double-precision number is `m · 2^q` for a whole `m`. Written in
decimal it is usually long; but many shorter decimals round back to the
same number, and the shortest of them — of several, the nearest — is the
one a reader expects.

`Binary64.shortest` finds it in exact arithmetic: it looks at the grids
of one, two, … seventeen digits in turn and takes the first point that
lies within the interval of reals that round to the number. If a point
of a grid lies there, so does one of the number's two neighbours on that
grid, so only these two are looked at.
-/

namespace ConsumerGroup

/-- A finite double: the sign, and the magnitude `significand · 2^exponent`. -/
structure Binary64 where
  negative : Bool
  significand : Nat
  exponent : Int
  deriving DecidableEq, Repr

namespace Binary64

/-- The parts of a finite double. -/
def ofBits (bits : UInt64) : Binary64 :=
  let fraction := (bits &&& 0xFFFFFFFFFFFFF).toNat
  let power := ((bits >>> 52) &&& 0x7FF).toNat
  let negative := bits >>> 63 == 1
  if power = 0 then { negative, significand := fraction, exponent := -1074 }
  else { negative, significand := fraction + 1 <<< 52, exponent := (power : Int) - 1075 }

/-- A fraction of natural numbers. -/
structure Ratio where
  num : Nat
  den : Nat

/-- `n · 2^q · 10^p` as a fraction. -/
def scale (n : Nat) (q p : Int) : Ratio where
  num := n * Nat.pow 2 q.toNat * Nat.pow 10 p.toNat
  den := Nat.pow 2 (-q).toNat * Nat.pow 10 (-p).toNat

/-- Whether the decimal `digits · 10^power` rounds to the number: it lies
within half a unit on either side, and the ends belong to the interval
exactly when the significand is even. Just above a power of two the
lower unit is half as wide. -/
def roundsTo (x : Binary64) (digits : Nat) (power : Int) : Bool :=
  let m := x.significand
  let narrow := m == 1 <<< 52 && x.exponent > -1074
  -- everything times four, so that half units are whole
  let low := scale (if narrow then 4 * m - 1 else 4 * m - 2) (x.exponent - 2) (-power)
  let high := scale (4 * m + 2) (x.exponent - 2) (-power)
  let even := m % 2 == 0
  let above := if even then low.num ≤ digits * low.den else low.num < digits * low.den
  let below := if even then digits * high.den ≤ high.num else digits * high.den < high.num
  above && below

/-- The power of ten of the leading digit. The search starts at an
estimate from the number of binary digits and goes up while the number
is at least the next power. -/
def leadingPower (x : Binary64) : Int :=
  let estimate := ((Nat.log2 x.significand : Int) + x.exponent) * 30103 / 100000 - 1
  let step (e : Int) : Int :=
    let v := scale x.significand x.exponent (-(e + 1))
    if v.den ≤ v.num then e + 1 else e
  step (step (step estimate))

/-- The point of the grid with `count` digits that is nearest to the
number among those that round to it. -/
def onGrid (x : Binary64) (count : Nat) : Option (Nat × Int) :=
  let power := x.leadingPower - (count : Int) + 1
  let v := scale x.significand x.exponent (-power)
  let lower := v.num / v.den
  let rest := v.num % v.den
  let near := if 2 * rest < v.den || (2 * rest == v.den && lower % 2 == 0)
    then [lower, lower + 1] else [lower + 1, lower]
  (near.find? fun d => x.roundsTo d power).map (·, power)

/-- The shortest decimal `digits · 10^power` that rounds to the number. -/
def shortest (x : Binary64) : Nat × Int :=
  ((List.range 17).findSome? fun k => x.onGrid (k + 1)).getD (x.significand, 0)

end Binary64

namespace Decimal

/-- Drops trailing zeros of the digits and raises the power instead. -/
def normalize : Nat → Nat → Int → Nat × Int
  | 0, digits, power => (digits, power)
  | fuel + 1, digits, power =>
    if digits ≠ 0 ∧ digits % 10 = 0 then normalize fuel (digits / 10) (power + 1)
    else (digits, power)

/-- The text of a decimal: in plain digits, with a point and at least one
digit after it, while the leading digit stands between the fifth place
after the point and the sixteenth before it; otherwise with one digit
before the point and a signed power of ten. -/
def toText (digits : Nat) (power : Int) : String :=
  let (digits, power) := normalize 20 digits power
  let shown := toString digits
  let lead := power + (shown.length : Int) - 1
  if 0 ≤ power ∧ lead ≤ 15 then
    shown ++ String.ofList (List.replicate power.toNat '0') ++ ".0"
  else if 0 ≤ lead ∧ lead ≤ 15 then
    let whole := (lead + 1).toNat
    String.ofList (shown.toList.take whole) ++ "." ++ String.ofList (shown.toList.drop whole)
  else if -5 ≤ lead ∧ lead < 0 then
    "0." ++ String.ofList (List.replicate (-lead - 1).toNat '0') ++ shown
  else
    let sign := if lead < 0 then "-" else "+"
    let tail := String.ofList (shown.toList.drop 1)
    String.ofList (shown.toList.take 1) ++ (if tail.isEmpty then "" else "." ++ tail)
      ++ "e" ++ sign ++ toString lead.natAbs

end Decimal

/-- The text of a finite double: its shortest decimal, with a sign if it
is negative, zero included. -/
def Binary64.toText (x : Binary64) : String :=
  let text := if x.significand = 0 then "0.0" else
    let (digits, power) := x.shortest
    Decimal.toText digits power
  if x.negative then "-" ++ text else text

end ConsumerGroup
