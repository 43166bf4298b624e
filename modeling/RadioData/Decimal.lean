/-!
# Floating-point numbers as decimal text

`Shortest.ofBits?` gives, for a finite positive double, the decimal with the fewest significant
digits among those that round to it, and among these the one nearest to it. The reals that round to
a double form an interval around it, whose ends belong to it exactly when the double's significand
is even. For one digit, two digits and so on, the decimal grid of that many digits is tried: if a
point of it lies in the interval, so does one of the two that enclose the double. All of it is
arithmetic on natural numbers.

A number is written in these digits. From 10⁻⁵ up to 10¹⁶ it is written out with a decimal point and
at least one digit on either side of it; beyond that in scientific form, with a sign in the
exponent.
-/

namespace RadioData.Decimal

/-! ## The shortest decimal that reads back -/

/-- The decimal `0.d₁d₂… × 10 ^ (exponent + 1)`, that is `d₁.d₂… × 10 ^ exponent`. -/
structure Scientific where
  digits : List Char
  exponent : Int
  deriving DecidableEq, Repr

namespace Shortest

/-- A positive double with the interval of reals that round to it: the fractions `low / scale`,
`value / scale` and `high / scale`, and whether the ends are included. -/
structure Interval where
  low : Nat
  value : Nat
  high : Nat
  scale : Nat
  closed : Bool
  deriving Repr

/-- The interval of the double `significand * 2 ^ power`. The gap below a power of two is half the
gap above it, except at the bottom of the range. -/
def intervalOf (significand : Nat) (power : Int) (narrowBelow : Bool) : Interval :=
  let up := (power - 2).toNat
  let down := (2 - power).toNat
  let below : Nat := if narrowBelow then 1 else 2
  { low := (4 * significand - below) * Nat.pow 2 up
    value := 4 * significand * Nat.pow 2 up
    high := (4 * significand + 2) * Nat.pow 2 up
    scale := Nat.pow 2 down
    closed := decide (significand % 2 = 0) }

/-- The interval of a double given by its bits, without the sign. -/
def intervalOfBits (bits : Nat) : Interval :=
  let fraction : Nat := bits % Nat.pow 2 52
  let biased : Nat := bits / Nat.pow 2 52 % Nat.pow 2 11
  if biased = 0 then intervalOf fraction (-1074) false
  else
    intervalOf (Nat.pow 2 52 + fraction) ((biased : Int) - 1075)
      (decide (fraction = 0) && decide (1 < biased))

/-- Whether `n * 10 ^ e` lies in the interval. -/
def Interval.holds (i : Interval) (n : Nat) (e : Int) : Bool :=
  let x := n * Nat.pow 10 e.toNat * i.scale
  let tens := Nat.pow 10 (-e).toNat
  if i.closed then i.low * tens ≤ x && x ≤ i.high * tens
  else i.low * tens < x && x < i.high * tens

/-- The exponent of the leading digit, found by going down from `e`. -/
def leading (i : Interval) : Nat → Int → Int
  | 0, e => e
  | fuel + 1, e =>
    if Nat.pow 10 e.toNat * i.scale ≤ i.value * Nat.pow 10 (-e).toNat then e
    else leading i fuel (e - 1)

/-- The digits of `n` without zeros at the end. -/
def significant (n : Nat) : List Char :=
  ((Nat.toDigits 10 n).reverse.dropWhile (· == '0')).reverse

/-- The point `n * 10 ^ e` in scientific form. -/
def point (n : Nat) (e : Int) : Scientific :=
  ⟨significant n, e + ((Nat.toDigits 10 n).length - 1 : Nat)⟩

/-- The best point of the grid with spacing `10 ^ e`, if one lies in the interval. Of two, the
nearer wins, and of two equally near the even one. -/
def onGrid (i : Interval) (e : Int) : Option Scientific :=
  let numerator := i.value * Nat.pow 10 (-e).toNat
  let denominator := i.scale * Nat.pow 10 e.toNat
  let below := numerator / denominator
  let above := below + 1
  match i.holds below e && below != 0, i.holds above e with
  | true, true =>
    let twice := 2 * (numerator % denominator)
    if twice < denominator || (twice == denominator && below % 2 == 0) then some (point below e)
    else some (point above e)
  | true, false => some (point below e)
  | false, true => some (point above e)
  | false, false => none

/-- The first grid, from `digits` digits on, that has a point in the interval. -/
def firstGrid (i : Interval) (lead : Int) : Nat → Nat → Option Scientific
  | 0, _ => none
  | fuel + 1, digits =>
    match onGrid i (lead - (digits - 1 : Nat)) with
    | some s => some s
    | none => firstGrid i lead fuel (digits + 1)

/-- The shortest decimal that reads back as the double with the given bits. Seventeen digits always
suffice; zero has none. -/
def ofBits? (bits : Nat) : Option Scientific :=
  let i := intervalOfBits bits
  if i.value = 0 then none else firstGrid i (leading i 640 309) 17 1

end Shortest

/-! ## Text -/

/-- Zeros. -/
def zeros (n : Nat) : List Char := List.replicate n '0'

/-- A decimal written out with a point. -/
def positional (s : Scientific) : List Char :=
  match s.exponent with
  | .ofNat e =>
    if s.digits.length ≤ e + 1 then s.digits ++ zeros (e + 1 - s.digits.length) ++ ['.', '0']
    else s.digits.take (e + 1) ++ ['.'] ++ s.digits.drop (e + 1)
  | .negSucc e => ['0', '.'] ++ zeros e ++ s.digits

/-- An exponent with its sign. -/
def exponentText (e : Int) : List Char :=
  (if e < 0 then '-' else '+') :: Nat.toDigits 10 e.natAbs

/-- A decimal with one digit before the point and an exponent. -/
def scientific (s : Scientific) : List Char :=
  match s.digits with
  | [] => []
  | [d] => d :: 'e' :: exponentText s.exponent
  | d :: ds => d :: '.' :: ds ++ 'e' :: exponentText s.exponent

/-- The text of a finite double. -/
def floatText (f : Float) : String :=
  let bits := f.toBits.toNat
  let digits :=
    match Shortest.ofBits? (bits % Nat.pow 2 63) with
    | none => ['0', '.', '0']
    | some s => if -5 ≤ s.exponent && s.exponent ≤ 15 then positional s else scientific s
  String.ofList (if bits < Nat.pow 2 63 then digits else '-' :: digits)

end RadioData.Decimal
