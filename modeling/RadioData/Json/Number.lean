import RadioData.Decimal
import RadioData.Text
/-!
# Numbers in JSON

A numeral is an optional minus sign, digits without needless zeros in front, and optionally a
fraction and an exponent. `Numeral.scan` takes one from the front of a text, and `Numeral.number?`
is its value: an integer if there is neither fraction nor exponent and it fits in 64 bits, else a
double. A double is computed from the leading digits that fit in 64 bits and a power of ten; a
numeral that is too large for a double has no value.
-/

namespace RadioData.Json

/-- The value of a numeral. -/
inductive Number where
  | natural (n : Nat)
  /-- The integer below zero with this magnitude. -/
  | negative (n : Nat)
  | double (f : Float)
  deriving Repr

/-- The text of a number. -/
def Number.text : Number → String
  | .natural n => toString n
  | .negative n => "-" ++ toString n
  | .double f => Decimal.floatText f

/-- A numeral in its parts. -/
structure Numeral where
  minus : Bool
  /-- The digits before the point. -/
  whole : List Char
  /-- The digits after the point, if there is one. -/
  fraction : Option (List Char) := none
  exponent : Option Int := none
  deriving DecidableEq, Repr

namespace Numeral

/-- The digits at the front of a text. -/
def digits (cs : List Char) : List Char := cs.takeWhile RadioData.Numeral.isDigit

/-- What comes after the digits at the front of a text. -/
def afterDigits (cs : List Char) : List Char := cs.dropWhile RadioData.Numeral.isDigit

/-- What a scan of a numeral comes to. -/
inductive Scan where
  | numeral (n : Numeral) (rest : List Char)
  /-- No numeral; `atEnd` says whether the text breaks off where a digit is wanted. -/
  | broken (atEnd : Bool)
  deriving DecidableEq, Repr

/-- The exponent after an `e`. -/
def scanExponent (n : Numeral) (cs : List Char) : Scan :=
  let (minus, cs) :=
    match cs with
    | '+' :: cs => (false, cs)
    | '-' :: cs => (true, cs)
    | cs => (false, cs)
  match digits cs with
  | [] => .broken cs.isEmpty
  | ds =>
    let magnitude : Int := RadioData.Numeral.value ds
    .numeral { n with exponent := some (if minus then -magnitude else magnitude) } (afterDigits cs)

/-- The exponent, if one follows. -/
def scanExponent? (n : Numeral) (cs : List Char) : Scan :=
  match cs with
  | 'e' :: cs | 'E' :: cs => scanExponent n cs
  | cs => .numeral n cs

/-- The fraction and the exponent, if they follow. -/
def scanFraction? (n : Numeral) (cs : List Char) : Scan :=
  match cs with
  | '.' :: cs =>
    match digits cs with
    | [] => .broken cs.isEmpty
    | ds => scanExponent? { n with fraction := some ds } (afterDigits cs)
  | cs => scanExponent? n cs

/-- Takes a numeral from the front of a text. -/
def scan (cs : List Char) : Scan :=
  let (minus, cs) :=
    match cs with
    | '-' :: cs => (true, cs)
    | cs => (false, cs)
  match digits cs with
  | [] => .broken cs.isEmpty
  | '0' :: _ :: _ => .broken false
  | ds => scanFraction? { minus, whole := ds } (afterDigits cs)

/-- The largest number that is collected from digits. -/
def largest : Nat := UInt64.size - 1

/-- Goes on collecting a number from digits as long as it is not too large. The second part is how
many digits were left. -/
def collect (n : Nat) : List Char → Nat × Nat
  | [] => (n, 0)
  | d :: ds =>
    let next := 10 * n + (d.toNat - 48)
    if next ≤ largest then collect next ds else (n, ds.length + 1)

/-- A power of ten as a double. -/
def powerOfTen (n : Nat) : Float := Float.ofScientific 1 false n

/-- The largest exponent of a power of ten that is a double. -/
def largestPower : Nat := 308

/-- A double times a power of ten, in steps that stay in range; nothing if it becomes infinite.
After three steps down nothing is left of any number that fits in 64 bits. -/
def scale (f : Float) (exponent : Int) : Nat → Option Float
  | 0 => some 0
  | fuel + 1 =>
    if exponent.natAbs ≤ largestPower then
      let power := powerOfTen exponent.natAbs
      if exponent < 0 then some (f / power)
      else if (f * power).isInf then none
      else some (f * power)
    else if f == 0 then some f
    else if exponent < 0 then scale (f / powerOfTen largestPower) (exponent + largestPower) fuel
    else none

/-- A significand times a power of ten as a double. -/
def ofParts (minus : Bool) (significand : Nat) (exponent : Int) : Option Number :=
  (scale significand.toUInt64.toFloat exponent 4).map fun f => .double (if minus then -f else f)

/-- The value of a numeral; nothing if it is too large. -/
def number? (n : Numeral) : Option Number :=
  let (significand, left) := collect 0 n.whole
  match left, n.fraction, n.exponent with
  | 0, none, none =>
    if !n.minus then some (.natural significand)
    else if 0 < significand ∧ significand ≤ UInt64.size / 2 then some (.negative significand)
    else some (.double (-significand.toUInt64.toFloat))
  | _, fraction, exponent =>
    let fraction := fraction.getD []
    let (significand, unused) := collect significand fraction
    let used : Nat := fraction.length - unused
    ofParts n.minus significand ((left : Int) - used + exponent.getD 0)

end Numeral

end RadioData.Json
