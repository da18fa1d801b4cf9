import PddlAssist.Decimal.Binary64

namespace PddlAssist.Decimal

structure Neighbourhood where
  low : Fraction
  high : Fraction
  /-- A tie goes to an even mantissa, so only those own the two ends. -/
  closed : Bool

def Fraction.le (a b : Fraction) : Bool := a.num * b.den ≤ b.num * a.den

def Fraction.lt (a b : Fraction) : Bool := a.num * b.den < b.num * a.den

def Neighbourhood.mem (n : Neighbourhood) (f : Fraction) : Bool :=
  if n.closed then n.low.le f && f.le n.high else n.low.lt f && f.lt n.high

/-- Just below a power of two, the numbers stand twice as close. -/
def Binary64.neighbourhood (b : Binary64) : Neighbourhood :=
  let below := if b.mantissa = Nat.pow 2 52 ∧ b.exponent > -1074 then 1 else 2
  ⟨Fraction.scale ⟨4 * b.mantissa - below, 4⟩ b.exponent,
    Fraction.scale ⟨4 * b.mantissa + 2, 4⟩ b.exponent, b.mantissa % 2 == 0⟩

structure Digits where
  digits : Nat
  exponent : Int
  deriving DecidableEq, Repr

def Digits.value (d : Digits) : Fraction :=
  if 0 ≤ d.exponent then ⟨d.digits * Nat.pow 10 d.exponent.toNat, 1⟩
  else ⟨d.digits, Nat.pow 10 (-d.exponent).toNat⟩

def Fraction.shift (f : Fraction) (e : Int) : Fraction :=
  if 0 ≤ e then ⟨f.num, f.den * Nat.pow 10 e.toNat⟩ else ⟨f.num * Nat.pow 10 (-e).toNat, f.den⟩

def leadingZeros (f : Fraction) : Nat → Nat → Nat
  | 0, n => n
  | fuel + 1, n => if f.den ≤ f.num * Nat.pow 10 n then n else leadingZeros f fuel (n + 1)

def Fraction.magnitude (f : Fraction) : Int :=
  if f.den ≤ f.num then (Nat.toDigits 10 (f.num / f.den)).length
  else 1 - (leadingZeros f 400 0 : Int)

/-- Of the two multiples of `10 ^ exponent` around `f`, the nearer one that is in `n`; of two equally
near ones the upper. -/
def onGrid? (f : Fraction) (n : Neighbourhood) (exponent : Int) : Option Digits :=
  let scaled := f.shift exponent
  let down : Digits := ⟨scaled.num / scaled.den, exponent⟩
  let up : Digits := ⟨scaled.num / scaled.den + 1, exponent⟩
  let upNearer := scaled.den ≤ 2 * (scaled.num % scaled.den)
  match n.mem down.value, n.mem up.value with
  | true, true => some (if upNearer then up else down)
  | true, false => some down
  | false, true => some up
  | false, false => none

def shortestFrom (f : Fraction) (n : Neighbourhood) (magnitude : Int) : Nat → Nat → Digits
  | 0, count => ⟨f.num / f.den, (count : Int) - count⟩
  | fuel + 1, count =>
    match onGrid? f n (magnitude - count) with
    | some digits => digits
    | none => shortestFrom f n magnitude fuel (count + 1)

/-- The fewest digits whose nearest number is `b`, which is not zero. -/
def Binary64.shortest (b : Binary64) : Digits :=
  shortestFrom b.value b.neighbourhood b.value.magnitude 20 1

def Digits.positional (d : Digits) : List Char :=
  let written := Nat.toDigits 10 d.digits
  if 0 ≤ d.exponent then
    if d.digits = 0 then ['0'] else written ++ List.replicate d.exponent.toNat '0'
  else
    let places := (-d.exponent).toNat
    let padded := List.replicate (places + 1 - written.length) '0' ++ written
    let whole := padded.take (padded.length - places)
    let fraction := (padded.drop (padded.length - places)).reverse.dropWhile (· == '0') |>.reverse
    if fraction.isEmpty then whole else whole ++ '.' :: fraction

def signed (negative : Bool) (cs : List Char) : String :=
  String.ofList (if negative then '-' :: cs else cs)

def numberText (x : Float) : String :=
  match classify x with
  | .notANumber => "NaN"
  | .infinite negative => signed negative ['i', 'n', 'f']
  | .finite negative b =>
    if b.mantissa = 0 then signed negative ['0'] else signed negative b.shortest.positional

end PddlAssist.Decimal
