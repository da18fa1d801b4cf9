namespace PddlAssist.Decimal

def roundDiv (num den : Nat) : Nat :=
  let q := num / den
  let twice := 2 * (num % den)
  if twice > den ∨ (twice = den ∧ q % 2 = 1) then q + 1 else q

structure Binary64 where
  mantissa : Nat
  exponent : Int
  deriving DecidableEq, Repr

structure Fraction where
  num : Nat
  den : Nat
  deriving DecidableEq, Repr

def Fraction.scale (f : Fraction) (e : Int) : Fraction :=
  if 0 ≤ e then ⟨f.num * Nat.pow 2 e.toNat, f.den⟩ else ⟨f.num, f.den * Nat.pow 2 (-e).toNat⟩

def Binary64.value (b : Binary64) : Fraction := Fraction.scale ⟨b.mantissa, 1⟩ b.exponent

inductive FloatClass where
  | finite (negative : Bool) (value : Binary64)
  | infinite (negative : Bool)
  | notANumber
  deriving DecidableEq, Repr

def classifyBits (bits : Nat) : FloatClass :=
  let negative := bits / Nat.pow 2 63 % 2 == 1
  let biased : Nat := bits / Nat.pow 2 52 % Nat.pow 2 11
  let fraction : Nat := bits % Nat.pow 2 52
  if biased = 2047 then if fraction = 0 then .infinite negative else .notANumber
  else if biased = 0 then .finite negative ⟨fraction, -1074⟩
  else .finite negative ⟨Nat.pow 2 52 + fraction, (biased : Int) - 1075⟩

def classify (x : Float) : FloatClass := classifyBits x.toBits.toNat

def infinityBits : Nat := 2047 * Nat.pow 2 52

/-- The pattern of the double nearest to `f`. With the unit `2 ^ e` of the last place, patterns count
up by one from unit to unit, so a mantissa that rounds up to the next power of two needs no care. -/
def nearestBits (f : Fraction) : Nat :=
  if f.num = 0 then 0
  else
    let guess : Int := (f.num.log2 : Int) - f.den.log2 - 53
    let scaled := f.scale (-guess)
    let fitting := if scaled.num / scaled.den < Nat.pow 2 53 then guess else guess + 1
    let e := max fitting (-1074)
    let scaled := f.scale (-e)
    min infinityBits ((e + 1074).toNat * Nat.pow 2 52 + roundDiv scaled.num scaled.den)

def nearest (negative : Bool) (f : Fraction) : Float :=
  Float.ofBits (UInt64.ofNat (nearestBits f + if negative then Nat.pow 2 63 else 0))

end PddlAssist.Decimal
