import PddlAssist.Decimal.Numeral

namespace PddlAssist.Decimal

def wordBound : Nat := Nat.pow 2 64

/-- Digits appended to a word, and those that have no room. Once a digit has none, neither has any
after it. -/
def collect (word : Nat) : List Char → Nat × List Char
  | [] => (word, [])
  | d :: rest =>
    let next := 10 * word + (d.toNat - 48)
    if next < wordBound then collect next rest else (word, d :: rest)

def maxPower : Nat := 308

def powerOfTen (n : Nat) : Float := nearest false ⟨Nat.pow 10 n, 1⟩

/-- A double times a power of ten, with one rounding unless the power is no double. -/
def scaleBy? (x : Float) (exponent : Int) : Option Float :=
  if 0 ≤ exponent then
    if x == 0 then some x
    else if maxPower < exponent.toNat then none
    else
      let y := x * powerOfTen exponent.toNat
      if y.isInf then none else some y
  else if -exponent ≤ maxPower then some (x / powerOfTen (-exponent).toNat)
  else if x == 0 then some x
  else scaleBy? (x / powerOfTen maxPower) (exponent + maxPower)
termination_by (-exponent).toNat
decreasing_by
  simp only [maxPower] at *
  omega

def exponentBound : Nat := Nat.pow 2 31

/-- The double nearest to a word of 64 bits, multiplied or divided by a power of ten: close to what
the digits write, but not always the nearest double. An exponent that is too great to be kept leaves
nothing but zero. -/
def scaled? (whole fraction : List Char) (negativeExponent : Bool) (exponent : List Char) :
    Option Float :=
  let (word, leftWhole) := collect 0 whole
  let (word, leftFraction) := collect word fraction
  let point : Int := (leftWhole.length : Int) - (fraction.length - leftFraction.length : Nat)
  let e := digitsValue exponent
  if exponentBound ≤ e then
    if word = 0 || negativeExponent then some 0 else none
  else
    let total := point + if negativeExponent then -(e : Int) else e
    scaleBy? (nearest false ⟨word, 1⟩) total

end PddlAssist.Decimal
