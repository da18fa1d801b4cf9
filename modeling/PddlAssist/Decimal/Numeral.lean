import PddlAssist.Decimal.Binary64

namespace PddlAssist.Decimal

def digitsValue (ds : List Char) : Nat := ds.foldl (fun n d => 10 * n + (d.toNat - 48)) 0

/-- `digits * 10 ^ exponent`, where `digits` has `count` digits and no zero in front. Beyond the range
of doubles the power is not computed. -/
def scientific (negative : Bool) (digits count : Nat) (exponent : Int) : Float :=
  if digits = 0 then nearest negative ⟨0, 1⟩
  else if exponent + count > 400 then nearest negative ⟨Nat.pow 2 1100, 1⟩
  else if exponent + count < -400 then nearest negative ⟨0, 1⟩
  else if 0 ≤ exponent then nearest negative ⟨digits * Nat.pow 10 exponent.toNat, 1⟩
  else nearest negative ⟨digits, Nat.pow 10 (-exponent).toNat⟩

def splitSign : List Char → Bool × List Char
  | '-' :: rest => (true, rest)
  | '+' :: rest => (false, rest)
  | rest => (false, rest)

def exponent? : List Char → Option Int
  | [] => some 0
  | c :: rest =>
    if c = 'e' ∨ c = 'E' then
      let (negative, digits) := splitSign rest
      if digits.isEmpty || !digits.all Char.isDigit then none
      else some (if negative then -(digitsValue digits : Int) else digitsValue digits)
    else none

def unsigned? (negative : Bool) (cs : List Char) : Option Float :=
  let whole := cs.takeWhile Char.isDigit
  let afterWhole := cs.dropWhile Char.isDigit
  let (fraction, rest) :=
    match afterWhole with
    | '.' :: more => (more.takeWhile Char.isDigit, more.dropWhile Char.isDigit)
    | other => ([], other)
  let digits := whole ++ fraction
  if digits.isEmpty then none
  else
    (exponent? rest).map fun e =>
      let count := (digits.dropWhile (· == '0')).length
      scientific negative (digitsValue digits) count (e - fraction.length)

def numeral? (s : String) : Option Float :=
  let (negative, cs) := splitSign s.toList
  let word := cs.map Char.toLower
  if word = ['i', 'n', 'f'] ∨ word = ['i', 'n', 'f', 'i', 'n', 'i', 't', 'y'] then
    some (nearest negative ⟨Nat.pow 2 1100, 1⟩)
  else if word = ['n', 'a', 'n'] then some (Float.ofBits 0x7ff8000000000000)
  else unsigned? negative cs

end PddlAssist.Decimal
