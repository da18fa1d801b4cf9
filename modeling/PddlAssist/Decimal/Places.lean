import PddlAssist.Decimal.Shortest

namespace PddlAssist.Decimal

def fixedDigits (places n : Nat) : List Char :=
  let written := Nat.toDigits 10 n
  let padded := List.replicate (places + 1 - written.length) '0' ++ written
  padded.take (padded.length - places) ++ '.' :: padded.drop (padded.length - places)

def fixedText (places : Nat) (x : Float) : String :=
  match classify x with
  | .notANumber => "NaN"
  | .infinite negative => signed negative ['i', 'n', 'f']
  | .finite negative b =>
    let f := b.value
    signed negative (fixedDigits places (roundDiv (f.num * Nat.pow 10 places) f.den))

end PddlAssist.Decimal
