import PddlAssist.Unicode.Category

namespace PddlAssist.Text

def decimalDigits : CharSet := Unicode.Category.decimalNumber.members

def isDecimalDigit (c : Char) : Bool :=
  if c.toNat < 0x80 then c.isDigit else decimalDigits.contains c

/-- The number below `bound` that ASCII digits write, after an optional plus sign. -/
def naturalBelow? (bound : Nat) (cs : List Char) : Option Nat :=
  let digits :=
    match cs with
    | '+' :: rest => rest
    | _ => cs
  let value := digits.foldl (fun n c => 10 * n + (c.toNat - 48)) 0
  if !digits.isEmpty && digits.all Char.isDigit && value < bound then some value else none

end PddlAssist.Text
