namespace PddlAssist.Text

def lower (s : String) : String := String.ofList (s.toList.map Char.toLower)

/-- Names are compared without regard to the case of ASCII letters. Other letters have no case here.
-/
def sameName (a b : String) : Bool := lower a == lower b

def startsWithName : List Char → List Char → Bool
  | [], _ => true
  | _ :: _, [] => false
  | n :: name, c :: cs => n.toLower == c.toLower && startsWithName name cs

theorem sameName_refl (a : String) : sameName a a = true := by simp [sameName]

theorem sameName_comm (a b : String) : sameName a b = sameName b a := by
  simp only [sameName, Bool.beq_comm]

theorem sameName_iff {a b : String} : sameName a b = true ↔ lower a = lower b := by
  simp [sameName]

end PddlAssist.Text
