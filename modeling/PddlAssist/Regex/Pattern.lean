import PddlAssist.Regex.Footprint
import PddlAssist.Regex.Meaning
import PddlAssist.Regex.Program
import PddlAssist.Regex.Reader

namespace PddlAssist.Regex

structure Pattern where
  program : Program
  names : List (String × Nat)

namespace Pattern

def parse? (s : String) : Option Pattern :=
  (Expr.parse? s).bind fun (e, names) =>
    (Expr.meaning? {} e).bind fun (r, _) => if fits r then some ⟨r.program, names⟩ else none

def matchesIn (p : Pattern) (cs : List Char) : List Marks := Regex.matchesIn p.program cs

end Pattern

def between (cs : List Char) (span : Nat × Nat) : List Char :=
  (cs.drop span.1).take (span.2 - span.1)

def Pattern.named? (p : Pattern) (cs : List Char) (found : Marks) (name : String) :
    Option (List Char) :=
  (p.names.lookup name).bind fun index => (found.span? index).map (between cs)

def wholeText (cs : List Char) (found : Marks) : List Char := (found.span? 0).elim [] (between cs)

end PddlAssist.Regex
