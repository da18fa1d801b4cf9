import PddlAssist.Domain.Location

namespace PddlAssist

open Text

structure Tear where
  scope : Span
  deriving DecidableEq, Repr, Inhabited

/-- The scope lies within the text, but begins or ends inside a character. Nothing is cut out for a scope that is
empty or ends past the text. -/
def Document.tears (document : Document) (scope : Span) : Bool :=
  scope.start < scope.stop && scope.stop ≤ document.size &&
    !(IsBoundary document.chars scope.start && IsBoundary document.chars scope.stop)

namespace Domain

def firstTear? (document : Document) (name : String) : List Span → Option Span
  | [] => none
  | scope :: rest =>
    if !name.isEmpty && document.tears scope then some scope
    else if (occurrences document.chars scope name).any (precededByBracket document.chars ·.start) then none
    else firstTear? document name rest

/-- The scope that tears when variable `n` is located. A location that is remembered is not searched. -/
def variableTear? (d : Domain) (n : Nat) (document : Document) : Option Span :=
  match d.allVariables[n]? with
  | none => none
  | some var => if var.location.isSome then none else firstTear? document var.name (d.scopes var.kind)

def typeTear? (d : Domain) (name : String) (document : Document) : Option Span :=
  if d.typeLocations.any (·.1 == lower name) then none
  else d.sections.types.filter fun scope => !name.isEmpty && document.tears scope

end Domain
end PddlAssist
