import PddlAssist.Document.Occurrence
import PddlAssist.Domain

namespace PddlAssist.Domain

open Text

def scopes (d : Domain) : VariableKind → List Span
  | .predicate => d.sections.predicates.toList
  | .function => d.sections.functions.toList
  | .derived => d.sections.derived

def searchVariable (d : Domain) (var : Variable) (document : Document) : Option Range :=
  let found := (d.scopes var.kind).flatMap fun scope =>
    occurrences document.chars scope var.name
  (found.find? (precededByBracket document.chars ·.start)).map document.rangeOf

/-- The first place in the types section where the name does not follow a dash, or else its first
place there. -/
def searchType (d : Domain) (name : String) (document : Document) : Option Range :=
  d.sections.types.bind fun scope =>
    let found := occurrences document.chars scope name
    ((found.find? (!precededByDash document.chars ·.start)).or found.head?).map document.rangeOf

def modifyVariable (f : Variable → Variable) : Nat → List Variable → List Variable
  | _, [] => []
  | 0, v :: rest => f v :: rest
  | n + 1, v :: rest => v :: modifyVariable f n rest

def modify (d : Domain) (n : Nat) (f : Variable → Variable) : Domain :=
  { d with
    predicates := modifyVariable f n d.predicates
    functions := if n < d.predicates.length then d.functions
      else modifyVariable f (n - d.predicates.length) d.functions
    derived := if n < d.predicates.length + d.functions.length then d.derived
      else modifyVariable f (n - d.predicates.length - d.functions.length) d.derived }

/-- Where variable `n` is declared, and the domain that remembers it. -/
def locate (d : Domain) (n : Nat) (document : Document) : Option Range × Domain :=
  match d.allVariables[n]? with
  | none => (none, d)
  | some var =>
    match var.location with
    | some location => (location, d)
    | none =>
      let location := d.searchVariable var document
      (location, d.modify n fun v => { v with location := some location })

def locateType (d : Domain) (name : String) (document : Document) : Option Range × Domain :=
  match d.typeLocations.find? (·.1 == lower name) with
  | some (_, location) => (location, d)
  | none =>
    let location := d.searchType name document
    (location, { d with typeLocations := d.typeLocations ++ [(lower name, location)] })

end PddlAssist.Domain
