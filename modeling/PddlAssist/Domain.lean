import PddlAssist.Issue
import PddlAssist.TypeHierarchy
import PddlAssist.TypedList

namespace PddlAssist

open Text

inductive VariableKind where
  | predicate
  | function
  | derived
  deriving DecidableEq, Repr, Inhabited

def VariableKind.label : VariableKind → String
  | predicate => "Predicate"
  | function => "Function"
  | derived => "Derived predicate"

structure Variable where
  name : String
  declaredName : String
  parameters : List Parameter
  kind : VariableKind
  documentation : Option String := none
  /-- Where the name is written, once someone has asked; the answer may be that it is not found. -/
  location : Option (Option Range) := none
  deriving DecidableEq, Repr, Inhabited

inductive ActionKind where
  | instantaneous
  | durative
  | process
  | event
  deriving DecidableEq, Repr, Inhabited

namespace ActionKind

def keyword : ActionKind → String
  | instantaneous => ":action"
  | durative => ":durative-action"
  | process => ":process"
  | event => ":event"

def ofKeyword? (word : String) : Option ActionKind :=
  [instantaneous, durative, process, event].find? fun kind => sameName kind.keyword word

end ActionKind

structure Action where
  name : String
  kind : ActionKind
  parameters : List Parameter
  span : Span
  nameSpan : Option Span
  condition : Option Span
  effect : Option Span
  documentation : Option String
  deriving DecidableEq, Repr, Inhabited

/-- Where the sections stand. Of several sections of one kind the last counts, but every `:derived`
section declares a predicate of its own. -/
structure DomainSections where
  requirements : Option Span := none
  types : Option Span := none
  constants : Option Span := none
  predicates : Option Span := none
  functions : Option Span := none
  derived : List Span := []
  deriving DecidableEq, Repr, Inhabited

structure Domain where
  name : String
  nameSpan : Option Span
  requirements : List String := []
  types : List String := []
  hierarchy : TypeHierarchy := {}
  constants : List ObjectGroup := []
  predicates : List Variable := []
  functions : List Variable := []
  derived : List Variable := []
  actions : List Action := []
  sections : DomainSections := {}
  /-- Where types are declared, by lower-case name, as far as someone has asked. -/
  typeLocations : List (String × Option Range) := []
  deriving DecidableEq, Repr, Inhabited

namespace Domain

def allVariables (d : Domain) : List Variable := d.predicates ++ d.functions ++ d.derived

def findVariable? (d : Domain) (name : String) : Option Variable :=
  d.allVariables.find? (sameName ·.name name)

def findAction? (d : Domain) (name : String) : Option Action := d.actions.find? (sameName ·.name name)

def hasType (d : Domain) (name : String) : Bool :=
  sameName name rootType || d.types.any (sameName · name)

def hasRequirement (d : Domain) (requirement : String) : Bool :=
  d.requirements.any (sameName · requirement)

def isName (d : Domain) (name : String) : Bool := sameName d.name name

/-- Where an action's name is written, or the whole action if it has none. -/
def actionLocation (action : Action) (document : Document) : Range :=
  document.rangeOf (action.nameSpan.getD action.span)

end Domain
end PddlAssist
