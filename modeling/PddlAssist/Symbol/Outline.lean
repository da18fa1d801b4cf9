import PddlAssist.Symbol

namespace PddlAssist

inductive OutlineKind where
  | type
  | predicate
  | function
  | action
  | object
  deriving DecidableEq, Repr, Inhabited

structure OutlineItem where
  name : String
  detail : Option String
  kind : OutlineKind
  range : Range
  deriving DecidableEq, Repr, Inhabited

namespace Outline

def typeItems (document : Document) (domain : Domain) : List String → List OutlineItem × Domain
  | [] => ([], domain)
  | name :: rest =>
    let (location, domain) := domain.locateType name document
    let (items, domain) := typeItems document domain rest
    (location.toList.map (⟨name, none, .type, ·⟩) ++ items, domain)

def variableItems (document : Document) (domain : Domain) (n : Nat) :
    List Variable → List OutlineItem × Domain
  | [] => ([], domain)
  | v :: rest =>
    let (location, domain) := domain.locate n document
    let (items, domain) := variableItems document domain (n + 1) rest
    let kind := if v.kind = .function then .function else .predicate
    (location.toList.map (⟨v.name, some v.declaredName, kind, ·⟩) ++ items, domain)

def actionItems (document : Document) (domain : Domain) : List OutlineItem :=
  (domain.actions.filter (!·.name.isEmpty)).map fun a =>
    ⟨a.name, some a.kind.keyword, .action, Domain.actionLocation a document⟩

def ofFile (file : SourceFile) : List OutlineItem × SourceFile :=
  match file.kind with
  | .domain domain =>
    let (types, domain) := typeItems file.document domain domain.types
    let (vars, domain) := variableItems file.document domain 0 domain.allVariables
    (types ++ vars ++ actionItems file.document domain, { file with kind := .domain domain })
  | .problem problem =>
    (problem.objectEntries.map fun entry =>
      ⟨entry.name, some (" ".intercalate entry.types), .object, file.document.rangeOf entry.span⟩,
     file)
  | _ => ([], file)

def at? (w : Workspace) (uri : Uri) : Option (List OutlineItem) × Workspace :=
  match w.find? uri with
  | some file =>
    let (items, file) := ofFile file
    (some items, w.put file)
  | none => (none, w)

end Outline
end PddlAssist
