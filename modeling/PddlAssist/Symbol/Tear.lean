import PddlAssist.Domain.Tear
import PddlAssist.Symbol.Outline

namespace PddlAssist

open Text

namespace Symbol

def Meaning.tear? (domain : Domain) (document : Document) : Meaning → Option Span
  | .variable n _ => domain.variableTear? n document
  | .type name => domain.typeTear? name document
  | .action _ => none

def tear? (w : Workspace) (uri : Uri) (position : Position) : Option Span := do
  let file ← w.find? uri
  let offset ← file.document.offset? position
  if isCommented file.document.chars offset then none
  let span ← wordAt? file.document.chars offset
  let domainFile ← w.domainFile? uri
  let domain ← domainFile.domain?
  let meaning ← meaning? file domain span
  meaning.tear? domain domainFile.document

def ask (w : Workspace) (uri : Uri) (position : Position) : Except Tear (Option Symbol × Workspace) :=
  match tear? w uri position with
  | some scope => .error ⟨scope⟩
  | none => .ok (at? w uri position)

end Symbol

namespace Outline

def typesTear? (document : Document) (domain : Domain) : List String → Option Span
  | [] => none
  | name :: rest =>
    (domain.typeTear? name document).or (typesTear? document (domain.locateType name document).2 rest)

def variablesTear? (document : Document) (domain : Domain) (n : Nat) : List Variable → Option Span
  | [] => none
  | _ :: rest =>
    (domain.variableTear? n document).or (variablesTear? document (domain.locate n document).2 (n + 1) rest)

def tear? (file : SourceFile) : Option Span :=
  match file.kind with
  | .domain domain =>
    (typesTear? file.document domain domain.types).or
      (variablesTear? file.document (typeItems file.document domain domain.types).2 0 domain.allVariables)
  | _ => none

def ask (w : Workspace) (uri : Uri) : Except Tear (Option (List OutlineItem) × Workspace) :=
  match (w.find? uri).bind tear? with
  | some scope => .error ⟨scope⟩
  | none => .ok (at? w uri)

end Outline
end PddlAssist
