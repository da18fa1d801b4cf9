import PddlAssist.Document.Occurrence
import PddlAssist.Text.WordChar
import PddlAssist.Workspace.Binding

namespace PddlAssist

open Text

structure Diagnostic where
  message : String
  range : Range
  severity : Severity
  source : String
  deriving DecidableEq, Repr, Inhabited

namespace Diagnostic

def ownSource : String := "pddl-lsp"

def own (range : Range) (severity : Severity) (message : String) : Diagnostic :=
  ⟨message, range, severity, ownSource⟩

def ofIssue (issue : Issue) : Diagnostic := own issue.range issue.severity issue.message

def shortName (uri : Uri) : String :=
  if uri.hasSegments then uri.fileName else uri.text

def bindingMessage? (wanted : String) : Binding → Option String
  | .unique _ => none
  | .missing => some ("No file in this folder declares " ++ wanted)
  | .ambiguous uris =>
    some ("Several files declare " ++ wanted ++ ": " ++ ", ".intercalate (uris.map shortName))

/-- What a file needs from its folder, and where it says so. Spans of a generated text mean nothing in
the template, so a pre-processed problem says so on its first line. -/
def wanted? (file : SourceFile) : Option (Range × String) :=
  match file.kind with
  | .problem problem =>
    let range := if problem.preprocessed.isSome then file.document.lineRange 0
      else file.document.rangeOf problem.domainNameSpan
    some (range, "domain '" ++ problem.domainName ++ "'")
  | .plan plan =>
    some (⟨⟨0, 0⟩, ⟨0, 0⟩⟩, plan.domainName.elim "a domain" fun name => "domain '" ++ name ++ "'")
  | _ => none

def bindingHint? (w : Workspace) (file : SourceFile) : Option Diagnostic := do
  let (range, wanted) ← wanted? file
  let message ← bindingMessage? wanted (w.domainBinding file.uri)
  return own range .hint message

def undeclaredInProblem (file : SourceFile) (problem : Problem) (domain : Domain) : List Diagnostic :=
  let atoms := problem.initEntries.map InitEntry.atom
  let unknown := atoms.filter fun atom => (domain.findVariable? atom.name).isNone
  (unknown.map fun atom =>
    own (file.document.rangeOf atom.span) .warning
      ("Undeclared predicate or function '" ++ atom.name ++ "'")) ++
  problem.objectEntries.flatMap fun entry =>
    (entry.types.filter (!domain.hasType ·)).map fun typeName =>
      own (file.document.rangeOf entry.span) .warning
        ("Object '" ++ entry.name ++ "' has undeclared type '" ++ typeName ++ "'")

def dashName? (cs : List Char) : Option (Nat × List Char) :=
  match cs with
  | '-' :: rest =>
    let blanks := rest.takeWhile isBlank
    match rest.drop blanks.length with
    | c :: more =>
      if !blanks.isEmpty && c.isAlpha then
        some (1 + blanks.length, c :: more.takeWhile fun d => isUnicodeWordChar d || d == '-')
      else none
    | [] => none
  | _ => none

/-- The names in a text that follow a dash of their own, with their offsets. `fresh` says that a dash
may begin here, and `passing` counts the characters of the last find that are still to pass. -/
def dashNames (offset : Nat) (fresh : Bool) (passing : Nat) : List Char → List (Nat × List Char)
  | [] => []
  | c :: cs =>
    let next := offset + c.utf8Size
    if passing > 0 then dashNames next false (passing - 1) cs
    else
      match if fresh then dashName? (c :: cs) else none with
      | some (skipped, name) =>
        (offset + width ((c :: cs).take skipped), name) ::
          dashNames next false (skipped + name.length - 1) cs
      | none => dashNames next (isBlank c) 0 cs

def undeclaredTypes (file : SourceFile) (domain : Domain) : List Diagnostic :=
  if domain.sections.types.isNone then []
  else
    let cs := file.document.chars
    let unknown := (dashNames 0 true 0 cs).filter fun (offset, name) =>
      let name := String.ofList name
      !(sameName name "number" || domain.hasType name || isCommented cs offset)
    unknown.map fun (offset, name) =>
      own (file.document.rangeOf ⟨offset, offset + width name⟩) .warning
        ("Undeclared type '" ++ String.ofList name ++ "'")

def collect (w : Workspace) (uri : Uri) (limit : Nat) : List Diagnostic :=
  match w.find? uri with
  | none => []
  | some file =>
    let undeclared :=
      match file.kind with
      | .domain domain => undeclaredTypes file domain
      | .problem problem =>
        if problem.preprocessed.isSome then []
        else ((w.domainFile? uri).bind (·.domain?)).elim [] (undeclaredInProblem file problem)
      | _ => []
    (file.issues.map ofIssue ++ (bindingHint? w file).toList ++ undeclared).take limit

end Diagnostic
end PddlAssist
