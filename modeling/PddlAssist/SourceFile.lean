import PddlAssist.Directive
import PddlAssist.Domain.Reader
import PddlAssist.Happening
import PddlAssist.Problem.Reader
import PddlAssist.Uri.FilePath

namespace PddlAssist

open Text

inductive FileFormat where
  | pddl
  | plan
  | happenings
  deriving DecidableEq, Repr, Inhabited

namespace FileFormat

def hasExtension (uri : Uri) (extension : String) : Bool :=
  (extension.toList.reverse).isPrefixOf (lower uri.path).toList.reverse

/-- Files with an unknown extension are read as domains or problems. -/
def ofUri (uri : Uri) : FileFormat :=
  if hasExtension uri ".plan" then .plan
  else if hasExtension uri ".happenings" then .happenings
  else .pddl

def isSupported (uri : Uri) : Bool :=
  [".pddl", ".plan", ".happenings"].any (hasExtension uri)

end FileFormat

inductive FileKind where
  | domain (domain : Domain)
  | problem (problem : Problem)
  | plan (plan : Plan)
  | happenings (happenings : List Happening)
  | unknown
  deriving Repr, Inhabited

def FileKind.label : FileKind → String
  | domain _ => "domain"
  | problem _ => "problem"
  | plan _ => "plan"
  | happenings _ => "happenings"
  | unknown => "unknown"

inductive FileStatus where
  | dirty
  | parsed
  | validating
  | validated
  deriving DecidableEq, Repr, Inhabited

structure SourceFile where
  uri : Uri
  version : Int
  document : Document
  tree : Tree
  status : FileStatus
  issues : List Issue
  kind : FileKind
  deriving Repr, Inhabited

structure FileReader where
  epsilon : Float
  preprocessor : PreprocessorSettings
  host : Host

def FileReader.ofSettings (settings : Settings) (host : Host) : FileReader :=
  ⟨settings.epsilon, settings.preprocessor, host⟩

namespace SourceFile

def text (f : SourceFile) : String := f.document.text

def domain? (f : SourceFile) : Option Domain :=
  match f.kind with
  | .domain d => some d
  | _ => none

def problem? (f : SourceFile) : Option Problem :=
  match f.kind with
  | .problem p => some p
  | _ => none

def isDomain (f : SourceFile) : Bool := f.domain?.isSome

def isProblem (f : SourceFile) : Bool := f.problem?.isSome

/-- Takes a newer text. What was read from the old one stays until the new one is read. -/
def update? (f : SourceFile) (version : Int) (text : List Char) : Option SourceFile :=
  if version ≤ f.version then none
  else some { f with version, document := ⟨text⟩, status := .dirty }

def bracketIssues (document : Document) (tree : Tree) : List Issue :=
  (tree.unclosed.map fun node =>
    .error "Missing closing bracket"
      (document.rangeOf ⟨node.span.start, node.span.start + 1⟩)) ++
  tree.stray.map fun node => .error "Unexpected closing bracket" (document.rangeOf node.span)

def classify (document : Document) (tree : Tree) : FileKind × List Issue :=
  let brackets := bracketIssues document tree
  match Domain.ofTree? document tree with
  | some (domain, issues) => (.domain domain, brackets ++ issues)
  | none =>
    match Problem.ofTree? document tree with
    | some (problem, issues) => (.problem problem, brackets ++ issues)
    | none => (.unknown, brackets)

/-- An issue of a generated text, reported on the line of the directive. -/
def relocate (range : Range) (issue : Issue) : Issue :=
  { issue with
    message := issue.message ++ " (pre-processed output, line " ++
      toString (issue.range.start.line + 1) ++ ")"
    range }

def classifyGenerated (document : Document) (generated : List Char) : FileKind × List Issue :=
  let (kind, issues) := classify ⟨generated⟩ (Tree.build generated)
  let kind :=
    match kind with
    | .problem p => .problem { p with preprocessed := some (String.ofList generated) }
    | other => other
  (kind, issues.map (relocate (document.lineRange 0)))

def readPddl (reader : FileReader) (uri : Uri) (document : Document) (tree : Tree) :
    FileKind × List Issue :=
  match Directive.ofText? document.chars with
  | none => classify document tree
  | some directive =>
    let transformed := directive.bind fun directive =>
      directive.transform reader.host reader.preprocessor uri.localFolder?
        document.chars
    match transformed with
    | .ok generated => classifyGenerated document generated
    | .error e =>
      (.unknown, [.error e.message (document.lineRange (e.line?.getD 0))])

def read (reader : FileReader) (uri : Uri) (version : Int) (text : List Char) : SourceFile :=
  let document : Document := ⟨text⟩
  let tree := Tree.build text
  let (kind, issues) :=
    match FileFormat.ofUri uri with
    | .plan =>
      let (plan, issues) := Plan.read document reader.epsilon
      (.plan plan, issues)
    | .happenings =>
      let (happenings, issues) := Timeline.read document reader.epsilon
      (.happenings happenings, issues)
    | .pddl => readPddl reader uri document tree
  { uri, version, document, tree, status := .parsed, issues, kind }

end SourceFile
end PddlAssist
