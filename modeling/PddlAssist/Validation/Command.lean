import PddlAssist.Program.Template
import PddlAssist.Regex.Pattern
import PddlAssist.Text.Digit
import PddlAssist.Validation

namespace PddlAssist

open Text

structure ValidationTarget where
  path : String
  uri : Uri
  document : Document
  deriving Repr, Inhabited

namespace ValidationTarget

def fileName? (path : String) : Option String :=
  let parts := Uri.splitPath (· == '/') path.toList
  let names := (parts.map String.ofList).filter fun part => part != "" && part != "."
  names.getLast?.filter (· != "..")

def ofBundle (b : ValidationBundle) : List ValidationTarget :=
  let problems := (List.range b.problems.length).zip b.problems
  ⟨Template.copyPath "domain" 0, b.domain.uri, ⟨b.domain.text⟩⟩ ::
    problems.map fun (n, input) => ⟨Template.copyPath "problem" n, input.uri, ⟨input.text⟩⟩

/-- The copy that a program means by a path, or else by the name of a file in another folder. -/
def find? (targets : List ValidationTarget) (file : List Char) : Option ValidationTarget :=
  let path := String.ofList (trim file)
  (targets.find? (·.path == path)).or <|
    (fileName? path).bind fun name => targets.find? fun target => fileName? target.path == some name

end ValidationTarget

namespace Validation

/-- The complaint of one match. A match without file is about `fallback`. -/
def complaint? (pattern : Regex.Pattern) (targets : List ValidationTarget) (fallback : Nat)
    (output : List Char) (found : Regex.Marks) : Option (Uri × Diagnostic) :=
  let named (name : String) : Option (List Char) := pattern.named? output found name
  let place (name : String) : Option Nat :=
    ((named name).bind (naturalBelow? (Nat.pow 2 32))).map (· - 1)
  let target? := ((named "file").bind (ValidationTarget.find? targets)).or (targets[fallback]?)
  target?.map fun target =>
    let range := lineRange target.document ((place "line").getD 0) (place "column")
    let message := trim ((named "message").getD (Regex.wholeText output found))
    (target.uri, .own range (severity ((named "severity").getD [])) (String.ofList message))

def scrape (patterns : List Regex.Pattern) (targets : List ValidationTarget) (fallback : Nat)
    (output : List Char) : List (Uri × Diagnostic) :=
  patterns.flatMap fun pattern =>
    (pattern.matchesIn output).filterMap (complaint? pattern targets fallback output)

structure CommandValidator where
  template : String
  patterns : List Regex.Pattern
  timeoutSecs : Nat

namespace CommandValidator

def of (template : String) (patterns : List String) (timeoutSecs : Nat) :
    Except ValidationError CommandValidator := do
  let sources := if patterns.isEmpty then [defaultPattern] else patterns
  let patterns ← sources.mapM fun source =>
    match Regex.Pattern.parse? source with
    | some pattern => .ok pattern
    | none => .error (.badPattern source)
  return { template, patterns, timeoutSecs }

def output (v : CommandValidator) (host : Host) (targets : List ValidationTarget)
    (problem : Option ValidationTarget) : Except ValidationError (List Char × Nat) :=
  let domain := (targets.head?.map ValidationTarget.path).getD ""
  let arguments := Template.expand v.template domain (problem.map ValidationTarget.path)
  let files := targets.map fun target => (target.path, encode target.document.chars)
  match Template.command? arguments files with
  | none => .error .notConfigured
  | some command =>
    match host command with
    | .error reason => .error (.notStarted v.template reason)
    | .ok outcome =>
      if outcome.elapsed < v.timeoutSecs * 1000 then
        .ok (decodeLossy outcome.output ++ '\n' :: decodeLossy outcome.errors, outcome.elapsed)
      else .error (.timeout v.timeoutSecs)

def runs (b : ValidationBundle) : List (Option Nat) :=
  if b.problems.isEmpty then [none] else (List.range b.problems.length).map fun n => some (n + 1)

def validateRuns (v : CommandValidator) (host : Host) (targets : List ValidationTarget)
    (report : ValidationReport) (elapsed : Nat) : List (Option Nat) → Verdict
  | [] => ⟨elapsed, .ok report⟩
  | run :: rest =>
    match v.output host targets (run.bind (targets[·]?)) with
    | .error e => ⟨elapsed, .error e⟩
    | .ok (output, took) =>
      let found := scrape v.patterns targets (run.getD 0) output
      validateRuns v host targets (report.pushAll found) (elapsed + took) rest

def validator (v : CommandValidator) (host : Host) : Validator := fun bundle network =>
  let targets := ValidationTarget.ofBundle bundle
  (v.validateRuns host targets (.empty bundle) 0 (runs bundle), network)

end CommandValidator
end Validation
end PddlAssist
