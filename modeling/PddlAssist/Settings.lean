import PddlAssist.Json.Record

namespace PddlAssist

/-- Lines such as `/tmp/domain.pddl: line: 12: Error: Syntax error in domain`. -/
def defaultPattern : String :=
  "(?m)^(?P<file>[^:\\n]+):\\s*line:\\s*(?P<line>\\d+):\\s*" ++
    "(?P<severity>Error|Warning|Information|Hint)s?:\\s*(?P<message>.*)$"

structure ValidatorSettings where
  /-- A command in which `$(domain)` and `$(problem)` stand for files. -/
  executable : Option String := none
  url : Option String := none
  patterns : List String := [defaultPattern]
  timeoutSecs : Nat := 60
  deriving Repr, Inhabited

structure PlannerSettings where
  executable : Option String := none
  url : Option String := none
  asynchronous : Bool := false
  timeoutSecs : Nat := 60
  deriving Repr, Inhabited

structure PreprocessorSettings where
  pythonPath : String := "python"
  jinja2Script : Option String := none
  deriving Repr, Inhabited

structure Settings where
  parserDebounceMs : Nat := 1000
  validationDebounceMs : Nat := 1000
  maxNumberOfProblems : Nat := 100
  epsilon : Float := Decimal.nearest false ⟨1, 1000⟩
  validator : ValidatorSettings := {}
  planner : PlannerSettings := {}
  preprocessor : PreprocessorSettings := {}
  deriving Repr, Inhabited

open Json

def ValidatorSettings.read? (j : Json) : Option ValidatorSettings := do
  let r ← record? [["executable"], ["url"], ["patterns"], ["timeoutSecs"]] j
  let base : ValidatorSettings := {}
  return {
    executable := ← r.withDefault 0 base.executable (optional? str?)
    url := ← r.withDefault 1 base.url (optional? str?)
    patterns := ← r.withDefault 2 base.patterns (list? str?)
    timeoutSecs := ← r.withDefault 3 base.timeoutSecs word64? }

def PlannerSettings.read? (j : Json) : Option PlannerSettings := do
  let r ← record? [["executable"], ["url"], ["asynchronous"], ["timeoutSecs"]] j
  let base : PlannerSettings := {}
  return {
    executable := ← r.withDefault 0 base.executable (optional? str?)
    url := ← r.withDefault 1 base.url (optional? str?)
    asynchronous := ← r.withDefault 2 base.asynchronous bool?
    timeoutSecs := ← r.withDefault 3 base.timeoutSecs word64? }

def PreprocessorSettings.read? (j : Json) : Option PreprocessorSettings := do
  let r ← record? [["pythonPath"], ["jinja2Script"]] j
  let base : PreprocessorSettings := {}
  return {
    pythonPath := ← r.withDefault 0 base.pythonPath str?
    jinja2Script := ← r.withDefault 1 base.jinja2Script (optional? str?) }

namespace Settings

def read? (j : Json) : Option Settings := do
  let r ← record? [["parserDebounceMs"], ["validationDebounceMs"], ["maxNumberOfProblems"],
    ["epsilon"], ["validator"], ["planner"], ["preprocessor"]] j
  let base : Settings := {}
  return {
    parserDebounceMs := ← r.withDefault 0 base.parserDebounceMs word64?
    validationDebounceMs := ← r.withDefault 1 base.validationDebounceMs word64?
    maxNumberOfProblems := ← r.withDefault 2 base.maxNumberOfProblems word64?
    epsilon := ← r.withDefault 3 base.epsilon float?
    validator := ← r.withDefault 4 base.validator ValidatorSettings.read?
    planner := ← r.withDefault 5 base.planner PlannerSettings.read?
    preprocessor := ← r.withDefault 6 base.preprocessor PreprocessorSettings.read? }

/-- The settings in a value, or under its key `pddl` if it has one. -/
def ofJson : Option Json → Settings
  | none => {}
  | some j => (read? ((j.get? "pddl").getD j)).getD {}

end Settings
end PddlAssist
