import PddlAssist.Decimal.Numeral
import PddlAssist.Decimal.Places
import PddlAssist.Issue
import PddlAssist.Text.Case
import PddlAssist.Text.Digit

namespace PddlAssist

open Text

/-- The later of two times; a time that is not a number does not count. -/
def laterTime (a b : Float) : Float := if a < b then b else if a.isNaN then b else a

def fullActionName (name : String) (parameters : List String) : String :=
  " ".intercalate (name :: parameters)

namespace Line

def number? (cs : List Char) : Option (List Char × List Char) :=
  let whole := cs.takeWhile isDecimalDigit
  let rest := cs.dropWhile isDecimalDigit
  match whole, rest with
  | [], '.' :: more =>
    let fraction := more.takeWhile isDecimalDigit
    if fraction.isEmpty then none else some ('.' :: fraction, more.dropWhile isDecimalDigit)
  | [], _ => none
  | _, '.' :: more => some (whole ++ '.' :: more.takeWhile isDecimalDigit, more.dropWhile isDecimalDigit)
  | _, _ => some (whole, rest)

def time (cs : List Char) : Option (List Char) × List Char :=
  match number? (trimStart cs) with
  | some (numeral, rest) =>
    match trimStart rest with
    | ':' :: rest => (some numeral, rest)
    | _ => (none, cs)
  | none => (none, cs)

def bracketed? (cs : List Char) : Option (List Char × List Char) :=
  match trimStart cs with
  | '(' :: rest =>
    match rest.dropWhile (· != ')') with
    | ')' :: after => some (rest.takeWhile (· != ')'), after)
    | _ => none
  | _ => none

def duration (cs : List Char) : Option (List Char) × List Char :=
  match trimStart cs with
  | '[' :: rest =>
    match number? (trimStart rest) with
    | some (numeral, rest) =>
      match trimStart rest with
      | ']' :: rest => (some numeral, rest)
      | _ => (none, cs)
    | none => (none, cs)
  | _ => (none, cs)

def isDone (cs : List Char) : Bool :=
  match trimStart cs with
  | [] | ';' :: _ => true
  | _ => false

def floatOf? (numeral : Option (List Char)) : Option Float :=
  numeral.bind fun cs => Decimal.numeral? (String.ofList cs)

end Line

structure PlanStep where
  time : Float
  actionName : String
  parameters : List String
  duration : Option Float
  line : Nat
  deriving Repr, Inhabited

namespace PlanStep

def endTime (s : PlanStep) : Float := s.time + s.duration.getD 0

def fullName (s : PlanStep) : String := fullActionName s.actionName s.parameters

structure Written where
  time : Option (List Char)
  words : List String
  duration : Option (List Char)

def readLine? (line : List Char) : Option Written := do
  let (time, rest) := Line.time line
  let (action, rest) ← Line.bracketed? rest
  let (duration, rest) := Line.duration rest
  if Line.isDone rest then some ⟨time, (words action).map String.ofList, duration⟩ else none

end PlanStep

structure Plan where
  domainName : Option String := none
  problemName : Option String := none
  steps : List PlanStep := []
  deriving Repr, Inhabited

namespace Plan

def makespan (p : Plan) : Float := (p.steps.map (·.endTime)).foldl laterTime 0

def mentions (p : Plan) (action : String) : Bool := p.steps.any (sameName ·.actionName action)

def domainMark : String := ";;!domain:"

def problemMark : String := ";;!problem:"

def afterMark? (mark : String) (line : List Char) : Option String :=
  if mark.toList.isPrefixOf line then
    some (String.ofList (trim (line.drop mark.toList.length)))
  else none

structure Reading where
  plan : Plan := {}
  issues : List Issue := []

/-- A step without time begins `epsilon` after the end of the step before it, and the first at zero. -/
def nextTime (p : Plan) (epsilon : Float) : Float :=
  p.steps.getLast?.elim 0 fun step => step.endTime + epsilon

def readLine (document : Document) (epsilon : Float) (r : Reading) (n : Nat) (line : List Char) :
    Reading :=
  let trimmed := trim line
  match afterMark? domainMark trimmed, afterMark? problemMark trimmed with
  | some name, _ => { r with plan := { r.plan with domainName := some name } }
  | none, some name => { r with plan := { r.plan with problemName := some name } }
  | none, none =>
    if trimmed.isEmpty || trimmed.head? == some ';' then r
    else
      match PlanStep.readLine? line with
      | none =>
        { r with issues := r.issues ++ [.warning
          ("Invalid plan step: " ++ String.ofList trimmed) (document.lineRange n)] }
      | some ⟨_, [], _⟩ => r
      | some ⟨time, actionName :: parameters, duration⟩ =>
        let step : PlanStep :=
          { time := (Line.floatOf? time).getD (r.plan.nextTime epsilon)
            actionName, parameters
            duration := Line.floatOf? duration
            line := n }
        { r with plan := { r.plan with steps := r.plan.steps ++ [step] } }

def readLines (document : Document) (epsilon : Float) (r : Reading) (n : Nat) :
    List (Nat × List Char) → Reading
  | [] => r
  | (_, line) :: rest => readLines document epsilon (readLine document epsilon r n line) (n + 1) rest

/-- The plan in a text, with a warning for each line that is no step. -/
def read (document : Document) (epsilon : Float) : Plan × List Issue :=
  let r := readLines document epsilon {} 0 document.lines
  (r.plan, r.issues)

def renderStep (s : PlanStep) : String :=
  Decimal.fixedText 3 s.time ++ ": (" ++ s.fullName ++ ")" ++
    s.duration.elim "" (fun d => " [" ++ Decimal.fixedText 3 d ++ "]") ++ "\n"

def render (domainName problemName : String) (steps : List PlanStep) : String :=
  domainMark ++ " " ++ domainName ++ "\n" ++ problemMark ++ " " ++ problemName ++ "\n\n" ++
    String.join (steps.map renderStep)

end Plan
end PddlAssist
