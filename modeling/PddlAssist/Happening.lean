import PddlAssist.Plan

namespace PddlAssist

open Text

inductive HappeningKind where
  | start
  | stop
  | instantaneous
  deriving DecidableEq, Repr, Inhabited

structure Happening where
  time : Float
  actionName : String
  parameters : List String
  kind : HappeningKind
  counter : Nat
  line : Nat
  deriving Repr, Inhabited

namespace Happening

def fullName (h : Happening) : String := fullActionName h.actionName h.parameters

/-- Starts and ends with the same key belong together. -/
def key (h : Happening) : String × Nat := (lower h.fullName, h.counter)

def makespan (hs : List Happening) : Float := (hs.map (·.time)).foldl laterTime 0

def mentions (hs : List Happening) (action : String) : Bool := hs.any (sameName ·.actionName action)

/-- The letter that `c` is a form of: the long s counts as an s. -/
def foldLetter (c : Char) : Char := if c = 'ſ' then 's' else c.toLower

def kindWord? (cs : List Char) : Option (List Char × List Char) :=
  let word := cs.takeWhile fun c => !isBlank c && c != '('
  let rest := cs.drop word.length
  let letters := word.map foldLetter
  if (letters = ['s', 't', 'a', 'r', 't'] ∨ letters = ['e', 'n', 'd']) ∧
      (trimStart rest).length < rest.length then
    some (word, rest)
  else none

def counterDigits (cs : List Char) : Option (List Char) × List Char :=
  match trimStart cs with
  | '#' :: rest =>
    let digits := (trimStart rest).takeWhile isDecimalDigit
    if digits.isEmpty then (none, cs) else (some digits, (trimStart rest).drop digits.length)
  | _ => (none, cs)

/-- A counter that is no number of 32 bits counts as zero. -/
def counterOf (digits : Option (List Char)) : Nat :=
  match digits with
  | some ds =>
    let n := Decimal.digitsValue ds
    if ds.all Char.isDigit && n < Nat.pow 2 32 then n else 0
  | none => 0

def kindOf (word : Option (List Char)) : HappeningKind :=
  match word with
  | some w => if w.map Char.toLower = ['s', 't', 'a', 'r', 't'] then .start else .stop
  | none => .instantaneous

/-- The happening on a line; `later` is its time if the line has none. -/
def readLine? (later : Float) (n : Nat) (line : List Char) : Option Happening := do
  let (time, rest) := Line.time line
  let word := kindWord? (trimStart rest)
  let (action, rest) ← Line.bracketed? (word.elim rest (·.2))
  let (digits, rest) := counterDigits rest
  match Line.isDone rest, (words action).map String.ofList with
  | true, actionName :: parameters =>
    some
      { time := (Line.floatOf? time).getD later
        actionName, parameters
        kind := kindOf (word.map (·.1))
        counter := counterOf digits
        line := n }
  | _, _ => none

end Happening

structure Timeline where
  epsilon : Float
  makespan : Float := 0
  happenings : List Happening := []
  running : List Happening := []
  issues : List Issue := []
  deriving Repr, Inhabited

namespace Timeline

def defaultTime (t : Timeline) : Float :=
  if t.happenings.isEmpty then 0 else t.makespan + t.epsilon

def report (t : Timeline) (issue : Issue) : Timeline := { t with issues := t.issues ++ [issue] }

def checkTime (t : Timeline) (h : Happening) (range : Range) : Timeline :=
  if h.time < t.makespan then
    t.report (.error
      ("Time must not go backwards: " ++ Decimal.numberText h.time ++ " is before " ++
        Decimal.numberText t.makespan) range)
  else t

def isRunning (t : Timeline) (h : Happening) : Bool := t.running.any (·.key == h.key)

def counterText (h : Happening) : String := "'" ++ h.fullName ++ "' #" ++ toString h.counter

def pair (t : Timeline) (h : Happening) (range : Range) : Timeline :=
  match h.kind with
  | .start =>
    if t.isRunning h then
      t.report (.error
        ("Action " ++ counterText h ++ " is already running; use a different counter") range)
    else { t with running := t.running ++ [h] }
  | .stop =>
    if t.isRunning h then { t with running := t.running.eraseP (·.key == h.key) }
    else t.report (.error ("No matching start for end of " ++ counterText h) range)
  | .instantaneous => t

def add (t : Timeline) (h : Happening) (range : Range) : Timeline :=
  let paired := (t.checkTime h range).pair h range
  { paired with
    makespan := laterTime paired.makespan h.time
    happenings := paired.happenings ++ [h] }

def neverEnds (range : Range) (h : Happening) : Issue :=
  .error
    ("Action " ++ counterText h ++ " started on line " ++ toString (h.line + 1) ++ " never ends") range

def finish (t : Timeline) (range : Range) : List Happening × List Issue :=
  (t.happenings, t.issues ++ t.running.map (neverEnds range))

def readLine (document : Document) (t : Timeline) (n : Nat) (line : List Char) : Timeline :=
  let trimmed := trim line
  if trimmed.isEmpty || trimmed.head? == some ';' then t
  else
    match Happening.readLine? t.defaultTime n line with
    | some h => t.add h (document.lineRange n)
    | none =>
      t.report (.error ("Invalid happening: " ++ String.ofList trimmed) (document.lineRange n))

def readLines (document : Document) (t : Timeline) (n : Nat) : List (Nat × List Char) → Timeline
  | [] => t
  | (_, line) :: rest => readLines document (t.readLine document n line) (n + 1) rest

def read (document : Document) (epsilon : Float) : List Happening × List Issue :=
  let stop := document.endPosition
  (readLines document { epsilon } 0 document.lines).finish ⟨stop, stop⟩

end Timeline
end PddlAssist
