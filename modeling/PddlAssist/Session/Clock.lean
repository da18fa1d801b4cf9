import PddlAssist.Session

namespace PddlAssist.Session

structure Due where
  moment : Nat
  ticket : Nat
  event : Session → Session

def Due.before (a b : Due) : Bool :=
  a.moment < b.moment || (a.moment == b.moment && a.ticket < b.ticket)

def Due.first? (dues : List Due) : Option Due :=
  dues.foldl (fun best due =>
    match best with
    | none => some due
    | some other => if due.before other then some due else some other) none

def dues (s : Session) : List Due :=
  let timers (d : Debouncer Nat) (event : Session → Timer Nat → Session) : List Due :=
    d.waiting.map fun t => ⟨t.deadline, t.task, fun s => event s t⟩
  timers s.parsing expireParsing ++ timers s.checking expireChecking ++
    s.runs.filterMap fun run =>
      match run.stage with
      | .calling call rest => some ⟨call.due, call.ticket, fun s => s.endCall run call rest⟩
      | _ => none

def nextReparse? (s : Session) : Option Session :=
  s.reparses.head?.map fun task =>
    if task.texts.isNone then s.takeTexts task.ticket else (s.installTexts task.ticket).2

def stepRun? (s : Session) (run : ValidationRun) : Option Session :=
  match run.stage with
  | .started => some (s.takePending run)
  | .queued domains => some (s.beginNext run domains)
  | .collected validator domain bundle rest => some (s.beginCall run validator domain bundle rest)
  | _ => none

/-- One step of what has begun, or else the next thing that is due, if that is not after `limit`. -/
def tick? (s : Session) (limit : Nat) : Option Session :=
  match s.nextReparse?.or (s.runs.findSome? s.stepRun?) with
  | some s => some s
  | none =>
    match Due.first? s.dues with
    | some due => if due.moment ≤ limit then some (due.event { s with now := due.moment }) else none
    | none => none

def load (s : Session) : Nat :=
  let work := s.runs.map fun run =>
    match run.stage with
    | .queued domains => 4 * domains.length + 4
    | .collected _ _ _ rest | .calling _ rest => 4 * rest.length + 8
    | _ => 4
  16 + 4 * s.reparses.length + 4 * s.pending.length + work.foldl (· + ·) 0

def runUntil (s : Session) (limit : Nat) : Nat → Session
  | 0 => s
  | fuel + 1 =>
    match s.tick? limit with
    | some s => runUntil s limit fuel
    | none => s

def settle (s : Session) : Session := s.runUntil s.now s.load

def advance (s : Session) (milliseconds : Nat) : Session :=
  let limit := s.now + milliseconds
  { s.runUntil limit s.load with now := limit }

def answer? (s : Session) (ticket : Nat) : Option (Except ValidationError Unit) :=
  (s.runs.find? (·.ticket == ticket)).bind fun run =>
    match run.stage with
    | .answered result => some result
    | _ => none

def horizon (s : Session) : Nat := (s.dues.map (·.moment)).foldl max s.now

def await (s : Session) (ticket : Nat) : Nat → Session
  | 0 => s
  | fuel + 1 =>
    match s.answer? ticket with
    | some _ => s
    | none =>
      match s.tick? s.horizon with
      | some s => await s ticket fuel
      | none => s

def takeAnswer (s : Session) (ticket : Nat) : Except ValidationError Unit × Session :=
  ((s.answer? ticket).getD (.ok ()), { s with runs := s.runs.filter (·.ticket != ticket) })

def validateNow (s : Session) (uri : Uri) : Except ValidationError Unit × Session :=
  let ticket := s.nextTicket
  let s := s.beginValidation uri
  (s.await ticket s.load).takeAnswer ticket

end PddlAssist.Session
