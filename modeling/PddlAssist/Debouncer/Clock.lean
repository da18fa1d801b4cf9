import PddlAssist.Debouncer

namespace PddlAssist

structure TimedTask where
  name : String
  length : Nat
  deriving DecidableEq, Repr, Inhabited

structure RunningTask where
  generation : Nat
  name : String
  ends : Nat
  deriving DecidableEq, Repr, Inhabited

inductive TaskEvent where
  | started (name : String)
  | ended (name : String)
  deriving DecidableEq, Repr, Inhabited

structure TaskClock where
  now : Nat := 0
  debouncer : Debouncer TimedTask
  running : List RunningTask := []
  events : List TaskEvent := []

namespace TaskClock

def emit (c : TaskClock) (event : TaskEvent) : TaskClock := { c with events := c.events ++ [event] }

def start (c : TaskClock) (timer : Timer TimedTask) : TaskClock :=
  match c.debouncer.expire timer with
  | (none, debouncer) => { c with debouncer }
  | (some timer, debouncer) =>
    let task : RunningTask := ⟨timer.generation, timer.task.name, c.now + timer.task.length⟩
    emit { c with debouncer, running := c.running ++ [task] } (.started timer.task.name)

def complete (c : TaskClock) (task : RunningTask) : TaskClock :=
  emit { c with running := c.running.erase task, debouncer := c.debouncer.finish task.generation }
    (.ended task.name)

def firstToEnd? (tasks : List RunningTask) : Option RunningTask :=
  tasks.foldl (fun best task =>
    match best with
    | none => some task
    | some other => if task.ends < other.ends then some task else some other) none

/-- The next thing that is due no later than `limit`: the end of a task comes before the start of
another at the same moment. -/
def next? (c : TaskClock) (limit : Nat) : Option TaskClock :=
  let starting := c.debouncer.waiting.head?.filter (·.deadline ≤ limit)
  let ending := (firstToEnd? c.running).filter (·.ends ≤ limit)
  match starting, ending with
  | none, none => none
  | some timer, none => some (start { c with now := timer.deadline } timer)
  | none, some task => some (complete { c with now := task.ends } task)
  | some timer, some task =>
    if task.ends ≤ timer.deadline then some (complete { c with now := task.ends } task)
    else some (start { c with now := timer.deadline } timer)

/-- Everything that is due up to `limit`. A timer that waits and a task that runs give at most two
and one more things to do. -/
def runUntil (c : TaskClock) (limit : Nat) : Nat → TaskClock
  | 0 => { c with now := limit }
  | fuel + 1 =>
    match c.next? limit with
    | some c => runUntil c limit fuel
    | none => { c with now := limit }

def advance (c : TaskClock) (milliseconds : Nat) : TaskClock :=
  c.runUntil (c.now + milliseconds) (c.running.length + 3)

def schedule (c : TaskClock) (task : TimedTask) : TaskClock :=
  advance { c with debouncer := c.debouncer.schedule c.now task } 0

def cancel (c : TaskClock) : TaskClock := { c with debouncer := c.debouncer.cancel }

def setDelay (c : TaskClock) (delay : Nat) : TaskClock :=
  { c with debouncer := c.debouncer.setDelay delay }

def takeEvents (c : TaskClock) : List TaskEvent × TaskClock := (c.events, { c with events := [] })

end TaskClock
end PddlAssist
