namespace PddlAssist

structure Timer (α : Type) where
  generation : Nat
  deadline : Nat
  task : α
  deriving DecidableEq, Repr

inductive DebounceState where
  | idle
  | scheduled
  | running
  deriving DecidableEq, Repr, Inhabited

/-- A timer that waits for calm. Every call to schedule or cancel begins a new generation, and only
the timer and the task of the current one count. -/
structure Debouncer (α : Type) where
  delay : Nat
  generation : Nat := 0
  state : DebounceState := .idle
  /-- The generation of the task that the next call can drop. -/
  handle : Option Nat := none
  waiting : List (Timer α) := []
  running : List Nat := []
  deriving Repr

namespace Debouncer

variable {α : Type}

def setDelay (d : Debouncer α) (delay : Nat) : Debouncer α := { d with delay }

def abort (d : Debouncer α) (generation : Nat) : Debouncer α :=
  { d with
    waiting := d.waiting.filter (·.generation != generation)
    running := d.running.filter (· != generation) }

/-- Drops the task that waits. The handle of a task that runs is kept. -/
def release (d : Debouncer α) : Debouncer α :=
  if d.state = .scheduled then
    match d.handle with
    | some generation => { d.abort generation with handle := none }
    | none => d
  else d

def schedule (d : Debouncer α) (now : Nat) (task : α) : Debouncer α :=
  let d := d.release
  { d with
    generation := d.generation + 1
    state := .scheduled
    handle := some (d.generation + 1)
    waiting := d.waiting ++ [⟨d.generation + 1, now + d.delay, task⟩] }

def cancel (d : Debouncer α) : Debouncer α :=
  { d.release with generation := d.generation + 1, state := .idle }

/-- The deadline of a timer has come: the timer is gone, and its task starts if it is the current
one. -/
def expire (d : Debouncer α) (timer : Timer α) : Option (Timer α) × Debouncer α :=
  let d := { d with waiting := d.waiting.filter (·.generation != timer.generation) }
  if timer.generation = d.generation then
    (some timer, { d with state := .running, running := d.running ++ [timer.generation] })
  else (none, d)

def finish (d : Debouncer α) (generation : Nat) : Debouncer α :=
  let d := { d with running := d.running.filter (· != generation) }
  if generation = d.generation then { d with state := .idle, handle := none } else d

end Debouncer
end PddlAssist
