import PddlAssist.Server.Planning
import Mathlib.Data.List.Forall2
import Mathlib.Data.List.Induction

namespace PddlAssist

open Planning (Signal)

theorem Planning.Run.cancel_cancel (run : Run) : run.cancel.cancel = run.cancel := by
  obtain ⟨planner, epsilon, stage, killed⟩ := run
  cases stage <;> rfl

namespace Server

/-- What happens to the planners, in any order. -/
inductive PlannerStep where
  | start (planner : Planner) (task : PlanningTask)
  | signal (ticket : Nat) (signal : Signal)
  | finish (ticket : Nat)
  | stop (target : Option Uri)
  /-- Everything else changes, and tickets may be given out. -/
  | elsewhere (rest : Server)

def completed? (s : Server) (ticket : Nat) : Option (PlannerRun × Except PlanningError PlanningOutcome) := do
  let p ← s.findPlanning? ticket
  let result ← p.run.result?
  return (p, result)

def becomes (s rest : Server) : Server :=
  { rest with
    planners := s.planners
    planning := s.planning
    session := { rest.session with nextTicket := max s.session.nextTicket rest.session.nextTicket } }

def plannerStep (s : Server) : PlannerStep → Server
  | .start planner task => s.startPlanner planner task
  | .signal ticket signal => s.signalPlanner ticket signal
  | .finish ticket => (s.completed? ticket).elim s fun (p, result) => (s.finishPlanner p result).2
  | .stop target => s.stopPlanners target
  | .elsewhere rest => s.becomes rest

def plannerRun (disk : Disk) (network : Network) (steps : List PlannerStep) : Server :=
  steps.foldl plannerStep (new disk network)

theorem plannerRun_snoc (disk : Disk) (network : Network) (steps : List PlannerStep) (step : PlannerStep) :
    plannerRun disk network (steps ++ [step]) = (plannerRun disk network steps).plannerStep step := by
  simp [plannerRun]

def reaches (entries : List (String × Nat)) (target : Option Uri) (ticket : Nat) : Bool :=
  entries.any fun entry => target.all (·.text == entry.1) && ticket == entry.2

def stopRun (p : PlannerRun) : PlannerRun := { p with run := p.run.cancel }

theorem stopRun_stopRun (p : PlannerRun) : stopRun (stopRun p) = stopRun p := by
  simp only [stopRun, Planning.Run.cancel_cancel]

theorem signalPlanner_cancel (s : Server) (ticket : Nat) : s.signalPlanner ticket .cancel =
    { s with planning := s.planning.map fun p => if p.ticket = ticket then stopRun p else p } := rfl

theorem reaches_cons (address : String) (ticket : Nat) (rest : List (String × Nat)) (target : Option Uri)
    (other : Nat) : reaches ((address, ticket) :: rest) target other =
      (target.all (·.text == address) && other == ticket || reaches rest target other) := rfl

theorem stopPlanners_eq (s : Server) (target : Option Uri) : s.stopPlanners target =
    { s with planning := s.planning.map fun p =>
        if reaches s.planners.toList target p.ticket then stopRun p else p } := by
  have stops (entries : List (String × Nat)) : ∀ s : Server,
      entries.foldl (fun s entry =>
          if target.all (·.text == entry.1) then s.signalPlanner entry.2 .cancel else s) s =
        { s with planning := s.planning.map fun p => if reaches entries target p.ticket then stopRun p else p } := by
    induction entries with
    | nil =>
      intro s
      simp [reaches]
    | cons entry rest ih =>
      intro s
      obtain ⟨address, ticket⟩ := entry
      simp only [List.foldl_cons, ih, reaches_cons]
      by_cases isTarget : target.all (·.text == address) = true
      · simp only [isTarget, if_true, signalPlanner_cancel, List.map_map, Bool.true_and]
        congr 1
        apply List.map_congr_left
        intro p _
        by_cases mine : p.ticket = ticket
        · simp [mine, stopRun_stopRun]
        · simp [mine]
      · simp only [isTarget, Bool.false_eq_true, if_false, Bool.false_and, Bool.false_or]
  exact stops s.planners.toList s

def touched? (s : Server) : PlannerStep → Option String
  | .start _ task => some task.problemUri.text
  | .finish ticket => (s.completed? ticket).map (·.1.problemUri.text)
  | _ => none

def Untouched (s : Server) (address : String) : List PlannerStep → Prop
  | [] => True
  | step :: rest => s.touched? step ≠ some address ∧ (s.plannerStep step).Untouched address rest

/-- Since the planner was started, no planner for its problem was started or has ended. -/
def InCharge (disk : Disk) (network : Network) (steps : List PlannerStep) (p : PlannerRun) : Prop :=
  ∃ earlier planner task later, steps = earlier ++ .start planner task :: later ∧
    (plannerRun disk network earlier).session.nextTicket = p.ticket ∧ task.problemUri.text = p.problemUri.text ∧
    ((plannerRun disk network earlier).startPlanner planner task).Untouched p.problemUri.text later

theorem untouched_append (s : Server) (address : String) (earlier later : List PlannerStep) :
    s.Untouched address (earlier ++ later) ↔
      s.Untouched address earlier ∧ (earlier.foldl plannerStep s).Untouched address later := by
  induction earlier generalizing s with
  | nil => simp [Untouched]
  | cons step rest ih => simp only [List.cons_append, Untouched, List.foldl_cons, ih, and_assoc]

theorem finishPlanner_eq (s : Server) (p : PlannerRun) (result : Except PlanningError PlanningOutcome) :
    (s.finishPlanner p result).2.planners = s.planners.erase p.problemUri.text ∧
      (s.finishPlanner p result).2.planning = s.planning.filter (·.ticket != p.ticket) ∧
      (s.finishPlanner p result).2.session = s.session := by
  unfold finishPlanner
  cases result with
  | ok => exact ⟨rfl, rfl, rfl⟩
  | error e => cases e <;> exact ⟨rfl, rfl, rfl⟩

theorem plannerStep_planners (s : Server) {step : PlannerStep} {address : String}
    (untouched : s.touched? step ≠ some address) : (s.plannerStep step).planners[address]? = s.planners[address]? := by
  cases step with
  | start planner task =>
    have apart : task.problemUri.text ≠ address := fun same => untouched (congrArg some same)
    simp [plannerStep, startPlanner, Std.TreeMap.getElem?_insert, apart]
  | signal | elsewhere => rfl
  | stop target => rw [plannerStep, stopPlanners_eq]
  | finish ticket =>
    simp only [plannerStep]
    cases isDone : s.completed? ticket with
    | none => rfl
    | some done =>
      have apart : done.1.problemUri.text ≠ address := fun same => untouched (by simp [touched?, isDone, same])
      simp [(s.finishPlanner_eq done.1 done.2).1, Std.TreeMap.getElem?_erase, apart]

theorem foldl_planners {s : Server} {address : String} {steps : List PlannerStep} (untouched : s.Untouched address steps) :
    (steps.foldl plannerStep s).planners[address]? = s.planners[address]? := by
  induction steps generalizing s with
  | nil => rfl
  | cons step rest ih => rw [List.foldl_cons, ih untouched.2, plannerStep_planners s untouched.1]

theorem startPlanner_planners (s : Server) (planner : Planner) (task : PlanningTask) :
    (s.startPlanner planner task).planners[task.problemUri.text]? = some s.session.nextTicket := by
  simp [startPlanner]

/-- Each ticket is given out once, and a planner is remembered for its own problem. -/
structure Remembered (s : Server) : Prop where
  given : ∀ p ∈ s.planning, p.ticket < s.session.nextTicket
  known : ∀ (address : String) (ticket : Nat), s.planners[address]? = some ticket → ticket < s.session.nextTicket
  proper : ∀ p ∈ s.planning, ∀ address : String, s.planners[address]? = some p.ticket → p.problemUri.text = address

namespace Remembered

variable {s : Server}

theorem fewer (remembered : s.Remembered) {s' : Server} (later : s.session.nextTicket ≤ s'.session.nextTicket)
    (old : ∀ p ∈ s'.planning, ∃ q ∈ s.planning, q.ticket = p.ticket ∧ q.problemUri = p.problemUri)
    (kept : ∀ (address : String) (ticket : Nat), s'.planners[address]? = some ticket → s.planners[address]? = some ticket) :
    s'.Remembered where
  given p member := by
    obtain ⟨q, isOld, same, _⟩ := old p member
    have less := remembered.given q isOld
    omega
  known address ticket found := by
    have less := remembered.known address ticket (kept address ticket found)
    omega
  proper p member address found := by
    obtain ⟨q, isOld, same, sameUri⟩ := old p member
    rw [← sameUri]
    exact remembered.proper q isOld address (by rw [same]; exact kept address _ found)

theorem start (remembered : s.Remembered) (planner : Planner) (task : PlanningTask) :
    (s.startPlanner planner task).Remembered := by
  have next : (s.startPlanner planner task).session.nextTicket = s.session.nextTicket + 1 := rfl
  have cases {p : PlannerRun} (member : p ∈ (s.startPlanner planner task).planning) :
      p ∈ s.planning ∨ p.ticket = s.session.nextTicket ∧ p.problemUri = task.problemUri := by
    rcases List.mem_append.mp member with old | new
    · exact .inl old
    · rw [List.mem_singleton.mp new]
      exact .inr ⟨rfl, rfl⟩
  have found {address : String} {ticket : Nat}
      (found : (s.startPlanner planner task).planners[address]? = some ticket) :
      address = task.problemUri.text ∧ ticket = s.session.nextTicket ∨ s.planners[address]? = some ticket := by
    by_cases same : task.problemUri.text = address
    · subst same
      rw [startPlanner_planners] at found
      exact .inl ⟨rfl, (Option.some.inj found).symm⟩
    · have apart : s.touched? (.start planner task) ≠ some address :=
        fun touched => same (Option.some.inj touched)
      exact .inr (plannerStep_planners s apart ▸ found)
  constructor
  · intro p member
    rw [next]
    rcases cases member with old | ⟨isNew, _⟩
    · have less := remembered.given p old
      omega
    · omega
  · intro address ticket isFound
    rw [next]
    rcases found isFound with ⟨_, isNew⟩ | old
    · omega
    · have less := remembered.known address ticket old
      omega
  · intro p member address isFound
    rcases cases member with old | ⟨isNew, sameUri⟩
    · rcases found isFound with ⟨_, isNew⟩ | isOld
      · have less := remembered.given p old
        omega
      · exact remembered.proper p old address isOld
    · rcases found isFound with ⟨same, _⟩ | isOld
      · rw [same, sameUri]
      · have less := remembered.known address p.ticket isOld
        omega

theorem step (remembered : s.Remembered) (step : PlannerStep) : (s.plannerStep step).Remembered := by
  cases step with
  | start planner task => exact remembered.start planner task
  | elsewhere rest =>
    exact remembered.fewer (Nat.le_max_left _ _) (fun p member => ⟨p, member, rfl, rfl⟩) fun _ _ => id
  | signal ticket signal =>
    refine remembered.fewer (Nat.le_refl _) (fun p member => ?_) fun _ _ => id
    obtain ⟨q, isOld, rfl⟩ := List.mem_map.mp member
    exact ⟨q, isOld, by split <;> rfl, by split <;> rfl⟩
  | stop target =>
    rw [plannerStep, stopPlanners_eq]
    refine remembered.fewer (Nat.le_refl _) (fun p member => ?_) fun _ _ => id
    obtain ⟨q, isOld, rfl⟩ := List.mem_map.mp member
    exact ⟨q, isOld, by split <;> rfl, by split <;> rfl⟩
  | finish ticket =>
    simp only [plannerStep]
    cases s.completed? ticket with
    | none => exact remembered
    | some done =>
      obtain ⟨planners, planning, session⟩ := s.finishPlanner_eq done.1 done.2
      refine remembered.fewer (Nat.le_of_eq (by rw [Option.elim_some, session])) (fun p member => ?_) fun address ticket found => ?_
      · rw [Option.elim_some, planning] at member
        exact ⟨p, (List.mem_filter.mp member).1, rfl, rfl⟩
      · rw [Option.elim_some, planners, Std.TreeMap.getElem?_erase] at found
        split at found
        · cases found
        · exact found

end Remembered

section Run

variable (disk : Disk) (network : Network)

theorem plannerRun_remembered (steps : List PlannerStep) : (plannerRun disk network steps).Remembered := by
  induction steps using List.reverseRecOn with
  | nil =>
    have noPlanning : (plannerRun disk network []).planning = [] := rfl
    have noPlanners : (plannerRun disk network []).planners = ∅ := rfl
    constructor
    · simp [noPlanning]
    · simp [noPlanners]
    · simp [noPlanning]
  | append_singleton earlier step ih =>
    rw [plannerRun_snoc]
    exact ih.step step

theorem remembered_started {steps : List PlannerStep} {address : String} {ticket : Nat}
    (found : (plannerRun disk network steps).planners[address]? = some ticket) :
    ∃ earlier planner task later, steps = earlier ++ .start planner task :: later ∧
      (plannerRun disk network earlier).session.nextTicket = ticket ∧ task.problemUri.text = address ∧
      ((plannerRun disk network earlier).startPlanner planner task).Untouched address later := by
  induction steps using List.reverseRecOn with
  | nil =>
    have noPlanners : (plannerRun disk network []).planners = ∅ := rfl
    simp [noPlanners] at found
  | append_singleton earlier step ih =>
    rw [plannerRun_snoc] at found
    by_cases touched : (plannerRun disk network earlier).touched? step = some address
    · cases step with
      | start planner task =>
        obtain rfl : task.problemUri.text = address := Option.some.inj touched
        rw [plannerStep, startPlanner_planners] at found
        exact ⟨earlier, planner, task, [], rfl, Option.some.inj found, rfl, trivial⟩
      | signal | stop | elsewhere => cases touched
      | finish done =>
        simp only [plannerStep] at found
        obtain ⟨completed, isDone, rfl⟩ := Option.map_eq_some_iff.mp touched
        rw [isDone, Option.elim_some, (finishPlanner_eq _ _ _).1] at found
        simp at found
    · rw [plannerStep_planners _ touched] at found
      obtain ⟨before, planner, task, later, rfl, isTicket, isProblem, untouched⟩ := ih found
      refine ⟨before, planner, task, later ++ [step], by simp, isTicket, isProblem, ?_⟩
      refine (untouched_append _ _ _ _).mpr ⟨untouched, ?_, trivial⟩
      simpa [plannerRun, List.foldl_append, plannerStep] using touched

theorem remembered_iff (steps : List PlannerStep) (p : PlannerRun) :
    (plannerRun disk network steps).planners[p.problemUri.text]? = some p.ticket ↔ InCharge disk network steps p := by
  refine ⟨remembered_started disk network, ?_⟩
  rintro ⟨earlier, planner, task, later, rfl, isTicket, isProblem, untouched⟩
  have same := foldl_planners untouched
  rw [← isProblem, startPlanner_planners, isTicket] at same
  simpa [plannerRun, List.foldl_append, plannerStep, isProblem] using same

end Run

theorem reaches_iff {s : Server} (remembered : s.Remembered) (target : Option Uri) {p : PlannerRun}
    (member : p ∈ s.planning) : reaches s.planners.toList target p.ticket = true ↔
      target.all (·.text == p.problemUri.text) = true ∧ s.planners[p.problemUri.text]? = some p.ticket := by
  simp only [reaches, List.any_eq_true, Bool.and_eq_true, beq_iff_eq, Prod.exists,
    Std.TreeMap.mem_toList_iff_getElem?_eq_some]
  constructor
  · rintro ⟨address, ticket, found, isTarget, rfl⟩
    obtain rfl := remembered.proper p member address found
    exact ⟨isTarget, found⟩
  · rintro ⟨isTarget, found⟩
    exact ⟨_, _, found, isTarget, rfl⟩

/-- A stop changes nothing but planners, and stops exactly those that it is meant for and that are in charge of their
problem. -/
theorem stop_reaches_planners_in_charge (disk : Disk) (network : Network) (steps : List PlannerStep)
    (target : Option Uri) :
    let s := plannerRun disk network steps
    s.stopPlanners target = { s with planning := (s.stopPlanners target).planning } ∧
      List.Forall₂ (fun p p' =>
        (target.all (·.text == p.problemUri.text) = true ∧ InCharge disk network steps p →
          p' = { p with run := p.run.step .cancel }) ∧
        (¬ (target.all (·.text == p.problemUri.text) = true ∧ InCharge disk network steps p) → p' = p))
      s.planning (s.stopPlanners target).planning := by
  intro s
  have remembered : s.Remembered := plannerRun_remembered disk network steps
  rw [stopPlanners_eq]
  refine ⟨rfl, List.forall₂_map_right_iff.mpr (List.forall₂_same.mpr fun p member => ?_)⟩
  have reached := reaches_iff remembered target member
  rw [remembered_iff disk network steps p] at reached
  constructor
  · intro inCharge
    exact if_pos (reached.mpr inCharge)
  · intro outOfCharge
    exact if_neg fun isReached => outOfCharge (reached.mp isReached)

/-- Two planners work on one problem, and a stop reaches only the second, or none when the first has ended before. A
planner that a stop does reach ends with the complaint of its service. -/
theorem planners_escape_stop :
    let problem : Uri := { scheme := "file", authority := some {}, path := "/disk/p.pddl" }
    let request : PlanningRequest := ⟨"(define (domain d))", "(define (problem p) (:domain d))"⟩
    let start : PlannerStep := .start (.service "http://s" 60) ⟨request, "d", "p", problem⟩
    let complaint : PlannerStep := .signal 0 (.replied 0 (.error "http://s/: status code 500"))
    let stopped (steps : List PlannerStep) (target : Option Uri) : List (Nat × Bool) :=
      ((plannerRun {} .offline steps).stopPlanners target).planning.filterMap fun p =>
        if p.run.result?.isNone then some (p.ticket, p.run.killed) else none
    let message (p : PlannerRun) : Option String := p.run.result?.map fun
      | .error e => e.message
      | .ok _ => "plan"
    stopped [start, start] none = [(0, false), (1, true)] ∧
      stopped [start, start] (some problem) = [(0, false), (1, true)] ∧
      stopped [start, start, complaint, .finish 0] none = [(1, false)] ∧
      (plannerRun {} .offline [start, .stop none, complaint]).planning.map message =
        [some "planning request to http://s/solve failed: http://s/: status code 500"] := by
  decide +kernel

end Server
end PddlAssist
