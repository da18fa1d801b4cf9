import PddlAssist.Planning.Run

namespace PddlAssist

/-- What a run has waited for is not going to come. -/
def PlanningError.isBreakdown : PlanningError → Bool
  | notStarted .. | noReply .. | badReply | noAddress _ => true
  | _ => false

namespace Planning

theorem isBreakdown_of_readReply {url : String} {reply : Except String String} {e : PlanningError}
    (unread : readReply url reply = .error e) : e.isBreakdown = true := by
  unfold readReply at unread
  split at unread
  · cases unread
    rfl
  · split at unread
    · cases unread
    · cases unread
      rfl

namespace Run

/-- The signals arrive one after the other. -/
def steps (run : Run) (signals : List Signal) : Run := signals.foldl step run

def waitsFor (run : Run) (signal : Signal) : Bool :=
  match run.stage, signal with
  | .launch _, .launched _ | .program _, .exited _ | .pause _, .rested _ => true
  | .solve _, .replied .. | .submit _, .replied .. | .poll _, .replied .. => true
  | _, _ => false

def received (run : Run) : List Signal → Nat
  | [] => 0
  | signal :: rest => (if run.waitsFor signal then 1 else 0) + (run.step signal).received rest

def breakdown? (run : Run) : Signal → Option PlanningError
  | .launched refusal =>
    match run.stage, run.planner, refusal with
    | .launch _, .program template, some reason => some (.notStarted template reason)
    | _, _, _ => none
  | .replied _ reply =>
    match run.stage with
    | .solve request | .poll request =>
      match readReply request.url reply with
      | .error e => some e
      | .ok _ => none
    | .submit request =>
      match readReply request.url reply with
      | .error e => some e
      | .ok reply =>
        match reply.result with
        | .str _ => none
        | value => some (.noAddress value)
    | _ => none
  | _ => none

/-- The first breakdown that the signals tell, while the run is under way. -/
def breakdownIn? (run : Run) : List Signal → Option PlanningError
  | [] => none
  | signal :: rest => (run.breakdown? signal).or ((run.step signal).breakdownIn? rest)

def Fits (run : Run) : Prop :=
  match run.stage with
  | .launch _ | .program _ => ∃ template, run.planner = .program template
  | .submit _ | .poll _ | .pause _ => ∃ url timeoutSecs, run.planner = .polled url timeoutSecs
  | .solve _ | .ended _ => True

theorem fits_start (planner : Planner) (epsilon : Float) (request : PlanningRequest) :
    (start planner epsilon request).Fits := by
  unfold start
  split
  · simp only
    split
    · exact ⟨_, rfl⟩
    · trivial
  · trivial
  · exact ⟨_, _, rfl⟩

theorem Fits.ask {run : Run} (elapsed : Nat) (address : String) (fits : run.Fits) : (run.ask elapsed address).Fits := by
  unfold Run.ask
  split
  · rename_i url timeoutSecs isPolled
    split
    · trivial
    · split
      · trivial
      · exact ⟨url, timeoutSecs, isPolled⟩
  · exact fits

theorem Fits.step {run : Run} (fits : run.Fits) (signal : Signal) : (run.step signal).Fits := by
  cases signal with
  | cancel =>
    simp only [Run.step, Run.cancel]
    split
    · trivial
    · trivial
    · exact fits
  | launched refusal =>
    simp only [Run.step]
    split
    · trivial
    · rename_i template _ isProgram
      split
      · trivial
      · exact ⟨template, isProgram⟩
    · exact fits
  | exited outcome =>
    simp only [Run.step]
    split
    · trivial
    · exact fits
  | replied elapsed reply =>
    simp only [Run.step]
    split
    · split
      · trivial
      · unfold Run.answer
        split <;> trivial
    · split
      · trivial
      · unfold Run.submitted
        split
        · exact fits.ask _ _
        · trivial
    · rename_i request isPoll
      split
      · trivial
      · split
        · simpa only [Fits, isPoll] using fits
        · unfold Run.answer
          split <;> trivial
    · exact fits
  | rested elapsed =>
    simp only [Run.step]
    split
    · exact fits.ask _ _
    · exact fits

theorem Fits.steps {run : Run} (fits : run.Fits) (signals : List Signal) : (run.steps signals).Fits := by
  induction signals generalizing run with
  | nil => exact fits
  | cons signal rest ih => exact ih (fits.step signal)

theorem ended_step {run : Run} {result : Except PlanningError PlanningOutcome} (ended : run.stage = .ended result)
    (signal : Signal) : run.breakdown? signal = none ∧ (run.step signal).stage = .ended result := by
  constructor
  · unfold breakdown?
    split <;> simp [ended]
  · cases signal <;> simp [Run.step, Run.cancel, ended]

theorem ended_steps {run : Run} {result : Except PlanningError PlanningOutcome} (ended : run.stage = .ended result)
    (signals : List Signal) : run.breakdownIn? signals = none ∧ (run.steps signals).result? = some result := by
  induction signals generalizing run with
  | nil => exact ⟨rfl, by simp [Run.steps, result?, ended]⟩
  | cons signal rest ih =>
    obtain ⟨well, stays⟩ := ended_step ended signal
    obtain ⟨restWell, isResult⟩ := ih stays
    exact ⟨by rw [breakdownIn?, well, Option.none_or, restWell], isResult⟩

/-- How many things a run that was stopped may still wait for: one that is told to ask again makes a pause first. -/
def patience (run : Run) : Nat :=
  match run.stage with
  | .poll _ => 2
  | _ => 1

/-- The run was stopped and has not ended yet. A program does not go on then. -/
structure Lingers (run : Run) : Prop where
  fits : run.Fits
  killed : run.killed = true
  idle : ∀ command, run.stage ≠ .program command
  underWay : ∀ result, run.stage ≠ .ended result

/-- What a signal makes of a run that was stopped. -/
inductive Answer (run : Run) (signal : Signal) : Prop where
  | breaks (e : PlanningError) (told : run.breakdown? signal = some e) (isBreakdown : e.isBreakdown = true)
    (ends : (run.step signal).stage = .ended (.error e))
  | stops (well : run.breakdown? signal = none) (ends : (run.step signal).stage = .ended (.error .cancelled))
  | lingers (well : run.breakdown? signal = none) (lingers : (run.step signal).Lingers)
    (less : (if run.waitsFor signal then 1 else 0) + (run.step signal).patience ≤ run.patience)

namespace Lingers

variable {run : Run}

theorem ask (lingers : run.Lingers) {url : String} {timeoutSecs : Nat} (isPolled : run.planner = .polled url timeoutSecs)
    (elapsed : Nat) (address : String) : (run.ask elapsed address).stage = .ended (.error .cancelled) := by
  simp [Run.ask, isPolled, lingers.killed, Run.fail, finish]

theorem answer (lingers : run.Lingers) (reply : ServiceReply) :
    (run.answer reply).stage = .ended (.error .cancelled) := by
  simp [Run.answer, lingers.killed, Run.fail, finish]

theorem ignores (lingers : run.Lingers) {signal : Signal} (well : run.breakdown? signal = none)
    (unawaited : run.waitsFor signal = false) (same : run.step signal = run) : Answer run signal := by
  refine .lingers well (same.symm ▸ lingers) ?_
  rw [same, unawaited]
  simp

theorem unread {url : String} {signal : Signal} {reply : Except String String} (e : PlanningError)
    (told : run.breakdown? signal = some e) (isUnread : readReply url reply = .error e)
    (fails : run.step signal = run.fail e) : Answer run signal :=
  .breaks e told (isBreakdown_of_readReply isUnread) (by rw [fails]; rfl)

theorem step (lingers : run.Lingers) (signal : Signal) : Answer run signal := by
  obtain ⟨planner, epsilon, stage, killed⟩ := run
  obtain rfl : killed = true := lingers.killed
  cases stage with
  | ended result => exact absurd rfl (lingers.underWay result)
  | program command => exact absurd rfl (lingers.idle command)
  | launch command =>
    obtain ⟨template, rfl⟩ := lingers.fits
    cases signal with
    | launched refusal =>
      cases refusal with
      | some reason => exact .breaks (.notStarted template reason) rfl rfl rfl
      | none => exact .stops rfl rfl
    | cancel | exited | replied | rested => exact lingers.ignores rfl rfl rfl
  | solve request =>
    cases signal with
    | replied elapsed reply =>
      cases read : readReply request.url reply with
      | error e => exact unread e (by simp [breakdown?, read]) read (by simp [Run.step, read])
      | ok reply =>
        refine .stops (by simp [breakdown?, read]) ?_
        simp only [Run.step, read]
        exact lingers.answer reply
    | cancel | launched | exited | rested => exact lingers.ignores rfl rfl rfl
  | submit request =>
    obtain ⟨url, timeoutSecs, rfl⟩ := lingers.fits
    cases signal with
    | replied elapsed reply =>
      cases read : readReply request.url reply with
      | error e => exact unread e (by simp [breakdown?, read]) read (by simp [Run.step, read])
      | ok reply =>
        obtain ⟨status, value⟩ := reply
        cases value with
        | str path =>
          refine .stops (by simp [breakdown?, read]) ?_
          simp only [Run.step, read, submitted]
          exact lingers.ask rfl elapsed _
        | null | bool | int | float | arr | obj =>
          exact .breaks (.noAddress _) (by simp [breakdown?, read]; rfl) rfl (by simp [Run.step, read, submitted]; rfl)
    | cancel | launched | exited | rested => exact lingers.ignores rfl rfl rfl
  | poll request =>
    cases signal with
    | replied elapsed reply =>
      cases read : readReply request.url reply with
      | error e => exact unread e (by simp [breakdown?, read]) read (by simp [Run.step, read])
      | ok reply =>
        by_cases pending : Text.sameName reply.status "pending" = true
        · refine .lingers (by simp [breakdown?, read]) ?_ (by simp [Run.step, read, pending, patience, waitsFor])
          simp only [Run.step, read, pending, if_true]
          exact ⟨lingers.fits, rfl, nofun, nofun⟩
        · refine .stops (by simp [breakdown?, read]) ?_
          simp only [Run.step, read, pending, Bool.false_eq_true, if_false]
          exact lingers.answer reply
    | cancel | launched | exited | rested => exact lingers.ignores rfl rfl rfl
  | pause address =>
    obtain ⟨url, timeoutSecs, rfl⟩ := lingers.fits
    cases signal with
    | rested elapsed => exact .stops rfl (lingers.ask rfl elapsed address)
    | cancel => exact .stops rfl rfl
    | launched | exited | replied => exact lingers.ignores rfl rfl rfl

theorem patience_pos (run : Run) : 1 ≤ run.patience := by
  unfold patience
  split <;> omega

theorem breaks (lingers : run.Lingers) {signals : List Signal} {e : PlanningError}
    (told : run.breakdownIn? signals = some e) :
    (run.steps signals).result? = some (.error e) ∧ e.isBreakdown = true := by
  induction signals generalizing run with
  | nil => cases told
  | cons signal rest ih =>
    rw [breakdownIn?] at told
    cases lingers.step signal with
    | breaks first isTold isBreakdown ends =>
      rw [isTold, Option.some_or, Option.some.injEq] at told
      exact told ▸ ⟨(ended_steps ends rest).2, isBreakdown⟩
    | stops well ends =>
      rw [well, Option.none_or, (ended_steps ends rest).1] at told
      cases told
    | lingers well lingers less =>
      rw [well, Option.none_or] at told
      exact ih lingers told

/-- A run that was stopped and is told of no breakdown ends as stopped, or has not got what it waits for. -/
theorem ends (lingers : run.Lingers) {signals : List Signal} (well : run.breakdownIn? signals = none) :
    (run.steps signals).result? = some (.error .cancelled) ∨
      (run.steps signals).result? = none ∧ run.received signals + 1 ≤ run.patience := by
  induction signals generalizing run with
  | nil =>
    refine .inr ⟨?_, ?_⟩
    · cases stage : run.stage with
      | ended result => exact absurd stage (lingers.underWay result)
      | launch | program | solve | submit | poll | pause => simp [Run.steps, result?, stage]
    · simpa [received] using patience_pos run
  | cons signal rest ih =>
    rw [breakdownIn?, Option.or_eq_none_iff] at well
    cases lingers.step signal with
    | breaks e told =>
      rw [told] at well
      cases well.1
    | stops _ ends => exact .inl (ended_steps ends rest).2
    | lingers _ lingers less =>
      refine (ih lingers well.2).imp_right fun ⟨isOpen, few⟩ => ⟨isOpen, ?_⟩
      rw [received]
      omega

end Lingers

theorem Fits.stopped {run : Run} (fits : run.Fits) (underWay : run.result? = none) :
    run.cancel.stage = .ended (.error .cancelled) ∨ run.cancel.Lingers := by
  obtain ⟨planner, epsilon, stage, killed⟩ := run
  cases stage with
  | program | pause => exact .inl rfl
  | ended result => cases underWay
  | launch | solve | submit | poll => exact .inr ⟨fits, rfl, nofun, nofun⟩

/-- A planner that is stopped while it is under way answers that it was stopped, after at most two of the things that it
waits for. If it is told of a breakdown first, it answers with that. -/
theorem stopped_run_answers_so (planner : Planner) (epsilon : Float) (request : PlanningRequest)
    (earlier later : List Signal) (underWay : ((start planner epsilon request).steps earlier).result? = none) :
    let stopped := ((start planner epsilon request).steps earlier).step .cancel
    (stopped.breakdownIn? later = none →
      (stopped.steps later).result? = some (.error .cancelled) ∨
        (stopped.steps later).result? = none ∧ stopped.received later ≤ 1) ∧
    ∀ e, stopped.breakdownIn? later = some e →
      (stopped.steps later).result? = some (.error e) ∧ e.isBreakdown = true := by
  intro stopped
  have fits := (fits_start planner epsilon request).steps earlier
  rcases fits.stopped underWay with ends | lingers
  · obtain ⟨well, isResult⟩ := ended_steps ends later
    refine ⟨fun _ => .inl isResult, fun e told => ?_⟩
    cases well.symm.trans told
  · refine ⟨fun well => ?_, fun e told => lingers.breaks told⟩
    refine (lingers.ends well).imp_right fun ⟨isOpen, few⟩ => ⟨isOpen, ?_⟩
    have few : stopped.received later + 1 ≤ stopped.patience := few
    have most : stopped.patience ≤ 2 := by
      unfold patience
      split <;> omega
    omega

theorem stopped_run_answers_so_after_pause :
    let earlier : List Signal := [.replied 0 (.ok "\x7b\"result\": \"c\"\x7d")]
    let later : List Signal := [.replied 1 (.ok "\x7b\"status\": \"PENDING\"\x7d"), .rested 501]
    let run := (start (.polled "http://s" 60) 0 ⟨"", ""⟩).steps earlier
    run.result?.isNone = true ∧ ((run.step .cancel).steps later).result? = some (.error .cancelled) := by
  intro earlier later run
  have underWay : run.result?.isNone = true := by decide +kernel
  have well : ((run.step .cancel).breakdownIn? later).isNone = true := by decide +kernel
  have got : (run.step .cancel).received later = 2 := by decide +kernel
  have answers := (stopped_run_answers_so (.polled "http://s" 60) 0 ⟨"", ""⟩ earlier later
    (Option.isNone_iff_eq_none.mp underWay)).1 (Option.isNone_iff_eq_none.mp well)
  exact ⟨underWay, answers.resolve_right fun ⟨_, few⟩ => absurd (got ▸ few) (by decide)⟩

/-- Each planner is stopped while it waits, and answers with something else: a program that cannot be started, and
services that reply with a complaint. -/
theorem breakdown_hides_stop :
    let message (run : Run) : Option String := run.result?.map fun
      | .error e => e.message
      | .ok _ => "plan"
    let complaint : Signal := .replied 0 (.error "http://s/: status code 500")
    let stopped (planner : Planner) : Run := (start planner 0 ⟨"", ""⟩).step .cancel
    message ((stopped (.program "plan")).step (.launched (some (.path .missing)))) =
        some "failed to run planner 'plan': No such file or directory (os error 2)" ∧
      message ((stopped (.service "http://s" 60)).step complaint) =
        some "planning request to http://s/solve failed: http://s/: status code 500" ∧
      message ((stopped (.polled "http://s" 60)).step complaint) =
        some "planning request to http://s/request failed: http://s/: status code 500" := by
  decide +kernel

end Run
end Planning
end PddlAssist
