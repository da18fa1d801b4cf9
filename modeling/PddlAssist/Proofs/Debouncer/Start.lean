import Mathlib.Data.List.Nodup
import PddlAssist.Debouncer

namespace PddlAssist

structure Debouncing (α : Type) where
  now : Nat := 0
  debouncer : Debouncer α
  timers : List (Timer α) := []
  started : List (Timer α) := []
  ended : List Nat := []

namespace Debouncing

inductive Step (α : Type) where
  | pass (time : Nat)
  | schedule (task : α)
  | cancel
  | setDelay (delay : Nat)
  | expire (generation : Nat)
  | finish (generation : Nat)

variable {α : Type}

def Step.isCall : Step α → Bool
  | schedule _ | cancel => true
  | _ => false

def apply (s : Debouncing α) : Step α → Debouncing α
  | .pass time => { s with now := s.now + time }
  | .schedule task =>
    { s with
      debouncer := s.debouncer.schedule s.now task
      timers := s.timers ++ [⟨s.debouncer.generation + 1, s.now + s.debouncer.delay, task⟩] }
  | .cancel => { s with debouncer := s.debouncer.cancel }
  | .setDelay delay => { s with debouncer := s.debouncer.setDelay delay }
  | .expire generation =>
    match s.timers.find? (·.generation == generation) with
    | none => s
    | some timer =>
      { s with
        debouncer := (s.debouncer.expire timer).2
        timers := s.timers.filter (·.generation != generation)
        started := s.started ++ (s.debouncer.expire timer).1.toList }
  | .finish generation =>
    if generation ∈ s.debouncer.running then
      { s with debouncer := s.debouncer.finish generation, ended := s.ended ++ [generation] }
    else s

def go (s : Debouncing α) (steps : List (Step α)) : Debouncing α := steps.foldl apply s

def run (delay : Nat) (steps : List (Step α)) : Debouncing α := go { debouncer := { delay } } steps

def isOnTime (s : Debouncing α) : Step α → Bool
  | .pass time => s.debouncer.waiting.all fun timer => s.now + time ≤ timer.deadline
  | .expire generation => s.timers.all fun timer => timer.generation = generation → timer.deadline ≤ s.now
  | _ => true

def isPunctual (s : Debouncing α) : List (Step α) → Bool
  | [] => true
  | step :: rest => s.isOnTime step && isPunctual (s.apply step) rest

/-- The state tells the stage of the current generation, and every task is where its timer has brought it. -/
structure Coherent (s : Debouncing α) : Prop where
  waiting : s.debouncer.waiting = s.timers.filter (·.generation = s.debouncer.generation)
  scheduled : s.debouncer.state = .scheduled ↔ s.debouncer.waiting ≠ []
  held : s.debouncer.state = .scheduled → s.debouncer.handle = some s.debouncer.generation
  running : s.debouncer.state = .running ↔ s.debouncer.generation ∈ s.debouncer.running
  past : ∀ timer ∈ s.timers ++ s.started, timer.generation ≤ s.debouncer.generation
  apart : ((s.timers ++ s.started).map (·.generation)).Nodup
  alive : ∀ generation, generation ∈ s.debouncer.running ↔
    generation ∈ s.started.map (·.generation) ∧ generation ∉ s.ended
  ended : ∀ generation ∈ s.ended, generation ∈ s.started.map (·.generation)

namespace Coherent

variable {s : Debouncing α}

theorem fresh (delay : Nat) : Coherent ({ debouncer := { delay } } : Debouncing α) where
  waiting := rfl
  scheduled := by simp
  held := by simp
  running := by simp
  past := by simp
  apart := by simp
  alive := by simp
  ended := by simp

theorem past_of_started (coherent : Coherent s) {generation : Nat}
    (started : generation ∈ s.started.map (·.generation)) : generation ≤ s.debouncer.generation := by
  obtain ⟨timer, member, rfl⟩ := List.mem_map.mp started
  exact coherent.past timer (List.mem_append_right _ member)

theorem past_of_running (coherent : Coherent s) {generation : Nat}
    (running : generation ∈ s.debouncer.running) : generation ≤ s.debouncer.generation :=
  coherent.past_of_started ((coherent.alive generation).mp running).1

theorem filter_next (coherent : Coherent s) :
    s.timers.filter (·.generation = s.debouncer.generation + 1) = [] := by
  rw [List.filter_eq_nil_iff]
  intro timer member isNext
  have past := coherent.past timer (List.mem_append_left _ member)
  rw [decide_eq_true_eq] at isNext
  omega

theorem next_not_running (coherent : Coherent s) : s.debouncer.generation + 1 ∉ s.debouncer.running := by
  intro running
  have past := coherent.past_of_running running
  omega

theorem waiting_generation (coherent : Coherent s) {timer : Timer α} (waits : timer ∈ s.debouncer.waiting) :
    timer.generation = s.debouncer.generation := by
  rw [coherent.waiting, List.mem_filter, decide_eq_true_eq] at waits
  exact waits.2

/-- A call drops the task that waits and no other: while a task waits, the handle is its own, and the task is
not among those that run. -/
theorem release (coherent : Coherent s) :
    s.debouncer.release.waiting = [] ∧ s.debouncer.release.running = s.debouncer.running := by
  unfold Debouncer.release
  by_cases scheduled : s.debouncer.state = .scheduled
  · rw [if_pos scheduled, coherent.held scheduled]
    constructor
    · refine List.filter_eq_nil_iff.mpr fun timer waits => ?_
      simp [coherent.waiting_generation waits]
    · refine List.filter_eq_self.mpr fun generation running => ?_
      have idle : s.debouncer.generation ∉ s.debouncer.running := by
        rw [← coherent.running, scheduled]
        decide
      simpa using fun same : generation = s.debouncer.generation => idle (same ▸ running)
  · rw [if_neg scheduled]
    have nothing := (not_congr coherent.scheduled).mp scheduled
    exact ⟨not_not.mp nothing, rfl⟩

end Coherent

end Debouncing

namespace Debouncer

variable {α : Type}

theorem release_generation (d : Debouncer α) : d.release.generation = d.generation := by
  unfold release abort
  split
  · split <;> rfl
  · rfl

theorem release_delay (d : Debouncer α) : d.release.delay = d.delay := by
  unfold release abort
  split
  · split <;> rfl
  · rfl

/-- The timer of the current generation waits. -/
def IsPending (d : Debouncer α) : Prop := ∃ timer ∈ d.waiting, timer.generation = d.generation

theorem isPending_schedule (d : Debouncer α) (now : Nat) (task : α) : (d.schedule now task).IsPending :=
  ⟨_, List.mem_append_right _ (List.mem_singleton_self _), rfl⟩

theorem isPending_finish (d : Debouncer α) (generation : Nat) : (d.finish generation).IsPending ↔ d.IsPending := by
  simp only [finish]
  split <;> rfl

theorem IsPending.expire {d : Debouncer α} (pending : d.IsPending) {timer : Timer α}
    (stale : timer.generation ≠ d.generation) : (d.expire timer).2.IsPending := by
  obtain ⟨current, waits, isCurrent⟩ := pending
  rw [Debouncer.expire, if_neg stale]
  refine ⟨current, List.mem_filter.mpr ⟨waits, ?_⟩, isCurrent⟩
  rw [isCurrent]
  simpa using Ne.symm stale

end Debouncer

namespace Debouncing

variable {α : Type} {s : Debouncing α}

theorem Coherent.schedule (coherent : Coherent s) (task : α) : Coherent (s.apply (.schedule task)) := by
  obtain ⟨noneWait, sameRunning⟩ := coherent.release
  have isWaiting : (s.apply (.schedule task)).debouncer.waiting =
      [⟨s.debouncer.generation + 1, s.now + s.debouncer.delay, task⟩] := by
    simp only [apply, Debouncer.schedule, noneWait, List.nil_append, s.debouncer.release_generation,
      s.debouncer.release_delay]
  have isNext : (s.apply (.schedule task)).debouncer.generation = s.debouncer.generation + 1 := by
    simp only [apply, Debouncer.schedule, s.debouncer.release_generation]
  have isRunning : (s.apply (.schedule task)).debouncer.running = s.debouncer.running := sameRunning
  refine ⟨?_, ?_, ?_, ?_, ?_, ?_, ?_, coherent.ended⟩
  · rw [isWaiting, isNext]
    simp only [apply, List.filter_append, coherent.filter_next, List.nil_append]
    simp
  · rw [isWaiting]
    simp [apply, Debouncer.schedule]
  · intro _
    simp [apply, Debouncer.schedule]
  · rw [isRunning, isNext]
    simp [apply, Debouncer.schedule, coherent.next_not_running]
  · intro timer member
    rw [isNext]
    simp only [apply, List.append_assoc, List.mem_append, List.mem_singleton] at member
    rcases member with old | rfl | old
    · exact Nat.le_succ_of_le (coherent.past timer (List.mem_append_left _ old))
    · exact Nat.le_refl _
    · exact Nat.le_succ_of_le (coherent.past timer (List.mem_append_right _ old))
  · have fresh : s.debouncer.generation + 1 ∉ (s.timers ++ s.started).map (·.generation) := by
      intro member
      obtain ⟨timer, member, same⟩ := List.mem_map.mp member
      have past := coherent.past timer member
      omega
    have apart := coherent.apart
    simp only [apply, List.append_assoc, List.map_append, List.map_cons, List.singleton_append] at *
    rw [List.nodup_middle]
    exact List.nodup_cons.mpr ⟨fresh, apart⟩
  · intro generation
    rw [isRunning]
    exact coherent.alive generation

theorem Coherent.cancel (coherent : Coherent s) : Coherent (s.apply .cancel) := by
  obtain ⟨noneWait, sameRunning⟩ := coherent.release
  have isWaiting : (s.apply .cancel).debouncer.waiting = [] := noneWait
  have isRunning : (s.apply .cancel).debouncer.running = s.debouncer.running := sameRunning
  have isNext : (s.apply .cancel).debouncer.generation = s.debouncer.generation + 1 := rfl
  have isIdle : (s.apply .cancel).debouncer.state = .idle := rfl
  refine ⟨?_, ?_, ?_, ?_, ?_, coherent.apart, ?_, coherent.ended⟩
  · rw [isWaiting, isNext]
    exact coherent.filter_next.symm
  · simp [isWaiting, isIdle]
  · simp [isIdle]
  · simp [isRunning, isNext, isIdle, coherent.next_not_running]
  · intro timer member
    rw [isNext]
    exact Nat.le_succ_of_le (coherent.past timer member)
  · intro generation
    rw [isRunning]
    exact coherent.alive generation

theorem expire_cases (s : Debouncing α) (generation : Nat) :
    s.apply (.expire generation) = s ∨ ∃ timer ∈ s.timers, timer.generation = generation ∧
      s.apply (.expire generation) =
        { s with
          debouncer := (s.debouncer.expire timer).2
          timers := s.timers.filter (·.generation != generation)
          started := s.started ++ (s.debouncer.expire timer).1.toList } := by
  simp only [apply]
  cases found : s.timers.find? (·.generation == generation) with
  | none => exact .inl rfl
  | some timer =>
    refine .inr ⟨timer, List.mem_of_find?_eq_some found, ?_, rfl⟩
    simpa using List.find?_some found

theorem Coherent.not_started (coherent : Coherent s) {timer : Timer α} (member : timer ∈ s.timers) :
    timer.generation ∉ s.started.map (·.generation) := by
  intro started
  have apart := coherent.apart
  rw [List.map_append, List.nodup_append] at apart
  exact apart.2.2 _ (List.mem_map_of_mem member) _ started rfl

theorem Coherent.expire (coherent : Coherent s) (generation : Nat) : Coherent (s.apply (.expire generation)) := by
  rcases expire_cases s generation with same | ⟨timer, member, rfl, same⟩
  · rwa [same]
  have unstarted := coherent.not_started member
  have kept : s.debouncer.waiting.filter (·.generation != timer.generation) =
      (s.timers.filter (·.generation != timer.generation)).filter (·.generation = s.debouncer.generation) := by
    rw [coherent.waiting, List.filter_comm]
  have fewer : (s.timers.filter (·.generation != timer.generation)).Sublist s.timers := List.filter_sublist
  rw [same]
  -- either the task starts, or a dropped timer ends, which nobody waits for any more
  by_cases current : timer.generation = s.debouncer.generation
  · have isExpired : s.debouncer.expire timer = (some timer,
        { s.debouncer with
          waiting := s.debouncer.waiting.filter (·.generation != timer.generation)
          state := .running
          running := s.debouncer.running ++ [timer.generation] }) := if_pos current
    have noneWait : s.debouncer.waiting.filter (·.generation != timer.generation) = [] := by
      refine List.filter_eq_nil_iff.mpr fun other waits => ?_
      simp [coherent.waiting_generation waits, current]
    rw [isExpired]
    refine ⟨kept, ?_, ?_, ?_, ?_, ?_, ?_, ?_⟩
    · simp [noneWait]
    · simp
    · simp [current]
    · intro other isOther
      simp only [Option.toList_some, List.mem_append, List.mem_singleton] at isOther
      rcases isOther with old | old | rfl
      · exact coherent.past other (List.mem_append_left _ (fewer.subset old))
      · exact coherent.past other (List.mem_append_right _ old)
      · exact coherent.past other (List.mem_append_left _ member)
    · have apart := coherent.apart
      simp only [Option.toList_some, List.map_append, List.map_cons, List.map_nil, ← List.append_assoc] at apart ⊢
      refine List.nodup_append.mpr ⟨?_, List.nodup_singleton _, ?_⟩
      · exact ((fewer.map _).append (List.Sublist.refl _)).nodup apart
      · intro left isLeft right isRight
        rw [List.mem_singleton] at isRight
        subst isRight
        rcases List.mem_append.mp isLeft with waits | started
        · obtain ⟨other, isOther, rfl⟩ := List.mem_map.mp waits
          simpa using (List.mem_filter.mp isOther).2
        · rintro rfl
          exact unstarted started
    · have unended : timer.generation ∉ s.ended := fun ended => unstarted (coherent.ended _ ended)
      intro g
      simp only [Option.toList_some, List.map_append, List.map_cons, List.map_nil, List.mem_append,
        List.mem_singleton, coherent.alive]
      constructor
      · rintro (⟨started, goesOn⟩ | rfl)
        · exact ⟨.inl started, goesOn⟩
        · exact ⟨.inr rfl, unended⟩
      · rintro ⟨started | rfl, goesOn⟩
        · exact .inl ⟨started, goesOn⟩
        · exact .inr rfl
    · intro g ended
      rw [List.map_append]
      exact List.mem_append_left _ (coherent.ended g ended)
  · have isExpired : s.debouncer.expire timer = (none,
        { s.debouncer with waiting := s.debouncer.waiting.filter (·.generation != timer.generation) }) :=
      if_neg current
    have sameWait : s.debouncer.waiting.filter (·.generation != timer.generation) = s.debouncer.waiting := by
      refine List.filter_eq_self.mpr fun other waits => ?_
      simpa [coherent.waiting_generation waits] using Ne.symm current
    rw [isExpired]
    refine ⟨kept, ?_, coherent.held, coherent.running, ?_, ?_, ?_, ?_⟩
    · rw [sameWait]
      exact coherent.scheduled
    · intro other isOther
      simp only [Option.toList_none, List.append_nil] at isOther
      rcases List.mem_append.mp isOther with old | old
      · exact coherent.past other (List.mem_append_left _ (fewer.subset old))
      · exact coherent.past other (List.mem_append_right _ old)
    · simp only [Option.toList_none, List.append_nil]
      exact ((fewer.append (List.Sublist.refl _)).map _).nodup coherent.apart
    · simpa using coherent.alive
    · simpa using coherent.ended

theorem Coherent.finish (coherent : Coherent s) (generation : Nat) : Coherent (s.apply (.finish generation)) := by
  simp only [apply]
  by_cases running : generation ∈ s.debouncer.running
  case neg => rwa [if_neg running]
  case pos =>
  have started := ((coherent.alive generation).mp running).1
  have alive : ∀ g, g ∈ s.debouncer.running.filter (· != generation) ↔
      g ∈ s.started.map (·.generation) ∧ g ∉ s.ended ++ [generation] := by
    intro g
    simp only [List.mem_filter, coherent.alive, bne_iff_ne, List.mem_append, List.mem_singleton, not_or, and_assoc]
  have ended : ∀ g ∈ s.ended ++ [generation], g ∈ s.started.map (·.generation) := by
    intro g isEnded
    rcases List.mem_append.mp isEnded with old | new
    · exact coherent.ended g old
    · rwa [List.mem_singleton.mp new]
  rw [if_pos running]
  by_cases current : generation = s.debouncer.generation
  · have isFinished : s.debouncer.finish generation =
        { s.debouncer with
          running := s.debouncer.running.filter (· != generation), state := .idle, handle := none } := if_pos current
    have wasRunning : s.debouncer.state = .running := coherent.running.mpr (current ▸ running)
    have noneWait : s.debouncer.waiting = [] := by
      have unscheduled : ¬s.debouncer.state = .scheduled := by simp [wasRunning]
      exact not_not.mp ((not_congr coherent.scheduled).mp unscheduled)
    rw [isFinished]
    refine ⟨coherent.waiting, ?_, ?_, ?_, coherent.past, coherent.apart, alive, ended⟩
    · simp [noneWait]
    · simp
    · simp [current]
  · have isFinished : s.debouncer.finish generation =
        { s.debouncer with running := s.debouncer.running.filter (· != generation) } := if_neg current
    rw [isFinished]
    refine ⟨coherent.waiting, coherent.scheduled, coherent.held, ?_, coherent.past, coherent.apart, alive, ended⟩
    rw [coherent.running]
    simp [List.mem_filter, Ne.symm current]

theorem Coherent.apply (coherent : Coherent s) (step : Step α) : Coherent (s.apply step) := by
  cases step with
  | pass => exact { coherent with }
  | setDelay => exact { coherent with }
  | schedule task => exact coherent.schedule task
  | cancel => exact coherent.cancel
  | expire generation => exact coherent.expire generation
  | finish generation => exact coherent.finish generation

theorem Coherent.go (coherent : Coherent s) (steps : List (Step α)) : Coherent (s.go steps) := by
  induction steps generalizing s with
  | nil => exact coherent
  | cons step rest ih => exact ih (coherent.apply step)

theorem generation_apply (s : Debouncing α) (step : Step α) :
    (s.apply step).debouncer.generation = s.debouncer.generation + if step.isCall then 1 else 0 := by
  cases step with
  | pass | setDelay => rfl
  | schedule task => simp [apply, Step.isCall, Debouncer.schedule, Debouncer.release_generation]
  | cancel => rfl
  | expire generation =>
    rcases expire_cases s generation with same | ⟨timer, _, _, same⟩
    · rw [same]
      rfl
    · rw [same]
      simp only [Debouncer.expire]
      split <;> rfl
  | finish generation =>
    simp only [apply, Debouncer.finish]
    split
    · split <;> rfl
    · rfl

theorem started_apply (s : Debouncing α) (step : Step α) :
    (s.apply step).started = s.started ∨ ∃ timer ∈ s.timers, step = .expire timer.generation ∧
      timer.generation = s.debouncer.generation ∧ (s.apply step).started = s.started ++ [timer] := by
  cases step with
  | pass | setDelay | schedule | cancel => exact .inl rfl
  | expire generation =>
    rcases expire_cases s generation with same | ⟨timer, member, rfl, same⟩
    · exact .inl (by rw [same])
    · rw [same]
      simp only [Debouncer.expire]
      split
      · rename_i current
        exact .inr ⟨timer, member, rfl, current, rfl⟩
      · exact .inl (by simp)
  | finish generation =>
    simp only [apply]
    split <;> exact .inl rfl

theorem mem_started_go {timer : Timer α} (started : timer ∈ s.started) (steps : List (Step α)) :
    timer ∈ (s.go steps).started := by
  induction steps generalizing s with
  | nil => exact started
  | cons step rest ih =>
    apply ih
    rcases started_apply s step with same | ⟨_, _, _, _, same⟩
    · rwa [same]
    · rw [same]
      exact List.mem_append_left _ started

theorem not_mem_started_go {timer : Timer α} (stale : timer.generation < s.debouncer.generation)
    (unstarted : timer ∉ s.started) (steps : List (Step α)) : timer ∉ (s.go steps).started := by
  induction steps generalizing s with
  | nil => exact unstarted
  | cons step rest ih =>
    have generation := generation_apply s step
    refine ih (by omega) ?_
    rcases started_apply s step with same | ⟨other, _, _, current, same⟩
    · rwa [same]
    · rw [same, List.mem_append, List.mem_singleton, not_or]
      refine ⟨unstarted, ?_⟩
      rintro rfl
      omega

theorem Coherent.scheduled_iff (coherent : Coherent s) :
    s.debouncer.state = .scheduled ↔ s.debouncer.IsPending := by
  rw [coherent.scheduled]
  constructor
  · intro nonempty
    obtain ⟨timer, waits⟩ := List.exists_mem_of_ne_nil _ nonempty
    exact ⟨timer, waits, coherent.waiting_generation waits⟩
  · rintro ⟨timer, waits, _⟩
    exact List.ne_nil_of_mem waits

def Calm (generation : Nat) (steps : List (Step α)) : Prop :=
  ∀ step ∈ steps, step.isCall = false ∧ step ≠ .expire generation

namespace Calm

variable {generation : Nat} {step : Step α} {steps : List (Step α)}

theorem nil : Calm generation ([] : List (Step α)) := fun _ member => nomatch member

theorem cons (calm : Calm generation steps) (quiet : step.isCall = false) (goesOn : step ≠ .expire generation) :
    Calm generation (step :: steps) := List.forall_mem_cons.mpr ⟨⟨quiet, goesOn⟩, calm⟩

theorem tail (calm : Calm generation (step :: steps)) : Calm generation steps := (List.forall_mem_cons.mp calm).2

end Calm

/-- A timer that no call has made stale. -/
structure Waits (s : Debouncing α) (timer : Timer α) : Prop where
  member : timer ∈ s.timers
  current : timer.generation = s.debouncer.generation

namespace Waits

variable {timer : Timer α}

theorem mem_waiting (waits : Waits s timer) (coherent : Coherent s) : timer ∈ s.debouncer.waiting := by
  rw [coherent.waiting, List.mem_filter, decide_eq_true_eq]
  exact ⟨waits.member, waits.current⟩

theorem not_mem_started (waits : Waits s timer) (coherent : Coherent s) : timer ∉ s.started :=
  fun started => coherent.not_started waits.member (List.mem_map_of_mem started)

theorem apply (waits : Waits s timer) {step : Step α} (quiet : step.isCall = false)
    (goesOn : step ≠ .expire timer.generation) : Waits (s.apply step) timer := by
  have current : timer.generation = (s.apply step).debouncer.generation := by
    rw [generation_apply, quiet]
    exact waits.current
  cases step with
  | schedule | cancel => cases quiet
  | pass | setDelay => exact ⟨waits.member, current⟩
  | expire generation =>
    rcases expire_cases s generation with same | ⟨other, _, rfl, same⟩
    · rwa [same]
    · refine ⟨?_, current⟩
      rw [same]
      refine List.mem_filter.mpr ⟨waits.member, ?_⟩
      simpa using fun same : timer.generation = other.generation => goesOn (by rw [same])
  | finish generation =>
    refine ⟨?_, current⟩
    simp only [Debouncing.apply]
    split <;> exact waits.member

theorem expire (waits : Waits s timer) (coherent : Coherent s) :
    timer ∈ (s.apply (.expire timer.generation)).started := by
  have isFirst : s.timers.find? (·.generation == timer.generation) = some timer := by
    have distinct := coherent.apart
    rw [List.map_append, List.nodup_append] at distinct
    cases found : s.timers.find? (·.generation == timer.generation) with
    | none => simpa using List.find?_eq_none.mp found timer waits.member
    | some other =>
      have same : other.generation = timer.generation := by simpa using List.find?_some found
      rw [List.inj_on_of_nodup_map distinct.1 (List.mem_of_find?_eq_some found) waits.member same]
  have isStarted : (s.debouncer.expire timer).1 = some timer := by
    rw [Debouncer.expire, if_pos waits.current]
  simp only [Debouncing.apply, isFirst, isStarted]
  exact List.mem_append_right _ (List.mem_singleton_self _)

/-- The task of a timer that waits starts if and only if the timer ends before the next call. -/
theorem starts_iff (waits : Waits s timer) (coherent : Coherent s) (steps : List (Step α)) :
    timer ∈ (s.go steps).started ↔
      ∃ calm rest, steps = calm ++ .expire timer.generation :: rest ∧ Calm timer.generation calm := by
  induction steps generalizing s with
  | nil =>
    refine ⟨fun started => absurd started (waits.not_mem_started coherent), ?_⟩
    rintro ⟨calm, rest, isNil, _⟩
    simp at isNil
  | cons step later ih =>
    by_cases isEnd : step = .expire timer.generation
    · subst isEnd
      exact ⟨fun _ => ⟨[], later, rfl, .nil⟩, fun _ => mem_started_go (waits.expire coherent) later⟩
    by_cases isCall : step.isCall = true
    · -- the call makes the timer stale, and no later end of it starts anything
      have generation := generation_apply s step
      rw [if_pos isCall, ← waits.current] at generation
      have unstarted : timer ∉ (s.apply step).started := by
        rcases started_apply s step with same | ⟨_, _, rfl, _⟩
        · rw [same]
          exact waits.not_mem_started coherent
        · cases isCall
      refine iff_of_false (not_mem_started_go (by omega) unstarted later) ?_
      rintro ⟨calm, rest, same, isCalm⟩
      cases calm with
      | nil => exact isEnd (List.cons.inj same).1
      | cons first calm =>
        obtain ⟨rfl, _⟩ := List.cons.inj same
        rw [(isCalm step List.mem_cons_self).1] at isCall
        cases isCall
    · rw [Bool.not_eq_true] at isCall
      have next : timer ∈ (s.go (step :: later)).started ↔ _ := ih (waits.apply isCall isEnd) (coherent.apply step)
      rw [next]
      constructor
      · rintro ⟨calm, rest, rfl, isCalm⟩
        exact ⟨step :: calm, rest, rfl, isCalm.cons isCall isEnd⟩
      · rintro ⟨calm, rest, same, isCalm⟩
        cases calm with
        | nil => exact absurd (List.cons.inj same).1 isEnd
        | cons first calm =>
          obtain ⟨rfl, rfl⟩ := List.cons.inj same
          exact ⟨calm, rest, rfl, isCalm.tail⟩

end Waits

theorem now_apply (s : Debouncing α) (step : Step α) :
    (s.apply step).now = s.now ∨ ∃ time, step = .pass time ∧ (s.apply step).now = s.now + time := by
  cases step with
  | pass time => exact .inr ⟨time, rfl, rfl⟩
  | schedule | cancel | setDelay => exact .inl rfl
  | expire generation =>
    rcases expire_cases s generation with same | ⟨_, _, _, same⟩
    · exact .inl (by rw [same])
    · exact .inl (by rw [same])
  | finish generation =>
    simp only [apply]
    split <;> exact .inl rfl

namespace Waits

variable {timer : Timer α}

theorem early_apply (waits : Waits s timer) (coherent : Coherent s) (early : s.now ≤ timer.deadline) {step : Step α}
    (onTime : s.isOnTime step = true) : (s.apply step).now ≤ timer.deadline := by
  rcases now_apply s step with same | ⟨time, rfl, same⟩
  · rwa [same]
  · rw [same]
    exact of_decide_eq_true (List.all_eq_true.mp onTime timer (waits.mem_waiting coherent))

theorem ends_due (waits : Waits s timer) (coherent : Coherent s) (early : s.now ≤ timer.deadline)
    {calm rest : List (Step α)} (isCalm : Calm timer.generation calm)
    (punctual : s.isPunctual (calm ++ .expire timer.generation :: rest) = true) :
    (s.go calm).now = timer.deadline := by
  induction calm generalizing s with
  | nil =>
    rw [List.nil_append, isPunctual, Bool.and_eq_true] at punctual
    have due : timer.deadline ≤ s.now := by simpa using List.all_eq_true.mp punctual.1 timer waits.member
    exact Nat.le_antisymm early due
  | cons step later ih =>
    rw [List.cons_append, isPunctual, Bool.and_eq_true] at punctual
    obtain ⟨quiet, goesOn⟩ := isCalm step List.mem_cons_self
    have early := waits.early_apply coherent early punctual.1
    exact ih (waits.apply quiet goesOn) (coherent.apply step) early isCalm.tail punctual.2

theorem starts (waits : Waits s timer) (coherent : Coherent s) (early : s.now ≤ timer.deadline)
    {steps : List (Step α)} (punctual : s.isPunctual steps = true)
    (late : ∀ calm call rest, steps = calm ++ call :: rest → call.isCall = true → timer.deadline < (s.go calm).now)
    (passed : timer.deadline < (s.go steps).now) : timer ∈ (s.go steps).started := by
  induction steps generalizing s with
  | nil => exact absurd passed (Nat.not_lt.mpr early)
  | cons step later ih =>
    rw [isPunctual, Bool.and_eq_true] at punctual
    by_cases isEnd : step = .expire timer.generation
    · subst isEnd
      exact mem_started_go (waits.expire coherent) later
    · have quiet : step.isCall = false := by
        rw [← Bool.not_eq_true]
        intro isCall
        exact absurd (late [] step later rfl isCall) (Nat.not_lt.mpr early)
      refine ih (waits.apply quiet isEnd) (coherent.apply step) (waits.early_apply coherent early punctual.1)
        punctual.2 ?_ passed
      rintro calm call rest rfl isCall
      exact late (step :: calm) call rest rfl isCall

end Waits

theorem go_append (s : Debouncing α) (earlier later : List (Step α)) :
    s.go (earlier ++ later) = (s.go earlier).go later := List.foldl_append

theorem isPunctual_append (s : Debouncing α) (earlier later : List (Step α)) :
    s.isPunctual (earlier ++ later) = (s.isPunctual earlier && (s.go earlier).isPunctual later) := by
  induction earlier generalizing s with
  | nil => rfl
  | cons step rest ih => rw [List.cons_append, isPunctual, isPunctual, ih, Bool.and_assoc, go, go, List.foldl_cons]

theorem waits_schedule (s : Debouncing α) (task : α) :
    Waits (s.apply (.schedule task)) ⟨s.debouncer.generation + 1, s.now + s.debouncer.delay, task⟩ where
  member := List.mem_append_right _ (List.mem_singleton_self _)
  current := by simp [apply, Debouncer.schedule, Debouncer.release_generation]

/-- However calls, changes of the delay, ends of timers and ends of tasks follow one another: every task starts
at most once; it starts if and only if its timer ends before the next call; a task that has started runs until it
comes to its end; and the state is that of the current generation. If timers end on time, then a task starts at the
deadline, which is set by the delay at the moment when it was scheduled, and it does start unless a call comes by
then. -/
theorem task_starts_after_calm (delay : Nat) (steps : List (Step α)) :
    ((run delay steps).started.map (·.generation)).Nodup ∧
    (∀ earlier task later, steps = earlier ++ .schedule task :: later →
      let before := run delay earlier
      let timer : Timer α := ⟨before.debouncer.generation + 1, before.now + before.debouncer.delay, task⟩
      (timer ∈ (run delay steps).started ↔
        ∃ calm rest, later = calm ++ .expire timer.generation :: rest ∧ Calm timer.generation calm) ∧
      (isPunctual { debouncer := { delay } } steps = true →
        (∀ calm rest, later = calm ++ .expire timer.generation :: rest → Calm timer.generation calm →
          (run delay (earlier ++ .schedule task :: calm)).now = timer.deadline) ∧
        (timer.deadline < (run delay steps).now →
          (∀ calm call rest, later = calm ++ call :: rest → call.isCall = true →
            timer.deadline < (run delay (earlier ++ .schedule task :: calm)).now) →
          timer ∈ (run delay steps).started))) ∧
    (∀ timer ∈ (run delay steps).started,
      timer.generation ∈ (run delay steps).debouncer.running ∨ timer.generation ∈ (run delay steps).ended) ∧
    ((run delay steps).debouncer.state = .scheduled ↔ (run delay steps).debouncer.IsPending) ∧
    ((run delay steps).debouncer.state = .running ↔
      (run delay steps).debouncer.generation ∈ (run delay steps).started.map (·.generation) ∧
        (run delay steps).debouncer.generation ∉ (run delay steps).ended) ∧
    ((run delay steps).debouncer.state = .idle ↔ ¬(run delay steps).debouncer.IsPending ∧
      ¬((run delay steps).debouncer.generation ∈ (run delay steps).started.map (·.generation) ∧
        (run delay steps).debouncer.generation ∉ (run delay steps).ended)) := by
  have coherent : Coherent (run delay steps) := (Coherent.fresh delay).go steps
  have scheduled := coherent.scheduled_iff
  have running := coherent.running.trans (coherent.alive _)
  refine ⟨?_, ?_, ?_, scheduled, running, ?_⟩
  · have apart := coherent.apart
    rw [List.map_append, List.nodup_append] at apart
    exact apart.2.1
  · rintro earlier task later rfl before timer
    have then' (more : List (Step α)) : run delay (earlier ++ .schedule task :: more) =
        (before.apply (.schedule task)).go more := go_append _ earlier (.schedule task :: more)
    have sound : Coherent (before.apply (.schedule task)) := ((Coherent.fresh delay).go earlier).apply _
    have waits : Waits (before.apply (.schedule task)) timer := waits_schedule before task
    have early : (before.apply (.schedule task)).now ≤ timer.deadline := Nat.le_add_right _ _
    simp only [then']
    refine ⟨waits.starts_iff sound later, fun punctual => ?_⟩
    rw [isPunctual_append, Bool.and_eq_true, isPunctual, Bool.and_eq_true] at punctual
    constructor
    · rintro calm rest rfl isCalm
      exact waits.ends_due sound early isCalm punctual.2.2
    · intro passed late
      exact waits.starts sound early punctual.2.2 late passed
  · intro timer started
    by_cases ended : timer.generation ∈ (run delay steps).ended
    · exact .inr ended
    · exact .inl ((coherent.alive _).mpr ⟨List.mem_map_of_mem started, ended⟩)
  · rw [← scheduled, ← running]
    cases (run delay steps).debouncer.state <;> decide

theorem task_starts_after_calm_at_deadline :
    ⟨2, 100, "b"⟩ ∈ (run 50 [.schedule "a", .pass 50, .schedule "b", .expire 1, .pass 50, .expire 2, .schedule "c",
      .finish 2, .cancel]).started :=
  ((task_starts_after_calm 50 _).2.1 [.schedule "a", .pass 50] "b" [.expire 1, .pass 50, .expire 2,
    .schedule "c", .finish 2, .cancel] rfl).1.mpr
      ⟨[.expire 1, .pass 50], [.schedule "c", .finish 2, .cancel], rfl, by simp [Calm, Step.isCall, run, go, apply,
        Debouncer.schedule, Debouncer.release]⟩

end Debouncing
end PddlAssist
