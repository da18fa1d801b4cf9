import PddlAssist.Proofs.Session.Traffic

namespace PddlAssist

namespace ValidationStage

/-- The domains whose texts a run has still to collect. -/
def rest : ValidationStage → List Uri
  | queued domains => domains
  | collected _ _ _ rest | calling _ rest => rest
  | _ => []

def next? : ValidationStage → Option Uri
  | queued (domain :: _) => some domain
  | _ => none

end ValidationStage

namespace Session

theorem mem_insertPending (domain : Uri) (pending : List Uri) : domain ∈ insertPending domain pending := by
  induction pending with
  | nil => exact List.mem_singleton_self _
  | cons other rest ih =>
    rw [insertPending]
    split
    · rename_i same
      exact same ▸ List.mem_cons_self
    · split
      · exact List.mem_cons_self
      · exact List.mem_cons_of_mem _ ih

theorem mem_insertPending_of_mem {domain : Uri} {pending : List Uri} (waits : domain ∈ pending) (other : Uri) :
    domain ∈ insertPending other pending := by
  induction pending with
  | nil => cases waits
  | cons first rest ih =>
    rw [insertPending]
    split
    · exact waits
    · split
      · exact List.mem_cons_of_mem _ waits
      · rcases List.mem_cons.mp waits with rfl | later
        · exact List.mem_cons_self
        · exact List.mem_cons_of_mem _ (ih later)

theorem mem_setRun_self {s : Session} {run : ValidationRun} (isRun : run ∈ s.runs) (stage : ValidationStage) :
    { run with stage } ∈ (s.setRun { run with stage }).runs :=
  List.mem_map.mpr ⟨run, isRun, if_pos rfl⟩

theorem mem_setRun_of_ne {s : Session} {run other : ValidationRun} (isRun : other ∈ s.runs)
    (differs : other.ticket ≠ run.ticket) : other ∈ (s.setRun run).runs :=
  List.mem_map.mpr ⟨other, isRun, if_neg differs⟩

inductive RunMoves (s : Session) (run : ValidationRun) (s' : Session) : Prop where
  | takes (isStarted : run.stage = .started) (isTaken : s' = s.takePending run)
  | moves (stage : ValidationStage) (wasBegun : run.stage ≠ .started) (isBegun : stage ≠ .started)
    (pending : s'.pending = s.pending) (checking : s'.checking = s.checking)
    (runs : s'.runs = (s.setRun { run with stage }).runs)
    (rest : run.generation.isSome → ∀ domain ∈ run.stage.rest, run.stage.next? ≠ some domain → domain ∈ stage.rest)
  | ends (generation : Nat) (empty : run.stage = .queued []) (pending : s'.pending = s.pending)
    (checking : s'.checking = s.checking.finish generation)
    (runs : s'.runs = s.runs.filter (·.ticket != run.ticket))

namespace RunMoves

variable {s s' : Session} {run : ValidationRun}

theorem fail (domain : Uri) (e : ValidationError) (left : List Uri) (wasBegun : run.stage ≠ .started)
    (rest : ∀ domain ∈ run.stage.rest, run.stage.next? ≠ some domain → domain ∈ left)
    {workspace : Workspace} : RunMoves s run (fail { s with workspace } run domain e left) := by
  unfold Session.fail
  split
  · exact .moves (.queued left) wasBegun (by simp) rfl rfl rfl fun _ => rest
  · rename_i asked
    exact .moves (.answered (.error e)) wasBegun (by simp) rfl rfl rfl (by simp [asked])

theorem stepRun? (stepped : s.stepRun? run = some s') : RunMoves s run s' := by
  unfold Session.stepRun? at stepped
  split at stepped
  case h_1 isStarted =>
    cases stepped
    exact .takes isStarted rfl
  case h_2 domains isQueued =>
    cases stepped
    have wasBegun : run.stage ≠ .started := by simp [isQueued]
    unfold beginNext
    split
    case h_1 =>
      split
      · exact .ends _ isQueued rfl rfl rfl
      · exact .moves _ wasBegun (by simp) rfl rfl rfl (by simp [isQueued, ValidationStage.rest])
    case h_2 domain left =>
      have rest : ∀ other ∈ run.stage.rest, run.stage.next? ≠ some other → other ∈ left := by
        simp only [isQueued, ValidationStage.rest, ValidationStage.next?]
        intro other member notNext
        exact (List.mem_cons.mp member).resolve_left fun same => notNext (by rw [same])
      split
      · exact fail domain _ left wasBegun rest
      · exact .moves (.queued left) wasBegun (by simp) rfl rfl rfl fun _ => rest
      · exact .moves (.collected _ _ _ left) wasBegun (by simp) rfl rfl rfl fun _ => rest
  case h_3 validator domain bundle left isCollected =>
    cases stepped
    refine .moves (.calling _ left) (by simp [isCollected]) (by simp) rfl rfl rfl fun _ other member _ => ?_
    rwa [isCollected] at member
  case h_4 => cases stepped

theorem endCall {call : ValidationCall} {left : List Uri} (isCalling : run.stage = .calling call left) :
    RunMoves s run (s.endCall run call left) := by
  have wasBegun : run.stage ≠ .started := by simp [isCalling]
  have rest : ∀ other ∈ run.stage.rest, run.stage.next? ≠ some other → other ∈ left := by
    intro other member _
    rwa [isCalling] at member
  unfold Session.endCall
  split
  · exact .moves (.queued left) wasBegun (by simp) rfl rfl rfl fun _ => rest
  · exact fail call.domain _ left wasBegun rest

theorem others (moves : RunMoves s run s') {other : ValidationRun} (isOther : other ∈ s.runs)
    (differs : other.ticket ≠ run.ticket) : other ∈ s'.runs := by
  cases moves with
  | takes _ isTaken =>
    rw [isTaken]
    exact mem_setRun_of_ne isOther differs
  | moves _ _ _ _ _ runs =>
    rw [runs]
    exact mem_setRun_of_ne isOther differs
  | ends _ _ _ _ runs =>
    rw [runs]
    exact List.mem_filter.mpr ⟨isOther, by simpa using differs⟩

end RunMoves

def StartsByTimer (s : Session) : Prop := ∀ run ∈ s.runs, run.stage = .started → run.generation.isSome

namespace StartsByTimer

variable {s s' : Session}

theorem setRun (timed : StartsByTimer s) {run : ValidationRun} (isBegun : run.stage ≠ .started) :
    StartsByTimer (s.setRun run) := by
  intro other isOther isStarted
  obtain ⟨old, isOld, rfl⟩ := List.mem_map.mp isOther
  split at isStarted
  · exact absurd isStarted isBegun
  · rename_i differs
    rw [if_neg differs]
    exact timed old isOld isStarted

theorem moves (timed : StartsByTimer s) {run : ValidationRun} (moves : RunMoves s run s') : StartsByTimer s' := by
  cases moves with
  | takes _ isTaken =>
    rw [isTaken]
    exact setRun (s := { s with pending := [] }) timed (by simp)
  | moves stage _ isBegun _ _ runs =>
    intro other isOther
    rw [runs] at isOther
    have timed : StartsByTimer (s.setRun { run with stage }) := timed.setRun isBegun
    exact timed other isOther
  | ends _ _ _ _ runs =>
    intro other isOther
    rw [runs] at isOther
    exact timed other (List.mem_filter.mp isOther).1

theorem addRun (timed : StartsByTimer s) {generation : Option Nat} {stage : ValidationStage}
    (isTimed : stage = .started → generation.isSome) : StartsByTimer (s.addRun generation stage) := by
  intro run isRun isStarted
  rcases List.mem_append.mp isRun with old | new
  · exact timed run old isStarted
  · obtain rfl := List.mem_singleton.mp new
    exact isTimed isStarted

end StartsByTimer

end Session

namespace Traffic

def collects (t : Traffic) : Step → Option Uri
  | .validate ticket =>
    if t.session.validator.isSome then (t.session.runs.find? (·.ticket == ticket)).bind (·.stage.next?) else none
  | _ => none

/-- None of the steps collects the texts of a domain. -/
def neverCollects (t : Traffic) (domain : Uri) : List Step → Bool
  | [] => true
  | step :: rest => t.collects step != some domain && (t.apply step).neverCollects domain rest

theorem startsByTimer_apply {t : Traffic} (timed : t.session.StartsByTimer) (step : Step) :
    (t.apply step).session.StartsByTimer := by
  have outcome := t.outcome_apply step
  generalize t.apply step = t' at outcome
  cases outcome with
  | idle | puts | edits | asks | parses | begins | lapses | takes | installs | passes | removes
  | awaits => exact timed
  | resumes n call =>
    cases call with
    | edited | reading | requesting | requested => exact timed
    | claiming domain => exact timed.addRun (by simp)
  | starts => exact timed.addRun (by simp)
  | validates ticket run found s stepped => exact timed.moves (.stepRun? stepped)
  | answers ticket run isRun call rest isCalling => exact timed.moves (.endCall isCalling)

structure Validating (t : Traffic) : Prop extends Sound t where
  configured : t.session.validator.isSome
  timed : t.session.StartsByTimer

namespace Validating

theorem apply {t : Traffic} (validating : Validating t) (step : Step) : Validating (t.apply step) where
  toSound := validating.toSound.apply step
  configured := by rw [validator_apply]; exact validating.configured
  timed := startsByTimer_apply validating.timed step

theorem run (settings : Settings) (host : Host) (network : Network) (validator : Validator) (steps : List Step) :
    Validating (run settings host network validator steps) := by
  induction steps using List.reverseRecOn with
  | nil => exact ⟨.start settings host network validator, rfl, by intro run isRun; cases isRun⟩
  | append_singleton earlier step ih =>
    rw [run_append]
    exact ih.apply step

end Validating

/-- A domain that was queued has not been forgotten. -/
inductive Awaited (t : Traffic) (domain : Uri) : Prop where
  /-- It waits, and so does the timer. -/
  | waiting (waits : domain ∈ t.session.pending) (pending : t.session.checking.IsPending)
  /-- It waits, and a run has begun that is going to take it. -/
  | started (waits : domain ∈ t.session.pending) (run : ValidationRun) (goesOn : run ∈ t.session.runs)
    (isStarted : run.stage = .started)
  /-- It waits, and the call that has queued it is going to set the timer. -/
  | requested (waits : domain ∈ t.session.pending) (goesOn : .requested domain ∈ t.calls)
  /-- A run that a timer began has taken it and not come to it. -/
  | taken (run : ValidationRun) (goesOn : run ∈ t.session.runs) (isTimed : run.generation.isSome)
    (isLeft : domain ∈ run.stage.rest)
  /-- Somebody has claimed it and is about to validate it. -/
  | claimed (run : ValidationRun) (goesOn : run ∈ t.session.runs) (isAsked : run.generation = none)
    (isNext : run.stage = .queued [domain])

namespace Awaited

variable {t t' : Traffic} {domain : Uri}

theorem mono (awaited : Awaited t domain) (pending : domain ∈ t.session.pending → domain ∈ t'.session.pending)
    (checking : t.session.checking.IsPending → t'.session.checking.IsPending)
    (runs : ∀ run ∈ t.session.runs, run ∈ t'.session.runs)
    (calls : .requested domain ∈ t.calls → .requested domain ∈ t'.calls) : Awaited t' domain := by
  cases awaited with
  | waiting waits isPending => exact .waiting (pending waits) (checking isPending)
  | started waits run goesOn isStarted => exact .started (pending waits) run (runs run goesOn) isStarted
  | requested waits goesOn => exact .requested (pending waits) (calls goesOn)
  | taken run goesOn isTimed isLeft => exact .taken run (runs run goesOn) isTimed isLeft
  | claimed run goesOn isAsked isNext => exact .claimed run (runs run goesOn) isAsked isNext

theorem apart (awaited : Awaited t domain) {run : ValidationRun} (calls : t'.calls = t.calls)
    (pending : t'.session.pending = t.session.pending)
    (checking : t.session.checking.IsPending → t'.session.checking.IsPending)
    (others : ∀ other ∈ t.session.runs, other ≠ run → other ∈ t'.session.runs)
    (wasBegun : run.stage ≠ .started) (unclaimed : run.stage ≠ .queued [domain])
    (left : run.generation.isSome → domain ∈ run.stage.rest → Awaited t' domain) : Awaited t' domain := by
  cases awaited with
  | waiting waits isPending => exact .waiting (pending ▸ waits) (checking isPending)
  | started waits other isOther isStarted =>
    refine .started (pending ▸ waits) other (others other isOther ?_) isStarted
    rintro rfl
    exact wasBegun isStarted
  | requested waits goesOn => exact .requested (pending ▸ waits) (calls ▸ goesOn)
  | taken other isOther isTimed isLeft =>
    by_cases same : other = run
    · subst same
      exact left isTimed isLeft
    · exact .taken other (others other isOther same) isTimed isLeft
  | claimed other isOther isAsked isNext =>
    refine .claimed other (others other isOther ?_) isAsked isNext
    rintro rfl
    exact unclaimed isNext

theorem moves (awaited : Awaited t domain) (validating : Validating t) {run : ValidationRun}
    (isRun : run ∈ t.session.runs) (notNext : run.stage.next? ≠ some domain) {s : Session}
    (moves : t.session.RunMoves run s) : Awaited { t with session := s } domain := by
  have others (other : ValidationRun) (isOther : other ∈ t.session.runs) (differs : other ≠ run) : other ∈ s.runs :=
    moves.others isOther (mt (List.inj_on_of_nodup_map validating.ticketed.runs.1 isOther isRun) differs)
  have unclaimed : run.stage ≠ .queued [domain] := fun isNext => notNext (by rw [isNext]; rfl)
  cases moves with
  | takes isStarted isTaken =>
    -- all that waits is taken, whoever was going to take it
    subst isTaken
    have taken (waits : domain ∈ t.session.pending) :
        Awaited { t with session := t.session.takePending run } domain :=
      .taken _ (Session.mem_setRun_self (s := { t.session with pending := [] }) isRun _)
        (validating.timed run isRun isStarted) waits
    cases awaited with
    | waiting waits _ => exact taken waits
    | started waits _ _ _ => exact taken waits
    | requested waits _ => exact taken waits
    | taken other isOther isTimed isLeft =>
      refine .taken other (others other isOther ?_) isTimed isLeft
      rintro rfl
      rw [isStarted] at isLeft
      cases isLeft
    | claimed other isOther isAsked isNext =>
      refine .claimed other (others other isOther ?_) isAsked isNext
      rintro rfl
      exact unclaimed isNext
  | moves stage wasBegun _ pending checking runs rest =>
    refine awaited.apart rfl pending (checking ▸ id) others wasBegun unclaimed fun isTimed isLeft => ?_
    refine .taken { run with stage } ?_ isTimed (rest isTimed domain isLeft notNext)
    exact runs ▸ Session.mem_setRun_self isRun stage
  | ends generation empty pending checking runs =>
    have finished : t.session.checking.IsPending → s.checking.IsPending :=
      checking ▸ (Debouncer.isPending_finish _ generation).mpr
    refine awaited.apart rfl pending finished others (by simp [empty]) unclaimed fun _ isLeft => ?_
    rw [empty] at isLeft
    cases isLeft

theorem resume (awaited : Awaited t domain) {n : Nat} {call : Call} (isCall : t.calls[n]? = some call) :
    Awaited (t.resume n call) domain := by
  have calls (differs : .requested domain ≠ call) (goesOn : .requested domain ∈ t.calls) :
      .requested domain ∈ (t.resume n call).calls := mem_calls_resume isCall goesOn differs
  cases call with
  | edited | reading => exact awaited.mono id id (fun _ => id) (calls (by simp))
  | requesting other =>
    exact awaited.mono (fun waits => Session.mem_insertPending_of_mem waits other) id (fun _ => id) (calls (by simp))
  | requested other =>
    -- the timer is set, whoever had queued the domain
    have waiting (waits : domain ∈ t.session.pending) : Awaited (t.resume n (.requested other)) domain :=
      .waiting waits (Debouncer.isPending_schedule _ _ _)
    cases awaited with
    | waiting waits _ => exact waiting waits
    | started waits _ _ _ => exact waiting waits
    | requested waits _ => exact waiting waits
    | taken run goesOn isTimed isLeft => exact .taken run goesOn isTimed isLeft
    | claimed run goesOn isAsked isNext => exact .claimed run goesOn isAsked isNext
  | claiming other =>
    have runs : ∀ run ∈ t.session.runs, run ∈ (t.resume n (.claiming other)).session.runs :=
      fun run isRun => List.mem_append_left _ isRun
    by_cases same : domain = other
    · subst same
      exact .claimed _ (List.mem_append_right _ (List.mem_singleton_self _)) rfl rfl
    · refine awaited.mono (fun waits => List.mem_filter.mpr ⟨waits, ?_⟩) id runs (calls (by simp))
      simpa using same

theorem starts (awaited : Awaited t domain) (timer : Timer Nat) (checking : Debouncer Nat) :
    Awaited { t with session := Session.addRun { t.session with checking } (some timer.generation) .started }
      domain := by
  have isNew : ⟨t.session.nextTicket, some timer.generation, .started⟩ ∈ t.session.runs ++
      [⟨t.session.nextTicket, some timer.generation, .started⟩] := List.mem_append_right _ (List.mem_singleton_self _)
  -- what waits is for the run that begins now
  cases awaited with
  | waiting waits _ => exact .started waits _ isNew rfl
  | started waits _ _ _ => exact .started waits _ isNew rfl
  | requested waits _ => exact .started waits _ isNew rfl
  | taken run goesOn isTimed isLeft => exact .taken run (List.mem_append_left _ goesOn) isTimed isLeft
  | claimed run goesOn isAsked isNext => exact .claimed run (List.mem_append_left _ goesOn) isAsked isNext

theorem apply (awaited : Awaited t domain) (validating : Validating t) {step : Step}
    (uncollected : t.collects step ≠ some domain) : Awaited (t.apply step) domain := by
  have outcome := t.outcome_apply step
  generalize t.apply step = t' at outcome
  cases outcome with
  | idle => exact awaited
  | puts | parses | begins | lapses | takes | installs | removes | awaits => exact awaited.mono id id (fun _ => id) id
  | edits | asks => exact awaited.mono id id (fun _ => id) (List.mem_append_left _)
  | resumes n call isCall => exact awaited.resume isCall
  | starts timer => exact awaited.starts timer _
  | passes timer stale => exact awaited.mono id (fun pending => pending.expire stale) (fun _ => id) id
  | validates ticket run found s stepped =>
    rw [collects, if_pos validating.configured, found] at uncollected
    exact awaited.moves validating (List.mem_of_find?_eq_some found) uncollected (.stepRun? stepped)
  | answers ticket run isRun call rest isCalling =>
    exact awaited.moves validating isRun (by simp [isCalling, ValidationStage.next?]) (.endCall isCalling)

theorem go (awaited : Awaited t domain) (validating : Validating t) {steps : List Step}
    (uncollected : t.neverCollects domain steps = true) : Awaited (t.go steps) domain := by
  induction steps generalizing t with
  | nil => exact awaited
  | cons step rest ih =>
    rw [neverCollects, Bool.and_eq_true, bne_iff_ne] at uncollected
    exact ih (awaited.apply validating uncollected.1) (validating.apply step) uncollected.2

end Awaited

/-- Once a call has queued a domain, the domain is not forgotten until its texts are collected, however calls,
timers, runs and answers follow one another. -/
theorem request_is_awaited (settings : Settings) (host : Host) (network : Network) (validator : Validator)
    (earlier later : List Step) (n : Nat) (domain : Uri)
    (requested : (run settings host network validator earlier).calls[n]? = some (.requesting domain))
    (uncollected :
      (run settings host network validator (earlier ++ [.resume n])).neverCollects domain later = true) :
    (run settings host network validator (earlier ++ .resume n :: later)).Awaited domain := by
  have isResumed : (run settings host network validator earlier).apply (.resume n) =
      (run settings host network validator earlier).resume n (.requesting domain) := by
    rw [apply, requested, Option.elim_some]
  have validating := (Validating.run settings host network validator earlier).apply (.resume n)
  rw [run_append] at uncollected ⊢
  refine Awaited.go ?_ validating uncollected
  rw [isResumed]
  obtain ⟨bound, _⟩ := List.getElem?_eq_some_iff.mp requested
  exact .requested (Session.mem_insertPending domain _) (List.mem_set bound _)

theorem request_is_awaited_claimed :
    let host : Host := fun _ => .error (.path .missing)
    let validator : Validator := fun _ network => (⟨0, .ok ∅⟩, network)
    let uri : Uri := { scheme := "file", authority := some {}, path := "/w/d.pddl" }
    let stored : List Step := [.read ⟨uri, 1, "(define (domain a))".toList⟩, .resume 0]
    let earlier := stored ++ [.request uri]
    let later : List Step := [.resume 0, .expireChecking ⟨1, 1000, 0⟩, .claim uri, .resume 0, .validate 1, .validate 1]
    (run {} host .offline validator (earlier ++ .resume 0 :: later)).session.runs.map (·.ticket) = [2] ∧
      (run {} host .offline validator (earlier ++ .resume 0 :: later)).Awaited uri := by
  intro host validator uri stored earlier later
  refine ⟨by decide +kernel, request_is_awaited {} host .offline validator earlier later 0 uri ?_ ?_⟩
  · have found : (run {} host .offline validator stored).session.requestedDomain? uri = some uri := by decide +kernel
    have quiet : (run {} host .offline validator stored).calls = [] := List.isEmpty_iff.mp (by decide +kernel)
    rw [run_append]
    simp only [go, List.foldl_cons, List.foldl_nil, apply, found, Option.elim_some, addCall, quiet]
    rfl
  · decide +kernel

end Traffic
end PddlAssist
