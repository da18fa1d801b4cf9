import PddlAssist.Proofs.Debouncer.Start
import PddlAssist.Proofs.Session.Interleaving
import PddlAssist.Proofs.Workspace.Snapshot
import PddlAssist.Session.Clock

namespace PddlAssist

/-- A call that has done a part of its work. -/
inductive Call where
  /-- A text was taken, and its reading has still to be scheduled. -/
  | edited (snapshot : Snapshot)
  /-- A text is being read and has still to be stored. -/
  | reading (reader : FileReader) (snapshot : Snapshot)
  /-- A domain was found and has still to be queued. -/
  | requesting (domain : Uri)
  /-- A domain was queued, and the timer has still to be set. -/
  | requested (domain : Uri)
  /-- A domain was found, and somebody is going to validate it at once. -/
  | claiming (domain : Uri)

structure Traffic where
  session : Session
  calls : List Call := []

namespace Traffic

inductive Step where
  | edit (snapshot : Snapshot)
  | read (snapshot : Snapshot)
  | request (uri : Uri)
  | claim (uri : Uri)
  | resume (n : Nat)
  | parse
  | expireParsing (timer : Timer Nat)
  | reparse (ticket : Nat)
  | expireChecking (timer : Timer Nat)
  | validate (ticket : Nat)
  | answer (ticket : Nat)
  | remove (uri : Uri)
  | await (moment : Nat)

def addCall (t : Traffic) (call : Call) : Traffic := { t with calls := t.calls ++ [call] }

def setWorkspace (t : Traffic) (workspace : Workspace) : Traffic :=
  { t with session := { t.session with workspace } }

def edit (t : Traffic) (snapshot : Snapshot) : Traffic :=
  let (outcome, workspace) := t.session.workspace.upsert snapshot.uri snapshot.version snapshot.text
  if outcome = .updated then (t.setWorkspace workspace).addCall (.edited snapshot) else t.setWorkspace workspace

/-- A text that is out of date is not even read. -/
def read (t : Traffic) (snapshot : Snapshot) : Traffic :=
  if (t.session.workspace.find? snapshot.uri).any fun current => snapshot.version ≤ current.version then t
  else t.addCall (.reading t.session.workspace.reader snapshot)

def resume (t : Traffic) (n : Nat) : Call → Traffic
  | .edited _ => { session := t.session.scheduleReparse, calls := t.calls.eraseIdx n }
  | .reading reader snapshot =>
    let workspace := (t.session.workspace.install (Workspace.Snapshot.read reader snapshot)).2
    { t.setWorkspace workspace with calls := t.calls.eraseIdx n }
  | .requesting domain => { session := t.session.queueDomain domain, calls := t.calls.set n (.requested domain) }
  | .requested _ => { session := t.session.restartChecking, calls := t.calls.eraseIdx n }
  | .claiming domain => { session := t.session.claimDomain domain, calls := t.calls.eraseIdx n }

def reparse (s : Session) (task : Reparse) : Session :=
  if task.texts.isNone then s.takeTexts task.ticket else (s.installTexts task.ticket).2

def answer (s : Session) (run : ValidationRun) : Session :=
  match run.stage with
  | .calling call rest => s.endCall run call rest
  | _ => s

def apply (t : Traffic) : Step → Traffic
  | .edit snapshot => t.edit snapshot
  | .read snapshot => t.read snapshot
  | .request uri => (t.session.requestedDomain? uri).elim t fun domain => t.addCall (.requesting domain)
  | .claim uri => (Session.bundleDomain? t.session.workspace uri).elim t fun domain => t.addCall (.claiming domain)
  | .resume n => (t.calls[n]?).elim t (t.resume n)
  | .parse => { t with session := t.session.beginParse }
  | .expireParsing timer =>
    if timer ∈ t.session.parsing.waiting then { t with session := t.session.expireParsing timer } else t
  | .reparse ticket =>
    { t with session := (t.session.reparses.find? (·.ticket == ticket)).elim t.session (reparse t.session) }
  | .expireChecking timer =>
    if timer ∈ t.session.checking.waiting then { t with session := t.session.expireChecking timer } else t
  | .validate ticket =>
    { t with session := ((t.session.runs.find? (·.ticket == ticket)).bind t.session.stepRun?).getD t.session }
  | .answer ticket =>
    { t with session := (t.session.runs.find? (·.ticket == ticket)).elim t.session (answer t.session) }
  | .remove uri => { t with session := (t.session.remove uri).2 }
  | .await moment => { t with session := { t.session with now := moment } }

def go (t : Traffic) (steps : List Step) : Traffic := steps.foldl apply t

def run (settings : Settings) (host : Host) (network : Network) (validator : Option Validator) (steps : List Step) :
    Traffic := go { session := { Session.new settings host network with validator } } steps

theorem go_append (t : Traffic) (earlier later : List Step) :
    t.go (earlier ++ later) = (t.go earlier).go later := List.foldl_append

theorem run_append (settings : Settings) (host : Host) (network : Network) (validator : Option Validator)
    (earlier later : List Step) : run settings host network validator (earlier ++ later) =
      (run settings host network validator earlier).go later := List.foldl_append

theorem mem_calls_resume {t : Traffic} {n : Nat} {call other : Call} (isCall : t.calls[n]? = some call)
    (member : other ∈ t.calls) (differs : other ≠ call) : other ∈ (t.resume n call).calls := by
  obtain ⟨i, isOther⟩ := List.mem_iff_getElem?.mp member
  have apart : i ≠ n := by
    rintro rfl
    rw [isCall, Option.some.injEq] at isOther
    exact differs isOther.symm
  cases call with
  | edited | reading | requested | claiming => exact List.mem_eraseIdx_iff_getElem?.mpr ⟨i, apart, isOther⟩
  | requesting domain =>
    refine List.mem_iff_getElem?.mpr ⟨i, ?_⟩
    rw [resume, List.getElem?_set_ne apart.symm, isOther]

end Traffic

namespace Workspace

/-- Files change in these ways when readings arrive and validation goes on. -/
def Operation.isSettling : Operation → Bool
  | install .. | validate .. => true
  | _ => false

def SettlesTo (w w' : Workspace) : Prop :=
  ∃ operations : List Operation, (∀ operation ∈ operations, operation.isSettling = true) ∧ w' = w.run operations

theorem SettlesTo.refl (w : Workspace) : SettlesTo w w := ⟨[], by simp, rfl⟩

theorem SettlesTo.single (w : Workspace) (operation : Operation) (settles : operation.isSettling = true) :
    SettlesTo w (operation.apply w) := ⟨[operation], by simpa using settles, rfl⟩

theorem run_install (w : Workspace) (reader : FileReader) (texts : List Snapshot) :
    w.run (texts.map fun snapshot => .install reader snapshot.uri snapshot.version snapshot.text) =
      (w.installAll (texts.map (Snapshot.read reader))).2 := by
  induction texts generalizing w with
  | nil => rfl
  | cons snapshot rest ih => exact ih (w.install (Snapshot.read reader snapshot)).2

end Workspace

/-- Tickets that were given out, each to one bearer. -/
def Numbered (tickets : List Nat) (next : Nat) : Prop := tickets.Nodup ∧ ∀ ticket ∈ tickets, ticket < next

namespace Numbered

variable {tickets : List Nat} {next : Nat}

theorem later (numbered : Numbered tickets next) {next' : Nat} (le : next ≤ next') : Numbered tickets next' :=
  ⟨numbered.1, fun ticket member => Nat.lt_of_lt_of_le (numbered.2 ticket member) le⟩

theorem sublist (numbered : Numbered tickets next) {fewer : List Nat} (isSublist : fewer.Sublist tickets) :
    Numbered fewer next :=
  ⟨isSublist.nodup numbered.1, fun ticket member => numbered.2 ticket (isSublist.subset member)⟩

theorem snoc (numbered : Numbered tickets next) : Numbered (tickets ++ [next]) (next + 1) := by
  constructor
  · rw [List.nodup_append]
    refine ⟨numbered.1, List.nodup_singleton _, ?_⟩
    intro ticket member other isNext
    rw [List.mem_singleton] at isNext
    have less := numbered.2 ticket member
    omega
  · intro ticket member
    rcases List.mem_append.mp member with old | new
    · exact Nat.lt_succ_of_lt (numbered.2 ticket old)
    · rw [List.mem_singleton.mp new]
      exact Nat.lt_succ_self next

end Numbered

namespace Session

structure Ticketed (s : Session) : Prop where
  reparses : Numbered (s.reparses.map (·.ticket)) s.nextTicket
  runs : Numbered (s.runs.map (·.ticket)) s.nextTicket

theorem setRun_tickets (s : Session) (run : ValidationRun) :
    (s.setRun run).runs.map (·.ticket) = s.runs.map (·.ticket) := by
  simp only [setRun, List.map_map]
  apply List.map_congr_left
  intro other _
  simp only [Function.comp_apply]
  split
  · rename_i same
    exact same.symm
  · rfl

theorem takeTexts_tickets (s : Session) (ticket : Nat) :
    (s.takeTexts ticket).reparses.map (·.ticket) = s.reparses.map (·.ticket) := by
  simp only [takeTexts, List.map_map]
  apply List.map_congr_left
  intro task _
  simp only [Function.comp_apply]
  split <;> rfl

theorem installTexts_eq {s : Session} {ticket : Nat} {task : Reparse} {reader : FileReader} {texts : List Snapshot}
    (found : s.reparses.find? (·.ticket == ticket) = some task) (taken : task.texts = some (reader, texts)) :
    (s.installTexts ticket).2 = { s with
      workspace := (s.workspace.installAll (texts.map (Workspace.Snapshot.read reader))).2
      reparses := s.reparses.filter (·.ticket != ticket)
      parsing := task.generation.elim s.parsing s.parsing.finish } := by
  simp only [installTexts, found, taken, Option.elim_some]

structure ReadsAs (s s' : Session) : Prop where
  parsing : s'.parsing = s.parsing
  reparses : s'.reparses = s.reparses
  later : s.nextTicket ≤ s'.nextTicket
  validator : s'.validator = s.validator
  workspace : s'.workspace = s.workspace ∨
    ∃ bundle progress, s'.workspace = (Workspace.Operation.validate bundle progress).apply s.workspace
  tickets : (s'.runs.map (·.ticket)).Sublist (s.runs.map (·.ticket))

namespace ReadsAs

theorem refl (s : Session) : ReadsAs s s := ⟨rfl, rfl, Nat.le_refl _, rfl, .inl rfl, List.Sublist.refl _⟩

theorem setRun {s s' : Session} (same : ReadsAs s s') (run : ValidationRun) : ReadsAs s (s'.setRun run) :=
  ⟨same.parsing, same.reparses, same.later, same.validator, same.workspace, by rw [setRun_tickets]; exact same.tickets⟩

theorem fail {s s' : Session} (same : ReadsAs s s') (run : ValidationRun) (domain : Uri) (e : ValidationError)
    (rest : List Uri) : ReadsAs s (s'.fail run domain e rest) := by
  unfold Session.fail
  split
  · refine setRun ?_ _
    exact ⟨same.parsing, same.reparses, same.later, same.validator, same.workspace, same.tickets⟩
  · exact same.setRun _

theorem beginNext (s : Session) (run : ValidationRun) (domains : List Uri) : ReadsAs s (s.beginNext run domains) := by
  unfold Session.beginNext
  split
  · split
    · exact { refl s with tickets := List.filter_sublist.map _ }
    · exact (refl s).setRun _
  · split
    · exact (refl s).fail _ _ _ _
    · exact (refl s).setRun _
    · exact (refl s).setRun _

theorem beginCall (s : Session) (run : ValidationRun) (validator : Validator) (domain : Uri)
    (bundle : ValidationBundle) (rest : List Uri) : ReadsAs s (s.beginCall run validator domain bundle rest) := by
  refine setRun ?_ _
  exact { refl s with later := Nat.le_succ _, workspace := .inr ⟨bundle, .begun, rfl⟩ }

theorem endCall (s : Session) (run : ValidationRun) (call : ValidationCall) (rest : List Uri) :
    ReadsAs s (s.endCall run call rest) := by
  unfold Session.endCall
  split
  · refine setRun ?_ _
    exact { refl s with workspace := .inr ⟨call.bundle, .succeeded, rfl⟩ }
  · refine fail ?_ _ _ _ _
    exact { refl s with workspace := .inr ⟨call.bundle, .failed, rfl⟩ }

theorem stepRun? {s s' : Session} {run : ValidationRun} (stepped : s.stepRun? run = some s') : ReadsAs s s' := by
  unfold Session.stepRun? at stepped
  split at stepped
  · cases stepped
    refine setRun ?_ _
    exact ⟨rfl, rfl, Nat.le_refl _, rfl, .inl rfl, List.Sublist.refl _⟩
  · cases stepped
    exact beginNext s run _
  · cases stepped
    exact beginCall s run _ _ _ _
  · cases stepped

theorem ticketed {s s' : Session} (same : ReadsAs s s') (ticketed : Ticketed s) : Ticketed s' where
  reparses := by
    rw [same.reparses]
    exact ticketed.reparses.later same.later
  runs := (ticketed.runs.later same.later).sublist same.tickets

end ReadsAs
end Session

namespace Traffic

/-- What a step can do. -/
inductive Outcome (t : Traffic) : Step → Traffic → Prop where
  | idle (step : Step) : Outcome t step t
  | puts (snapshot : Snapshot)
    (refused : (t.session.workspace.upsert snapshot.uri snapshot.version snapshot.text).1 ≠ .updated) :
    Outcome t (.edit snapshot)
      (t.setWorkspace (t.session.workspace.upsert snapshot.uri snapshot.version snapshot.text).2)
  | edits (snapshot : Snapshot)
    (updated : (t.session.workspace.upsert snapshot.uri snapshot.version snapshot.text).1 = .updated) :
    Outcome t (.edit snapshot)
      ((t.setWorkspace (t.session.workspace.upsert snapshot.uri snapshot.version snapshot.text).2).addCall
        (.edited snapshot))
  | asks (step : Step) (call : Call) : Outcome t step (t.addCall call)
  | resumes (n : Nat) (call : Call) (isCall : t.calls[n]? = some call) : Outcome t (.resume n) (t.resume n call)
  | parses : Outcome t .parse { t with session := t.session.beginParse }
  | begins (timer : Timer Nat) (current : timer.generation = t.session.parsing.generation) :
    Outcome t (.expireParsing timer)
      { t with session :=
          Session.addReparse { t.session with parsing := (t.session.parsing.expire timer).2 } timer.generation }
  | lapses (timer : Timer Nat) (stale : timer.generation ≠ t.session.parsing.generation) :
    Outcome t (.expireParsing timer)
      { t with session := { t.session with parsing := (t.session.parsing.expire timer).2 } }
  | takes (ticket : Nat) (task : Reparse) (isTask : task ∈ t.session.reparses) (isEmpty : task.texts = none) :
    Outcome t (.reparse ticket) { t with session := t.session.takeTexts task.ticket }
  | installs (ticket : Nat) (task : Reparse) (isTask : task ∈ t.session.reparses) (isTicket : task.ticket = ticket)
    (reader : FileReader) (texts : List Snapshot) (taken : task.texts = some (reader, texts)) :
    Outcome t (.reparse ticket)
      { t with session := { t.session with
          workspace := (t.session.workspace.installAll (texts.map (Workspace.Snapshot.read reader))).2
          reparses := t.session.reparses.filter (·.ticket != ticket)
          parsing := task.generation.elim t.session.parsing t.session.parsing.finish } }
  | starts (timer : Timer Nat) (current : timer.generation = t.session.checking.generation) :
    Outcome t (.expireChecking timer)
      { t with session :=
          Session.addRun { t.session with checking := (t.session.checking.expire timer).2 } timer.generation .started }
  | passes (timer : Timer Nat) (stale : timer.generation ≠ t.session.checking.generation) :
    Outcome t (.expireChecking timer)
      { t with session := { t.session with checking := (t.session.checking.expire timer).2 } }
  | validates (ticket : Nat) (run : ValidationRun) (found : t.session.runs.find? (·.ticket == ticket) = some run)
    (s : Session) (stepped : t.session.stepRun? run = some s) :
    Outcome t (.validate ticket) { t with session := s }
  | answers (ticket : Nat) (run : ValidationRun) (isRun : run ∈ t.session.runs) (call : ValidationCall)
    (rest : List Uri) (isCalling : run.stage = .calling call rest) :
    Outcome t (.answer ticket) { t with session := t.session.endCall run call rest }
  | removes (uri : Uri) : Outcome t (.remove uri) { t with session := (t.session.remove uri).2 }
  | awaits (moment : Nat) : Outcome t (.await moment) { t with session := { t.session with now := moment } }

theorem outcome_apply (t : Traffic) (step : Step) : Outcome t step (t.apply step) := by
  cases step with
  | edit snapshot =>
    simp only [apply, edit]
    split
    · rename_i updated
      exact .edits snapshot updated
    · rename_i refused
      exact .puts snapshot refused
  | read snapshot =>
    simp only [apply, read]
    split
    · exact .idle _
    · exact .asks _ _
  | request uri =>
    simp only [apply]
    cases t.session.requestedDomain? uri with
    | none => exact .idle _
    | some domain => exact .asks _ _
  | claim uri =>
    simp only [apply]
    cases Session.bundleDomain? t.session.workspace uri with
    | none => exact .idle _
    | some domain => exact .asks _ _
  | resume n =>
    simp only [apply]
    cases isCall : t.calls[n]? with
    | none => exact .idle _
    | some call => exact .resumes n call isCall
  | parse => exact .parses
  | expireParsing timer =>
    simp only [apply]
    split
    · by_cases current : timer.generation = t.session.parsing.generation
      · have begun := Outcome.begins (t := t) timer current
        simpa only [Session.expireParsing, Debouncer.expire, if_pos current] using begun
      · have lapsed := Outcome.lapses (t := t) timer current
        simpa only [Session.expireParsing, Debouncer.expire, if_neg current] using lapsed
    · exact .idle _
  | reparse ticket =>
    simp only [apply]
    cases found : t.session.reparses.find? (·.ticket == ticket) with
    | none => exact .idle _
    | some task =>
      have isTask := List.mem_of_find?_eq_some found
      have isTicket : task.ticket = ticket := by simpa using List.find?_some found
      simp only [Option.elim_some, reparse, isTicket]
      cases taken : task.texts with
      | none => exact isTicket ▸ .takes ticket task isTask taken
      | some pair =>
        rw [Session.installTexts_eq found taken]
        exact .installs ticket task isTask isTicket _ _ taken
  | expireChecking timer =>
    simp only [apply]
    split
    · by_cases current : timer.generation = t.session.checking.generation
      · have started := Outcome.starts (t := t) timer current
        simpa only [Session.expireChecking, Debouncer.expire, if_pos current] using started
      · have passed := Outcome.passes (t := t) timer current
        simpa only [Session.expireChecking, Debouncer.expire, if_neg current] using passed
    · exact .idle _
  | validate ticket =>
    simp only [apply]
    cases found : t.session.runs.find? (·.ticket == ticket) with
    | none => exact .idle _
    | some run =>
      simp only [Option.bind_some]
      cases stepped : t.session.stepRun? run with
      | none => exact .idle _
      | some s => exact .validates ticket run found s stepped
  | answer ticket =>
    simp only [apply]
    cases found : t.session.runs.find? (·.ticket == ticket) with
    | none => exact .idle _
    | some run =>
      simp only [Option.elim_some, answer]
      split
      · rename_i call rest isCalling
        exact .answers ticket run (List.mem_of_find?_eq_some found) call rest isCalling
      · exact .idle _
  | remove uri => exact .removes uri
  | await moment => exact .awaits moment

theorem settlesTo_of_readsAs {s s' : Session} (reads : s.ReadsAs s') : s.workspace.SettlesTo s'.workspace := by
  rcases reads.workspace with isSame | ⟨bundle, progress, isSame⟩
  · exact isSame ▸ .refl _
  · rw [isSame]
    exact .single _ (.validate bundle progress) rfl

/-- The workspace after a step: an edit puts in a text, files leave when they are removed, and any other step changes
files by readings and validation only. -/
theorem workspace_apply (t : Traffic) (step : Step) :
    (∃ snapshot, step = .edit snapshot ∧ (t.apply step).session.workspace =
      (t.session.workspace.upsert snapshot.uri snapshot.version snapshot.text).2) ∨
    (∃ uri, step = .remove uri ∧ (t.apply step).session.workspace = (t.session.workspace.remove uri).2) ∨
    t.session.workspace.SettlesTo (t.apply step).session.workspace := by
  have outcome := t.outcome_apply step
  generalize t.apply step = t' at outcome
  cases outcome with
  | puts snapshot => exact .inl ⟨snapshot, rfl, rfl⟩
  | edits snapshot => exact .inl ⟨snapshot, rfl, rfl⟩
  | removes uri => exact .inr (.inl ⟨uri, rfl, rfl⟩)
  | idle | asks | parses | begins | lapses | takes | starts | passes | awaits => exact .inr (.inr (.refl _))
  | resumes n call =>
    cases call with
    | edited | requesting | requested | claiming => exact .inr (.inr (.refl _))
    | reading reader snapshot =>
      exact .inr (.inr (.single _ (.install reader snapshot.uri snapshot.version snapshot.text) rfl))
  | installs ticket task isTask isTicket reader texts =>
    refine .inr (.inr ⟨texts.map fun s => .install reader s.uri s.version s.text, ?_, ?_⟩)
    · intro operation member
      obtain ⟨_, _, rfl⟩ := List.mem_map.mp member
      rfl
    · rw [Workspace.run_install]
  | validates ticket run found s stepped => exact .inr (.inr (settlesTo_of_readsAs (.stepRun? stepped)))
  | answers => exact .inr (.inr (settlesTo_of_readsAs (.endCall _ _ _ _)))

theorem validator_apply (t : Traffic) (step : Step) : (t.apply step).session.validator = t.session.validator := by
  have outcome := t.outcome_apply step
  generalize t.apply step = t' at outcome
  cases outcome with
  | idle | puts | edits | asks | parses | begins | lapses | takes | installs | starts | passes | removes | awaits =>
    rfl
  | resumes n call => cases call <;> rfl
  | validates ticket run found s stepped => exact (Session.ReadsAs.stepRun? stepped).validator
  | answers => exact (Session.ReadsAs.endCall _ _ _ _).validator

theorem ticketed_apply {t : Traffic} (ticketed : t.session.Ticketed) (step : Step) :
    (t.apply step).session.Ticketed := by
  have reparses := ticketed.reparses
  have runs := ticketed.runs
  have outcome := t.outcome_apply step
  generalize t.apply step = t' at outcome
  cases outcome with
  | idle | puts | edits | asks | lapses | passes | removes | awaits => exact ⟨reparses, runs⟩
  | resumes n call =>
    cases call with
    | edited | requested => exact ⟨reparses.later (Nat.le_succ _), runs.later (Nat.le_succ _)⟩
    | reading | requesting => exact ⟨reparses, runs⟩
    | claiming domain =>
      refine ⟨reparses.later (Nat.le_succ _), ?_⟩
      simpa [resume, Session.claimDomain, Session.addRun] using runs.snoc
  | parses | begins =>
    refine ⟨?_, runs.later (Nat.le_succ _)⟩
    simpa [Session.beginParse, Session.addReparse] using reparses.snoc
  | takes ticket task =>
    refine ⟨?_, runs⟩
    rw [Session.takeTexts_tickets]
    exact reparses
  | installs => exact ⟨reparses.sublist (List.filter_sublist.map _), runs⟩
  | starts =>
    refine ⟨reparses.later (Nat.le_succ _), ?_⟩
    simpa [Session.addRun] using runs.snoc
  | validates ticket run found s stepped => exact (Session.ReadsAs.stepRun? stepped).ticketed ticketed
  | answers => exact (Session.ReadsAs.endCall _ _ _ _).ticketed ticketed

theorem orderly_apply {t : Traffic} (orderly : t.session.workspace.Orderly) (step : Step) :
    (t.apply step).session.workspace.Orderly := by
  rcases t.workspace_apply step with ⟨snapshot, _, isSame⟩ | ⟨uri, _, isSame⟩ | ⟨operations, _, isSame⟩
  · rw [isSame]
    exact orderly.apply (.upsert snapshot.uri snapshot.version snapshot.text)
  · rw [isSame]
    exact orderly.remove uri
  · rw [isSame]
    exact orderly.run operations

structure Sound (t : Traffic) : Prop where
  orderly : t.session.workspace.Orderly
  ticketed : t.session.Ticketed

namespace Sound

theorem start (settings : Settings) (host : Host) (network : Network) (validator : Option Validator) :
    Sound { session := { Session.new settings host network with validator } } where
  orderly := .fresh _
  ticketed := ⟨⟨List.nodup_nil, by simp [Session.new]⟩, ⟨List.nodup_nil, by simp [Session.new]⟩⟩

theorem apply {t : Traffic} (sound : Sound t) (step : Step) : Sound (t.apply step) where
  orderly := orderly_apply sound.orderly step
  ticketed := ticketed_apply sound.ticketed step

theorem go {t : Traffic} (sound : Sound t) (steps : List Step) : Sound (t.go steps) := by
  induction steps generalizing t with
  | nil => exact sound
  | cons step rest ih => exact ih (sound.apply step)

theorem run (settings : Settings) (host : Host) (network : Network) (validator : Option Validator)
    (steps : List Step) : Sound (run settings host network validator steps) :=
  (start settings host network validator).go steps

end Sound

end Traffic
end PddlAssist
