import PddlAssist.Proofs.Session.Traffic

namespace PddlAssist.Session

def LeadsTo (s s' : Session) : Prop := ∃ steps, Traffic.go ⟨s, []⟩ steps = ⟨s', []⟩

namespace LeadsTo

theorem refl (s : Session) : LeadsTo s s := ⟨[], rfl⟩

theorem trans {s s' s'' : Session} (first : LeadsTo s s') (second : LeadsTo s' s'') : LeadsTo s s'' := by
  obtain ⟨earlier, first⟩ := first
  obtain ⟨later, second⟩ := second
  exact ⟨earlier ++ later, by rw [Traffic.go_append, first, second]⟩

theorem ticketed {s s' : Session} (leads : LeadsTo s s') (ticketed : Ticketed s) : Ticketed s' := by
  obtain ⟨steps, leads⟩ := leads
  have kept : ∀ t : Traffic, t.session.Ticketed → (t.go steps).session.Ticketed := by
    clear leads
    induction steps with
    | nil => exact fun _ => id
    | cons step rest ih => exact fun t ticketed => ih (t.apply step) (Traffic.ticketed_apply ticketed step)
  simpa only [leads] using kept ⟨s, []⟩ ticketed

end LeadsTo

theorem remove_leadsTo (s : Session) (uri : Uri) : LeadsTo s (s.remove uri).2 := ⟨[.remove uri], rfl⟩

theorem upsertNow_leadsTo (s : Session) (uri : Uri) (version : Int) (text : List Char) :
    LeadsTo s (s.upsertNow uri version text).2 := by
  refine ⟨[.read ⟨uri, version, text⟩, .resume 0], ?_⟩
  simp only [Traffic.go, List.foldl_cons, List.foldl_nil, Traffic.apply, Traffic.read, upsertNow]
  split <;> rfl

theorem edit_leadsTo (s : Session) (uri : Uri) (version : Int) (text : List Char) :
    LeadsTo s (s.edit uri version text).2 := by
  unfold edit
  split
  · refine ⟨[.edit ⟨uri, version, text⟩, .resume 0], ?_⟩
    simp only [Traffic.go, List.foldl_cons, List.foldl_nil, Traffic.apply, Traffic.edit]
    split <;> rfl
  · exact upsertNow_leadsTo s uri version text

theorem scheduleValidation_leadsTo (s : Session) (uri : Uri) : LeadsTo s (s.scheduleValidation uri) := by
  refine ⟨[.request uri, .resume 0, .resume 0], ?_⟩
  simp only [Traffic.go, List.foldl_cons, List.foldl_nil, Traffic.apply, scheduleValidation]
  cases s.requestedDomain? uri <;> rfl

theorem beginValidation_leadsTo {s : Session} {uri domain : Uri} (found : bundleDomain? s.workspace uri = some domain) :
    LeadsTo s (s.beginValidation uri) := by
  refine ⟨[.claim uri, .resume 0], ?_⟩
  simp only [Traffic.go, List.foldl_cons, List.foldl_nil, Traffic.apply, beginValidation, found]
  rfl

theorem find?_ticket {α : Type} {bearers : List α} {ticket : α → Nat} (distinct : (bearers.map ticket).Nodup)
    {bearer : α} (member : bearer ∈ bearers) : bearers.find? (ticket · == ticket bearer) = some bearer := by
  cases found : bearers.find? (ticket · == ticket bearer) with
  | none => simpa using List.find?_eq_none.mp found bearer member
  | some other =>
    have same : ticket other = ticket bearer := by simpa using List.find?_some found
    rw [List.inj_on_of_nodup_map distinct (List.mem_of_find?_eq_some found) member same]

theorem reparse_leadsTo {s : Session} (ticketed : Ticketed s) {task : Reparse} (isTask : task ∈ s.reparses) :
    LeadsTo s (if task.texts.isNone then s.takeTexts task.ticket else (s.installTexts task.ticket).2) := by
  refine ⟨[.reparse task.ticket], ?_⟩
  simp only [Traffic.go, List.foldl_cons, List.foldl_nil, Traffic.apply, find?_ticket ticketed.reparses.1 isTask,
    Option.elim_some, Traffic.reparse]

theorem parseNow_leadsTo {s : Session} (ticketed : Ticketed s) : LeadsTo s s.parseNow.2 := by
  have begins : LeadsTo s s.beginParse := ⟨[.parse], rfl⟩
  have isBegun : ⟨s.nextTicket, none, none⟩ ∈ s.beginParse.reparses :=
    List.mem_append_right _ (List.mem_singleton_self _)
  have takes := begins.trans (reparse_leadsTo (begins.ticketed ticketed) isBegun)
  have isTaken : ⟨s.nextTicket, none, some (s.workspace.reader, s.workspace.dirtyFiles)⟩ ∈
      (s.beginParse.takeTexts s.nextTicket).reparses := List.mem_map.mpr ⟨_, isBegun, if_pos rfl⟩
  exact takes.trans (reparse_leadsTo (takes.ticketed ticketed) isTaken)

theorem nextReparse?_leadsTo {s s' : Session} (ticketed : Ticketed s) (stepped : s.nextReparse? = some s') :
    LeadsTo s s' := by
  obtain ⟨task, isFirst, rfl⟩ := Option.map_eq_some_iff.mp stepped
  exact reparse_leadsTo ticketed (List.mem_of_head? isFirst)

theorem stepRun?_leadsTo {s s' : Session} (ticketed : Ticketed s) {run : ValidationRun} (isRun : run ∈ s.runs)
    (stepped : s.stepRun? run = some s') : LeadsTo s s' := by
  refine ⟨[.validate run.ticket], ?_⟩
  simp only [Traffic.go, List.foldl_cons, List.foldl_nil, Traffic.apply, find?_ticket ticketed.runs.1 isRun,
    Option.bind_some, stepped, Option.getD_some]

theorem Due.mem_of_first? {dues : List Due} {due : Due} (isFirst : Due.first? dues = some due) : due ∈ dues := by
  -- the best so far is one of those that were seen
  have among : due ∈ (none : Option Due).toList ++ dues := by
    unfold Due.first? at isFirst
    generalize (none : Option Due) = best at isFirst ⊢
    induction dues generalizing best with
    | nil =>
      have isBest : best = some due := isFirst
      simp [isBest]
    | cons next rest ih =>
      have member := ih _ isFirst
      cases best with
      | none => simpa using member
      | some other =>
        simp only at member
        split at member <;> simp at member ⊢ <;> tauto
  simpa using among

theorem due_leadsTo {s : Session} (ticketed : Ticketed s) {due : Due} (isDue : due ∈ s.dues) :
    LeadsTo s (due.event { s with now := due.moment }) := by
  have waited : LeadsTo s { s with now := due.moment } := ⟨[.await due.moment], rfl⟩
  refine waited.trans ?_
  simp only [dues, List.mem_append, List.mem_map, List.mem_filterMap] at isDue
  rcases isDue with (⟨timer, waits, rfl⟩ | ⟨timer, waits, rfl⟩) | ⟨run, isRun, isCalling⟩
  · refine ⟨[.expireParsing timer], ?_⟩
    simp only [Traffic.go, List.foldl_cons, List.foldl_nil, Traffic.apply, waits, if_true]
  · refine ⟨[.expireChecking timer], ?_⟩
    simp only [Traffic.go, List.foldl_cons, List.foldl_nil, Traffic.apply, waits, if_true]
  · split at isCalling
    · rename_i call rest isStage
      cases isCalling
      refine ⟨[.answer run.ticket], ?_⟩
      simp only [Traffic.go, List.foldl_cons, List.foldl_nil, Traffic.apply, find?_ticket ticketed.runs.1 isRun,
        Option.elim_some, Traffic.answer, isStage]
    · cases isCalling

theorem tick?_leadsTo {s s' : Session} (ticketed : Ticketed s) {limit : Nat} (ticked : s.tick? limit = some s') :
    LeadsTo s s' := by
  unfold tick? at ticked
  split at ticked
  · rename_i next isNext
    cases ticked
    rcases Option.or_eq_some_iff.mp isNext with reparsed | ⟨_, stepped⟩
    · exact nextReparse?_leadsTo ticketed reparsed
    · obtain ⟨run, isRun, stepped⟩ := List.exists_of_findSome?_eq_some stepped
      exact stepRun?_leadsTo ticketed isRun stepped
  · split at ticked
    · rename_i due isFirst
      split at ticked
      · cases ticked
        exact due_leadsTo ticketed (Due.mem_of_first? isFirst)
      · cases ticked
    · cases ticked

theorem runUntil_leadsTo {s : Session} (ticketed : Ticketed s) (limit fuel : Nat) :
    LeadsTo s (s.runUntil limit fuel) := by
  induction fuel generalizing s with
  | zero => exact .refl s
  | succ fuel ih =>
    rw [runUntil]
    split
    · rename_i next ticked
      have first := tick?_leadsTo ticketed ticked
      exact first.trans (ih (first.ticketed ticketed))
    · exact .refl s

theorem advance_leadsTo {s : Session} (ticketed : Ticketed s) (milliseconds : Nat) :
    LeadsTo s (s.advance milliseconds) :=
  (runUntil_leadsTo ticketed _ _).trans ⟨[.await (s.now + milliseconds)], rfl⟩

inductive Input where
  | edit (snapshot : Snapshot)
  | read (snapshot : Snapshot)
  | parse
  | remove (uri : Uri)
  | request (uri : Uri)
  | validate (uri : Uri)
  | advance (milliseconds : Nat)

def Input.handle (s : Session) : Input → Session
  | .edit ⟨uri, version, text⟩ => (s.edit uri version text).2
  | .read ⟨uri, version, text⟩ => (s.upsertNow uri version text).2
  | .parse => s.parseNow.2
  | .remove uri => (s.remove uri).2
  | .request uri => s.scheduleValidation uri
  | .validate uri => if (bundleDomain? s.workspace uri).isSome then s.beginValidation uri else s
  | .advance milliseconds => s.advance milliseconds

theorem Input.handle_leadsTo {s : Session} (ticketed : Ticketed s) (input : Input) : LeadsTo s (input.handle s) := by
  cases input with
  | edit snapshot => exact s.edit_leadsTo _ _ _
  | read snapshot => exact s.upsertNow_leadsTo _ _ _
  | parse => exact parseNow_leadsTo ticketed
  | remove uri => exact s.remove_leadsTo uri
  | request uri => exact s.scheduleValidation_leadsTo uri
  | validate uri =>
    simp only [handle]
    split
    · rename_i isBound
      obtain ⟨domain, found⟩ := Option.isSome_iff_exists.mp isBound
      exact beginValidation_leadsTo found
    · exact .refl s
  | advance milliseconds => exact advance_leadsTo ticketed milliseconds

theorem handle_is_run (settings : Settings) (host : Host) (network : Network) (validator : Option Validator)
    (inputs : List Input) : ∃ steps, Traffic.run settings host network validator steps =
      { session := inputs.foldl Input.handle { Session.new settings host network with validator } } := by
  have handles (s : Session) (ticketed : Ticketed s) : LeadsTo s (inputs.foldl Input.handle s) := by
    induction inputs generalizing s with
    | nil => exact .refl s
    | cons input rest ih =>
      have first := input.handle_leadsTo ticketed
      exact first.trans (ih _ (first.ticketed ticketed))
  exact handles _ (Traffic.Sound.start settings host network validator).ticketed

end PddlAssist.Session
