import PddlAssist.Proofs.Session.Course

namespace PddlAssist

open Workspace (Revision)

namespace Session

def inFlight (s : Session) : List Snapshot := s.reparses.flatMap fun task => task.texts.elim [] (·.2)

theorem mem_inFlight {s : Session} {snapshot : Snapshot} : snapshot ∈ s.inFlight ↔
    ∃ task ∈ s.reparses, ∃ reader texts, task.texts = some (reader, texts) ∧ snapshot ∈ texts := by
  constructor
  · intro member
    obtain ⟨task, isTask, isText⟩ := List.mem_flatMap.mp member
    cases taken : task.texts with
    | none =>
      rw [taken] at isText
      cases isText
    | some texts =>
      rw [taken] at isText
      exact ⟨task, isTask, texts.1, texts.2, taken, isText⟩
  · rintro ⟨task, isTask, reader, texts, taken, isText⟩
    exact List.mem_flatMap.mpr ⟨task, isTask, by rw [taken]; exact isText⟩

/-- One of the texts comes back, or validation changes the status of files. -/
inductive Homecoming (texts : List Snapshot) : Workspace.Operation → Prop where
  | text (reader : FileReader) {snapshot : Snapshot} (isFlying : snapshot ∈ texts) :
    Homecoming texts (.install reader snapshot.uri snapshot.version snapshot.text)
  | status (bundle : ValidationBundle) (progress : Workspace.Progress) : Homecoming texts (.validate bundle progress)

/-- What a session does by itself. -/
structure Proceeds (s s' : Session) : Prop where
  flight : ∀ snapshot ∈ s'.inFlight, snapshot ∈ s.inFlight ∨ snapshot ∈ s.workspace.dirtyFiles
  workspace : ∃ operations, (∀ operation ∈ operations, Homecoming s.inFlight operation) ∧
    s'.workspace = s.workspace.run operations

namespace Proceeds

theorem aside {s s' : Session} (flight : ∀ snapshot ∈ s'.inFlight, snapshot ∈ s.inFlight)
    (same : s'.workspace = s.workspace) : s.Proceeds s' :=
  ⟨fun snapshot member => .inl (flight snapshot member), [], by simp, same⟩

theorem readsAs {s s' : Session} (same : s.ReadsAs s') : s.Proceeds s' := by
  have flight : s'.inFlight = s.inFlight := by simp only [inFlight, same.reparses]
  refine ⟨fun snapshot member => .inl (flight ▸ member), ?_⟩
  rcases same.workspace with stays | ⟨bundle, progress, changes⟩
  · exact ⟨[], by simp, stays⟩
  · exact ⟨[.validate bundle progress], by simpa using .status bundle progress, changes⟩

theorem takeTexts (s : Session) (ticket : Nat) : s.Proceeds (s.takeTexts ticket) := by
  refine ⟨fun snapshot member => ?_, [], by simp, rfl⟩
  obtain ⟨task, isTask, reader, texts, taken, isText⟩ := mem_inFlight.mp member
  obtain ⟨old, isOld, rfl⟩ := List.mem_map.mp isTask
  split at taken
  · cases taken
    exact .inr isText
  · exact .inl (mem_inFlight.mpr ⟨old, isOld, reader, texts, taken, isText⟩)

theorem installTexts (s : Session) (ticket : Nat) : s.Proceeds (s.installTexts ticket).2 := by
  unfold Session.installTexts
  split
  · exact aside (fun _ => id) rfl
  · rename_i task found
    have isTask := List.mem_of_find?_eq_some found
    have fewer : ∀ snapshot ∈ (s.reparses.filter (·.ticket != ticket)).flatMap (fun task => task.texts.elim [] (·.2)),
        snapshot ∈ s.inFlight := fun snapshot member => by
      obtain ⟨other, isOther, isText⟩ := List.mem_flatMap.mp member
      exact List.mem_flatMap.mpr ⟨other, (List.mem_filter.mp isOther).1, isText⟩
    refine ⟨fun snapshot member => .inl (fewer snapshot member), ?_⟩
    cases taken : task.texts with
    | none => exact ⟨[], by simp, rfl⟩
    | some texts =>
      refine ⟨texts.2.map fun snapshot => .install texts.1 snapshot.uri snapshot.version snapshot.text, ?_, ?_⟩
      · intro operation member
        obtain ⟨snapshot, isText, rfl⟩ := List.mem_map.mp member
        exact .text texts.1 (mem_inFlight.mpr ⟨task, isTask, texts.1, texts.2, taken, isText⟩)
      · rw [Workspace.run_install]
        rfl

theorem addReparse {s s' : Session} (reparses : s'.reparses = s.reparses) (workspace : s'.workspace = s.workspace)
    (generation : Option Nat) : s.Proceeds (s'.addReparse generation) := by
  refine aside (fun snapshot member => ?_) workspace
  simpa [Session.inFlight, Session.addReparse, reparses] using member

theorem beginParse (s : Session) : s.Proceeds s.beginParse := by
  unfold Session.beginParse
  apply addReparse <;> rfl

theorem nextReparse? {s s' : Session} (stepped : s.nextReparse? = some s') : s.Proceeds s' := by
  obtain ⟨task, _, rfl⟩ := Option.map_eq_some_iff.mp stepped
  split
  · exact takeTexts s task.ticket
  · exact installTexts s task.ticket

theorem due {s : Session} {due : Due} (isDue : due ∈ s.dues) :
    s.Proceeds (due.event { s with now := due.moment }) := by
  simp only [dues, List.mem_append, List.mem_map, List.mem_filterMap] at isDue
  rcases isDue with (⟨timer, _, rfl⟩ | ⟨timer, _, rfl⟩) | ⟨run, _, isCalling⟩
  · simp only [expireParsing]
    split
    · exact aside (fun _ => id) rfl
    · apply addReparse <;> rfl
  · simp only [expireChecking]
    split <;> exact aside (fun _ => id) rfl
  · split at isCalling
    · rename_i call rest _
      cases isCalling
      have ends := ReadsAs.endCall { s with now := call.due } run call rest
      exact ⟨(readsAs ends).flight, (readsAs ends).workspace⟩
    · cases isCalling

theorem tick? {s s' : Session} {limit : Nat} (ticked : s.tick? limit = some s') : s.Proceeds s' := by
  unfold Session.tick? at ticked
  split at ticked
  · rename_i next isNext
    cases ticked
    rcases Option.or_eq_some_iff.mp isNext with reparsed | ⟨_, stepped⟩
    · exact nextReparse? reparsed
    · obtain ⟨run, _, stepped⟩ := List.exists_of_findSome?_eq_some stepped
      exact readsAs (.stepRun? stepped)
  · split at ticked
    · rename_i next isFirst
      split at ticked
      · cases ticked
        exact due (Due.mem_of_first? isFirst)
      · cases ticked
    · cases ticked

theorem revision? {s s' : Session} (proceeds : s.Proceeds s') (orderly : s.workspace.Orderly) {uri : Uri}
    {held : Revision} (isHeld : s.workspace.revision? uri.key = some held) :
    s'.workspace.revision? uri.key = some held ∨ ∃ snapshot ∈ s.inFlight, snapshot.uri.key = uri.key ∧
      held.version < snapshot.version ∧ s'.workspace.revision? uri.key = some ⟨snapshot.version, snapshot.text⟩ := by
  obtain ⟨operations, homecoming, isRun⟩ := proceeds.workspace
  have kept : ∀ operation ∈ operations, operation.removes uri = false := fun operation member => by
    cases homecoming operation member <;> rfl
  rw [isRun, orderly.revision?_run kept, isHeld]
  refine (Revision.foldl_supersede_cases held _).imp_right ?_
  rintro ⟨r, arrived, newer, isNewest⟩
  obtain ⟨operation, member, isSubmitted⟩ := List.mem_filterMap.mp arrived
  cases homecoming operation member with
  | status => cases isSubmitted
  | text reader isFlying =>
    simp only [Workspace.Operation.submission?, Option.ite_none_right_eq_some, Option.some.injEq] at isSubmitted
    obtain ⟨sameKey, rfl⟩ := isSubmitted
    exact ⟨_, isFlying, sameKey, newer, isNewest⟩

end Proceeds

end Session
end PddlAssist
