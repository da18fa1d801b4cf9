import PddlAssist.Proofs.Workspace.Change

namespace PddlAssist

open Workspace (Change Orderly RelatedIn)
open SourceFile (SameReading)

structure View where
  workspace : Workspace
  telling : List Uri
  told : String × String → Option (List Diagnostic)
  limit : Nat

namespace View

def receive (v : View) (event : WorkspaceEvent) (rest : List WorkspaceEvent) : View :=
  let v := { v with workspace := { v.workspace with events := rest } }
  match event with
  | .inserted _ => v
  | .updated uri => { v with telling := (v.workspace.siblings uri).map (·.uri) }
  | .removing uri => { v with told := fun key => if uri.key = key then some [] else v.told key }

def tell (v : View) (uri : Uri) (rest : List Uri) : View :=
  { v with
    telling := rest
    told := (v.workspace.find? uri).elim v.told fun file key =>
      if file.uri.key = key then some (Diagnostic.collect v.workspace file.uri v.limit) else v.told key }

def Stays (key : String × String) (events : List WorkspaceEvent) : Prop :=
  ∀ uri, .removing uri ∈ events → uri.key ≠ key

namespace Stays

variable {key : String × String} {events news : List WorkspaceEvent}

theorem nil : Stays key [] := fun _ member => nomatch member

theorem append (stays : Stays key events) (quiet : Stays key news) : Stays key (events ++ news) := by
  intro uri member
  rcases List.mem_append.mp member with old | new
  · exact stays uri old
  · exact quiet uri new

theorem tail {event : WorkspaceEvent} (stays : Stays key (event :: events)) : Stays key events :=
  fun uri member => stays uri (List.mem_cons_of_mem _ member)

end Stays

/-- The editor knows the diagnostics of a file or is going to, unless the file is among those that were neglected. -/
inductive Heeded (neglected : String × String → Prop) (v : View) (uri : Uri) : Prop where
  | next (other : Uri) (isNext : other ∈ v.telling) (isKey : other.key = uri.key)
  | unread (file : SourceFile) (found : v.workspace.stored? file.uri.key = some file) (dirty : file.status = .dirty)
    (inFolder : file.uri.folder = uri.folder)
  | known (isTold : v.told uri.key = some (Diagnostic.collect v.workspace uri v.limit))
  | neglected (isNeglected : neglected uri.key)

/-- A file is attended to if its folder is going to be told, or if it needs not be. -/
inductive Attended (neglected : String × String → Prop) (v : View) (uri : Uri) : Prop where
  | announced (earlier later : List WorkspaceEvent) (read : Uri)
    (isNews : v.workspace.events = earlier ++ .updated read :: later) (inFolder : read.folder = uri.folder)
    (stays : Stays uri.key later)
  | heeded (stays : Stays uri.key v.workspace.events) (heeded : Heeded neglected v uri)

def Informed (neglected : String × String → Prop) (v : View) : Prop :=
  ∀ key file, v.workspace.stored? key = some file → Attended neglected v file.uri

variable {neglected neglected' : String × String → Prop} {v : View} {uri : Uri}

/-- News about other files changes nothing for a file whose folder is read as before. -/
theorem Attended.grow (attended : Attended neglected v uri) (orderly : Orderly v.workspace) {w : Workspace}
    {news : List WorkspaceEvent} (events : w.events = v.workspace.events ++ news) (quiet : Stays uri.key news)
    (same : RelatedIn SameReading uri.folder v.workspace w) : Attended neglected { v with workspace := w } uri := by
  cases attended with
  | announced earlier later read isNews inFolder stays =>
    refine .announced earlier (later ++ news) read ?_ inFolder (stays.append quiet)
    rw [events, isNews, List.append_assoc, List.cons_append]
  | heeded stays heeded =>
    refine .heeded (events ▸ stays.append quiet) ?_
    cases heeded with
    | next other isNext isKey => exact .next other isNext isKey
    | unread file found dirty inFolder =>
      have isKey : (uri.folder, file.uri.text) = file.uri.key := by rw [← inFolder]; rfl
      obtain ⟨file', found', alike⟩ := Workspace.exists_after (same file.uri.text) (isKey ▸ found)
      have sameFolder : file'.uri.folder = uri.folder := by rw [alike.uri, inFolder]
      exact .unread file' (by rw [alike.uri, ← isKey, found']) (alike.dirty dirty) sameFolder
    | known isTold =>
      refine .known ?_
      rw [Diagnostic.collect_congr orderly same]
      exact isTold
    | neglected isNeglected => exact .neglected isNeglected

theorem Informed.mono (informed : Informed neglected v) (still : ∀ key, neglected key → neglected' key) :
    Informed neglected' v := by
  intro key file found
  cases informed key file found with
  | announced earlier later read isNews inFolder stays => exact .announced earlier later read isNews inFolder stays
  | heeded stays heeded =>
    refine .heeded stays ?_
    cases heeded with
    | next other isNext isKey => exact .next other isNext isKey
    | unread file found dirty inFolder => exact .unread file found dirty inFolder
    | known isTold => exact .known isTold
    | neglected isNeglected => exact .neglected (still _ isNeglected)

theorem Informed.change (informed : Informed neglected v) (orderly : Orderly v.workspace) {w : Workspace}
    (change : Change v.workspace w) : Informed neglected { v with workspace := w } := by
  intro key file found
  cases change with
  | still same events =>
    obtain ⟨old, isOld, alike⟩ := Workspace.exists_before (same key) found
    have attended := informed key old isOld
    rw [← alike.uri] at attended
    have noNews : w.events = v.workspace.events ++ [] := by rw [events, List.append_nil]
    exact attended.grow orderly noNews .nil (same.inFolder _)
  | stores read stored news quiet events =>
    have announced (inFolder : read.uri.folder = file.uri.folder) :
        Attended neglected { v with workspace := w } file.uri :=
      .announced (v.workspace.events ++ news) [] read.uri (by rw [events, List.append_assoc]) inFolder .nil
    have found : w.stored? key = some file := found
    rw [stored] at found
    split at found
    · cases found
      exact announced rfl
    · by_cases inFolder : read.uri.folder = file.uri.folder
      · exact announced inFolder
      · refine (informed key file found).grow orderly events ?_ (.of_eq SameReading.refl fun name => ?_)
        · intro gone member
          rcases List.mem_append.mp member with old | new
          · exact absurd old (quiet gone)
          · cases List.mem_singleton.mp new
        · rw [stored, if_neg fun same => inFolder (congrArg Prod.fst same)]
  | dirties old edited isOld sameUri stored dirty events =>
    -- the texts of the folder that were known are out of date, as the edited file is
    have unread {other : Uri} (attended : Attended neglected v other) (inFolder : edited.uri.folder = other.folder) :
        Attended neglected { v with workspace := w } other := by
      cases attended with
      | announced earlier later read isNews inFolder stays =>
        exact .announced earlier later read (events.trans isNews) inFolder stays
      | heeded stays _ =>
        exact .heeded (events ▸ stays) (.unread edited (by rw [stored, if_pos rfl]) dirty inFolder)
    have found : w.stored? key = some file := found
    rw [stored] at found
    split at found
    · cases found
      exact unread (sameUri ▸ informed _ old isOld) rfl
    · by_cases inFolder : edited.uri.folder = file.uri.folder
      · exact unread (informed key file found) inFolder
      · have noNews : w.events = v.workspace.events ++ [] := by rw [events, List.append_nil]
        refine (informed key file found).grow orderly noNews .nil (.of_eq SameReading.refl fun name => ?_)
        rw [stored, if_neg fun same => inFolder (congrArg Prod.fst same)]

theorem Informed.remove (informed : Informed neglected v) (orderly : Orderly v.workspace) {uri : Uri}
    (known : v.workspace.contains uri = true) (thinned : ∀ key, key.1 = uri.folder → neglected key) :
    Informed neglected { v with workspace := (v.workspace.remove uri).2 } := by
  intro key file found
  have events := Workspace.events_remove known
  have found : (v.workspace.remove uri).2.stored? key = some file := found
  rw [Workspace.stored?_remove] at found
  split at found
  · cases found
  rename_i differs
  have isKey := orderly.keyed found
  have quiet : Stays file.uri.key [.removing uri] := by
    intro gone member
    cases List.mem_singleton.mp member
    rwa [isKey]
  have attended := informed key file found
  by_cases inFolder : file.uri.folder = uri.folder
  · cases attended with
    | announced earlier later read isNews inFolder stays =>
      refine .announced earlier (later ++ [.removing uri]) read ?_ inFolder (stays.append quiet)
      rw [events, isNews, List.append_assoc, List.cons_append]
    | heeded stays _ => exact .heeded (events ▸ stays.append quiet) (.neglected (thinned _ inFolder))
  · refine attended.grow orderly events quiet (.of_eq SameReading.refl fun name => ?_)
    rw [Workspace.stored?_remove, if_neg fun same => inFolder (congrArg Prod.fst same).symm]

theorem Informed.receive (informed : Informed neglected v) (orderly : Orderly v.workspace) (idle : v.telling = [])
    {event : WorkspaceEvent} {rest : List WorkspaceEvent} (isNext : v.workspace.events = event :: rest)
    (still : ∀ key, Stays key [event] → neglected key → neglected' key) :
    Informed neglected' (v.receive event rest) := by
  intro key file found
  have isStored : v.workspace.stored? key = some file := by cases event <;> exact found
  have events : rest = (v.receive event rest).workspace.events := by cases event <;> rfl
  obtain rfl := orderly.keyed isStored
  cases informed _ file isStored with
  | announced earlier later read isNews inFolder stays =>
    rw [isNext] at isNews
    cases earlier with
    | nil =>
      obtain ⟨rfl, rfl⟩ := List.cons.inj isNews
      refine .heeded (events ▸ stays) (.next file.uri ?_ rfl)
      refine List.mem_map_of_mem (Workspace.mem_filesIn_iff.mpr ⟨file.uri.text, ?_⟩)
      rw [inFolder]
      exact isStored
    | cons first earlier =>
      exact .announced earlier later read (events.symm.trans (List.cons.inj isNews).2) inFolder stays
  | heeded stays heeded =>
    rw [isNext] at stays
    refine .heeded (events ▸ stays.tail) ?_
    cases heeded with
    | next other isNext =>
      rw [idle] at isNext
      cases isNext
    | unread other isOther dirty inFolder =>
      exact .unread other (by cases event <;> exact isOther) dirty inFolder
    | known isTold =>
      refine .known ?_
      cases event with
      | inserted | updated => exact isTold
      | removing gone => exact (if_neg (stays gone List.mem_cons_self)).trans isTold
    | neglected isNeglected =>
      refine .neglected (still _ (fun gone member => stays gone ?_) isNeglected)
      exact List.mem_cons.mpr (.inl (List.mem_singleton.mp member))

theorem Informed.tell (informed : Informed neglected v) (orderly : Orderly v.workspace) {uri : Uri} {rest : List Uri}
    (isNext : v.telling = uri :: rest) (still : ∀ key, uri.key ≠ key → neglected key → neglected' key) :
    Informed neglected' (v.tell uri rest) := by
  intro key file found
  have isStored : v.workspace.stored? key = some file := found
  obtain rfl := orderly.keyed isStored
  have told : (v.tell uri rest).told file.uri.key =
      if uri.key = file.uri.key then some (Diagnostic.collect v.workspace file.uri v.limit) else v.told file.uri.key := by
    simp only [View.tell]
    split
    · rename_i same
      rw [Workspace.find?_eq_stored?, same, isStored, Option.elim_some, if_pos rfl]
    · rename_i differs
      cases isOther : v.workspace.find? uri with
      | none => rfl
      | some other => rw [Option.elim_some, orderly.find?_key isOther, if_neg differs]
  cases informed _ file isStored with
  | announced earlier later read isNews inFolder stays => exact .announced earlier later read isNews inFolder stays
  | heeded stays heeded =>
    refine .heeded stays ?_
    by_cases same : uri.key = file.uri.key
    · exact .known (told.trans (if_pos same))
    · cases heeded with
      | next other member isKey =>
        rw [isNext] at member
        rcases List.mem_cons.mp member with rfl | later
        · exact absurd isKey same
        · exact .next other later isKey
      | unread other isOther dirty inFolder => exact .unread other isOther dirty inFolder
      | known isTold => exact .known ((told.trans (if_neg same)).trans isTold)
      | neglected isNeglected => exact .neglected (still _ same isNeglected)

/-- A file that was known is known still, or is going to be cleared, or is cleared. -/
def Accounted (v : View) (key : String × String) : Prop :=
  (v.workspace.stored? key).isSome ∨ ¬Stays key v.workspace.events ∨ v.told key = some []

namespace Accounted

variable {key : String × String}

theorem grow (accounted : Accounted v key) {w : Workspace} {news : List WorkspaceEvent}
    (kept : (v.workspace.stored? key).isSome → (w.stored? key).isSome)
    (events : w.events = v.workspace.events ++ news) : Accounted { v with workspace := w } key := by
  rcases accounted with isStored | leaves | cleared
  · exact .inl (kept isStored)
  · refine .inr (.inl fun stays => leaves fun uri member => stays uri ?_)
    rw [show w.events = _ from events]
    exact List.mem_append_left _ member
  · exact .inr (.inr cleared)

theorem change (accounted : Accounted v key) {w : Workspace} (change : Change v.workspace w) :
    Accounted { v with workspace := w } key := by
  have keeps {file : SourceFile} (stored : w.stored? key = if file.uri.key = key then some file else v.workspace.stored? key)
      (isStored : (v.workspace.stored? key).isSome) : (w.stored? key).isSome := by
    rw [stored]
    split
    · rfl
    · exact isStored
  cases change with
  | still same events =>
    refine accounted.grow (fun isStored => ?_) (by rw [events, List.append_nil])
    obtain ⟨file, found⟩ := Option.isSome_iff_exists.mp isStored
    obtain ⟨file', found', _⟩ := Workspace.exists_after (same key) found
    exact Option.isSome_iff_exists.mpr ⟨file', found'⟩
  | stores _ stored _ _ events => exact accounted.grow (keeps (stored key)) events
  | dirties _ _ _ _ stored _ events => exact accounted.grow (keeps (stored key)) (by rw [events, List.append_nil])

theorem remove (accounted : Accounted v key) (uri : Uri) :
    Accounted { v with workspace := (v.workspace.remove uri).2 } key := by
  cases known : v.workspace.contains uri with
  | false =>
    rw [Workspace.remove_of_unknown known]
    exact accounted
  | true =>
    have events := Workspace.events_remove known
    by_cases same : uri.key = key
    · refine .inr (.inl fun stays => stays uri ?_ same)
      rw [show (v.workspace.remove uri).2.events = _ from events]
      exact List.mem_append_right _ (List.mem_singleton_self _)
    · refine accounted.grow (fun isStored => ?_) events
      rwa [Workspace.stored?_remove, if_neg same]

theorem receive (accounted : Accounted v key) {event : WorkspaceEvent} {rest : List WorkspaceEvent}
    (isNext : v.workspace.events = event :: rest) : Accounted (v.receive event rest) key := by
  have cleared {uri : Uri} (same : uri.key = key) : Accounted (v.receive (.removing uri) rest) key :=
    .inr (.inr (if_pos same))
  rcases accounted with isStored | leaves | isCleared
  · exact .inl (by cases event <;> exact isStored)
  · rw [isNext] at leaves
    by_cases stays : Stays key rest
    · -- nobody else says so, so it is this event that says that the file leaves
      simp only [Stays, not_forall, not_not] at leaves
      obtain ⟨uri, member, same⟩ := leaves
      rcases List.mem_cons.mp member with rfl | later
      · exact cleared same
      · exact absurd same (stays uri later)
    · exact .inr (.inl (by cases event <;> exact stays))
  · cases event with
    | inserted | updated => exact .inr (.inr isCleared)
    | removing uri =>
      by_cases same : uri.key = key
      · exact cleared same
      · exact .inr (.inr ((if_neg same).trans isCleared))

theorem tell (accounted : Accounted v key) (orderly : Orderly v.workspace) (uri : Uri) (rest : List Uri) :
    Accounted (v.tell uri rest) key := by
  rcases accounted with isStored | leaves | isCleared
  · exact .inl isStored
  · exact .inr (.inl leaves)
  · cases found : v.workspace.find? uri with
    | none =>
      refine .inr (.inr ?_)
      simpa only [View.tell, found, Option.elim_none] using isCleared
    | some file =>
      by_cases same : file.uri.key = key
      · rw [Workspace.find?_eq_stored?, ← orderly.find?_key found, same] at found
        exact .inl (Option.isSome_iff_exists.mpr ⟨file, found⟩)
      · refine .inr (.inr ?_)
        simp only [View.tell, found, Option.elim_some, if_neg same]
        exact isCleared

end Accounted

end View
end PddlAssist
