import Mathlib.Computability.Language
import Mathlib.Data.Finset.Basic
import PddlAssist.Proofs.Workspace.Change

namespace PddlAssist.Workspace

open scoped Computability

inductive News where
  | inserted
  | updated
  | removing
  deriving DecidableEq, Repr, Inhabited

def newsOf : WorkspaceEvent → News
  | .inserted _ => .inserted
  | .updated _ => .updated
  | .removing _ => .removing

/-- What some events say of one address. -/
def newsAt (key : String × String) (events : List WorkspaceEvent) : List News :=
  (events.filter (·.uri.key = key)).map newsOf

/-- What can be told of an address from its first coming to its last leaving. -/
def lives : Language News := ({[.inserted]} * {[.updated]} * {[.updated]}∗ * {[.removing]})∗

def follow (known : Finset (String × String)) : WorkspaceEvent → Finset (String × String)
  | .inserted uri => insert uri.key known
  | .updated _ => known
  | .removing uri => known.erase uri.key

def replay (events : List WorkspaceEvent) : Finset (String × String) := events.foldl follow ∅

/-- The events that an operation hands over. -/
def Operation.taken (w : Workspace) : Operation → List WorkspaceEvent
  | takeEvents => w.takeEvents.1
  | _ => []

/-- All events that a workspace tells of during a run: those that are taken on the way and those that still wait. -/
def told (w : Workspace) : List Operation → List WorkspaceEvent
  | [] => w.events
  | operation :: rest => operation.taken w ++ told (operation.apply w) rest

def knows (w : Workspace) (key : String × String) : Bool := (w.stored? key).isSome

theorem contains_eq_knows (w : Workspace) (uri : Uri) : w.contains uri = w.knows uri.key := rfl

section

variable {key : String × String} {events more : List WorkspaceEvent}

theorem newsAt_append : newsAt key (events ++ more) = newsAt key events ++ newsAt key more := by
  simp only [newsAt, List.filter_append, List.map_append]

theorem newsAt_self {uri : Uri} (about : ∀ event ∈ events, event.uri = uri) :
    newsAt uri.key events = events.map newsOf := by
  rw [newsAt, List.filter_eq_self.mpr]
  intro event member
  rw [about event member, decide_eq_true rfl]

theorem newsAt_other {uri : Uri} (about : ∀ event ∈ events, event.uri = uri) (other : uri.key ≠ key) :
    newsAt key events = [] := by
  rw [newsAt, List.filter_eq_nil_iff.mpr, List.map_nil]
  intro event member
  rw [about event member, decide_eq_true_eq]
  exact other

end

/-- What was told of an address, and whether it is there now. -/
inductive Lived : Bool → List News → Prop where
  | out {lived : List News} (isLife : lived ∈ lives) : Lived false lived
  | inside {lived : List News} (again : Nat) (isLife : lived ∈ lives) :
      Lived true (lived ++ .inserted :: .updated :: List.replicate again .updated)

namespace Lived

variable {lived : List News}

theorem enters (out : Lived false lived) : Lived true (lived ++ [.inserted, .updated]) := by
  cases out with
  | out isLife => exact .inside 0 isLife

theorem reads (inside : Lived true lived) : Lived true (lived ++ [.updated]) := by
  cases inside with
  | inside again isLife =>
    rw [List.append_assoc, List.cons_append, List.cons_append, ← List.replicate_succ']
    exact .inside (again + 1) isLife

theorem leaves (inside : Lived true lived) : Lived false (lived ++ [.removing]) := by
  cases inside with
  | @inside earlier again isLife =>
    refine .out ?_
    obtain ⟨parts, rfl, areLives⟩ := Language.mem_kstar.mp isLife
    refine Language.mem_kstar.mpr
      ⟨parts ++ [.inserted :: .updated :: List.replicate again .updated ++ [.removing]], by simp, ?_⟩
    intro part member
    rcases List.mem_append.mp member with earlier | last
    · exact areLives part earlier
    · -- the life that ends here joins those that ended before
      rw [List.mem_singleton.mp last]
      refine Language.append_mem_mul ?_ rfl
      have repeated : List.replicate again News.updated ∈ ({[.updated]} : Language News)∗ :=
        Language.mem_kstar.mpr ⟨List.replicate again [.updated], by simp, fun part member => List.eq_of_mem_replicate member⟩
      have opening : [.inserted] ++ [.updated] ∈ ({[.inserted]} * {[.updated]} : Language News) :=
        Language.append_mem_mul rfl rfl
      exact Language.append_mem_mul opening repeated

/-- Whatever was told can go on until the address has left. -/
theorem isPrefix {present : Bool} (lived : Lived present news) : ∃ rest, news ++ rest ∈ lives := by
  cases lived with
  | out isLife => exact ⟨[], by rwa [List.append_nil]⟩
  | inside again isLife =>
    cases (Lived.inside again isLife).leaves with
    | out isLife => exact ⟨_, isLife⟩

end Lived

/-- Steps of a workspace with the events that they tell of. -/
inductive Tells : Workspace → Workspace → List WorkspaceEvent → Prop where
  | silent {w w' : Workspace} (known : ∀ key, w'.knows key = w.knows key) : Tells w w' []
  | reads {w w' : Workspace} {uri : Uri} (there : w.knows uri.key = true)
      (known : ∀ key, w'.knows key = w.knows key) : Tells w w' [.updated uri]
  | enters {w w' : Workspace} {uri : Uri} (missing : w.knows uri.key = false)
      (known : ∀ key, w'.knows key = if uri.key = key then true else w.knows key) :
      Tells w w' [.inserted uri, .updated uri]
  | leaves {w w' : Workspace} {uri : Uri} (there : w.knows uri.key = true)
      (known : ∀ key, w'.knows key = if uri.key = key then false else w.knows key) : Tells w w' [.removing uri]
  | trans {w w' w'' : Workspace} {news more : List WorkspaceEvent} (first : Tells w w' news)
      (second : Tells w' w'' more) : Tells w w'' (news ++ more)

structure Chronicle (events : List WorkspaceEvent) (w : Workspace) : Prop where
  lived : ∀ key, Lived (w.knows key) (newsAt key events)
  paired : ∀ n uri, events[n]? = some (.inserted uri) → events[n + 1]? = some (.updated uri)
  last : ∀ key, w.knows key = true ↔ ((newsAt key events).filter (· ≠ .updated)).getLast? = some .inserted
  replayed : ∀ key, key ∈ replay events ↔ w.knows key = true

theorem paired_append {events more : List WorkspaceEvent}
    (paired : ∀ n uri, events[n]? = some (.inserted uri) → events[n + 1]? = some (.updated uri))
    (pairedMore : ∀ n uri, more[n]? = some (.inserted uri) → more[n + 1]? = some (.updated uri)) (n : Nat) (uri : Uri)
    (inserted : (events ++ more)[n]? = some (.inserted uri)) : (events ++ more)[n + 1]? = some (.updated uri) := by
  by_cases early : n < events.length
  · rw [List.getElem?_append_left early] at inserted
    have next := paired n uri inserted
    obtain ⟨inside, _⟩ := List.getElem?_eq_some_iff.mp next
    rw [List.getElem?_append_left inside, next]
  · rw [List.getElem?_append_right (by omega)] at inserted
    rw [List.getElem?_append_right (by omega), Nat.sub_add_comm (by omega)]
    exact pairedMore _ uri inserted

theorem replay_append (events more : List WorkspaceEvent) : replay (events ++ more) = more.foldl follow (replay events) :=
  List.foldl_append

namespace Chronicle

variable {w w' : Workspace} {events : List WorkspaceEvent}

theorem fresh (reader : FileReader) : Chronicle [] { reader } where
  lived key := by
    have missing : knows { reader } key = false := by simp [knows, stored?, Std.TreeMap.get?_eq_getElem?]
    rw [missing]
    exact .out (Language.nil_mem_kstar _)
  paired n uri inserted := by simp at inserted
  last key := by simp [knows, stored?, Std.TreeMap.get?_eq_getElem?, newsAt]
  replayed key := by simp [knows, stored?, Std.TreeMap.get?_eq_getElem?, replay]

theorem extend (chronicle : Chronicle events w) (uri : Uri) (present : Bool) {news : List WorkspaceEvent}
    (about : ∀ event ∈ news, event.uri = uri) (known : ∀ key, w'.knows key = if uri.key = key then present else w.knows key)
    (lived : Lived present (newsAt uri.key events ++ news.map newsOf))
    (paired : ∀ n uri, news[n]? = some (.inserted uri) → news[n + 1]? = some (.updated uri))
    (last : present = true ↔
      ((newsAt uri.key events ++ news.map newsOf).filter (· ≠ .updated)).getLast? = some .inserted)
    (replayed : ∀ key, key ∈ news.foldl follow (replay events) ↔
      if uri.key = key then present = true else key ∈ replay events) : Chronicle (events ++ news) w' where
  lived key := by
    rw [known, newsAt_append]
    split
    · rename_i same
      rw [← same, newsAt_self about]
      exact lived
    · rename_i other
      rw [newsAt_other about other, List.append_nil]
      exact chronicle.lived key
  paired := paired_append chronicle.paired paired
  last key := by
    rw [known, newsAt_append]
    split
    · rename_i same
      rw [← same, newsAt_self about]
      exact last
    · rename_i other
      rw [newsAt_other about other, List.append_nil]
      exact chronicle.last key
  replayed key := by
    rw [replay_append, replayed, known]
    split
    · rfl
    · exact chronicle.replayed key

theorem tells {news : List WorkspaceEvent} (chronicle : Chronicle events w) (tells : Tells w w' news) :
    Chronicle (events ++ news) w' := by
  induction tells generalizing events with
  | @silent w w' known =>
    rw [List.append_nil]
    refine ⟨?_, chronicle.paired, ?_, ?_⟩
    · simpa only [known] using chronicle.lived
    · simpa only [known] using chronicle.last
    · simpa only [known] using chronicle.replayed
  | @reads w w' uri there known =>
    have lived := chronicle.lived uri.key
    have last := chronicle.last uri.key
    have replayed := chronicle.replayed uri.key
    rw [there] at lived last replayed
    refine chronicle.extend uri true (by simp [WorkspaceEvent.uri]) ?_ lived.reads ?_ ?_ ?_
    · intro key
      rw [known]
      split
      · rename_i same
        rw [← same, there]
      · rfl
    · intro n other inserted
      cases n <;> simp at inserted
    · simpa [newsOf] using last
    · intro key
      simp only [List.foldl_cons, List.foldl_nil, follow]
      split
      · rename_i same
        rw [← same]
        simpa only [iff_true] using replayed
      · rfl
  | @enters w w' uri missing known =>
    have lived := chronicle.lived uri.key
    rw [missing] at lived
    refine chronicle.extend uri true (by simp [WorkspaceEvent.uri]) known lived.enters ?_ ?_ ?_
    · intro n other inserted
      rcases n with _ | _ | n
      · simpa using inserted
      · simp at inserted
      · simp at inserted
    · simp [newsOf]
    · intro key
      simp only [List.foldl_cons, List.foldl_nil, follow, Finset.mem_insert]
      split
      · rename_i same
        simp [same]
      · rename_i other
        simp [Ne.symm other]
  | @leaves w w' uri there known =>
    have lived := chronicle.lived uri.key
    rw [there] at lived
    refine chronicle.extend uri false (by simp [WorkspaceEvent.uri]) known lived.leaves ?_ ?_ ?_
    · intro n other inserted
      cases n <;> simp at inserted
    · simp [newsOf]
    · intro key
      simp only [List.foldl_cons, List.foldl_nil, follow, Finset.mem_erase]
      split
      · rename_i same
        simp [same]
      · rename_i other
        simp [Ne.symm other]
  | trans _ _ first second =>
    rw [← List.append_assoc]
    exact second (first chronicle)

end Chronicle

theorem knows_eq_revision? (w : Workspace) (key : String × String) : w.knows key = (w.revision? key).isSome :=
  Option.isSome_map.symm

def Records (w w' : Workspace) : Prop := ∃ news, w'.events = w.events ++ news ∧ Tells w w' news

namespace Records

variable {w w' w'' : Workspace}

theorem silent (events : w'.events = w.events) (known : ∀ key, w'.knows key = w.knows key) : Records w w' :=
  ⟨[], by rw [events, List.append_nil], .silent known⟩

theorem refl (w : Workspace) : Records w w := silent rfl fun _ => rfl

theorem trans (first : Records w w') (second : Records w' w'') : Records w w'' := by
  obtain ⟨news, events, tells⟩ := first
  obtain ⟨more, events', tells'⟩ := second
  exact ⟨news ++ more, by rw [events', events, List.append_assoc], .trans tells tells'⟩

theorem reading (events : w'.events = w.events) (revisions : ∀ key, w'.revision? key = w.revision? key) :
    Records w w' := by
  refine silent events fun key => ?_
  rw [knows_eq_revision?, knows_eq_revision?, revisions]

theorem emit {uri : Uri} (there : w.knows uri.key = true) : Records w (w.emit (.updated uri)) :=
  ⟨[.updated uri], rfl, .reads there fun _ => rfl⟩

theorem put {file : SourceFile} (there : w.knows file.uri.key = true) : Records w (w.put file) := by
  refine silent rfl fun key => ?_
  rw [knows, stored?_put]
  split
  · rename_i same
    rw [← same, there, Option.isSome_some]
  · rfl

theorem install (w : Workspace) (file : SourceFile) : Records w (w.install file).2 := by
  unfold Workspace.install
  cases found : w.find? file.uri with
  | none =>
    have missing : w.knows file.uri.key = false := by rw [← contains_eq_knows, contains, found, Option.isSome_none]
    refine ⟨[.inserted file.uri, .updated file.uri], ?_, .enters missing fun key => ?_⟩
    · simp only [Workspace.emit, Workspace.put, List.append_assoc, List.cons_append, List.nil_append]
    · rw [knows, stored?_emit, stored?_emit, stored?_put]
      split <;> rfl
  | some current =>
    have there : w.knows file.uri.key = true := by rw [← contains_eq_knows, contains, found, Option.isSome_some]
    simp only
    split
    · have stored : (w.put file).knows file.uri.key = true := by rw [knows, stored?_put, if_pos rfl, Option.isSome_some]
      exact (put there).trans (emit stored)
    · exact refl w

theorem installAll (w : Workspace) (files : List SourceFile) : Records w (w.installAll files).2 := by
  induction files generalizing w with
  | nil => exact refl w
  | cons file rest ih => exact (install w file).trans (ih (w.install file).2)

theorem remove (w : Workspace) (uri : Uri) : Records w (w.remove uri).2 := by
  cases known : w.contains uri with
  | false =>
    rw [remove_of_unknown known]
    exact refl w
  | true =>
    refine ⟨[.removing uri], events_remove known, .leaves known fun key => ?_⟩
    rw [knows, stored?_remove]
    split <;> rfl

variable {uri : Uri} {version : Int} {text : List Char}

theorem upsert (orderly : Orderly w) : Records w (w.upsert uri version text).2 := by
  unfold Workspace.upsert
  cases found : w.find? uri with
  | none => exact install w _
  | some current =>
    simp only
    cases updated : current.update? version text with
    | none => exact refl w
    | some file =>
      refine put ?_
      rw [SourceFile.update?_eq_some updated, orderly.find?_key found, ← contains_eq_knows, contains, found, Option.isSome_some]

theorem parseFile (orderly : Orderly w) : Records w (w.parseFile uri).2 := by
  refine reading ?_ (orderly.revision?_parseFile uri)
  unfold Workspace.parseFile
  split <;> rfl

theorem upsertAndParse (orderly : Orderly w) : Records w (w.upsertAndParse uri version text).2 := by
  have taken : Records w (w.upsert uri version text).2 := upsert orderly
  have orderly' := orderly.apply (.upsert uri version text)
  -- the text that was taken is read, and only then is its event told
  have there : (w.upsert uri version text).2.knows uri.key = true := by
    rw [knows, orderly.stored?_upsert, if_pos rfl, Option.isSome_some]
  unfold Workspace.upsertAndParse
  split
  · rename_i w' same
    rw [Operation.apply, same] at orderly'
    rw [same] at taken there
    have stays : (w'.parseFile uri).2.knows uri.key = true := by
      rwa [knows_eq_revision?, orderly'.revision?_parseFile, ← knows_eq_revision?]
    exact taken.trans ((parseFile orderly').trans (emit stays))
  · exact taken

end Records

theorem Orderly.tells_apply {w : Workspace} (orderly : Orderly w) (operation : Operation) :
    ∃ news, operation.taken w ++ (operation.apply w).events = w.events ++ news ∧ Tells w (operation.apply w) news := by
  cases operation with
  | upsert uri version text => exact Records.upsert orderly
  | upsertAndParse uri version text => exact Records.upsertAndParse orderly
  | parseFile uri => exact Records.parseFile orderly
  | install reader uri version text => exact Records.install w _
  | reparseDirty => exact Records.installAll w _
  | remove uri => exact Records.remove w uri
  | setReader reader => exact Records.silent rfl fun _ => rfl
  | setStatus uri status =>
    exact Records.reading (Change.events_setStatus w uri status) (orderly.revision?_setStatus uri status)
  | validate bundle progress =>
    exact Records.reading (Change.events_transition w bundle _ _) (orderly.revision?_transition bundle _ _)
  | lookUp uri position =>
    rcases Symbol.at?_cases w uri position with same | ⟨key, file, file', found, forgotten, same⟩
    · rw [Operation.apply, same]
      exact Records.refl w
    · rw [Operation.apply, same]
      exact Records.reading rfl (orderly.revision?_put_forget found forgotten)
  | outline uri =>
    rw [Operation.apply, Outline.at?]
    split
    · rename_i file found
      rw [find?_eq_stored?] at found
      exact Records.reading rfl (orderly.revision?_put_forget found (Outline.forget_ofFile file))
    · exact Records.refl w
  | takeEvents => exact ⟨[], rfl, .silent fun _ => rfl⟩

theorem Orderly.chronicle_run {w : Workspace} (orderly : Orderly w) (earlier : List WorkspaceEvent)
    (chronicle : Chronicle (earlier ++ w.events) w) (operations : List Operation) :
    Chronicle (earlier ++ told w operations) (w.run operations) := by
  induction operations generalizing w earlier with
  | nil => exact chronicle
  | cons operation rest ih =>
    -- what waits after the operation and what it handed over are what waited before, and its news
    obtain ⟨news, events, tells⟩ := orderly.tells_apply operation
    have next := chronicle.tells tells
    rw [List.append_assoc, ← events, ← List.append_assoc] at next
    rw [told, ← List.append_assoc]
    exact ih (orderly.apply operation) _ next

/-- Whoever hears all events from the start hears of each address a beginning of lives that start with its coming and
first reading and end with its leaving. Each coming is followed at once by the reading, and an address is known if it
came and did not leave since, so that the events tell which files there are. -/
theorem events_tell_the_files (reader : FileReader) (operations : List Operation) :
    (∀ uri : Uri, ∃ rest, newsAt uri.key (told { reader } operations) ++ rest ∈ lives) ∧
      (∀ n uri, (told { reader } operations)[n]? = some (.inserted uri) →
        (told { reader } operations)[n + 1]? = some (.updated uri)) ∧
      (∀ uri : Uri, (run { reader } operations).contains uri = true ↔
        ((newsAt uri.key (told { reader } operations)).filter (· ≠ .updated)).getLast? = some .inserted) ∧
      replay (told { reader } operations) = ((run { reader } operations).files.map (·.uri.key)).toFinset := by
  have chronicle := (Orderly.fresh reader).chronicle_run [] (Chronicle.fresh reader) operations
  have orderly := (Orderly.fresh reader).run operations
  rw [List.nil_append] at chronicle
  refine ⟨fun uri => (chronicle.lived uri.key).isPrefix, chronicle.paired, fun uri => chronicle.last uri.key, ?_⟩
  ext key
  rw [chronicle.replayed, List.mem_toFinset, List.mem_map, knows, Option.isSome_iff_exists]
  constructor
  · rintro ⟨file, found⟩
    exact ⟨file, mem_files_iff.mpr ⟨key, found⟩, orderly.keyed found⟩
  · rintro ⟨file, member, rfl⟩
    obtain ⟨key, found⟩ := mem_files_iff.mp member
    exact ⟨file, by rw [orderly.keyed found, found]⟩

end PddlAssist.Workspace
