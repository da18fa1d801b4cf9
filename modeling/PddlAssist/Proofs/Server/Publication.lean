import PddlAssist.Proofs.Server.View
import PddlAssist.Server.Notification

namespace PddlAssist

open Workspace (Change Orderly)

def ServerMessage.about? (key : String × String) : ServerMessage → Option (List Diagnostic)
  | .diagnostics uri found _ => if uri.key = key then some found else none
  | _ => none

/-- All that the editor was told about a file, in order. -/
def Server.told (s : Server) (key : String × String) : List (List Diagnostic) :=
  s.outbox.filterMap (·.about? key)

theorem Diagnostic.take_collect (w : Workspace) (uri : Uri) (limit : Nat) :
    (collect w uri limit).take limit = collect w uri limit := by
  unfold collect
  split
  · exact List.take_nil
  · rw [List.take_take, Nat.min_self]

namespace Server

theorem told_tell (s : Server) (uri : Uri) (found : List Diagnostic) (version : Option Int) (key : String × String) :
    (s.tell (.diagnostics uri found version)).told key =
      if uri.key = key then s.told key ++ [found] else s.told key := by
  by_cases same : uri.key = key
  · simp [told, tell, ServerMessage.about?, same]
  · simp [told, tell, ServerMessage.about?, same]

theorem told_log (s : Server) (kind : MessageKind) (text : String) (key : String × String) :
    (s.tell (.log kind text)).told key = s.told key := by
  simp [told, tell, ServerMessage.about?]

theorem told_clear (s : Server) (uri : Uri) (key : String × String) :
    (s.clear uri).told key = if uri.key = key then s.told key ++ [[]] else s.told key := told_tell _ _ _ _ _

theorem diagnosticsOf_plain {s : Server} (plain : ∀ address, s.validatorDiagnostics.getD address [] = []) (uri : Uri) :
    s.diagnosticsOf uri = Diagnostic.collect s.session.workspace uri s.settings.maxNumberOfProblems := by
  rw [diagnosticsOf, plain, List.append_nil, Diagnostic.take_collect]

end Server

structure Publishing where
  server : Server
  calls : List Call := []
  telling : List Uri := []

namespace Publishing

inductive Step where
  | opens (uri : Uri)
  | closes (uri : Uri)
  | write (disk : Disk)
  | log (kind : MessageKind) (text : String)
  | work (step : Traffic.Step)
  | receive
  | tell

def workspace (p : Publishing) : Workspace := p.server.session.workspace

def traffic (p : Publishing) : Traffic := ⟨p.server.session, p.calls⟩

def setTraffic (p : Publishing) (t : Traffic) : Publishing :=
  { p with server := { p.server with session := t.session }, calls := t.calls }

def setEvents (s : Server) (events : List WorkspaceEvent) : Server :=
  { s with session := { s.session with workspace := { s.session.workspace with events } } }

def receive (p : Publishing) : Publishing :=
  match p.telling, p.workspace.events with
  | [], event :: rest =>
    let server := setEvents p.server rest
    match event with
    | .inserted _ => { p with server }
    | .updated uri =>
      { p with
        server := { server with validatorDiagnostics := server.validatorDiagnostics.erase uri.text }
        telling := (p.workspace.siblings uri).map (·.uri) }
    | .removing uri => { p with server := server.clear uri }
  | _, _ => p

def tell (p : Publishing) : Publishing :=
  match p.telling with
  | [] => p
  | uri :: rest => { p with server := p.server.publish uri, telling := rest }

def apply (p : Publishing) : Step → Publishing
  | .opens uri => { p with server := { p.server with openDocuments := uri :: p.server.openDocuments } }
  | .closes uri => { p with server := { p.server with openDocuments := p.server.openDocuments.filter (· != uri) } }
  | .write disk => { p with server := p.server.setDisk disk }
  | .log kind text => { p with server := p.server.tell (.log kind text) }
  | .work step => p.setTraffic (p.traffic.apply step)
  | .receive => p.receive
  | .tell => p.tell

def go (p : Publishing) (steps : List Step) : Publishing := steps.foldl apply p

/-- A server that has got its settings and has no validator. -/
def start (settings : Settings) (disk : Disk) (network : Network) : Server :=
  let s := (Server.new disk network).applySettings settings
  { s with session := { s.session with validator := none } }

def run (settings : Settings) (disk : Disk) (network : Network) (steps : List Step) : Publishing :=
  go { server := start settings disk network } steps

theorem run_append (settings : Settings) (disk : Disk) (network : Network) (earlier later : List Step) :
    run settings disk network (earlier ++ later) = (run settings disk network earlier).go later := List.foldl_append

theorem run_snoc (settings : Settings) (disk : Disk) (network : Network) (steps : List Step) (step : Step) :
    run settings disk network (steps ++ [step]) = (run settings disk network steps).apply step :=
  run_append settings disk network steps [step]

def view (p : Publishing) : View where
  workspace := p.workspace
  telling := p.telling
  told key := (p.server.told key).getLast?
  limit := p.server.settings.maxNumberOfProblems

structure Sound (p : Publishing) : Prop where
  orderly : p.workspace.Orderly
  plain : ∀ address, p.server.validatorDiagnostics.getD address [] = []

variable {p : Publishing}

theorem view_log (p : Publishing) (kind : MessageKind) (text : String) : (p.apply (.log kind text)).view = p.view := by
  simp only [view, apply, Server.told_log]
  rfl

theorem receive_cases (p : Publishing) :
    p.receive = p ∨ ∃ event rest, p.telling = [] ∧ p.workspace.events = event :: rest ∧
      p.receive.view = p.view.receive event rest ∧
      ∀ key, View.Stays key [event] → p.receive.server.told key = p.server.told key := by
  unfold receive
  split
  · rename_i event rest isIdle isNext
    refine .inr ⟨event, rest, isIdle, isNext, ?_⟩
    cases event with
    | inserted | updated => exact ⟨rfl, fun _ _ => rfl⟩
    | removing uri =>
      have told (key : String × String) : ((setEvents p.server rest).clear uri).told key =
          if uri.key = key then p.server.told key ++ [[]] else p.server.told key := Server.told_clear _ _ _
      constructor
      · simp only [view, View.receive, View.mk.injEq, true_and]
        refine ⟨rfl, funext fun key => ?_, rfl⟩
        rw [told]
        split
        · exact List.getLast?_concat
        · rfl
      · intro key stays
        rw [told, if_neg (stays uri (List.mem_singleton_self _))]
  · exact .inl rfl

theorem tell_cases (sound : Sound p) :
    p.tell = p ∨ ∃ uri rest, p.telling = uri :: rest ∧ p.tell.view = p.view.tell uri rest ∧
      ∀ key, uri.key ≠ key → p.tell.server.told key = p.server.told key := by
  unfold tell
  split
  · exact .inl rfl
  · rename_i uri rest isNext
    refine .inr ⟨uri, rest, isNext, ?_⟩
    unfold Server.publish
    cases found : p.server.session.workspace.find? uri with
    | none =>
      refine ⟨?_, fun _ _ => rfl⟩
      simp only [view, View.tell, workspace, found, Option.elim_none]
    | some file =>
      have told (key : String × String) : (p.server.publishFile file).told key =
          if file.uri.key = key then
            p.server.told key ++ [Diagnostic.collect p.workspace file.uri p.server.settings.maxNumberOfProblems]
          else p.server.told key := by
        rw [Server.publishFile, Server.told_tell, Server.diagnosticsOf_plain sound.plain]
        rfl
      constructor
      · simp only [view, View.tell, workspace, found, Option.elim_some, View.mk.injEq, true_and]
        refine ⟨rfl, funext fun key => ?_, rfl⟩
        rw [told]
        split
        · exact List.getLast?_concat
        · rfl
      · intro key differs
        simp only [Option.elim_some]
        rw [told, sound.orderly.find?_key found, if_neg differs]

theorem plain_erase {found : Std.TreeMap String (List Diagnostic)} (plain : ∀ address, found.getD address [] = [])
    (gone address : String) : (found.erase gone).getD address [] = [] := by
  rw [Std.TreeMap.getD_erase]
  split
  · rfl
  · exact plain address

theorem Sound.apply (sound : Sound p) (step : Step) : Sound (p.apply step) := by
  obtain ⟨orderly, plain⟩ := sound
  cases step with
  | opens | closes | log => exact ⟨orderly, plain⟩
  | write disk => exact ⟨⟨orderly.keyed, orderly.inhabited⟩, plain⟩
  | work step => exact ⟨Traffic.orderly_apply (t := p.traffic) orderly step, plain⟩
  | receive =>
    simp only [Publishing.apply, receive]
    split
    · rename_i event rest _ _
      cases event with
      | inserted => exact ⟨⟨orderly.keyed, orderly.inhabited⟩, plain⟩
      | updated | removing => exact ⟨⟨orderly.keyed, orderly.inhabited⟩, plain_erase plain _⟩
    · exact ⟨orderly, plain⟩
  | tell =>
    simp only [Publishing.apply, tell]
    split
    · exact ⟨orderly, plain⟩
    · rename_i uri rest _
      simp only [Server.publish]
      cases p.server.session.workspace.find? uri with
      | none => exact ⟨orderly, plain⟩
      | some file => exact ⟨orderly, plain⟩

theorem Sound.run (settings : Settings) (disk : Disk) (network : Network) (steps : List Step) :
    Sound (run settings disk network steps) := by
  induction steps using List.reverseRecOn with
  | nil => exact ⟨.fresh _, fun _ => rfl⟩
  | append_singleton earlier step ih =>
    rw [run_snoc]
    exact ih.apply step

theorem settings_apply (p : Publishing) (step : Step) : (p.apply step).server.settings = p.server.settings := by
  cases step with
  | opens | closes | write | log | work => rfl
  | receive =>
    simp only [apply, receive]
    split
    · rename_i event rest _ _
      cases event <;> rfl
    · rfl
  | tell =>
    simp only [apply, tell]
    split
    · rfl
    · rename_i uri rest _
      simp only [Server.publish]
      cases p.server.session.workspace.find? uri <;> rfl

theorem settings_run (settings : Settings) (disk : Disk) (network : Network) (steps : List Step) :
    (run settings disk network steps).server.settings = settings := by
  induction steps using List.reverseRecOn with
  | nil => rfl
  | append_singleton earlier step ih => rw [run_snoc, settings_apply, ih]

section

variable (settings : Settings) (disk : Disk) (network : Network)

/-- The folder of a file has lost another one, and nothing was told about the file since. -/
def Thinned (steps : List Step) (key : String × String) : Prop :=
  ∃ earlier uri later, steps = earlier ++ .work (.remove uri) :: later ∧
    (run settings disk network earlier).workspace.contains uri = true ∧ uri.folder = key.1 ∧
    (run settings disk network steps).server.told key = (run settings disk network earlier).server.told key

variable {settings disk network}

theorem Thinned.snoc {steps : List Step} {key : String × String} (thinned : Thinned settings disk network steps key)
    {step : Step} (same : ((run settings disk network steps).apply step).server.told key =
      (run settings disk network steps).server.told key) : Thinned settings disk network (steps ++ [step]) key := by
  obtain ⟨earlier, uri, later, rfl, known, inFolder, told⟩ := thinned
  refine ⟨earlier, uri, later ++ [step], by simp, known, inFolder, ?_⟩
  rw [run_snoc, same, told]

theorem informed_work {neglected neglected' : String × String → Prop} (informed : p.view.Informed neglected)
    (orderly : p.workspace.Orderly) (step : Traffic.Step) (still : ∀ key, neglected key → neglected' key)
    (thinned : ∀ uri, step = .remove uri → p.workspace.contains uri = true →
      ∀ key : String × String, key.1 = uri.folder → neglected' key) :
    (p.apply (.work step)).view.Informed neglected' := by
  show View.Informed neglected' { p.view with workspace := (p.traffic.apply step).session.workspace }
  rcases p.traffic.workspace_apply step with ⟨snapshot, _, isSame⟩ | ⟨uri, rfl, isSame⟩ | settles
  · rw [isSame]
    exact (informed.change orderly (.upsert orderly _ _ _)).mono still
  · rw [isSame]
    cases known : p.workspace.contains uri with
    | false =>
      rw [show (p.traffic.session.workspace.remove uri).2 = p.workspace from Workspace.remove_of_unknown known]
      exact informed.mono still
    | true => exact (informed.mono still).remove orderly known (thinned uri rfl known)
  · refine View.Informed.mono ?_ still
    exact settles.preserves (P := fun w => View.Informed neglected { p.view with workspace := w }) orderly
      (fun orderly change informed => informed.change orderly change) informed

theorem informed_run (steps : List Step) :
    (run settings disk network steps).view.Informed (Thinned settings disk network steps) := by
  induction steps using List.reverseRecOn with
  | nil =>
    intro key file found
    cases show file ∈ (run settings disk network []).workspace.files from Workspace.mem_files_iff.mpr ⟨key, found⟩
  | append_singleton earlier step informed =>
    have sound := Sound.run settings disk network earlier
    have quiet (same : ∀ key, ((run settings disk network earlier).apply step).server.told key =
        (run settings disk network earlier).server.told key) (key : String × String)
        (thinned : Thinned settings disk network earlier key) :
        Thinned settings disk network (earlier ++ [step]) key := thinned.snoc (same key)
    rw [run_snoc]
    cases step with
    | opens | closes => exact informed.mono (quiet fun _ => rfl)
    | log kind text =>
      rw [view_log]
      exact informed.mono (quiet (Server.told_log _ kind text))
    | write disk =>
      refine (informed.change sound.orderly ?_).mono (quiet fun _ => rfl)
      exact .still (.refl SourceFile.SameReading.refl _) rfl
    | work step =>
      refine informed_work informed sound.orderly step (quiet fun _ => rfl) ?_
      rintro uri rfl known key inFolder
      exact ⟨earlier, uri, [], rfl, known, inFolder.symm, by rw [run_snoc]; rfl⟩
    | receive =>
      rcases (run settings disk network earlier).receive_cases with isSame | ⟨event, rest, idle, isNext, isView, same⟩
      · rw [apply, isSame]
        exact informed.mono (quiet fun _ => by rw [apply, isSame])
      · rw [apply, isView]
        exact informed.receive sound.orderly idle isNext fun key stays thinned => thinned.snoc (same key stays)
    | tell =>
      rcases tell_cases sound with isSame | ⟨uri, rest, isNext, isView, same⟩
      · rw [apply, isSame]
        exact informed.mono (quiet fun _ => by rw [apply, isSame])
      · rw [apply, isView]
        exact informed.tell sound.orderly isNext fun key differs thinned => thinned.snoc (same key differs)

theorem accounted_apply (sound : Sound p) {key : String × String} (accounted : p.view.Accounted key) (step : Step) :
    (p.apply step).view.Accounted key := by
  cases step with
  | opens | closes => exact accounted
  | log kind text => rwa [view_log]
  | write disk => exact accounted.change (.still (.refl SourceFile.SameReading.refl _) rfl)
  | work step =>
    show View.Accounted { p.view with workspace := (p.traffic.apply step).session.workspace } key
    rcases p.traffic.workspace_apply step with ⟨snapshot, _, isSame⟩ | ⟨uri, rfl, isSame⟩ | settles
    · rw [isSame]
      exact accounted.change (.upsert sound.orderly _ _ _)
    · rw [isSame]
      exact accounted.remove uri
    · exact settles.preserves (P := fun w => View.Accounted { p.view with workspace := w } key) sound.orderly
        (fun _ change accounted => accounted.change change) accounted
  | receive =>
    rcases p.receive_cases with isSame | ⟨event, rest, _, isNext, isView, _⟩
    · rwa [apply, isSame]
    · rw [apply, isView]
      exact accounted.receive isNext
  | tell =>
    rcases tell_cases sound with isSame | ⟨uri, rest, _, isView, _⟩
    · rwa [apply, isSame]
    · rw [apply, isView]
      exact accounted.tell sound.orderly uri rest

theorem accounted_go (sound : Sound p) {key : String × String} (accounted : p.view.Accounted key) (steps : List Step) :
    (p.go steps).view.Accounted key := by
  induction steps generalizing p with
  | nil => exact accounted
  | cons step rest ih => exact ih (sound.apply step) (accounted_apply sound accounted step)

/-- Nothing is left to tell or to read. -/
structure IsCalm (p : Publishing) : Prop where
  events : p.workspace.events = []
  telling : p.telling = []
  clean : ∀ file ∈ p.workspace.files, file.status ≠ .dirty

end

/-- Whenever nothing is left to do, the editor was last told the diagnostics that a file has now, unless the folder of
the file has lost another one since then; and the editor was last told that a file which is gone has none. -/
theorem told_diagnostics_are_current (settings : Settings) (disk : Disk) (network : Network) (steps : List Step)
    (calm : (run settings disk network steps).IsCalm) :
    (∀ file ∈ (run settings disk network steps).workspace.files,
      ((run settings disk network steps).server.told file.uri.key).getLast? = some (Diagnostic.collect
        (run settings disk network steps).workspace file.uri settings.maxNumberOfProblems) ∨
      Thinned settings disk network steps file.uri.key) ∧
    (∀ earlier later uri, steps = earlier ++ later →
      (run settings disk network earlier).workspace.contains uri = true →
      (run settings disk network steps).workspace.contains uri = false →
      ((run settings disk network steps).server.told uri.key).getLast? = some []) := by
  constructor
  · intro file isFile
    obtain ⟨key, found⟩ := Workspace.mem_files_iff.mp isFile
    cases informed_run steps key file found with
    | announced earlier later read isNews =>
      rw [show (run settings disk network steps).view.workspace.events = [] from calm.events] at isNews
      simp at isNews
    | heeded _ heeded =>
      cases heeded with
      | next other isNext =>
        rw [show (run settings disk network steps).view.telling = [] from calm.telling] at isNext
        cases isNext
      | unread other isOther dirty => exact absurd dirty (calm.clean other (Workspace.mem_files_iff.mpr ⟨_, isOther⟩))
      | known isTold =>
        have limit : (run settings disk network steps).view.limit = settings.maxNumberOfProblems :=
          congrArg Settings.maxNumberOfProblems (settings_run settings disk network steps)
        rw [limit] at isTold
        exact .inl isTold
      | neglected isNeglected => exact .inr isNeglected
  · rintro earlier later uri rfl wasKnown isGone
    have wasAccounted : (run settings disk network earlier).view.Accounted uri.key := .inl wasKnown
    have accounted : (run settings disk network (earlier ++ later)).view.Accounted uri.key := by
      rw [run_append]
      exact accounted_go (.run settings disk network earlier) wasAccounted later
    rcases accounted with isStored | leaves | isCleared
    · rw [show ((run settings disk network (earlier ++ later)).view.workspace.stored? uri.key).isSome = false from isGone]
        at isStored
      cases isStored
    · refine absurd ?_ leaves
      rw [show (run settings disk network (earlier ++ later)).view.workspace.events = [] from calm.events]
      exact .nil
    · exact isCleared

theorem told_diagnostics_are_current_opened :
    let domain : Uri := { scheme := "file", authority := some {}, path := "/w/d.pddl" }
    let problem : Uri := { scheme := "file", authority := some {}, path := "/w/p.pddl" }
    let steps : List Step := [
      .opens domain, .work (.read ⟨domain, 1, "(define (domain d))".toList⟩), .work (.resume 0),
      .opens problem, .work (.read ⟨problem, 1, "(define (problem p) (:domain d))".toList⟩), .work (.resume 0),
      .receive, .receive, .tell, .tell, .receive, .receive, .tell, .tell]
    ∀ file ∈ (run {} {} .offline steps).workspace.files, ((run {} {} .offline steps).server.told file.uri.key).getLast? =
      some (Diagnostic.collect (run {} {} .offline steps).workspace file.uri 100) := by
  intro domain problem steps file isFile
  have calm : (run {} {} .offline steps).IsCalm := ⟨by decide +kernel, by decide +kernel, by decide +kernel⟩
  refine ((told_diagnostics_are_current {} {} .offline steps calm).1 file isFile).resolve_right ?_
  rintro ⟨earlier, uri, later, isSplit, _⟩
  have isStep : .work (.remove uri) ∈ steps := isSplit ▸ List.mem_append_right _ List.mem_cons_self
  simp [steps] at isStep

/-- The editor opens a domain and a problem that names it, and closes the domain, which is not on disk. Nothing is left
to do, the problem has lost its domain, and the editor was last told that all is well. -/
theorem closed_domain_leaves_problem_untold :
    let domain : Uri := { scheme := "file", authority := some {}, path := "/disk/d.pddl" }
    let problem : Uri := { scheme := "file", authority := some {}, path := "/disk/p.pddl" }
    let opened := ((Server.new {} .offline).notify (.opened domain 1 "(define (domain d))".toList)).settle
    let both := (opened.notify (.opened problem 1 "(define (problem p) (:domain d))".toList)).settle
    let closed := (both.notify (.closed domain)).settle
    closed.session.validator.isNone = true ∧ closed.session.workspace.events = [] ∧
      closed.session.reparses.isEmpty = true ∧ closed.session.parsing.waiting = [] ∧
      closed.session.workspace.files.map (fun file => (file.uri, file.status)) = [(problem, .parsed)] ∧
      (closed.told problem.key).getLast? = some [] ∧
      Diagnostic.collect closed.session.workspace problem closed.settings.maxNumberOfProblems =
        [.own ⟨⟨0, 29⟩, ⟨0, 30⟩⟩ .hint "No file in this folder declares domain 'd'"] := by
  decide +kernel

end Publishing
end PddlAssist
