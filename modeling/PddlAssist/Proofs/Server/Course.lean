import PddlAssist.Proofs.Server.Handling
import PddlAssist.Proofs.Server.Publication
import PddlAssist.Proofs.Session.Course

namespace PddlAssist

namespace Publishing

def LeadsTo (p p' : Publishing) : Prop := ∃ steps, p.go steps = p'

namespace LeadsTo

theorem refl (p : Publishing) : LeadsTo p p := ⟨[], rfl⟩

theorem trans {p p' p'' : Publishing} (first : LeadsTo p p') (second : LeadsTo p' p'') : LeadsTo p p'' := by
  obtain ⟨earlier, rfl⟩ := first
  obtain ⟨later, rfl⟩ := second
  exact ⟨earlier ++ later, List.foldl_append⟩

theorem single (p : Publishing) (step : Step) : LeadsTo p (p.apply step) := ⟨[step], rfl⟩

theorem session {s : Server} {session : Session} (leads : s.session.LeadsTo session) :
    LeadsTo { server := s } { server := { s with session } } := by
  obtain ⟨steps, leads⟩ := leads
  have lifted (p : Publishing) : p.go (steps.map .work) = p.setTraffic (p.traffic.go steps) := by
    clear leads
    induction steps generalizing p with
    | nil => rfl
    | cons step rest ih => exact ih (p.apply (.work step))
  refine ⟨steps.map .work, ?_⟩
  rw [lifted]
  exact congrArg (setTraffic { server := s }) leads

end LeadsTo

theorem publish_session (s : Server) (uri : Uri) : (s.publish uri).session = s.session := by
  unfold Server.publish
  cases s.session.workspace.find? uri <;> rfl

theorem publish_setEvents (s : Server) (uri : Uri) (events : List WorkspaceEvent) :
    (setEvents s events).publish uri = setEvents (s.publish uri) events := by
  have same : (setEvents s events).session.workspace.find? uri = s.session.workspace.find? uri := rfl
  unfold Server.publish
  rw [same]
  cases s.session.workspace.find? uri <;> rfl

theorem foldl_publish (s : Server) (uris : List Uri) (events : List WorkspaceEvent) :
    (uris.foldl Server.publish s).session = s.session ∧
      uris.foldl Server.publish (setEvents s events) = setEvents (uris.foldl Server.publish s) events := by
  induction uris generalizing s with
  | nil => exact ⟨rfl, rfl⟩
  | cons uri rest ih =>
    simp only [List.foldl_cons]
    rw [(ih _).1, publish_session, publish_setEvents, (ih _).2]
    exact ⟨rfl, rfl⟩

theorem tell_leadsTo (s : Server) (calls : List Call) (uris : List Uri) :
    LeadsTo ⟨s, calls, uris⟩ ⟨uris.foldl Server.publish s, calls, []⟩ := by
  induction uris generalizing s with
  | nil => exact .refl _
  | cons uri rest ih => exact (LeadsTo.single _ .tell).trans (ih (s.publish uri))

theorem scheduleValidation_workspace (s : Session) (uri : Uri) : (s.scheduleValidation uri).workspace = s.workspace := by
  unfold Session.scheduleValidation
  split <;> rfl

theorem scheduleValidation_setEvents (s : Server) (uri : Uri) (events : List WorkspaceEvent) :
    (setEvents s events).session.scheduleValidation uri =
      (setEvents { s with session := s.session.scheduleValidation uri } events).session := by
  have same : (setEvents s events).session.requestedDomain? uri = s.session.requestedDomain? uri := rfl
  unfold Session.scheduleValidation
  rw [same]
  cases s.session.requestedDomain? uri <;> rfl

theorem scheduleValidation_leadsTo (s : Server) (calls : List Call) (uris : List Uri) (uri : Uri) :
    LeadsTo ⟨s, calls, uris⟩ ⟨{ s with session := s.session.scheduleValidation uri }, calls, uris⟩ := by
  refine ⟨[.work (.request uri), .work (.resume calls.length), .work (.resume calls.length)], ?_⟩
  simp only [go, List.foldl_cons, List.foldl_nil, apply, traffic, setTraffic, Traffic.apply,
    Session.scheduleValidation]
  cases s.session.requestedDomain? uri with
  | none => simp
  | some domain => simp [Traffic.addCall, Traffic.resume, List.eraseIdx_append_of_length_le]

theorem onEvent_workspace (s : Server) (event : WorkspaceEvent) :
    (s.onEvent event).session.workspace = s.session.workspace := by
  cases event with
  | inserted | removing => rfl
  | updated uri =>
    have same := (foldl_publish { s with validatorDiagnostics := s.validatorDiagnostics.erase uri.text }
      ((s.session.workspace.siblings uri).map (·.uri)) []).1
    rw [Server.onEvent, scheduleValidation_workspace, same]

theorem onEvent_setEvents (s : Server) (event : WorkspaceEvent) (events : List WorkspaceEvent) :
    (setEvents s events).onEvent event = setEvents (s.onEvent event) events := by
  cases event with
  | inserted | removing => rfl
  | updated uri =>
    have told := (foldl_publish { s with validatorDiagnostics := s.validatorDiagnostics.erase uri.text }
      ((s.session.workspace.siblings uri).map (·.uri)) events).2
    have asked := scheduleValidation_setEvents (((s.session.workspace.siblings uri).map (·.uri)).foldl Server.publish
      { s with validatorDiagnostics := s.validatorDiagnostics.erase uri.text }) uri events
    rw [← told] at asked
    simp only [Server.onEvent]
    exact congrArg₂ (fun (s : Server) session => { s with session }) told asked

theorem onEvent_leadsTo (s : Server) (calls : List Call) (event : WorkspaceEvent) (rest : List WorkspaceEvent) :
    LeadsTo { server := setEvents s (event :: rest), calls } { server := setEvents (s.onEvent event) rest, calls } := by
  refine (LeadsTo.single _ .receive).trans ?_
  rw [← onEvent_setEvents]
  cases event with
  | inserted | removing => exact .refl _
  | updated uri => exact (tell_leadsTo _ calls _).trans (scheduleValidation_leadsTo _ calls [] uri)

theorem drain_leadsTo (s : Server) (calls : List Call) :
    LeadsTo { server := s, calls } { server := s.drain, calls } := by
  have drains (events : List WorkspaceEvent) : ∀ s : Server,
      LeadsTo { server := setEvents s events, calls }
        { server := events.foldl Server.onEvent (setEvents s []), calls } := by
    induction events with
    | nil => exact fun _ => .refl _
    | cons event rest ih =>
      intro s
      refine (onEvent_leadsTo s calls event rest).trans ?_
      rw [List.foldl_cons, onEvent_setEvents]
      exact ih (s.onEvent event)
  exact drains s.session.workspace.events s

theorem drain_workspace (s : Server) : s.drain.session.workspace = (setEvents s []).session.workspace := by
  have same (events : List WorkspaceEvent) : ∀ s : Server,
      (events.foldl Server.onEvent s).session.workspace = s.session.workspace := by
    induction events with
    | nil => exact fun _ => rfl
    | cons event rest ih =>
      intro s
      rw [List.foldl_cons, ih, onEvent_workspace]
  exact same _ _

theorem upsertNow_leadsTo (s : Server) (uri : Uri) (version : Int) (text : List Char) :
    LeadsTo { server := s } { server := s.upsertNow uri version text } := by
  unfold Server.upsertNow
  split
  · exact .refl _
  · rename_i current
    have begins : LeadsTo { server := s }
        { server := s, calls := [.reading s.session.workspace.reader ⟨uri, version, text⟩] } := by
      refine ⟨[.work (.read ⟨uri, version, text⟩)], ?_⟩
      show setTraffic { server := s } (Traffic.read ⟨s.session, []⟩ ⟨uri, version, text⟩) = _
      rw [Traffic.read, if_neg current]
      rfl
    have isRead : (s.drain.session.upsertNow uri version text).2 = { s.drain.session with
        workspace := (s.drain.session.workspace.install (.read s.session.workspace.reader uri version text)).2 } := by
      have unread : ¬ (s.drain.session.workspace.find? uri).any fun held => version ≤ held.version := by
        rw [drain_workspace]
        exact current
      have reader : s.drain.session.workspace.reader = s.session.workspace.reader := by
        rw [drain_workspace]
        rfl
      exact (congrArg Prod.snd (if_neg unread)).trans (by rw [reader])
    refine (begins.trans (drain_leadsTo s _)).trans ⟨[.work (.resume 0)], ?_⟩
    simp only [isRead]
    rfl

theorem scheduleValidation_unconfigured {s : Session} (unconfigured : s.validator = none) (uri : Uri) :
    s.scheduleValidation uri = s := by
  simp [Session.scheduleValidation, Session.requestedDomain?, unconfigured]

theorem onEvent_session {s : Server} (unconfigured : s.session.validator = none) (event : WorkspaceEvent) :
    (s.onEvent event).session = s.session := by
  cases event with
  | inserted | removing => rfl
  | updated uri =>
    have same := (foldl_publish { s with validatorDiagnostics := s.validatorDiagnostics.erase uri.text }
      ((s.session.workspace.siblings uri).map (·.uri)) []).1
    rw [Server.onEvent, same]
    exact scheduleValidation_unconfigured unconfigured uri

theorem drain_session {s : Server} (unconfigured : s.session.validator = none) :
    s.drain.session = (setEvents s []).session := by
  have same (events : List WorkspaceEvent) : ∀ {s : Server}, s.session.validator = none →
      (events.foldl Server.onEvent s).session = s.session := by
    induction events with
    | nil => exact fun _ => rfl
    | cons event rest ih =>
      intro s unconfigured
      have first := onEvent_session unconfigured event
      rw [List.foldl_cons, ih (by rw [first]; exact unconfigured), first]
  exact same _ unconfigured

end Publishing

structure Session.Quiet (s : Session) : Prop where
  unconfigured : s.validator = none
  runs : s.runs = []
  notices : s.notices = []
  checking : s.checking.waiting = []
  ticketed : s.Ticketed

structure Session.ChecksAs (s s' : Session) : Prop where
  validator : s'.validator = s.validator
  runs : s'.runs = s.runs
  notices : s'.notices = s.notices
  checking : s'.checking = s.checking

theorem Session.Quiet.checksAs {s s' : Session} (quiet : s.Quiet) (same : s.ChecksAs s') (ticketed : s'.Ticketed) :
    s'.Quiet where
  unconfigured := same.validator.trans quiet.unconfigured
  runs := same.runs.trans quiet.runs
  notices := same.notices.trans quiet.notices
  checking := by rw [same.checking]; exact quiet.checking
  ticketed := ticketed

namespace Session

theorem upsertNow_checksAs (s : Session) (uri : Uri) (version : Int) (text : List Char) :
    s.ChecksAs (s.upsertNow uri version text).2 := by
  unfold upsertNow
  split <;> exact ⟨rfl, rfl, rfl, rfl⟩

theorem edit_checksAs (s : Session) (uri : Uri) (version : Int) (text : List Char) :
    s.ChecksAs (s.edit uri version text).2 := by
  unfold edit
  split
  · simp only
    split <;> exact ⟨rfl, rfl, rfl, rfl⟩
  · exact s.upsertNow_checksAs uri version text

theorem installTexts_checksAs (s : Session) (ticket : Nat) : s.ChecksAs (s.installTexts ticket).2 := by
  unfold installTexts
  split <;> exact ⟨rfl, rfl, rfl, rfl⟩

theorem parseNow_checksAs (s : Session) : s.ChecksAs s.parseNow.2 := by
  have same := (s.beginParse.takeTexts s.nextTicket).installTexts_checksAs s.nextTicket
  exact ⟨same.validator, same.runs, same.notices, same.checking⟩

theorem tick?_checksAs {s s' : Session} (quiet : s.Quiet) {limit : Nat} (ticked : s.tick? limit = some s') :
    s.ChecksAs s' := by
  have noRuns : s.runs.findSome? s.stepRun? = none := by
    rw [quiet.runs]
    rfl
  rw [tick?, noRuns, Option.or_none] at ticked
  split at ticked
  · rename_i next isNext
    cases ticked
    obtain ⟨task, _, rfl⟩ := Option.map_eq_some_iff.mp isNext
    split
    · exact ⟨rfl, rfl, rfl, rfl⟩
    · exact s.installTexts_checksAs task.ticket
  · split at ticked
    · rename_i due isFirst
      split at ticked
      · cases ticked
        have isDue := Due.mem_of_first? isFirst
        simp only [dues, quiet.checking, quiet.runs, List.map_nil, List.filterMap_nil, List.append_nil] at isDue
        obtain ⟨timer, _, rfl⟩ := List.mem_map.mp isDue
        simp only [expireParsing]
        split <;> exact ⟨rfl, rfl, rfl, rfl⟩
      · cases ticked
    · cases ticked

end Session

namespace Server

/-- A quiet server comes by some steps from one state to another. -/
def LeadsTo (s s' : Server) : Prop :=
  s.session.Quiet → s'.session.Quiet ∧ Publishing.LeadsTo { server := s } { server := s' }

namespace LeadsTo

theorem trans {s s' s'' : Server} (first : LeadsTo s s') (second : LeadsTo s' s'') : LeadsTo s s'' := by
  intro quiet
  obtain ⟨quiet, first⟩ := first quiet
  obtain ⟨quiet, second⟩ := second quiet
  exact ⟨quiet, first.trans second⟩

theorem session {s : Server} {session : Session} (same : s.session.ChecksAs session)
    (leads : s.session.Ticketed → s.session.LeadsTo session) : LeadsTo s { s with session } := by
  intro quiet
  have leads := leads quiet.ticketed
  exact ⟨quiet.checksAs same (leads.ticketed quiet.ticketed), .session leads⟩

end LeadsTo

theorem drain_quiet {s : Server} (quiet : s.session.Quiet) : s.drain.session.Quiet := by
  rw [Publishing.drain_session quiet.unconfigured]
  exact quiet.checksAs ⟨rfl, rfl, rfl, rfl⟩ ⟨quiet.ticketed.reparses, quiet.ticketed.runs⟩

theorem upsertNow_quiet {s : Server} (quiet : s.session.Quiet) (uri : Uri) (version : Int) (text : List Char) :
    (s.upsertNow uri version text).session.Quiet := by
  unfold upsertNow
  split
  · exact quiet
  · have drained := drain_quiet quiet
    have leads := s.drain.session.upsertNow_leadsTo uri version text
    exact drained.checksAs (s.drain.session.upsertNow_checksAs uri version text) (leads.ticketed drained.ticketed)

theorem relay_quiet {s : Server} (quiet : s.session.Quiet) : s.relay = s := by
  have same : { s.session with notices := [] } = s.session := by rw [← quiet.notices]
  simp only [relay, Session.takeNotices, quiet.notices, List.foldl_nil, same]

theorem LeadsTo.drain (s : Server) : LeadsTo s s.drain := fun quiet =>
  ⟨drain_quiet quiet, Publishing.drain_leadsTo s []⟩

theorem LeadsTo.tick {s : Server} {limit : Nat} {session : Session} (ticked : s.session.tick? limit = some session) :
    LeadsTo s (s.follow session) := by
  intro quiet
  have ticks : LeadsTo s { s with session } :=
    .session (Session.tick?_checksAs quiet ticked) fun ticketed => Session.tick?_leadsTo ticketed ticked
  have same : ({ s with session } : Server).relay = { s with session } := relay_quiet (ticks quiet).1
  rw [follow, same]
  exact (ticks.trans (.drain _)) quiet

theorem LeadsTo.handles : Handles LeadsTo where
  refl _ quiet := ⟨quiet, .refl _⟩
  trans := .trans
  opens _ uri quiet := ⟨quiet, .single _ (.opens uri)⟩
  closes _ uri quiet := ⟨quiet, .single _ (.closes uri)⟩
  log _ kind text quiet := ⟨quiet, .single _ (.log kind text)⟩
  write _ disk quiet :=
    ⟨quiet.checksAs ⟨rfl, rfl, rfl, rfl⟩ ⟨quiet.ticketed.reparses, quiet.ticketed.runs⟩, .single _ (.write disk)⟩
  removeFile s uri := .session ⟨rfl, rfl, rfl, rfl⟩ fun _ => s.session.remove_leadsTo uri
  edit s uri version text :=
    .session (s.session.edit_checksAs uri version text) fun _ => s.session.edit_leadsTo uri version text
  upsertNow s uri version text quiet :=
    ⟨upsertNow_quiet quiet uri version text, Publishing.upsertNow_leadsTo s uri version text⟩
  parseNow s := .session s.session.parseNow_checksAs Session.parseNow_leadsTo
  drain := .drain
  tick := .tick
  await _ moment := .session ⟨rfl, rfl, rfl, rfl⟩ fun _ => ⟨[.await moment], rfl⟩

theorem start_eq {settings : Settings} {disk : Disk} (unconfigured : Session.validatorOf settings (hostOf disk) = none)
    (network : Network) : Publishing.start settings disk network = (Server.new disk network).applySettings settings := by
  have same : ((Server.new disk network).applySettings settings).session.validator = none := unconfigured
  simp only [Publishing.start, ← same]

theorem handle_is_run {settings : Settings} {disk : Disk}
    (unconfigured : Session.validatorOf settings (hostOf disk) = none) (network : Network) (inputs : List Input) :
    ∃ steps, Publishing.run settings disk network steps =
      { server := inputs.foldl Input.handle ((Server.new disk network).applySettings settings) } := by
  have quiet : (Publishing.start settings disk network).session.Quiet :=
    ⟨rfl, rfl, rfl, rfl, ⟨List.nodup_nil, nofun⟩, ⟨List.nodup_nil, nofun⟩⟩
  rw [← start_eq unconfigured]
  exact (LeadsTo.handles.foldl LeadsTo.handles.handle _ inputs quiet).2

end Server
end PddlAssist
