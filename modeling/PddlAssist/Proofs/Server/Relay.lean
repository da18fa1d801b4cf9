import PddlAssist.Proofs.Server.Course
import PddlAssist.Proofs.Server.Verdict

namespace PddlAssist

namespace Reporting

def LeadsTo (r r' : Reporting) : Prop := ∃ steps : List Step, steps.foldl apply r = r'

theorem ticketed_apply {r : Reporting} (ticketed : r.server.session.Ticketed) (step : Step) :
    (r.apply step).server.session.Ticketed := by
  rcases session_apply r step with ⟨work, _, isWork⟩ | stays
  · rw [isWork]
    exact Traffic.ticketed_apply (t := r.publishing.traffic) ticketed work
  · refine ⟨?_, ?_⟩
    · rw [stays.reparses, stays.nextTicket]
      exact ticketed.reparses
    · rw [stays.runs, stays.nextTicket]
      exact ticketed.runs

namespace LeadsTo

theorem refl (r : Reporting) : LeadsTo r r := ⟨[], rfl⟩

theorem trans {r r' r'' : Reporting} (first : LeadsTo r r') (second : LeadsTo r' r'') : LeadsTo r r'' := by
  obtain ⟨earlier, rfl⟩ := first
  obtain ⟨later, rfl⟩ := second
  exact ⟨earlier ++ later, List.foldl_append⟩

theorem single (r : Reporting) (step : Step) : LeadsTo r (r.apply step) := ⟨[step], rfl⟩

theorem publishing {p p' : Publishing} (leads : p.LeadsTo p') : LeadsTo { publishing := p } { publishing := p' } := by
  obtain ⟨steps, rfl⟩ := leads
  induction steps generalizing p with
  | nil => exact refl _
  | cons step rest ih => exact (single _ (.publish step)).trans ih

theorem ticketed {r r' : Reporting} (leads : LeadsTo r r') (ticketed : r.server.session.Ticketed) :
    r'.server.session.Ticketed := by
  obtain ⟨steps, rfl⟩ := leads
  induction steps generalizing r with
  | nil => exact ticketed
  | cons step rest ih => exact ih (ticketed_apply ticketed step)

end LeadsTo

def setNotices (s : Server) (notices : List Notice) : Server := { s with session := { s.session with notices } }

theorem deliver_setNotices (s : Server) (entry : String × List Diagnostic) (notices : List Notice) :
    (setNotices s notices).deliver entry = setNotices (s.deliver entry) notices := by
  have same : (setNotices s notices).session.workspace = s.session.workspace := rfl
  unfold Server.deliver
  simp only [same]
  cases s.session.workspace.files.find? (·.uri.text == entry.1) <;> rfl

theorem onNotice_setNotices (s : Server) (notice : Notice) (notices : List Notice) :
    (setNotices s notices).onNotice notice = setNotices (s.onNotice notice) notices := by
  cases notice with
  | failure => rfl
  | report report =>
    rw [Server.onNotice_report, Server.onNotice_report]
    generalize report.toList = news
    induction news generalizing s with
    | nil => rfl
    | cons entry rest ih => rw [List.foldl_cons, deliver_setNotices, ih, List.foldl_cons]

theorem deliver_leadsTo (p : Publishing) (news : List (String × List Diagnostic)) :
    LeadsTo ⟨p, news⟩ { publishing := { p with server := news.foldl Server.deliver p.server } } := by
  induction news generalizing p with
  | nil => exact .refl _
  | cons entry rest ih => exact (LeadsTo.single _ (.deliver 0)).trans (ih _)

theorem onNotice_leadsTo (s : Server) (notice : Notice) (rest : List Notice) :
    LeadsTo { publishing := { server := setNotices s (notice :: rest) } }
      { publishing := { server := setNotices (s.onNotice notice) rest } } := by
  rw [← onNotice_setNotices]
  refine (LeadsTo.single _ (.hear 0)).trans ?_
  cases notice with
  | failure => exact .refl _
  | report report =>
    rw [Server.onNotice_report]
    exact deliver_leadsTo { server := setNotices s rest } report.toList

theorem relay_leadsTo (s : Server) :
    LeadsTo { publishing := { server := s } } { publishing := { server := s.relay } } := by
  have relays (notices : List Notice) : ∀ s : Server, LeadsTo { publishing := { server := setNotices s notices } }
      { publishing := { server := notices.foldl Server.onNotice (setNotices s []) } } := by
    induction notices with
    | nil => exact fun _ => .refl _
    | cons notice rest ih =>
      intro s
      refine (onNotice_leadsTo s notice rest).trans ?_
      rw [List.foldl_cons, onNotice_setNotices]
      exact ih (s.onNotice notice)
  exact relays s.session.notices s

end Reporting

namespace Server

def Reports (s s' : Server) : Prop :=
  s.session.Ticketed → Reporting.LeadsTo { publishing := { server := s } } { publishing := { server := s' } }

namespace Reports

theorem trans {s s' s'' : Server} (first : Reports s s') (second : Reports s' s'') : Reports s s'' := by
  intro ticketed
  have first := first ticketed
  exact first.trans (second (first.ticketed ticketed))

theorem publishing {s s' : Server} (leads : Publishing.LeadsTo { server := s } { server := s' }) : Reports s s' :=
  fun _ => .publishing leads

theorem session {s : Server} {session : Session} (leads : s.session.Ticketed → s.session.LeadsTo session) :
    Reports s { s with session } := fun ticketed => .publishing (.session (leads ticketed))

theorem follow {s : Server} {limit : Nat} {session : Session} (ticked : s.session.tick? limit = some session) :
    Reports s (s.follow session) := by
  have ticks : Reports s { s with session } := .session fun ticketed => Session.tick?_leadsTo ticketed ticked
  have relays : Reports { s with session } (relay { s with session }) := fun _ => Reporting.relay_leadsTo _
  exact (ticks.trans relays).trans (.publishing (Publishing.drain_leadsTo _ []))

theorem handles : Handles Reports where
  refl _ _ := .refl _
  trans := .trans
  opens _ uri := .publishing (.single _ (.opens uri))
  closes _ uri := .publishing (.single _ (.closes uri))
  log _ kind text := .publishing (.single _ (.log kind text))
  write _ disk := .publishing (.single _ (.write disk))
  removeFile s uri := .session fun _ => s.session.remove_leadsTo uri
  edit s uri version text := .session fun _ => s.session.edit_leadsTo uri version text
  upsertNow s uri version text := .publishing (Publishing.upsertNow_leadsTo s uri version text)
  parseNow _ := .session Session.parseNow_leadsTo
  drain s := .publishing (Publishing.drain_leadsTo s [])
  tick := .follow
  await _ moment := .session fun _ => ⟨[.await moment], rfl⟩

end Reports
end Server

theorem Reporting.Setup.handle_is_run (setup : Setup) (inputs : List Server.Input) :
    ∃ steps, setup.after steps =
      { publishing := { server := inputs.foldl Server.Input.handle setup.start.server } } := by
  have ticketed : setup.start.server.session.Ticketed := ⟨⟨List.nodup_nil, nofun⟩, ⟨List.nodup_nil, nofun⟩⟩
  exact Server.Reports.handles.foldl Server.Reports.handles.handle _ inputs ticketed

end PddlAssist
