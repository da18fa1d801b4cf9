import PddlAssist.Proofs.Server.Publication
import PddlAssist.Proofs.Session.Provenance
import PddlAssist.Proofs.Workspace.Snapshot

namespace PddlAssist

open Workspace (Revision Operation)

namespace Server

def deliver (s : Server) (entry : String × List Diagnostic) : Server :=
  let s := { s with validatorDiagnostics := s.validatorDiagnostics.insert entry.1 entry.2 }
  (s.session.workspace.files.find? (·.uri.text == entry.1)).elim s s.publishFile

theorem onNotice_report (s : Server) (report : ValidationReport) :
    s.onNotice (.report report) = report.toList.foldl deliver s := rfl

end Server

structure Reporting where
  publishing : Publishing
  news : List (String × List Diagnostic) := []

namespace Reporting

inductive Step where
  | publish (step : Publishing.Step)
  | hear (n : Nat)
  | deliver (n : Nat)

def server (r : Reporting) : Server := r.publishing.server

def workspace (r : Reporting) : Workspace := r.server.session.workspace

def setServer (r : Reporting) (server : Server) : Reporting := { r with publishing := { r.publishing with server } }

def dropNotice (s : Server) (n : Nat) : Server :=
  { s with session := { s.session with notices := s.session.notices.eraseIdx n } }

def hear (r : Reporting) (n : Nat) : Reporting :=
  match r.server.session.notices[n]? with
  | none => r
  | some (.report report) => { r.setServer (dropNotice r.server n) with news := r.news ++ report.toList }
  | some (.failure domain e) => r.setServer ((dropNotice r.server n).onNotice (.failure domain e))

def deliver (r : Reporting) (n : Nat) : Reporting :=
  match r.news[n]? with
  | none => r
  | some entry => { r.setServer (r.server.deliver entry) with news := r.news.eraseIdx n }

def apply (r : Reporting) : Step → Reporting
  | .publish step => { r with publishing := r.publishing.apply step }
  | .hear n => r.hear n
  | .deliver n => r.deliver n

/-- The address of the file that was read or has left, if the step handles an event about that. -/
def handled? (r : Reporting) : Step → Option String
  | .publish .receive =>
    match r.publishing.telling, r.workspace.events with
    | [], .updated uri :: _ | [], .removing uri :: _ => some uri.text
    | _, _ => none
  | _ => none

theorem tell_cases (p : Publishing) :
    p.tell.server.validatorDiagnostics = p.server.validatorDiagnostics ∧
      (p.tell.server.outbox = p.server.outbox ∨ ∃ uri version, p.tell.server.outbox =
        p.server.outbox ++ [.diagnostics uri (p.tell.server.diagnosticsOf uri) version]) := by
  unfold Publishing.tell
  split
  · exact ⟨rfl, .inl rfl⟩
  · rename_i uri rest _
    simp only [Server.publish]
    cases p.server.session.workspace.find? uri with
    | none => exact ⟨rfl, .inl rfl⟩
    | some file => exact ⟨rfl, .inr ⟨file.uri, _, rfl⟩⟩

theorem receive_cases (r : Reporting) :
    ((r.publishing.receive).server.validatorDiagnostics = r.server.validatorDiagnostics ∧
      (r.publishing.receive).server.outbox = r.server.outbox ∧ r.handled? (.publish .receive) = none) ∨
    ∃ uri : Uri, r.handled? (.publish .receive) = some uri.text ∧
      (r.publishing.receive).server.validatorDiagnostics = r.server.validatorDiagnostics.erase uri.text ∧
      ((r.publishing.receive).server.outbox = r.server.outbox ∨
        (r.publishing.receive).server.outbox = r.server.outbox ++ [.diagnostics uri [] none]) := by
  simp only [handled?, Publishing.receive, workspace, server, Publishing.workspace]
  split
  · rename_i event rest isIdle isNext
    rw [isIdle, isNext]
    cases event with
    | inserted uri => exact .inl ⟨rfl, rfl, rfl⟩
    | updated uri => exact .inr ⟨uri, rfl, rfl, .inl rfl⟩
    | removing uri => exact .inr ⟨uri, rfl, rfl, .inr rfl⟩
  · rename_i other
    refine .inl ⟨rfl, rfl, ?_⟩
    split
    · rename_i isIdle isNext
      exact absurd isNext (other _ _ isIdle)
    · rename_i isIdle isNext
      exact absurd isNext (other _ _ isIdle)
    · rfl

structure StaysAs (s s' : Session) : Prop where
  folders : s'.workspace.folders = s.workspace.folders
  reparses : s'.reparses = s.reparses
  validator : s'.validator = s.validator
  runs : s'.runs = s.runs
  nextTicket : s'.nextTicket = s.nextTicket
  notices : ∀ notice ∈ s'.notices, notice ∈ s.notices

theorem StaysAs.refl (s : Session) : StaysAs s s := ⟨rfl, rfl, rfl, rfl, rfl, fun _ => id⟩

theorem session_apply (r : Reporting) (step : Step) :
    (∃ work, step = .publish (.work work) ∧
      (r.apply step).server.session = (r.publishing.traffic.apply work).session) ∨
    StaysAs r.server.session (r.apply step).server.session := by
  cases step with
  | hear n =>
    have fewer : StaysAs r.server.session (dropNotice r.server n).session :=
      ⟨rfl, rfl, rfl, rfl, rfl, fun _ => List.mem_of_mem_eraseIdx⟩
    refine .inr ?_
    simp only [apply, hear]
    split
    · exact .refl _
    · exact fewer
    · exact fewer
  | deliver n =>
    refine .inr ?_
    simp only [apply, deliver]
    split
    · exact .refl _
    · rename_i entry _
      simp only [setServer, server, Server.deliver]
      cases r.publishing.server.session.workspace.files.find? (·.uri.text == entry.1) <;> exact .refl _
  | publish step =>
    cases step with
    | work work => exact .inl ⟨work, rfl, rfl⟩
    | opens | closes | log => exact .inr (.refl _)
    | write => exact .inr ⟨rfl, rfl, rfl, rfl, rfl, fun _ => id⟩
    | receive =>
      refine .inr ?_
      simp only [apply, Publishing.apply, Publishing.receive, server]
      split
      · rename_i event rest _ _
        cases event <;> exact ⟨rfl, rfl, rfl, rfl, rfl, fun _ => id⟩
      · exact .refl _
    | tell =>
      refine .inr ?_
      simp only [apply, Publishing.apply, Publishing.tell, server]
      split
      · exact .refl _
      · rename_i uri rest _
        simp only [Server.publish]
        cases r.publishing.server.session.workspace.find? uri <;> exact .refl _

def Removes (uri : Uri) : Step → Prop
  | .publish (.work (.remove other)) => other.key = uri.key
  | _ => False

theorem orderly_apply {r : Reporting} (orderly : r.workspace.Orderly) (step : Step) :
    (r.apply step).workspace.Orderly := by
  rcases session_apply r step with ⟨work, _, isWork⟩ | stays
  · rw [workspace, isWork]
    exact Traffic.orderly_apply (t := r.publishing.traffic) orderly work
  · exact orderly.of_folders stays.folders

structure Setup where
  settings : Settings
  disk : Disk
  network : Network
  validator : Option Validator

namespace Setup

def start (setup : Setup) : Reporting :=
  let s := (Server.new setup.disk setup.network).applySettings setup.settings
  { publishing := { server := { s with session := { s.session with validator := setup.validator } } } }

def after (setup : Setup) (steps : List Step) : Reporting := steps.foldl apply setup.start

variable (setup : Setup)

/-- What the validator says about a file when it gets the texts that a domain has after some steps. -/
def Verdict (collected : List Step) (address : String) (found : List Diagnostic) : Prop :=
  ∃ v domain bundle network report, setup.validator = some v ∧
    Session.bundle? (setup.after collected).workspace domain = some bundle ∧
    (v bundle network).1.result = .ok report ∧ report[address]? = some found

/-- The file is not removed by the steps that follow the earlier ones. -/
def Keeps (uri : Uri) (earlier later : List Step) : Prop :=
  ∀ between step, earlier <+: between → between ++ [step] <+: later → ¬ Removes uri step

end Setup

end Reporting
end PddlAssist
