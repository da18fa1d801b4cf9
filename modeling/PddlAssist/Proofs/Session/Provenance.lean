import PddlAssist.Proofs.Session.Traffic

namespace PddlAssist

/-- The texts of a domain that were collected, in some way that is not said here. -/
abbrev Source := Uri → ValidationBundle → Prop

def ValidationReport.IsSourced (source : Source) (validator : Option Validator) (report : ValidationReport) : Prop :=
  ∃ v domain bundle network, validator = some v ∧ source domain bundle ∧ (v bundle network).1.result = .ok report

def ValidationStage.IsSourced (source : Source) (validator : Option Validator) : ValidationStage → Prop
  | .collected v domain bundle _ => validator = some v ∧ source domain bundle
  | .calling call _ => ∃ v network, validator = some v ∧ source call.domain call.bundle ∧
    (v call.bundle network).1.result = call.result
  | _ => True

namespace Session

structure Sourced (source : Source) (validator : Option Validator) (s : Session) : Prop where
  isValidator : s.validator = validator
  runs : ∀ run ∈ s.runs, run.stage.IsSourced source validator
  notices : ∀ report, .report report ∈ s.notices → report.IsSourced source validator

namespace Sourced

variable {source source' : Source} {validator : Option Validator} {s : Session}

theorem mono (sourced : s.Sourced source validator) (more : ∀ domain bundle, source domain bundle → source' domain bundle) :
    s.Sourced source' validator where
  isValidator := sourced.isValidator
  runs run isRun := by
    have isSourced := sourced.runs run isRun
    cases stage : run.stage with
    | started | queued | answered => trivial
    | collected v domain bundle rest =>
      rw [stage] at isSourced
      exact ⟨isSourced.1, more _ _ isSourced.2⟩
    | calling call rest =>
      rw [stage] at isSourced
      obtain ⟨v, network, isValidator, isSource, isResult⟩ := isSourced
      exact ⟨v, network, isValidator, more _ _ isSource, isResult⟩
  notices report isNotice := by
    obtain ⟨v, domain, bundle, network, isValidator, isSource, isResult⟩ := sourced.notices report isNotice
    exact ⟨v, domain, bundle, network, isValidator, more _ _ isSource, isResult⟩

theorem same (sourced : s.Sourced source validator) {s' : Session} (isValidator : s'.validator = s.validator)
    (runs : s'.runs = s.runs) (notices : s'.notices = s.notices) : s'.Sourced source validator :=
  ⟨isValidator.trans sourced.isValidator, runs ▸ sourced.runs, notices ▸ sourced.notices⟩

theorem setRun (sourced : s.Sourced source validator) {run : ValidationRun}
    (isSourced : run.stage.IsSourced source validator) : (s.setRun run).Sourced source validator where
  isValidator := sourced.isValidator
  runs other isOther := by
    obtain ⟨old, isOld, rfl⟩ := List.mem_map.mp isOther
    split
    · exact isSourced
    · exact sourced.runs old isOld
  notices := sourced.notices

theorem addRun (sourced : s.Sourced source validator) (generation : Option Nat) {stage : ValidationStage}
    (isSourced : stage.IsSourced source validator) : (s.addRun generation stage).Sourced source validator where
  isValidator := sourced.isValidator
  runs run isRun := by
    rcases List.mem_append.mp isRun with old | new
    · exact sourced.runs run old
    · rw [List.mem_singleton.mp new]
      exact isSourced
  notices := sourced.notices

theorem notice (sourced : s.Sourced source validator) {notice : Notice}
    (isSourced : ∀ report, notice = .report report → report.IsSourced source validator) :
    Sourced source validator { s with notices := s.notices ++ [notice] } where
  isValidator := sourced.isValidator
  runs := sourced.runs
  notices report isNotice := by
    rcases List.mem_append.mp isNotice with old | new
    · exact sourced.notices report old
    · exact isSourced report (List.mem_singleton.mp new).symm

theorem fail (sourced : s.Sourced source validator) (run : ValidationRun) (domain : Uri) (e : ValidationError)
    (rest : List Uri) : (s.fail run domain e rest).Sourced source validator := by
  unfold Session.fail
  split
  · have noticed : Sourced source validator { s with notices := s.notices ++ [.failure domain e] } :=
      sourced.notice fun _ same => by cases same
    exact noticed.setRun trivial
  · exact sourced.setRun trivial

theorem beginNext (sourced : s.Sourced source validator)
    (collects : ∀ domain bundle, bundle? s.workspace domain = some bundle → source domain bundle)
    (run : ValidationRun) (domains : List Uri) : (s.beginNext run domains).Sourced source validator := by
  unfold Session.beginNext
  split
  · split
    · exact ⟨sourced.isValidator, fun other isOther => sourced.runs other (List.mem_filter.mp isOther).1, sourced.notices⟩
    · exact sourced.setRun trivial
  · rename_i domain rest
    split
    · exact sourced.fail _ _ _ _
    · exact sourced.setRun trivial
    · rename_i v bundle isValidator isBundle
      exact sourced.setRun ⟨sourced.isValidator.symm.trans isValidator, collects domain bundle isBundle⟩

theorem stepRun? (sourced : s.Sourced source validator)
    (collects : ∀ domain bundle, bundle? s.workspace domain = some bundle → source domain bundle)
    {run : ValidationRun} (isRun : run ∈ s.runs) {s' : Session} (stepped : s.stepRun? run = some s') :
    s'.Sourced source validator := by
  have isSourced := sourced.runs run isRun
  unfold Session.stepRun? at stepped
  split at stepped
  · cases stepped
    have emptied : Sourced source validator { s with pending := [] } := sourced.same rfl rfl rfl
    exact emptied.setRun trivial
  · cases stepped
    exact sourced.beginNext collects run _
  · rename_i v domain bundle rest isCollected
    cases stepped
    rw [isCollected] at isSourced
    have called : Sourced source validator { s with
        workspace := transition s.workspace bundle .parsed .validating
        network := (v bundle s.network).2
        calls := s.calls ++ [bundle]
        nextTicket := s.nextTicket + 1 } := sourced.same rfl rfl rfl
    exact called.setRun ⟨v, s.network, isSourced.1, isSourced.2, rfl⟩
  · cases stepped

theorem endCall (sourced : s.Sourced source validator) {run : ValidationRun} (isRun : run ∈ s.runs)
    {call : ValidationCall} {rest : List Uri} (isCalling : run.stage = .calling call rest) :
    (s.endCall run call rest).Sourced source validator := by
  have isSourced := sourced.runs run isRun
  rw [isCalling] at isSourced
  obtain ⟨v, network, isValidator, isSource, isResult⟩ := isSourced
  have moved (w : Workspace) : Sourced source validator { s with workspace := w } := sourced.same rfl rfl rfl
  unfold Session.endCall
  split
  · rename_i report isReport
    have told : report.IsSourced source validator :=
      ⟨v, call.domain, call.bundle, network, isValidator, isSource, isResult.trans isReport⟩
    have validated := moved (transition s.workspace call.bundle .validating .validated)
    have noticed : Sourced source validator { s with
        workspace := transition s.workspace call.bundle .validating .validated
        notices := s.notices ++ [.report report] } :=
      validated.notice fun other same => by
        cases same
        exact told
    exact noticed.setRun trivial
  · exact (moved _).fail _ _ _ _

end Sourced
end Session

end PddlAssist
