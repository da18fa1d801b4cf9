import Mathlib.Data.List.Induction
import PddlAssist.Proofs.Symbol.References
import PddlAssist.Proofs.Workspace.Run

namespace PddlAssist

inductive CheckStage where
  | collected
  | calling
  | succeeded
  | failed
  deriving DecidableEq, Repr, Inhabited

structure Check where
  bundle : ValidationBundle
  stage : CheckStage := .collected

def Check.isOpen (check : Check) : Bool := check.stage == .collected || check.stage == .calling

namespace Workspace

namespace Progress

def stageBefore : Progress → CheckStage
  | begun => .collected
  | succeeded | failed => .calling

def stageAfter : Progress → CheckStage
  | begun => .calling
  | succeeded => .succeeded
  | failed => .failed

theorem before_ne_after (progress : Progress) : progress.before ≠ progress.after := by cases progress <;> decide

theorem after_clean (progress : Progress) : progress.after ≠ .dirty := by cases progress <;> decide

end Progress

def Operation.setsStatus : Operation → Bool
  | setStatus .. | validate .. => true
  | _ => false

def input? (w : Workspace) (key : String × String) : Option (List Char) :=
  (w.stored? key).bind fun file => if file.status = .dirty then none else some (Session.validatedText file)

/-- The operation makes a validator see a text of the file that it did not see before. -/
def Operation.Renews (w : Workspace) (operation : Operation) (key : String × String) : Prop :=
  ∃ text, (operation.apply w).input? key = some text ∧ w.input? key ≠ some text

end Workspace

structure Checking where
  workspace : Workspace
  checks : List Check := []

namespace Checking

open Workspace

inductive Step where
  | change (operation : Operation)
  | collect (domainUri : Uri)
  | advance (n : Nat) (progress : Progress)

def apply (c : Checking) : Step → Checking
  | .change operation => { c with workspace := operation.apply c.workspace }
  | .collect domainUri =>
    match Session.bundle? c.workspace domainUri with
    | some bundle => { c with checks := c.checks ++ [{ bundle }] }
    | none => c
  | .advance n progress =>
    match c.checks[n]? with
    | some check =>
      if check.stage = progress.stageBefore then
        { workspace := Session.transition c.workspace check.bundle progress.before progress.after
          checks := c.checks.set n { check with stage := progress.stageAfter } }
      else c
    | none => c

/-- Some steps on a workspace that has no files yet. -/
def run (reader : FileReader) (steps : List Step) : Checking := steps.foldl apply { workspace := { reader } }

theorem run_snoc (reader : FileReader) (steps : List Step) (step : Step) :
    run reader (steps ++ [step]) = (run reader steps).apply step := by
  simp only [run, List.foldl_append, List.foldl_cons, List.foldl_nil]

/-- A file was read again while validation `n` waited for its validator. -/
def Overtaken (reader : FileReader) (steps : List Step) (n : Nat) (key : String × String) : Prop :=
  ∃ earlier operation later, steps = earlier ++ .change operation :: later ∧
    (∃ check, (run reader earlier).checks[n]? = some check ∧ check.isOpen = true) ∧
    operation.Renews (run reader earlier).workspace key

theorem Overtaken.snoc {reader : FileReader} {steps : List Step} {n : Nat} {key : String × String}
    (overtaken : Overtaken reader steps n key) (step : Step) : Overtaken reader (steps ++ [step]) n key := by
  obtain ⟨earlier, operation, later, rfl, waiting, renews⟩ := overtaken
  exact ⟨earlier, operation, later ++ [step], by simp, waiting, renews⟩

end Checking

namespace SourceFile

theorem read_status (reader : FileReader) (uri : Uri) (version : Int) (text : List Char) :
    (read reader uri version text).status = .parsed := by simp only [read]

theorem SameText.status {f f' : SourceFile} (same : SameText f f') : f'.status = f.status :=
  (congrArg SourceFile.status same :)

theorem SameText.validatedText {f f' : SourceFile} (same : SameText f f') :
    Session.validatedText f' = Session.validatedText f := by
  have kinds : f'.kind.forget = f.kind.forget := congrArg SourceFile.kind same
  have problems : f'.problem? = f.problem? := by
    simp only [problem?]
    rcases FileKind.forget_cases kinds with equal | ⟨d, d', isDomain, isDomain', _⟩
    · rw [equal]
    · rw [isDomain, isDomain']
  rw [Session.validatedText, Session.validatedText, problems, same.document]

end SourceFile

namespace Workspace

def KeepsVerdicts (w w' : Workspace) : Prop :=
  ∀ key file, w'.stored? key = some file → file.status = .validated →
    ∃ old, w.stored? key = some old ∧ old.status = .validated ∧
      Session.validatedText old = Session.validatedText file

namespace KeepsVerdicts

theorem refl (w : Workspace) : KeepsVerdicts w w := fun _ file found validated => ⟨file, found, validated, rfl⟩

theorem trans {w w' w'' : Workspace} (first : KeepsVerdicts w w') (second : KeepsVerdicts w' w'') :
    KeepsVerdicts w w'' := by
  intro key file found validated
  obtain ⟨middle, found, validated, same⟩ := second key file found validated
  obtain ⟨old, found, validated, same'⟩ := first key middle found validated
  exact ⟨old, found, validated, same'.trans same⟩

theorem put (w : Workspace) {file : SourceFile} (unchecked : file.status ≠ .validated) :
    KeepsVerdicts w (w.put file) := by
  intro key other found validated
  rw [stored?_put] at found
  split at found
  · cases found
    exact absurd validated unchecked
  · exact ⟨other, found, validated, rfl⟩

theorem put_sameText {w : Workspace} (orderly : Orderly w) {place : String × String} {file file' : SourceFile}
    (stored : w.stored? place = some file) (same : SourceFile.SameText file file') :
    KeepsVerdicts w (w.put file') := by
  intro key other found validated
  rw [stored?_put] at found
  split at found
  · rename_i isKey
    cases found
    rw [same.uri, orderly.keyed stored] at isKey
    subst isKey
    exact ⟨file, stored, by rw [← same.status, validated], same.validatedText.symm⟩
  · exact ⟨other, found, validated, rfl⟩

theorem install (w : Workspace) {file : SourceFile} (unchecked : file.status ≠ .validated) :
    KeepsVerdicts w (w.install file).2 := by
  unfold Workspace.install
  split
  · split
    · exact put w unchecked
    · exact refl w
  · exact put w unchecked

theorem installAll (w : Workspace) {files : List SourceFile} (unchecked : ∀ file ∈ files, file.status ≠ .validated) :
    KeepsVerdicts w (w.installAll files).2 := by
  induction files generalizing w with
  | nil => exact refl w
  | cons file rest ih =>
    rw [List.forall_mem_cons] at unchecked
    exact (install w unchecked.1).trans (ih _ unchecked.2)

theorem read_unchecked (reader : FileReader) (uri : Uri) (version : Int) (text : List Char) :
    (SourceFile.read reader uri version text).status ≠ .validated := by
  rw [SourceFile.read_status]
  decide

theorem upsert (w : Workspace) (uri : Uri) (version : Int) (text : List Char) :
    KeepsVerdicts w (w.upsert uri version text).2 := by
  unfold Workspace.upsert
  split
  · split
    · rename_i updated
      exact put w (by simp [SourceFile.update?_eq_some updated])
    · exact refl w
  · exact install w (read_unchecked _ _ _ _)

theorem parseFile (w : Workspace) (uri : Uri) : KeepsVerdicts w (w.parseFile uri).2 := by
  unfold Workspace.parseFile
  split
  · exact put w (read_unchecked _ _ _ _)
  · exact refl w

theorem upsertAndParse (w : Workspace) (uri : Uri) (version : Int) (text : List Char) :
    KeepsVerdicts w (w.upsertAndParse uri version text).2 := by
  have taken := upsert w uri version text
  unfold Workspace.upsertAndParse
  split
  · rename_i w' same
    rw [same] at taken
    exact taken.trans (parseFile w' uri)
  · exact taken

theorem remove (w : Workspace) (uri : Uri) : KeepsVerdicts w (w.remove uri).2 := by
  intro key file found validated
  rw [stored?_remove] at found
  split at found
  · cases found
  · exact ⟨file, found, validated, rfl⟩

/-- Only validation makes files count as validated. -/
theorem apply {w : Workspace} (orderly : Orderly w) {operation : Operation} (plain : operation.setsStatus = false) :
    KeepsVerdicts w (operation.apply w) := by
  cases operation with
  | upsert uri version text => exact upsert w uri version text
  | upsertAndParse uri version text => exact upsertAndParse w uri version text
  | parseFile uri => exact parseFile w uri
  | install reader uri version text => exact install w (read_unchecked _ _ _ _)
  | reparseDirty =>
    apply installAll w
    intro file member
    obtain ⟨snapshot, _, rfl⟩ := List.mem_map.mp member
    exact read_unchecked _ _ _ _
  | remove uri => exact remove w uri
  | setReader | takeEvents => exact refl w
  | setStatus | validate => cases plain
  | lookUp uri position =>
    rcases Symbol.at?_cases w uri position with same | ⟨place, file, file', stored, same, isPut⟩
    · rw [Operation.apply, same]
      exact refl w
    · rw [Operation.apply, isPut]
      exact put_sameText orderly stored same
  | outline uri =>
    simp only [Operation.apply, Outline.at?]
    split
    · rename_i file stored
      rw [find?_eq_stored?] at stored
      exact put_sameText orderly stored (Outline.forget_ofFile file)
    · exact refl w

end KeepsVerdicts

theorem Orderly.stored?_setStatus {w : Workspace} (orderly : Orderly w) (uri : Uri) (status : FileStatus)
    (key : String × String) : (w.setStatus uri status).stored? key =
      if uri.key = key then (w.stored? key).map ({ · with status }) else w.stored? key := by
  unfold setStatus adjust
  split
  · rename_i file found
    have isKey := orderly.find?_key found
    rw [find?_eq_stored?] at found
    rw [stored?_put, isKey]
    split
    · rename_i same
      rw [← same, found, Option.map_some]
    · rfl
  · rename_i missing
    rw [find?_eq_stored?] at missing
    split
    · rename_i same
      rw [← same, missing, Option.map_none]
    · rfl

def moved (keys : List (String × String)) (before after : FileStatus) (key : String × String) (file : SourceFile) :
    SourceFile :=
  if file.status = before ∧ key ∈ keys then { file with status := after } else file

theorem moved_nil (before after : FileStatus) (key : String × String) : moved [] before after key = id := by
  funext file
  simp [moved]

theorem moved_cons_ne {first key : String × String} (differ : first ≠ key) (keys : List (String × String))
    (before after : FileStatus) : moved (first :: keys) before after key = moved keys before after key := by
  funext file
  simp [moved, Ne.symm differ]

theorem Orderly.stored?_transition {w : Workspace} (orderly : Orderly w) (bundle : ValidationBundle)
    {before after : FileStatus} (differ : before ≠ after) (key : String × String) :
    (Session.transition w bundle before after).stored? key =
      (w.stored? key).map (moved (bundle.inputs.map (·.uri.key)) before after key) := by
  unfold Session.transition
  generalize bundle.inputs = inputs
  induction inputs generalizing w with
  | nil => rw [List.map_nil, moved_nil, Option.map_id_fun, id, List.foldl_nil]
  | cons input rest ih =>
    rw [List.foldl_cons, List.map_cons]
    split
    · rename_i guard
      have stays : Orderly (w.setStatus input.uri after) := orderly.apply (.setStatus input.uri after)
      rw [ih stays, orderly.stored?_setStatus]
      by_cases here : input.uri.key = key
      · subst here
        rw [find?_eq_stored?] at guard
        obtain ⟨file, found, status⟩ := Option.map_eq_some_iff.mp guard
        simp [found, moved, status, Ne.symm differ]
      · rw [if_neg here, moved_cons_ne here]
    · rename_i guard
      rw [ih orderly]
      by_cases here : input.uri.key = key
      · subst here
        rw [find?_eq_stored?] at guard
        cases found : w.stored? input.uri.key with
        | none => rfl
        | some file =>
          rw [found, Option.map_some, Option.some.injEq] at guard
          simp [moved, guard]
      · rw [moved_cons_ne here]

theorem Orderly.input?_transition {w : Workspace} (orderly : Orderly w) (bundle : ValidationBundle)
    (progress : Progress) (key : String × String) :
    (Session.transition w bundle progress.before progress.after).input? key = w.input? key := by
  unfold input?
  rw [orderly.stored?_transition bundle progress.before_ne_after]
  cases w.stored? key with
  | none => rfl
  | some file =>
    simp only [Option.map_some, Option.bind_some, moved]
    split
    · rename_i isMoved
      rw [if_neg progress.after_clean, if_neg]
      · rfl
      · rw [isMoved.1]
        exact progress.before_clean
    · rfl

theorem Orderly.input?_of_bundle {w : Workspace} (orderly : Orderly w) {domainUri : Uri} {bundle : ValidationBundle}
    (collected : Session.bundle? w domainUri = some bundle) {input : ValidationInput}
    (member : input ∈ bundle.inputs) {text : List Char} (seen : w.input? input.uri.key = some text) :
    text = input.text := by
  have shown {file : SourceFile} (stored : w.find? file.uri = some file)
      (isInput : input = ⟨file.uri, Session.validatedText file⟩) : text = input.text := by
    subst isInput
    rw [find?_eq_stored?] at stored
    simp only [input?, stored, Option.bind_some] at seen
    split at seen
    · cases seen
    · exact (Option.some.inj seen).symm
  unfold Session.bundle? at collected
  obtain ⟨domainFile, isFile, rfl⟩ := Option.map_eq_some_iff.mp collected
  obtain ⟨found, isDomain⟩ := Option.filter_eq_some_iff.mp isFile
  rcases List.mem_cons.mp member with isDomainInput | isProblem
  · refine shown (orderly.find?_uri found) (isDomainInput.trans ?_)
    obtain ⟨d, isKind⟩ := Option.isSome_iff_exists.mp isDomain
    simp [Session.validatedText, SourceFile.problem?, SourceFile.kind_of_domain? isKind]
  · obtain ⟨file, isProblemFile, rfl⟩ := List.mem_map.mp isProblem
    exact shown (orderly.find?_of_mem_siblings (mem_problemFiles isProblemFile).1) rfl

end Workspace

namespace Checking

open Workspace

/-- Some validation of the file has succeeded, with this text unless the file was read again meanwhile. -/
def Vouched (reader : FileReader) (steps : List Step) (key : String × String) (text : List Char) : Prop :=
  ∃ n check, (run reader steps).checks[n]? = some check ∧ check.stage = .succeeded ∧
    ∃ input ∈ check.bundle.inputs, input.uri.key = key ∧ (input.text = text ∨ Overtaken reader steps n key)

/-- What holds after any steps: an open validation has the texts that validators see, and files that count as
validated have passed one. -/
structure Sound (reader : FileReader) (steps : List Step) : Prop where
  orderly : (run reader steps).workspace.Orderly
  waiting : ∀ n check, (run reader steps).checks[n]? = some check → check.isOpen = true →
    ∀ input ∈ check.bundle.inputs,
      (∀ text, (run reader steps).workspace.input? input.uri.key = some text → text = input.text) ∨
        Overtaken reader steps n input.uri.key
  validated : ∀ key file, (run reader steps).workspace.stored? key = some file → file.status = .validated →
    Vouched reader steps key (Session.validatedText file)

variable {reader : FileReader} {steps : List Step}

theorem Vouched.snoc {key : String × String} {text : List Char} (vouched : Vouched reader steps key text)
    (step : Step) : Vouched reader (steps ++ [step]) key text := by
  obtain ⟨n, check, isCheck, succeeded, input, member, isKey, same⟩ := vouched
  have inRange := (List.getElem?_eq_some_iff.mp isCheck).1
  refine ⟨n, check, ?_, succeeded, input, member, isKey, same.imp_right (·.snoc step)⟩
  rw [run_snoc]
  cases step with
  | change operation => exact isCheck
  | collect domainUri =>
    simp only [apply]
    split
    · rw [List.getElem?_append_left inRange, isCheck]
    · exact isCheck
  | advance m progress =>
    simp only [apply]
    split
    · rename_i other isOther
      split
      · rename_i stage
        have differ : m ≠ n := by
          rintro rfl
          rw [isCheck] at isOther
          cases isOther
          rw [succeeded] at stage
          cases progress <;> cases stage
        rw [List.getElem?_set_ne differ, isCheck]
      · exact isCheck
    · exact isCheck

theorem Sound.change (sound : Sound reader steps) {operation : Operation} (plain : operation.setsStatus = false) :
    Sound reader (steps ++ [.change operation]) where
  orderly := by
    rw [run_snoc]
    exact sound.orderly.apply operation
  waiting := by
    intro n check isCheck isOpen input member
    have isNow := run_snoc reader steps (.change operation)
    rw [isNow] at isCheck ⊢
    have before := sound.waiting n check isCheck isOpen input member
    by_cases renews : operation.Renews (run reader steps).workspace input.uri.key
    · exact .inr ⟨steps, operation, [], rfl, ⟨check, isCheck, isOpen⟩, renews⟩
    · refine before.imp (fun same text seen => ?_) (·.snoc _)
      apply same text
      by_contra unseen
      exact renews ⟨text, seen, unseen⟩
  validated := by
    intro key file found isValidated
    rw [run_snoc] at found
    obtain ⟨old, found, isValidated, same⟩ := KeepsVerdicts.apply sound.orderly plain key file found isValidated
    rw [← same]
    exact (sound.validated key old found isValidated).snoc _

theorem Sound.collect (sound : Sound reader steps) (domainUri : Uri) :
    Sound reader (steps ++ [.collect domainUri]) := by
  have isNow := run_snoc reader steps (.collect domainUri)
  have sameWorkspace : ((run reader steps).apply (.collect domainUri)).workspace = (run reader steps).workspace := by
    simp only [apply]
    split <;> rfl
  refine ⟨?_, ?_, ?_⟩
  · rw [isNow, sameWorkspace]
    exact sound.orderly
  · intro n check isCheck isOpen input member
    rw [isNow] at isCheck
    rw [isNow, sameWorkspace]
    have earlier (isOld : (run reader steps).checks[n]? = some check) :=
      (sound.waiting n check isOld isOpen input member).imp_right (·.snoc (.collect domainUri))
    simp only [apply] at isCheck
    split at isCheck
    · rename_i bundle collected
      rw [List.getElem?_append] at isCheck
      split at isCheck
      · exact earlier isCheck
      · have isNew := List.mem_singleton.mp (List.mem_of_getElem? isCheck)
        subst isNew
        exact .inl fun text seen => sound.orderly.input?_of_bundle collected member seen
    · exact earlier isCheck
  · intro key file found isValidated
    rw [isNow, sameWorkspace] at found
    exact (sound.validated key file found isValidated).snoc _

theorem Sound.idle (sound : Sound reader steps) {step : Step}
    (same : (run reader steps).apply step = run reader steps) : Sound reader (steps ++ [step]) := by
  have isNow := (run_snoc reader steps step).trans same
  refine ⟨?_, ?_, ?_⟩
  · rw [isNow]
    exact sound.orderly
  · intro n check isCheck isOpen input member
    rw [isNow] at isCheck ⊢
    exact (sound.waiting n check isCheck isOpen input member).imp_right (·.snoc step)
  · intro key file found isValidated
    rw [isNow] at found
    exact (sound.validated key file found isValidated).snoc step

theorem Sound.advance (sound : Sound reader steps) (n : Nat) (progress : Progress) :
    Sound reader (steps ++ [.advance n progress]) := by
  cases isCheck : (run reader steps).checks[n]? with
  | none => exact sound.idle (by simp only [apply, isCheck])
  | some check =>
  by_cases ready : check.stage = progress.stageBefore
  case neg => exact sound.idle (by simp only [apply, isCheck, if_neg ready])
  case pos =>
  have isNow := run_snoc reader steps (.advance n progress)
  simp only [apply, isCheck, if_pos ready] at isNow
  have wasOpen : check.isOpen = true := by
    rw [Check.isOpen, ready]
    cases progress <;> rfl
  refine ⟨?_, ?_, ?_⟩
  · rw [isNow]
    exact sound.orderly.apply (.validate check.bundle progress)
  · intro m other isOther isOpen input member
    -- validation `n` keeps its bundle, and all others are as they were
    obtain ⟨old, isOld, oldOpen, sameBundle⟩ : ∃ old, (run reader steps).checks[m]? = some old ∧
        old.isOpen = true ∧ old.bundle = other.bundle := by
      rw [isNow] at isOther
      by_cases here : n = m
      · subst here
        rw [List.getElem?_set_self (List.getElem?_eq_some_iff.mp isCheck).1] at isOther
        cases isOther
        exact ⟨check, isCheck, wasOpen, rfl⟩
      · rw [List.getElem?_set_ne here] at isOther
        exact ⟨other, isOther, isOpen, rfl⟩
    rw [← sameBundle] at member
    rw [isNow, sound.orderly.input?_transition]
    exact (sound.waiting m old isOld oldOpen input member).imp_right (·.snoc _)
  · intro key file found isValidated
    rw [isNow, sound.orderly.stored?_transition _ progress.before_ne_after] at found
    obtain ⟨old, isOld, rfl⟩ := Option.map_eq_some_iff.mp found
    unfold moved at isValidated ⊢
    split at isValidated
    · rename_i isMoved
      rw [if_pos isMoved]
      obtain ⟨input, member, rfl⟩ := List.mem_map.mp isMoved.2
      have seen : (run reader steps).workspace.input? input.uri.key = some (Session.validatedText old) := by
        rw [input?, isOld, Option.bind_some, if_neg]
        rw [isMoved.1]
        exact progress.before_clean
      have succeeded : progress.stageAfter = .succeeded := by
        cases progress with
        | succeeded => rfl
        | begun | failed => cases isValidated
      refine ⟨n, { check with stage := progress.stageAfter }, ?_, succeeded, input, member, rfl, ?_⟩
      · rw [isNow, List.getElem?_set_self (List.getElem?_eq_some_iff.mp isCheck).1]
      · refine (sound.waiting n check isCheck wasOpen input member).imp (fun same => ?_) (·.snoc _)
        exact (same _ seen).symm
    · rename_i isStill
      rw [if_neg isStill]
      exact (sound.validated key old isOld isValidated).snoc _

theorem sound_run (reader : FileReader) (steps : List Step)
    (plain : ∀ operation, .change operation ∈ steps → operation.setsStatus = false) : Sound reader steps := by
  induction steps using List.reverseRecOn with
  | nil =>
    have fresh := Orderly.fresh reader
    refine ⟨fresh, ?_, ?_⟩
    · intro n check isCheck
      cases isCheck
    · intro key file found
      exact absurd found (by simp [run, stored?, Std.TreeMap.get?_eq_getElem?])
  | append_singleton steps step ih =>
    have sound := ih fun operation member => plain operation (List.mem_append_left _ member)
    cases step with
    | change operation => exact sound.change (plain operation (by simp))
    | collect domainUri => exact sound.collect domainUri
    | advance n progress => exact sound.advance n progress

/-- However edits, readings and any number of validations follow one another, a file that counts as validated
was in the bundle of a validation that has succeeded. Its text there is the one that a validator sees of the
file now, unless the file was read again while that validation waited for its validator. -/
theorem validated_file_has_passed (reader : FileReader) (steps : List Step)
    (plain : ∀ operation, .change operation ∈ steps → operation.setsStatus = false) {file : SourceFile}
    (member : file ∈ (run reader steps).workspace.files) (validated : file.status = .validated) :
    ∃ n check, (run reader steps).checks[n]? = some check ∧ check.stage = .succeeded ∧
      ∃ input ∈ check.bundle.inputs, input.uri.key = file.uri.key ∧
        (input.text = Session.validatedText file ∨ Overtaken reader steps n file.uri.key) := by
  have sound := sound_run reader steps plain
  obtain ⟨key, found⟩ := mem_files_iff.mp member
  have isKey := sound.orderly.keyed found
  subst isKey
  exact sound.validated file.uri.key file found validated

theorem validated_file_has_passed_undisturbed :
    let reader : FileReader := ⟨0, {}, fun _ => .error (.path .missing)⟩
    let uri : Uri := { scheme := "file", authority := some {}, path := "/w/d.pddl" }
    let steps : List Step := [.change (.upsert uri 1 "(define (domain a))".toList), .collect uri,
      .advance 0 .begun, .advance 0 .succeeded]
    ∃ file ∈ (run reader steps).workspace.files, file.status = .validated ∧
      ∃ n check, (run reader steps).checks[n]? = some check ∧ check.stage = .succeeded ∧
        ∃ input ∈ check.bundle.inputs, input.uri.key = file.uri.key ∧
          (input.text = Session.validatedText file ∨ Overtaken reader steps n file.uri.key) := by
  intro reader uri steps
  have statuses : (run reader steps).workspace.files.map (·.status) = [.validated] := by decide +kernel
  obtain ⟨file, member, validated⟩ :=
    List.mem_map.mp (statuses ▸ List.mem_singleton_self FileStatus.validated)
  refine ⟨file, member, validated, validated_file_has_passed reader steps ?_ member validated⟩
  intro operation isStep
  simp only [steps, List.mem_cons, Step.change.injEq, reduceCtorEq, List.not_mem_nil, or_self, or_false] at isStep
  rw [isStep]
  rfl

/-- The file is edited and read while the first validation waits, and a second one marks it before the first
one succeeds: the new text counts as validated, though the only validator that has seen it rejected it. -/
theorem overtaken_validation_vouches_for_unseen_text :
    let reader : FileReader := ⟨0, {}, fun _ => .error (.path .missing)⟩
    let uri : Uri := { scheme := "file", authority := some {}, path := "/w/d.pddl" }
    let steps : List Step := [.change (.upsert uri 1 "(define (domain a))".toList), .collect uri,
      .advance 0 .begun, .change (.upsertAndParse uri 2 "(define (domain b))".toList), .collect uri,
      .advance 1 .begun, .advance 0 .succeeded, .advance 1 .failed]
    (run reader steps).workspace.files.map (fun file => (file.status, Session.validatedText file)) =
        [(.validated, "(define (domain b))".toList)] ∧
      (run reader steps).checks.map (fun check => (check.stage, check.bundle.inputs.map (·.text))) =
        [(.succeeded, ["(define (domain a))".toList]), (.failed, ["(define (domain b))".toList])] := by
  intro reader uri steps
  constructor
  · decide +kernel
  · decide +kernel

end Checking
end PddlAssist
