import PddlAssist.Proofs.Symbol.Edit
import PddlAssist.Proofs.Workspace.Kinship
import PddlAssist.Proofs.Workspace.Run

namespace PddlAssist

open Text

namespace SourceFile

theorem Kin.symm {f f' : SourceFile} (kin : Kin f f') : Kin f' f := by
  obtain ⟨uri, kind⟩ := kin
  refine ⟨uri.symm, ?_⟩
  generalize f.kind = left, f'.kind = right at kind
  cases kind with
  | domain name => exact .domain name.symm
  | problem name domainName => exact .problem name.symm domainName.symm
  | plan plan => exact .plan plan
  | happenings first second => exact .happenings second first
  | unknown => exact .unknown

end SourceFile

namespace Workspace

/-- The workspace after each of some files got its edits and a newer version, one file after the other. -/
def edit? (edits : List (Uri × List TextEdit)) (w : Workspace) : List SourceFile → Option Workspace
  | [] => some w
  | file :: rest =>
    (file.document.edited? (Symbol.editsOf edits file.uri)).bind fun text =>
      edit? edits (w.upsertAndParse file.uri (file.version + 1) text).2 rest

theorem upsertAndParse_newer {w : Workspace} {uri : Uri} {current : SourceFile} (found : w.find? uri = some current)
    (isUri : current.uri = uri) {version : Int} (newer : current.version < version) (text : List Char) :
    (w.upsertAndParse uri version text).2 =
      ((w.put { current with version, document := ⟨text⟩, status := .dirty }).put
        (SourceFile.read w.reader uri version text)).emit (.updated uri) := by
  have taken : w.upsert uri version text =
      (.updated, w.put { current with version, document := ⟨text⟩, status := .dirty }) := by
    simp [upsert, found, SourceFile.update?, Int.not_le.mpr newer]
  have stored : (w.put { current with version, document := ⟨text⟩, status := .dirty }).find? uri =
      some { current with version, document := ⟨text⟩, status := .dirty } := by
    rw [find?_eq_stored?, stored?_put, if_pos (congrArg Uri.key isUri)]
  rw [upsertAndParse, taken]
  simp only [parseFile, stored]
  rfl

theorem upsertAndParse_kin {w : Workspace} {uri : Uri} {current : SourceFile} (found : w.find? uri = some current)
    (isUri : current.uri = uri) {version : Int} (newer : current.version < version) {text : List Char}
    (alike : SourceFile.Kin current (SourceFile.read w.reader uri version text)) :
    Kin w (w.upsertAndParse uri version text).2 ∧
      (w.upsertAndParse uri version text).2.find? uri = some (SourceFile.read w.reader uri version text) ∧
      (∀ other : Uri, other.key ≠ uri.key → (w.upsertAndParse uri version text).2.find? other = w.find? other) := by
  have isRead := SourceFile.read_uri w.reader uri version text
  rw [upsertAndParse_newer found isUri newer]
  refine ⟨?_, ?_, ?_⟩
  · let dirty : SourceFile := { current with version, document := ⟨text⟩, status := .dirty }
    have known : w.find? dirty.uri = some current := by rw [show dirty.uri = uri from isUri, found]
    have taken : Kin w (w.put dirty) := .put known ⟨rfl, .refl current.kind⟩
    have stored : (w.put dirty).find? (SourceFile.read w.reader uri version text).uri = some dirty := by
      rw [isRead, find?_eq_stored?, stored?_put, if_pos (congrArg Uri.key isUri)]
    exact taken.trans (.put stored ⟨alike.uri, alike.kind⟩)
  · rw [find?_emit, find?_eq_stored?, stored?_put, if_pos (congrArg Uri.key isRead)]
  · intro other differs
    rw [find?_emit, find?_eq_stored?, stored?_put, if_neg, stored?_put, if_neg, ← find?_eq_stored?]
    · rw [isUri]
      exact Ne.symm differs
    · rw [isRead]
      exact Ne.symm differs

theorem edit?_kin {edits : List (Uri × List TextEdit)} {w : Workspace} {files : List SourceFile}
    (apart : files.Pairwise fun f g => f.uri.key ≠ g.uri.key) (text : SourceFile → List Char)
    (known : ∀ file ∈ files, ∃ current, w.find? file.uri = some current ∧ current.version = file.version ∧
      SourceFile.Kin file current)
    (edited : ∀ file ∈ files, file.document.edited? (Symbol.editsOf edits file.uri) = some (text file))
    (alike : ∀ file ∈ files, ∀ reader,
      SourceFile.Kin file (SourceFile.read reader file.uri (file.version + 1) (text file))) :
    ∃ w', w.edit? edits files = some w' ∧ Kin w w' ∧
      (∀ file ∈ files, ∃ reader,
        w'.find? file.uri = some (SourceFile.read reader file.uri (file.version + 1) (text file))) ∧
      ∀ other : Uri, (∀ file ∈ files, other.key ≠ file.uri.key) → w'.find? other = w.find? other := by
  induction files generalizing w with
  | nil => exact ⟨w, rfl, .refl w, by simp, fun _ _ => rfl⟩
  | cons file rest ih =>
    obtain ⟨others, apart⟩ := List.pairwise_cons.mp apart
    rw [List.forall_mem_cons] at known edited alike
    obtain ⟨current, found, version, kin⟩ := known.1
    have newer : current.version < file.version + 1 := by omega
    obtain ⟨stepKin, here, elsewhere⟩ :=
      upsertAndParse_kin found kin.uri newer (kin.symm.trans (alike.1 w.reader))
    have later : ∀ g ∈ rest, ∃ current,
        (w.upsertAndParse file.uri (file.version + 1) (text file)).2.find? g.uri = some current ∧
          current.version = g.version ∧ SourceFile.Kin g current := by
      intro g member
      rw [elsewhere g.uri (Ne.symm (others g member))]
      exact known.2 g member
    obtain ⟨w', isDone, restKin, reads, unchanged⟩ := ih apart later edited.2 alike.2
    refine ⟨w', ?_, stepKin.trans restKin, ?_, ?_⟩
    · rw [edit?, edited.1, Option.bind_some, isDone]
    · rw [List.forall_mem_cons]
      refine ⟨⟨w.reader, ?_⟩, reads⟩
      rw [unchanged file.uri others, here]
    · intro other differs
      rw [List.forall_mem_cons] at differs
      rw [unchanged other differs.2, elsewhere other differs.1]

end Workspace
end PddlAssist
