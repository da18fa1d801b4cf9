import Std.Data.TreeMap.Lemmas
import PddlAssist.Proofs.Distinct
import PddlAssist.Validation

namespace PddlAssist

open Std (TreeMap)

/-- What a diagnostic says, and where. -/
def Diagnostic.subject (d : Diagnostic) : Range × String := (d.range, d.message)

namespace ValidationReport

def extend (known : List Diagnostic) (d : Diagnostic) : List Diagnostic :=
  if d.subject ∈ known.map Diagnostic.subject then known else known ++ [d]

theorem getElem?_push (report : ValidationReport) (uri : Uri) (d : Diagnostic) (key : String) :
    (report.push uri d)[key]? = if uri.text = key then some (extend (report.getD key []) d) else report[key]? := by
  have known_iff (known : List Diagnostic) : (known.any fun other => other.range == d.range && other.message == d.message) =
      true ↔ d.subject ∈ known.map Diagnostic.subject := by
    simp [Diagnostic.subject, List.mem_map]
  simp only [push, extend, ← known_iff]
  by_cases same : uri.text = key
  · subst same
    split <;> simp
  · split <;> simp [TreeMap.getElem?_insert, same]

theorem getElem?_empty (b : ValidationBundle) (key : String) :
    (empty b)[key]? = if key ∈ b.inputs.map (·.uri.text) then some [] else none := by
  have inserted (inputs : List ValidationInput) (report : ValidationReport) :
      (inputs.foldl (fun report input => report.insert input.uri.text []) report)[key]? =
        if key ∈ inputs.map (·.uri.text) then some [] else report[key]? := by
    induction inputs generalizing report with
    | nil => simp
    | cons input inputs ih =>
      rw [List.foldl_cons, ih, TreeMap.getElem?_insert, List.map_cons]
      by_cases later : key ∈ inputs.map (·.uri.text)
      · simp [later]
      · by_cases same : input.uri.text = key
        · simp [same]
        · simp [later, same, Ne.symm same]
  rw [empty, inserted, TreeMap.getElem?_emptyc]

theorem getElem?_pushAll {report : ValidationReport} {found : List (Uri × Diagnostic)}
    (known : ∀ pair ∈ found, report[pair.1.text]?.isSome = true) (key : String) :
    (report.pushAll found)[key]? =
      report[key]?.map (((found.filter (·.1.text = key)).map (·.2)).foldl extend) := by
  induction found generalizing report with
  | nil =>
    rw [pushAll, List.foldl_nil]
    cases report[key]? <;> rfl
  | cons pair found ih =>
    rw [List.forall_mem_cons] at known
    have still : ∀ other ∈ found, (report.push pair.1 pair.2)[other.1.text]?.isSome = true := by
      intro other member
      rw [getElem?_push]
      split
      · rfl
      · exact known.2 other member
    have later := ih still
    rw [pushAll, List.foldl_cons]
    rw [pushAll] at later
    rw [later, getElem?_push]
    by_cases same : pair.1.text = key
    · subst same
      obtain ⟨diagnostics, isKnown⟩ := Option.isSome_iff_exists.mp known.1
      simp [isKnown, TreeMap.getD_eq_getD_getElem?]
    · simp [same]

end ValidationReport

/-- A list of diagnostics without those that repeat an earlier one. -/
structure Firsts (all kept : List Diagnostic) : Prop where
  subjects : kept.map Diagnostic.subject = (all.map Diagnostic.subject).eraseDups
  find? : ∀ subject, kept.find? (·.subject = subject) = all.find? (·.subject = subject)

namespace Firsts

open ValidationReport

variable {all kept : List Diagnostic}

theorem mem_iff (firsts : Firsts all kept) (subject : Range × String) :
    subject ∈ kept.map Diagnostic.subject ↔ subject ∈ all.map Diagnostic.subject := by
  rw [firsts.subjects, List.mem_eraseDups]

theorem extend (firsts : Firsts all kept) (d : Diagnostic) : Firsts (all ++ [d]) (extend kept d) := by
  have known_iff := firsts.mem_iff d.subject
  by_cases known : d.subject ∈ kept.map Diagnostic.subject
  · rw [ValidationReport.extend, if_pos known]
    refine ⟨?_, fun subject => ?_⟩
    · rw [List.map_append, List.map_singleton, List.eraseDups_concat, if_pos (known_iff.mp known), firsts.subjects]
    · rw [List.find?_append, ← firsts.find? subject]
      by_cases same : d.subject = subject
      · obtain ⟨earlier, isKept, sameSubject⟩ := List.mem_map.mp known
        have isFound : (kept.find? (·.subject = subject)).isSome = true :=
          List.find?_isSome.mpr ⟨earlier, isKept, by simpa using sameSubject.trans same⟩
        rw [Option.or_of_isSome isFound]
      · simp [same]
  · rw [ValidationReport.extend, if_neg known]
    refine ⟨?_, fun subject => ?_⟩
    · rw [List.map_append, List.map_append, List.map_singleton, List.eraseDups_concat, if_neg (mt known_iff.mpr known),
        firsts.subjects]
    · rw [List.find?_append, List.find?_append, firsts.find?]

theorem foldl (firsts : Firsts all kept) (more : List Diagnostic) :
    Firsts (all ++ more) (more.foldl ValidationReport.extend kept) := by
  induction more generalizing all kept with
  | nil => rwa [List.append_nil]
  | cons d more ih =>
    have later := ih (firsts.extend d)
    rwa [List.append_assoc] at later

theorem foldl_again (firsts : Firsts all kept) : all.foldl ValidationReport.extend kept = kept := by
  have unchanged (more : List Diagnostic) (known : ∀ d ∈ more, d.subject ∈ kept.map Diagnostic.subject) :
      more.foldl ValidationReport.extend kept = kept := by
    induction more with
    | nil => rfl
    | cons d more ih =>
      rw [List.forall_mem_cons] at known
      rw [List.foldl_cons, ValidationReport.extend, if_pos known.1, ih known.2]
  exact unchanged all fun d member => (firsts.mem_iff _).mpr (List.mem_map_of_mem member)

end Firsts
end PddlAssist
