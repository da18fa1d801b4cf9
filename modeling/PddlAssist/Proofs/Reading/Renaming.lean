import PddlAssist.Proofs.Reading.Problem
import PddlAssist.Proofs.Tree.Renaming

namespace PddlAssist

open Text Token

/-- A change of names that readers of a text take over without noticing it. -/
structure Harmless (rename : String → String) (cs : List Char) : Prop where
  exchanges : ∀ t ∈ namesFrom false (scan cs), t.Exchanges rename
  plain : ∀ name, IsName (scan cs) name → rename name = name ∨ IsPlainName name ∧ IsPlainName (rename name)
  distinct : ∀ left right, IsName (scan cs) left → IsName (scan cs) right →
    sameName (rename left) (rename right) = sameName left right

namespace Harmless

variable {rename : String → String} {cs : List Char}

theorem similarity (harmless : Harmless rename cs) :
    Similarity rename (· = ·) (Tree.build cs) (Tree.build (renamedText rename cs))
      (Node.Renamed rename (IsName (scan cs)) (Aligned rename (scan cs)) false) :=
  Node.Renamed.similarity (Tree.documentation?_renamed harmless.exchanges) harmless.plain harmless.distinct

theorem domain (harmless : Harmless rename cs) (document document' : Document) :
    Option.Rel (fun found found' => Domain.Alike rename (· = ·) found.1 found'.1 ∧
        List.Forall₂ (Issue.Alike rename) found.2 found'.2)
      (Domain.ofTree? document (Tree.build cs)) (Domain.ofTree? document' (Tree.build (renamedText rename cs))) :=
  harmless.similarity.domain (Tree.build_renamed harmless.exchanges).2 document document'

theorem problem (harmless : Harmless rename cs) (document document' : Document) :
    Option.Rel (fun found found' => Problem.Alike rename found.1 found'.1 ∧
        List.Forall₂ (Issue.Alike rename) found.2 found'.2)
      (Problem.ofTree? document (Tree.build cs)) (Problem.ofTree? document' (Tree.build (renamedText rename cs))) :=
  harmless.similarity.problem (Tree.build_renamed harmless.exchanges).2 document document'

theorem directive (harmless : Harmless rename cs) :
    Directive.ofText? (renamedText rename cs) = Directive.ofText? cs := by
  obtain ⟨scanned, spelled⟩ := scan_eq_iff.mp (rfl : scan cs = _)
  have fresh : EndsComment false (scan cs ++ []) := fun isCommented => by cases isCommented
  rw [← List.append_nil (scan cs)] at scanned
  have patched := (patch_renameFrom scanned fresh 0 harmless.exchanges).directive_eq
  rwa [spelled] at patched

end Harmless

theorem texts_renameFrom_same {rename : String → String} {start : Nat} {awaited : Bool} {tokens : List Token}
    (same : ∀ t ∈ namesFrom awaited tokens, rename t.text = t.text) :
    texts (renameFrom rename start awaited tokens) = texts tokens := by
  induction tokens generalizing start awaited with
  | nil => rfl
  | cons t rest ih =>
    simp only [namesFrom] at same
    simp only [renameFrom, texts_cons]
    cases isName : awaited && t.kind.isWord with
    | false =>
      simp only [isName, Bool.false_eq_true, if_false] at same ⊢
      rw [ih same]
    | true =>
      simp only [isName, if_true, List.forall_mem_cons] at same ⊢
      rw [same.1, ih same.2]

/-- Variables have names that brackets of the text have. A reader cannot take them from elsewhere: all other
words could be changed behind its back. -/
theorem Domain.isName_of_mem_allVariables {cs : List Char} {document : Document} {d : Domain} {issues : List Issue}
    (read : ofTree? document (Tree.build cs) = some (d, issues)) {v : Variable} (member : v ∈ d.allVariables) :
    IsName (scan cs) v.name := by
  classical
  by_contra absent
  let rename (text : String) : String := if IsName (scan cs) text then text else text.push '!'
  have same : ∀ name, IsName (scan cs) name → rename name = name := fun name isName => if_pos isName
  have same' : ∀ t ∈ namesFrom false (scan cs), rename t.text = t.text := fun t isName => same t.text ⟨t, isName, rfl⟩
  have harmless : Harmless rename cs :=
    ⟨fun t isName => .inl (same' t isName), fun name isName => .inl (same name isName),
      fun left right isLeft isRight => by rw [same left isLeft, same right isRight]⟩
  have unchanged : renamedText rename cs = cs := by
    rw [renamedText, texts_renameFrom_same same', scan, texts_scanFrom]
  have alike := harmless.domain document document
  rw [unchanged, read] at alike
  cases alike with
  | some alike =>
    have kept {vs : List Variable} (related : List.Forall₂ (Variable.Alike rename (· = ·)) vs vs)
        (inside : v ∈ vs) : v.name = rename v.name :=
      (List.forall₂_same.mp related v inside).name
    have name : v.name = rename v.name := by
      simp only [allVariables, List.mem_append] at member
      rcases member with (inside | inside) | inside
      · exact kept alike.1.predicates inside
      · exact kept alike.1.functions inside
      · exact kept alike.1.derived inside
    rw [show rename v.name = v.name.push '!' from if_neg absent] at name
    have long := congrArg String.length name
    simp at long

end PddlAssist
