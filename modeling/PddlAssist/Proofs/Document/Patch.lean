import Mathlib.Data.List.Forall2
import PddlAssist.Proofs.Symbol.ValidName

namespace PddlAssist

open Text

/-- A text with some words outside comments exchanged for others. -/
inductive Patch : Bool → List Char → List Char → Prop where
  | nil (commented : Bool) : Patch commented [] []
  | keep {commented : Bool} (c : Char) {left right : List Char}
      (rest : Patch (commentedAfter commented c) left right) : Patch commented (c :: left) (c :: right)
  | swap {old new : String} (validOld : Symbol.isValidName old = true) (validNew : Symbol.isValidName new = true)
      {left right : List Char} (rest : Patch false left right) :
      Patch false (old.toList ++ left) (new.toList ++ right)

theorem Patch.keepAll {commented : Bool} (text : List Char) {left right : List Char}
    (rest : Patch (text.foldl commentedAfter commented) left right) :
    Patch commented (text ++ left) (text ++ right) := by
  induction text generalizing commented with
  | nil => exact rest
  | cons c text ih => exact .keep c (ih rest)

namespace Patch

open PddlAssist.Symbol

theorem plain_of_isValidName {name : String} (valid : isValidName name = true) :
    ∀ c ∈ name.toList, c ≠ ';' ∧ c ≠ '\n' :=
  fun c member => (Token.isWordChar_cases (isWordChar_of_isValidName valid c member)).2

theorem eq_of_commented {left right : List Char} (patch : Patch true left right) (line : '\n' ∉ left) :
    left = right := by
  generalize isCommented : true = commented at patch
  induction patch with
  | nil => rfl
  | @keep commented c left right rest ih =>
    subst isCommented
    rw [List.mem_cons, not_or] at line
    have still : true = commentedAfter true c := by simp [commentedAfter, Ne.symm line.1]
    rw [ih line.2 still]
  | swap => cases isCommented

theorem takeWhile_line {commented : Bool} {left right : List Char} (patch : Patch commented left right) :
    Patch commented (left.takeWhile (· != '\n')) (right.takeWhile (· != '\n')) := by
  induction patch with
  | nil => exact .nil _
  | @keep commented c left right rest ih =>
    rw [List.takeWhile_cons, List.takeWhile_cons]
    split
    · exact .keep c ih
    · exact .nil _
  | @swap old new validOld validNew left right rest ih =>
    have inLine {name : String} (valid : isValidName name = true) : ∀ c ∈ name.toList, (c != '\n') = true :=
      fun c member => by simpa using (plain_of_isValidName valid c member).2
    rw [List.takeWhile_append_of_pos (inLine validOld), List.takeWhile_append_of_pos (inLine validNew)]
    exact .swap validOld validNew ih

theorem dropWhile_semicolon {left right : List Char} (patch : Patch false left right) (line : '\n' ∉ left) :
    right.dropWhile (· != ';') = left.dropWhile (· != ';') := by
  generalize isUncommented : false = commented at patch
  induction patch with
  | nil => rfl
  | @keep commented c left right rest ih =>
    subst isUncommented
    rw [List.mem_cons, not_or] at line
    by_cases isSemicolon : c = ';'
    · subst isSemicolon
      rw [eq_of_commented rest line.2]
    · have still : false = commentedAfter false c := by simp [commentedAfter, isSemicolon, Ne.symm line.1]
      simp [isSemicolon, ih line.2 still]
  | @swap old new validOld validNew left right rest ih =>
    have passed {name : String} (valid : isValidName name = true) : ∀ c ∈ name.toList, (c != ';') = true :=
      fun c member => by simpa using (plain_of_isValidName valid c member).1
    rw [List.mem_append, not_or] at line
    rw [List.dropWhile_append_of_pos (passed validOld), List.dropWhile_append_of_pos (passed validNew),
      ih line.2 rfl]

end Patch

theorem trim_blank {c : Char} (blank : isBlank c = true) (cs : List Char) : trim (c :: cs) = trim cs := by
  simp [trim, trimStart, blank]

theorem trim_head? {c : Char} (notBlank : isBlank c = false) (cs : List Char) :
    (trim (c :: cs)).head? = some c := by
  simp only [trim, trimStart, trimEnd, List.dropWhile_cons, notBlank, Bool.false_eq_true, if_false,
    List.reverse_cons, List.dropWhile_append, List.head?_reverse]
  split <;> simp

namespace Patch

open PddlAssist.Symbol

theorem line_cases {left right : List Char} (patch : Patch false left right) (line : '\n' ∉ left) :
    left = right ∨ (trim left).head? ≠ some ';' ∧ (trim right).head? ≠ some ';' := by
  generalize isUncommented : false = commented at patch
  induction patch with
  | nil => exact .inl rfl
  | @keep commented c left right rest ih =>
    subst isUncommented
    rw [List.mem_cons, not_or] at line
    by_cases isSemicolon : c = ';'
    · subst isSemicolon
      exact .inl (by rw [eq_of_commented rest line.2])
    cases blank : isBlank c with
    | true =>
      have still : false = commentedAfter false c := by simp [commentedAfter, isSemicolon, Ne.symm line.1]
      rcases ih line.2 still with same | other
      · exact .inl (by rw [same])
      · exact .inr (by simpa only [trim_blank blank] using other)
    | false =>
      right
      rw [trim_head? blank, trim_head? blank]
      simp [isSemicolon]
  | @swap old new validOld validNew left right rest ih =>
    obtain ⟨c, run, spelled, notBlank, notSemicolon⟩ := head_not_isBlank validOld
    obtain ⟨c', run', spelled', notBlank', notSemicolon'⟩ := head_not_isBlank validNew
    right
    rw [spelled, spelled', List.cons_append, List.cons_append, trim_head? notBlank, trim_head? notBlank']
    simp [notSemicolon, notSemicolon']

theorem remark?_eq {left right : List Char} (patch : Patch false left right) (line : '\n' ∉ left) :
    Tree.remark? right = Tree.remark? left := by
  have none {cs : List Char} (other : (trim cs).head? ≠ some ';') : Tree.remark? cs = none := by
    simp only [Tree.remark?]
    split
    · rename_i isRemark
      simp [isRemark] at other
    · rename_i isRemark
      simp [isRemark] at other
    · rfl
  rcases patch.line_cases line with rfl | ⟨other, other'⟩
  · rfl
  · rw [none other, none other']

theorem directive_eq {left right : List Char} (patch : Patch false left right) :
    Directive.ofText? right = Directive.ofText? left := by
  have first := patch.takeWhile_line
  have line : '\n' ∉ left.takeWhile (· != '\n') := by
    intro member
    simpa using List.mem_takeWhile_imp member
  have none {cs : List Char} (other : (trim cs).head? ≠ some ';') :
      Directive.mark.toList.isPrefixOf (trim cs) = false := by
    rw [Bool.eq_false_iff]
    intro isMark
    obtain ⟨rest, whole⟩ := List.isPrefixOf_iff_prefix.mp isMark
    exact other (by rw [← whole]; rfl)
  rcases first.line_cases line with same | ⟨other, other'⟩
  · simp only [Directive.ofText?, same]
  · simp only [Directive.ofText?, none other, none other', Bool.false_eq_true, if_false]

end Patch

namespace Document

theorem splitLines_ne_nil (cs : List Char) : splitLines cs ≠ [] := by
  cases cs with
  | nil => simp [splitLines]
  | cons c cs =>
    simp only [splitLines]
    split
    · simp
    · split <;> simp

theorem splitLines_cons {c : Char} (inLine : c ≠ '\n') {cs line : List Char} {lines : List (List Char)}
    (rest : splitLines cs = line :: lines) : splitLines (c :: cs) = (c :: line) :: lines := by
  simp [splitLines, inLine, rest]

theorem splitLines_append {text : List Char} (inLine : ∀ c ∈ text, c ≠ '\n') {cs line : List Char}
    {lines : List (List Char)} (rest : splitLines cs = line :: lines) :
    splitLines (text ++ cs) = (text ++ line) :: lines := by
  induction text with
  | nil => exact rest
  | cons c text ih =>
    rw [List.forall_mem_cons] at inLine
    exact splitLines_cons inLine.1 (ih inLine.2)

theorem splitLines_noBreak {cs : List Char} : ∀ line ∈ splitLines cs, '\n' ∉ line := by
  induction cs with
  | nil => simp [splitLines]
  | cons c cs ih =>
    obtain ⟨line, lines, rest⟩ := List.exists_cons_of_ne_nil (splitLines_ne_nil cs)
    rw [rest, List.forall_mem_cons] at ih
    by_cases isBreak : c = '\n'
    · simp only [splitLines, isBreak, if_true, rest, List.forall_mem_cons]
      exact ⟨by simp, ih⟩
    · rw [splitLines_cons isBreak rest, List.forall_mem_cons]
      exact ⟨by simp [Ne.symm isBreak, ih.1], ih.2⟩

end Document

namespace Patch

open PddlAssist.Symbol

theorem splitLines {commented : Bool} {left right : List Char} (patch : Patch commented left right) :
    ∃ line line' lines lines', Document.splitLines left = line :: lines ∧
      Document.splitLines right = line' :: lines' ∧ Patch commented line line' ∧
      List.Forall₂ (Patch false) lines lines' := by
  induction patch with
  | nil => exact ⟨[], [], [], [], rfl, rfl, .nil _, .nil⟩
  | @keep commented c left right _ ih =>
    obtain ⟨line, line', lines, lines', isLeft, isRight, first, others⟩ := ih
    by_cases isBreak : c = '\n'
    · refine ⟨[], [], line :: lines, line' :: lines', ?_, ?_, .nil _, .cons ?_ others⟩
      · simp [Document.splitLines, isBreak, isLeft]
      · simp [Document.splitLines, isBreak, isRight]
      · simpa [commentedAfter, isBreak] using first
    · exact ⟨c :: line, c :: line', lines, lines', Document.splitLines_cons isBreak isLeft,
        Document.splitLines_cons isBreak isRight, .keep c first, others⟩
  | @swap old new validOld validNew left right _ ih =>
    obtain ⟨line, line', lines, lines', isLeft, isRight, first, others⟩ := ih
    have inLine {name : String} (valid : isValidName name = true) : ∀ c ∈ name.toList, c ≠ '\n' :=
      fun c member => (plain_of_isValidName valid c member).2
    exact ⟨_, _, lines, lines', Document.splitLines_append (inLine validOld) isLeft,
      Document.splitLines_append (inLine validNew) isRight, .swap validOld validNew first, others⟩

theorem remarks_eq {lines lines' : List (List Char)} (patched : List.Forall₂ (Patch false) lines lines')
    (inLine : ∀ line ∈ lines, '\n' ∉ line) : Tree.remarks lines' = Tree.remarks lines := by
  induction patched with
  | nil => rfl
  | cons first _ ih =>
    rw [List.forall_mem_cons] at inLine
    simp only [Tree.remarks, first.remark?_eq inLine.1, ih inLine.2]

theorem documentation?_eq {before before' after after' : List Char} (earlier : Patch false before before')
    (later : Patch false after after') (root root' : Node) :
    Tree.documentation? ⟨before' ++ after', root'⟩ (width before') =
      Tree.documentation? ⟨before ++ after, root⟩ (width before) := by
  obtain ⟨line, line', lines, lines', isLeft, isRight, first, others⟩ := earlier.splitLines
  have all : List.Forall₂ (Patch false) (Document.splitLines before) (Document.splitLines before') := by
    rw [isLeft, isRight]
    exact .cons first others
  have above : Tree.remarks (Document.splitLines before').reverse.tail =
      Tree.remarks (Document.splitLines before).reverse.tail := by
    refine remarks_eq ?_ ?_
    · rw [← List.drop_one, ← List.drop_one]
      exact List.forall₂_drop 1 (List.forall₂_reverse_iff.mpr all)
    · intro line member
      exact Document.splitLines_noBreak line (List.mem_reverse.mp (List.mem_of_mem_tail member))
  have inLine : '\n' ∉ after.takeWhile (· != '\n') := by
    intro member
    simpa using List.mem_takeWhile_imp member
  simp only [Tree.documentation?, takeBytes_width, dropBytes_width, above,
    later.takeWhile_line.dropWhile_semicolon inLine]

end Patch
end PddlAssist
