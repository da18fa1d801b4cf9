import PddlAssist.Proofs.Document.Occurrence
import PddlAssist.Proofs.Text.Trim

namespace PddlAssist

open Text

theorem not_isIdentifierChar_of_isBlank {c : Char} (blank : isBlank c = true) : isIdentifierChar c = false := by
  rw [← Bool.not_eq_true]
  intro identifier
  simp only [isIdentifierChar, Char.isAlphanum, Bool.or_eq_true, beq_iff_eq, isAlpha_iff, isDigit_iff] at identifier
  simp only [isBlank, Bool.or_eq_true, Bool.and_eq_true, decide_eq_true_eq, beq_iff_eq] at blank
  rcases identifier with (((((isAlphanum | rfl) | rfl) | rfl) | rfl) | rfl)
  · omega
  all_goals exact absurd blank (by decide)

theorem trimEnd_eq_concat_iff {c : Char} (notBlank : isBlank c = false) {lead cs : List Char} :
    trimEnd cs = lead ++ [c] ↔ ∃ blanks, cs = lead ++ c :: blanks ∧ ∀ b ∈ blanks, isBlank b = true := by
  constructor
  · intro trimmed
    obtain ⟨blanks, whole, areBlank⟩ := trimEnd_cases cs
    rw [trimmed, List.append_assoc, List.singleton_append] at whole
    exact ⟨blanks, whole, areBlank⟩
  · rintro ⟨blanks, rfl, areBlank⟩
    rw [List.append_cons, trimEnd_append areBlank]
    simp [trimEnd, notBlank]

theorem precededByBracket_iff {cs : List Char} {offset : Nat} :
    precededByBracket cs offset = true ↔
      ∃ lead blanks, takeBytes offset cs = lead ++ '(' :: blanks ∧ ∀ b ∈ blanks, isBlank b = true := by
  simp only [precededByBracket, beq_iff_eq, List.getLast?_eq_some_iff,
    trimEnd_eq_concat_iff (by decide : isBlank '(' = false)]

theorem precededByDash_iff {cs : List Char} {offset : Nat} :
    precededByDash cs offset = true ↔
      ∃ lead blanks, takeBytes offset cs = lead ++ '-' :: blanks ∧ (∀ b ∈ blanks, isBlank b = true) ∧
        ∀ c ∈ lead.getLast?, c = ' ' ∨ c = '\t' ∨ c = '\n' := by
  have trimmed : precededByDash cs offset = true ↔ ∃ lead, trimEnd (takeBytes offset cs) = lead ++ ['-'] ∧
      ∀ c ∈ lead.getLast?, c = ' ' ∨ c = '\t' ∨ c = '\n' := by
    simp only [precededByDash]
    rcases List.eq_nil_or_concat (trimEnd (takeBytes offset cs)) with none | ⟨lead, last, some⟩
    · simp [none]
    · rw [some, List.concat_eq_append, List.reverse_append, List.reverse_singleton, List.singleton_append]
      by_cases isDash : last = '-'
      · subst isDash
        have isLead : ∀ lead', lead ++ ['-'] = lead' ++ ['-'] ↔ lead' = lead := by simp [eq_comm]
        simp only [isLead, exists_eq_left]
        rcases List.eq_nil_or_concat lead with rfl | ⟨_, before, rfl⟩
        · simp
        · simp [or_assoc]
      · have other : ∀ lead', lead ++ [last] ≠ lead' ++ ['-'] := by simp [isDash]
        simp [isDash, other]
  rw [trimmed]
  constructor
  · rintro ⟨lead, isEnd, alone⟩
    obtain ⟨blanks, whole, areBlank⟩ := (trimEnd_eq_concat_iff (by decide)).mp isEnd
    exact ⟨lead, blanks, whole, areBlank, alone⟩
  · rintro ⟨lead, blanks, whole, areBlank, alone⟩
    exact ⟨lead, (trimEnd_eq_concat_iff (by decide)).mpr ⟨blanks, whole, areBlank⟩, alone⟩

end PddlAssist
