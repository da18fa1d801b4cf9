import Mathlib.Data.List.TakeWhile
import Mathlib.Tactic.Conv
import PddlAssist.Text.Blank

namespace PddlAssist.Text

theorem trimEnd_append {bs : List Char} (blanks : ∀ c ∈ bs, isBlank c = true) (cs : List Char) :
    trimEnd (cs ++ bs) = trimEnd cs := by
  rw [trimEnd, List.reverse_append, List.dropWhile_append_of_pos (by simpa using blanks), trimEnd]

theorem trimEnd_cases (cs : List Char) : ∃ bs, cs = trimEnd cs ++ bs ∧ ∀ c ∈ bs, isBlank c = true := by
  refine ⟨(cs.reverse.takeWhile isBlank).reverse, ?_, ?_⟩
  · rw [trimEnd, ← List.reverse_append, List.takeWhile_append_dropWhile, List.reverse_reverse]
  · intro c member
    exact List.mem_takeWhile_imp (List.mem_reverse.mp member)

theorem trim_append {bs : List Char} (blanks : ∀ c ∈ bs, isBlank c = true) (cs : List Char) :
    trim (cs ++ bs) = trim cs := by
  rw [trim, trim, trimStart, trimStart, List.dropWhile_append]
  split
  · rename_i nothing
    rw [List.isEmpty_iff.mp nothing, List.dropWhile_eq_nil_iff.mpr blanks]
  · exact trimEnd_append blanks _

theorem trim_cases (cs : List Char) : ∃ lead bs, cs = lead ++ (trim cs ++ bs) ∧ (∀ c ∈ lead, isBlank c = true) ∧
    ∀ c ∈ bs, isBlank c = true := by
  obtain ⟨bs, isEnd, blanks⟩ := trimEnd_cases (trimStart cs)
  refine ⟨cs.takeWhile isBlank, bs, ?_, fun c member => List.mem_takeWhile_imp member, blanks⟩
  rw [trim, ← isEnd, trimStart, List.takeWhile_append_dropWhile]

theorem trim_lead {lead : List Char} (blanks : ∀ c ∈ lead, isBlank c = true) (cs : List Char) :
    trim (lead ++ cs) = trim cs := by
  rw [trim, trimStart, List.dropWhile_append_of_pos blanks, trim, trimStart]

theorem trim_trim (cs : List Char) : trim (trim cs) = trim cs := by
  obtain ⟨lead, bs, whole, leadBlanks, blanks⟩ := trim_cases cs
  conv_rhs => rw [whole, trim_lead leadBlanks, trim_append blanks]

theorem trim_blanks {bs : List Char} (blanks : ∀ c ∈ bs, isBlank c = true) : trim bs = [] := by
  have trimmed := trim_append blanks []
  rwa [List.nil_append] at trimmed

end PddlAssist.Text
