import PddlAssist.Proofs.Reading.Format

namespace PddlAssist.Layout

open Text Document

/-- Lines that are laid out when `level` brackets are open before the first: a line is empty, or it is trimmed text
behind the indent that its brackets ask for. -/
inductive LaidOut : Nat → List (List Char) → Prop where
  | nil {level : Nat} : LaidOut level []
  | blank {level : Nat} {rest : List (List Char)} (tail : LaidOut level rest) : LaidOut level ([] :: rest)
  | line {level : Nat} {content : List Char} {rest : List (List Char)} (nonempty : content ≠ [])
      (trimmed : trim content = content) (tail : LaidOut (levelAfter level (Token.scan content)) rest) :
      LaidOut level ((indent (level - leadingCloses (Token.scan content)) ++ content) :: rest)

theorem laidOut_formatLines (level : Nat) (lines : List (List Char)) : LaidOut level (formatLines level lines) := by
  induction lines generalizing level with
  | nil => exact .nil
  | cons line rest ih =>
    simp only [formatLines]
    split
    case isTrue => exact .blank (ih level)
    case isFalse notEmpty =>
      refine .line ?_ (trim_trim line) (ih _)
      intro nothing
      simp [nothing] at notEmpty

namespace LaidOut

variable {level : Nat} {lines : List (List Char)}

theorem formatLines_eq (laid : LaidOut level lines) : formatLines level lines = lines := by
  induction laid with
  | nil => rfl
  | blank _ ih =>
    have nothing : (trim []).isEmpty = true := rfl
    simp only [formatLines, nothing, if_true, ih]
  | @line level content rest nonempty trimmed _ ih =>
    have same : trim (indent (level - leadingCloses (Token.scan content)) ++ content) = content := by
      rw [trim_indent, trimmed]
    have notEmpty : content.isEmpty = false := by simpa using nonempty
    simp only [formatLines, same, notEmpty, Bool.false_eq_true, if_false, ih]

theorem concat_blank (laid : LaidOut level lines) : LaidOut level (lines ++ [[]]) := by
  induction laid with
  | nil => exact .blank .nil
  | blank _ ih => exact .blank ih
  | line nonempty trimmed _ ih => exact .line nonempty trimmed ih

end LaidOut

theorem joinLines_cons (line : List Char) {rest : List (List Char)} (more : rest ≠ []) :
    joinLines (line :: rest) = line ++ '\n' :: joinLines rest := by
  cases rest with
  | nil => exact absurd rfl more
  | cons => rfl

theorem joinLines_splitLines {cs : List Char} (ending : (splitLines cs).getLast? = some []) :
    joinLines (splitLines cs) = cs := by
  induction size : cs.length using Nat.strong_induction_on generalizing cs with
  | h size ih =>
    subst size
    rcases splitLines_cases cs with inLine | ⟨line, rest, inLine, rfl⟩
    · rw [splitLines_line inLine, List.getLast?_singleton, Option.some.injEq] at ending
      subst ending
      rfl
    · have more := splitLines_ne_nil rest
      rw [splitLines_break inLine, List.getLast?_cons_of_ne_nil more] at ending
      rw [splitLines_break inLine, joinLines_cons line more, ih rest.length (by simp; omega) ending rfl]

theorem splitLines_joinLines {lines : List (List Char)} (inLine : ∀ line ∈ lines, '\n' ∉ line) :
    splitLines (joinLines lines) = lines ∧ lines.getLast? = some [] ∨
      splitLines (joinLines lines) = lines ++ [[]] := by
  induction lines with
  | nil => exact .inr rfl
  | cons line rest ih =>
    rw [List.forall_mem_cons] at inLine
    cases rest with
    | nil =>
      cases line with
      | nil => exact .inl ⟨rfl, rfl⟩
      | cons c line => exact .inr (splitLines_break inLine.1 [])
    | cons next rest =>
      have more : next :: rest ≠ [] := List.cons_ne_nil next rest
      rw [joinLines_cons line more, splitLines_break inLine.1, List.getLast?_cons_of_ne_nil more]
      rcases ih inLine.2 with ⟨same, ending⟩ | longer
      · exact .inl ⟨by rw [same], ending⟩
      · exact .inr (by rw [longer]; rfl)

/-- A text that is laid out from its first line on and ends with a line break, unless it is empty. -/
structure IsLaidOut (cs : List Char) : Prop where
  lines : LaidOut 0 (splitLines cs)
  ending : (splitLines cs).getLast? = some []

theorem isLaidOut_format (cs : List Char) : IsLaidOut (format cs) := by
  have laid := laidOut_formatLines 0 (splitLines cs)
  have inLine := noBreak_formatLines (@splitLines_noBreak cs) 0
  rcases splitLines_joinLines inLine with ⟨same, ending⟩ | longer
  · exact ⟨by rwa [format, same], by rwa [format, same]⟩
  · refine ⟨?_, ?_⟩
    · rw [format, longer]
      exact laid.concat_blank
    · rw [format, longer, List.getLast?_concat]

theorem IsLaidOut.format_eq {cs : List Char} (laid : IsLaidOut cs) : format cs = cs := by
  rw [format, laid.lines.formatLines_eq, joinLines_splitLines laid.ending]

theorem format_eq_self_iff {cs : List Char} : format cs = cs ↔ IsLaidOut cs :=
  ⟨fun same => same ▸ isLaidOut_format cs, IsLaidOut.format_eq⟩

/-- Formatting a text that is formatted changes nothing. -/
theorem format_format (cs : List Char) : format (format cs) = format cs := (isLaidOut_format cs).format_eq

end PddlAssist.Layout
