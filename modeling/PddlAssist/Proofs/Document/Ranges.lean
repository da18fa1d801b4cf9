import PddlAssist.Proofs.Document.Order
import PddlAssist.Proofs.Token.Lines

namespace PddlAssist

open Text

namespace Position

theorem le_of_lt {p q : Position} (less : p < q) : p ≤ q := by
  rw [lt_iff] at less
  rw [le_iff]
  omega

end Position

namespace Document

/-- A range of a document that does not end before it starts and whose ends are places between characters. -/
structure HasRange (d : Document) (r : Range) : Prop where
  ordered : r.start ≤ r.stop
  places : ∃ m n, IsBoundary d.chars m ∧ IsBoundary d.chars n ∧ r = d.rangeOf ⟨m, n⟩

theorem hasRange_rangeOf {d : Document} {span : Span} (start : IsBoundary d.chars span.start)
    (stop : IsBoundary d.chars span.stop) (ordered : span.start ≤ span.stop) : d.HasRange (d.rangeOf span) := by
  refine ⟨?_, span.start, span.stop, start, stop, rfl⟩
  rcases Nat.lt_or_eq_of_le ordered with less | same
  · exact Position.le_of_lt (positionAt_lt start stop less)
  · rw [rangeOf, same]
    exact .inr ⟨rfl, Nat.le_refl _⟩

theorem hasRange_end (d : Document) : d.HasRange ⟨d.endPosition, d.endPosition⟩ := by
  have ends : IsBoundary d.chars d.size := ⟨d.chars, [], (List.append_nil _).symm, rfl⟩
  have whole : d.HasRange (d.rangeOf ⟨d.size, d.size⟩) := hasRange_rangeOf ends ends (Nat.le_refl _)
  exact whole

theorem linesFrom_cases {cs line : List Char} {start n place : Nat} (first : Nat)
    (found : (linesFrom start (splitLines cs))[n]? = some (place, line)) :
    ∃ before after, cs = before ++ (line ++ after) ∧ place = start + width before ∧
      before.foldl Position.next ⟨first, 0⟩ = ⟨first + n, 0⟩ := by
  induction n generalizing cs start first with
  | zero =>
    rcases splitLines_cases cs with inLine | ⟨upper, rest, inLine, rfl⟩
    · rw [splitLines_line inLine] at found
      cases found
      exact ⟨[], [], by simp, rfl, rfl⟩
    · rw [splitLines_break inLine] at found
      cases found
      exact ⟨[], '\n' :: rest, rfl, rfl, rfl⟩
  | succ n ih =>
    rcases splitLines_cases cs with inLine | ⟨upper, rest, inLine, rfl⟩
    · rw [splitLines_line inLine] at found
      cases found
    · rw [splitLines_break inLine, linesFrom, List.getElem?_cons_succ] at found
      obtain ⟨before, after, rfl, rfl, lead⟩ := ih (first + 1) found
      have narrow : '\n'.utf8Size = 1 := rfl
      have next : Position.next ⟨first, 0 + unitsOf upper⟩ '\n' = ⟨first + 1, 0⟩ := rfl
      refine ⟨upper ++ '\n' :: before, after, by simp, ?_, ?_⟩
      · simp only [width_append, width_cons, narrow]
        omega
      · rw [List.foldl_append, foldl_next_inLine inLine, List.foldl_cons, next, lead, Position.mk.injEq]
        omega

theorem length_linesFrom (start : Nat) (lines : List (List Char)) : (linesFrom start lines).length = lines.length := by
  induction lines generalizing start with
  | nil => rfl
  | cons line lines ih => rw [linesFrom, List.length_cons, ih, List.length_cons]

theorem dropReturn_prefix (line : List Char) : dropReturn line <+: line := by
  rw [dropReturn]
  split
  · exact List.dropLast_prefix line
  · exact List.prefix_refl line

theorem hasRange_lineRange {d : Document} {n : Nat} (isLine : n < d.lineCount) : d.HasRange (d.lineRange n) := by
  rw [lineCount, ← length_linesFrom 0] at isLine
  obtain ⟨⟨place, line⟩, found⟩ : ∃ entry, (linesFrom 0 (splitLines d.chars))[n]? = some entry :=
    ⟨_, List.getElem?_eq_getElem isLine⟩
  obtain ⟨before, after, whole, isPlace, lead⟩ := linesFrom_cases 0 found
  obtain ⟨more, isMore⟩ := dropReturn_prefix line
  rw [Nat.zero_add] at isPlace lead
  have start : IsBoundary d.chars place := ⟨before, line ++ after, whole, isPlace.symm⟩
  have stop : IsBoundary d.chars (place + width (dropReturn line)) := by
    refine ⟨before ++ dropReturn line, more ++ after, ?_, by rw [width_append, isPlace]⟩
    rw [whole, List.append_assoc, ← List.append_assoc (dropReturn line), isMore]
  have isStart : d.positionAt place = ⟨n, 0⟩ := by
    obtain rfl : d = ⟨before ++ (line ++ after)⟩ := congrArg Document.mk whole
    rw [isPlace, positionAt_append, lead]
  have isRange : d.lineRange n = d.rangeOf ⟨place, place + width (dropReturn line)⟩ := by
    rw [rangeOf, isStart]
    simp [lineRange, lineSpan?, lines, found]
  rw [isRange]
  exact hasRange_rangeOf start stop (Nat.le_add_right _ _)

end Document
end PddlAssist
