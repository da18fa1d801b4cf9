import PddlAssist.Proofs.Document.Position

namespace PddlAssist

open Text

namespace Position

instance : LT Position := ⟨fun p q => p.line < q.line ∨ p.line = q.line ∧ p.character < q.character⟩

instance : LE Position := ⟨fun p q => p.line < q.line ∨ p.line = q.line ∧ p.character ≤ q.character⟩

theorem lt_iff {p q : Position} :
    p < q ↔ p.line < q.line ∨ p.line = q.line ∧ p.character < q.character := Iff.rfl

theorem le_iff {p q : Position} :
    p ≤ q ↔ p.line < q.line ∨ p.line = q.line ∧ p.character ≤ q.character := Iff.rfl

theorem lt_trans {p q r : Position} (first : p < q) (second : q < r) : p < r := by
  rw [lt_iff] at *
  omega

theorem lt_next (p : Position) (c : Char) : p < p.next c := by
  have := units_pos c
  rw [next, lt_iff]
  split
  · exact .inl (Nat.lt_succ_self _)
  · exact .inr ⟨rfl, Nat.lt_add_of_pos_right this⟩

theorem lt_foldl_next {cs : List Char} (nonempty : cs ≠ []) (p : Position) : p < cs.foldl next p := by
  induction cs generalizing p with
  | nil => exact absurd rfl nonempty
  | cons c cs ih =>
    by_cases isLast : cs = []
    · subst isLast
      exact lt_next p c
    · exact lt_trans (lt_next p c) (ih isLast (p.next c))

end Position

namespace Document

theorem positionAt_append (before after : List Char) :
    positionAt ⟨before ++ after⟩ (width before) = before.foldl Position.next ⟨0, 0⟩ :=
  positionFrom_width ⟨0, 0⟩ before after

theorem exists_between {cs : List Char} {m n : Nat} (left : IsBoundary cs m) (right : IsBoundary cs n) (less : m < n) :
    ∃ before between after, cs = before ++ between ++ after ∧ between ≠ [] ∧ width before = m ∧
      width (before ++ between) = n := by
  obtain ⟨before, rest, rfl, rfl⟩ := left
  obtain ⟨upTo, after, whole, rfl⟩ := right
  rcases List.append_eq_append_iff.mp whole with ⟨between, rfl, rfl⟩ | ⟨between, rfl, rfl⟩
  · refine ⟨before, between, after, by simp, ?_, rfl, rfl⟩
    rintro rfl
    simp at less
  · rw [width_append] at less
    omega

theorem positionAt_lt {d : Document} {m n : Nat} (left : IsBoundary d.chars m) (right : IsBoundary d.chars n)
    (less : m < n) : d.positionAt m < d.positionAt n := by
  obtain ⟨before, between, after, whole, some, rfl, rfl⟩ := exists_between left right less
  obtain rfl : d = ⟨before ++ between ++ after⟩ := congrArg Document.mk whole
  have first := positionAt_append before (between ++ after)
  rw [← List.append_assoc] at first
  rw [first, positionAt_append, List.foldl_append]
  exact Position.lt_foldl_next some _

theorem offset?_of_isBoundary {d : Document} {n : Nat} (boundary : IsBoundary d.chars n) :
    d.offset? (d.positionAt n) = some n := by
  obtain ⟨before, after, whole, rfl⟩ := boundary
  obtain rfl : d = ⟨before ++ after⟩ := congrArg Document.mk whole
  exact offset?_positionAt before after

theorem positionAt_inj {d : Document} {m n : Nat} (left : IsBoundary d.chars m) (right : IsBoundary d.chars n)
    (same : d.positionAt m = d.positionAt n) : m = n := by
  have here := offset?_of_isBoundary left
  rwa [same, offset?_of_isBoundary right, Option.some.injEq, eq_comm] at here

theorem length_splitLines (cs : List Char) : (splitLines cs).length = cs.count '\n' + 1 := by
  induction cs with
  | nil => rfl
  | cons c cs ih =>
    rw [splitLines]
    by_cases isBreak : c = '\n'
    · simp [isBreak, ih]
    · rw [if_neg isBreak, List.count_cons_of_ne isBreak, ← ih]
      split
      · rename_i none
        rw [none] at ih
        simp at ih
      · rename_i some
        rw [some]
        rfl

theorem offsetFrom_eq_none_iff {character line : Nat} {cs : List Char} :
    offsetFrom character line cs = none ↔ cs.count '\n' < line := by
  induction cs generalizing line with
  | nil => cases line <;> simp [offsetFrom]
  | cons c cs ih =>
    cases line with
    | zero => simp [offsetFrom]
    | succ line =>
      rw [offsetFrom, Option.map_eq_none_iff, ih]
      by_cases isBreak : c = '\n'
      · simp [isBreak]
      · simp [isBreak]

theorem offset?_eq_none_iff {d : Document} {p : Position} : d.offset? p = none ↔ d.lineCount ≤ p.line := by
  rw [offset?, offsetFrom_eq_none_iff, lineCount, length_splitLines]
  omega

theorem column_cases (n : Nat) (cs : List Char) : ∃ taken left, cs = taken ++ left ∧ '\n' ∉ taken ∧
    column n cs = width taken ∧ (∀ shorter c more, taken = shorter ++ c :: more → unitsOf shorter < n) ∧
    (n ≤ unitsOf taken ∨ unitsOf taken < n ∧ ∀ c ∈ left.head?, c = '\n') := by
  induction cs generalizing n with
  | nil =>
    refine ⟨[], [], rfl, by simp, rfl, by simp, ?_⟩
    rcases Nat.eq_zero_or_pos n with zero | positive
    · exact .inl (Nat.le_of_eq zero)
    · exact .inr ⟨positive, by simp⟩
  | cons c cs ih =>
    by_cases stops : n = 0 ∨ c = '\n'
    · refine ⟨[], c :: cs, rfl, by simp, by simp [column, stops], by simp, ?_⟩
      rcases Nat.eq_zero_or_pos n with zero | positive
      · exact .inl (Nat.le_of_eq zero)
      · have isBreak : c = '\n' := stops.resolve_left (Nat.ne_of_gt positive)
        exact .inr ⟨positive, by simpa using isBreak⟩
    · obtain ⟨notZero, inLine⟩ := not_or.mp stops
      obtain ⟨taken, left, rfl, sameLine, isColumn, shortest, reached⟩ := ih (n - units c)
      have more : unitsOf (c :: taken) = units c + unitsOf taken := rfl
      have positive := units_pos c
      refine ⟨c :: taken, left, rfl, by simp [Ne.symm inLine, sameLine], by simp [column, stops, isColumn], ?_, ?_⟩
      · intro shorter d rest cut
        cases shorter with
        | nil => exact Nat.pos_of_ne_zero notZero
        | cons e shorter =>
          obtain ⟨rfl, inside⟩ := List.cons.inj cut
          have before := shortest shorter d rest inside
          have : unitsOf (c :: shorter) = units c + unitsOf shorter := rfl
          omega
      · rw [more]
        rcases reached with far | ⟨short, ends⟩
        · left
          omega
        · by_cases far : n ≤ units c + unitsOf taken
          · exact .inl far
          · exact .inr ⟨by omega, ends⟩

theorem offsetFrom_cases {character line n : Nat} {cs : List Char}
    (found : offsetFrom character line cs = some n) (p : Position) (fromStart : p.character = 0 ∨ 0 < line) :
    ∃ lead rest, cs = lead ++ rest ∧ lead.foldl Position.next p = ⟨p.line + line, 0⟩ ∧
      n = width lead + column character rest := by
  induction cs generalizing line n p with
  | nil =>
    cases line with
    | zero =>
      cases found
      have first : p.character = 0 := by omega
      exact ⟨[], [], rfl, congrArg (Position.mk p.line) first, by simp⟩
    | succ line => cases found
  | cons c cs ih =>
    cases line with
    | zero =>
      cases found
      have first : p.character = 0 := by omega
      exact ⟨[], c :: cs, rfl, congrArg (Position.mk p.line) first, by simp⟩
    | succ line =>
      rw [offsetFrom, Option.map_eq_some_iff] at found
      obtain ⟨rest, found, rfl⟩ := found
      by_cases isBreak : c = '\n'
      · rw [if_pos isBreak] at found
        have next : p.next c = ⟨p.line + 1, 0⟩ := by simp [Position.next, isBreak]
        obtain ⟨lead, after, rfl, isLead, rfl⟩ := ih found (p.next c) (.inl (by rw [next]))
        refine ⟨c :: lead, after, rfl, ?_, by simp [Nat.add_assoc]⟩
        rw [List.foldl_cons, isLead, next]
        simp only [Position.mk.injEq, and_true]
        omega
      · rw [if_neg isBreak] at found
        have next : (p.next c).line = p.line := by simp [Position.next, isBreak]
        obtain ⟨lead, after, rfl, isLead, rfl⟩ := ih found (p.next c) (.inr (Nat.succ_pos line))
        exact ⟨c :: lead, after, rfl, by rw [List.foldl_cons, isLead, next], by simp [Nat.add_assoc]⟩

theorem line_foldl_next (cs : List Char) (p : Position) :
    (cs.foldl Position.next p).line = p.line + cs.count '\n' := by
  induction cs generalizing p with
  | nil => rfl
  | cons c cs ih =>
    rw [List.foldl_cons, ih]
    by_cases isBreak : c = '\n'
    · simp [Position.next, isBreak]
      omega
    · simp [Position.next, isBreak]

def OnLine (d : Document) (line n : Nat) : Prop :=
  IsBoundary d.chars n ∧ (takeBytes n d.chars).count '\n' = line

theorem OnLine.line_positionAt {d : Document} {line n : Nat} (onLine : d.OnLine line n) :
    (d.positionAt n).line = line := by
  obtain ⟨⟨before, after, whole, rfl⟩, isLine⟩ := onLine
  obtain rfl : d = ⟨before ++ after⟩ := congrArg Document.mk whole
  rw [takeBytes_width] at isLine
  rw [positionAt_append, line_foldl_next, isLine, Nat.zero_add]

/-- The first offset on its line whose position is not before `p`, or else the offset at which the line ends. -/
def IsPlaceOf (d : Document) (p : Position) (n : Nat) : Prop :=
  d.OnLine p.line n ∧
    ((p ≤ d.positionAt n ∧ ∀ m, d.OnLine p.line m → p ≤ d.positionAt m → n ≤ m) ∨
      ((∀ m, d.OnLine p.line m → d.positionAt m < p) ∧ ∀ c ∈ (dropBytes n d.chars).head?, c = '\n'))

section

variable {line m : Nat} {lead taken left : List Char}

theorem prefix_of_width {before after upTo rest : List Char} (whole : before ++ after = upTo ++ rest)
    (same : width before = width upTo) : before = upTo := by
  rw [← takeBytes_width before after, whole, same, takeBytes_width]

theorem append_of_width_le {before after upTo rest : List Char} (whole : before ++ after = upTo ++ rest)
    (le : width before ≤ width upTo) : ∃ between, upTo = before ++ between ∧ after = between ++ rest := by
  rcases List.append_eq_append_iff.mp whole with longer | ⟨gap, isBefore, isRest⟩
  · exact longer
  · cases gap with
    | nil => exact ⟨[], by simpa using isBefore.symm, isRest.symm⟩
    | cons c gap =>
      have := c.utf8Size_pos
      rw [isBefore, width_append, width_cons] at le
      omega

theorem OnLine.cuts (isLead : lead.foldl Position.next ⟨0, 0⟩ = ⟨line, 0⟩) (inLine : '\n' ∉ taken)
    (onLine : OnLine ⟨lead ++ taken ++ left⟩ line m) (less : m < width (lead ++ taken)) :
    ∃ shorter c more, taken = shorter ++ c :: more ∧
      positionAt ⟨lead ++ taken ++ left⟩ m = ⟨line, unitsOf shorter⟩ := by
  have isLine := onLine.line_positionAt
  obtain ⟨before, between, after, whole, some, rfl, same⟩ := exists_between onLine.1 ⟨_, left, rfl, rfl⟩ less
  have upTo : before ++ between = lead ++ taken := prefix_of_width whole.symm same
  have place : positionAt ⟨lead ++ taken ++ left⟩ (width before) = before.foldl Position.next ⟨0, 0⟩ := by
    rw [← upTo, List.append_assoc, positionAt_append]
  rw [place] at isLine ⊢
  obtain ⟨shorter, rfl⟩ : ∃ shorter, before = lead ++ shorter := by
    rcases List.append_eq_append_iff.mp upTo with ⟨gap, rfl, _⟩ | ⟨shorter, isBefore, _⟩
    · by_cases none : gap = []
      · exact ⟨[], by simp [none]⟩
      · have further := Position.lt_foldl_next none (before.foldl Position.next ⟨0, 0⟩)
        rw [← List.foldl_append, isLead, Position.lt_iff, isLine] at further
        simp at further
    · exact ⟨shorter, isBefore⟩
  rw [List.append_assoc, List.append_cancel_left_eq] at upTo
  obtain ⟨c, more, rfl⟩ := List.exists_cons_of_ne_nil some
  have sameLine : '\n' ∉ shorter := by
    intro member
    rw [← upTo] at inLine
    exact inLine (List.mem_append_left _ member)
  refine ⟨shorter, c, more, upTo.symm, ?_⟩
  rw [List.foldl_append, isLead, foldl_next_inLine sameLine, Nat.zero_add]

theorem OnLine.le_end (isLead : lead.foldl Position.next ⟨0, 0⟩ = ⟨line, 0⟩) (inLine : '\n' ∉ taken)
    (ends : ∀ c ∈ left.head?, c = '\n') (onLine : OnLine ⟨lead ++ taken ++ left⟩ line m) :
    m ≤ width (lead ++ taken) := by
  have isLine := onLine.line_positionAt
  apply Nat.not_lt.mp
  intro more
  obtain ⟨before, between, after, whole, some, same, rfl⟩ := exists_between ⟨_, left, rfl, rfl⟩ onLine.1 more
  have upTo : before = lead ++ taken := by
    rw [List.append_assoc before] at whole
    exact prefix_of_width whole.symm same
  subst upTo
  rw [List.append_assoc (lead ++ taken), List.append_cancel_left_eq] at whole
  obtain ⟨c, rest, rfl⟩ := List.exists_cons_of_ne_nil some
  have isBreak : c = '\n' := ends c (by simp [whole])
  have later := (foldl_next_line (c :: rest) ⟨line, unitsOf taken⟩).2 (by simp [isBreak])
  rw [whole, ← List.append_assoc, positionAt_append, List.foldl_append, List.foldl_append, isLead,
    foldl_next_inLine inLine, Nat.zero_add] at isLine
  exact Nat.ne_of_gt later isLine

end

theorem isPlaceOf_of_offset? {d : Document} {p : Position} {n : Nat} (found : d.offset? p = some n) :
    d.IsPlaceOf p n := by
  obtain ⟨lead, rest, isText, isLead, rfl⟩ := offsetFrom_cases found ⟨0, 0⟩ (.inl rfl)
  obtain ⟨taken, left, rfl, inLine, isColumn, shortest, reached⟩ := column_cases p.character rest
  obtain rfl : d = ⟨lead ++ taken ++ left⟩ := congrArg Document.mk (by rw [isText, List.append_assoc])
  rw [Nat.zero_add] at isLead
  rw [isColumn, ← width_append]
  have here : positionAt ⟨lead ++ taken ++ left⟩ (width (lead ++ taken)) = ⟨p.line, unitsOf taken⟩ := by
    rw [positionAt_append, List.foldl_append, isLead, foldl_next_inLine inLine, Nat.zero_add]
  have earlier {m : Nat} (onLine : OnLine ⟨lead ++ taken ++ left⟩ p.line m) (less : m < width (lead ++ taken)) :
      positionAt ⟨lead ++ taken ++ left⟩ m < p := by
    obtain ⟨shorter, c, more, cut, isPosition⟩ := onLine.cuts isLead inLine less
    rw [isPosition]
    exact .inr ⟨rfl, shortest shorter c more cut⟩
  have isLine : (lead ++ taken).count '\n' = p.line := by
    have counted := line_foldl_next (lead ++ taken) ⟨0, 0⟩
    rw [← positionAt_append (lead ++ taken) left, here, Nat.zero_add] at counted
    exact counted.symm
  refine ⟨⟨⟨_, left, rfl, rfl⟩, by rw [takeBytes_width, isLine]⟩, ?_⟩
  rcases reached with far | ⟨short, ends⟩
  · left
    rw [here]
    refine ⟨.inr ⟨rfl, far⟩, ?_⟩
    intro m onLine reaches
    apply Nat.not_lt.mp
    intro less
    have before := earlier onLine less
    rw [Position.lt_iff] at before
    rw [Position.le_iff] at reaches
    omega
  · right
    rw [dropBytes_width]
    refine ⟨?_, ends⟩
    intro m onLine
    rcases Nat.lt_or_eq_of_le (onLine.le_end isLead inLine ends) with less | rfl
    · exact earlier onLine less
    · rw [here]
      exact .inr ⟨rfl, short⟩

/-- Places between characters are found again by their positions, which are in the order of the places. A position on
a line of the text stands for the first place on that line that is not before it, or for the end of the line if all
places are before it; other positions stand for nothing. -/
theorem positions_follow_offsets (d : Document) :
    (∀ n, IsBoundary d.chars n → d.offset? (d.positionAt n) = some n) ∧
      (∀ m n, IsBoundary d.chars m → IsBoundary d.chars n → m < n → d.positionAt m < d.positionAt n) ∧
      ∀ p, (d.offset? p = none ↔ d.lineCount ≤ p.line) ∧ ∀ n, d.offset? p = some n → d.IsPlaceOf p n := by
  refine ⟨fun n boundary => offset?_of_isBoundary boundary, fun m n left right less => positionAt_lt left right less, ?_⟩
  intro p
  exact ⟨offset?_eq_none_iff, fun n found => isPlaceOf_of_offset? found⟩

end Document
end PddlAssist
