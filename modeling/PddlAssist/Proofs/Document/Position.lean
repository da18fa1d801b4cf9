import PddlAssist.Document

namespace PddlAssist

open Text

theorem units_pos (c : Char) : 0 < units c := by
  simp only [units]
  split <;> omega

def unitsOf : List Char → Nat
  | [] => 0
  | c :: cs => units c + unitsOf cs

namespace Document

theorem positionFrom_width (p : Position) (before after : List Char) :
    positionFrom p (width before) (before ++ after) = before.foldl Position.next p := by
  induction before generalizing p with
  | nil =>
    cases after with
    | nil => rfl
    | cons c after => simp [positionFrom, Nat.not_le.mpr c.utf8Size_pos]
  | cons c before ih => simp [positionFrom, ih]

theorem foldl_next_inLine {cs : List Char} (inLine : '\n' ∉ cs) (p : Position) :
    cs.foldl Position.next p = ⟨p.line, p.character + unitsOf cs⟩ := by
  induction cs generalizing p with
  | nil => rfl
  | cons c cs ih =>
    rw [List.mem_cons, not_or] at inLine
    rw [List.foldl_cons, ih inLine.2]
    simp [Position.next, Ne.symm inLine.1, unitsOf, Nat.add_assoc]

theorem foldl_next_line (cs : List Char) (p : Position) :
    p.line ≤ (cs.foldl Position.next p).line ∧ ('\n' ∈ cs → p.line < (cs.foldl Position.next p).line) := by
  induction cs generalizing p with
  | nil => simp
  | cons c cs ih =>
    have later := ih (p.next c)
    rw [List.foldl_cons]
    by_cases isBreak : c = '\n'
    · have line : (p.next c).line = p.line + 1 := by simp [Position.next, isBreak]
      rw [line] at later
      exact ⟨by omega, fun _ => by omega⟩
    · have line : (p.next c).line = p.line := by simp [Position.next, isBreak]
      rw [line] at later
      refine ⟨later.1, fun member => later.2 ?_⟩
      simpa [Ne.symm isBreak] using member

theorem column_unitsOf {before : List Char} (inLine : '\n' ∉ before) (after : List Char) :
    column (unitsOf before) (before ++ after) = width before := by
  induction before with
  | nil => cases after <;> simp [column, unitsOf]
  | cons c before ih =>
    rw [List.mem_cons, not_or] at inLine
    have some : unitsOf (c :: before) = units c + unitsOf before := rfl
    have := units_pos c
    have notZero : ¬(units c + unitsOf before = 0) := by omega
    simp only [List.cons_append, column, some, notZero, Ne.symm inLine.1, or_self, if_false,
      Nat.add_sub_cancel_left, ih inLine.2, width_cons]

theorem offsetFrom_foldl_next (before after : List Char) (p : Position)
    (fromStart : p.character = 0 ∨ '\n' ∈ before) :
    offsetFrom (before.foldl Position.next p).character ((before.foldl Position.next p).line - p.line)
      (before ++ after) = some (width before) := by
  induction before generalizing p with
  | nil =>
    have first : p.character = 0 := by simpa using fromStart
    cases after <;> simp [offsetFrom, column, first]
  | cons c before ih =>
    by_cases inLine : '\n' ∈ c :: before
    · have lines := foldl_next_line before (p.next c)
      rw [List.foldl_cons, List.cons_append, width_cons]
      by_cases isBreak : c = '\n'
      · have next : p.next c = ⟨p.line + 1, 0⟩ := by simp [Position.next, isBreak]
        have found := ih (p.next c) (.inl (by rw [next]))
        rw [next] at lines found ⊢
        generalize before.foldl Position.next ⟨p.line + 1, 0⟩ = target at lines found
        simp only at lines found
        obtain ⟨passed, isPassed⟩ : ∃ passed, target.line - p.line = passed + 1 := ⟨target.line - (p.line + 1), by omega⟩
        have rest : target.line - (p.line + 1) = passed := by omega
        rw [rest] at found
        rw [isPassed, offsetFrom, if_pos isBreak, found, Option.map_some]
      · have later : '\n' ∈ before := by simpa [Ne.symm isBreak] using inLine
        have next : (p.next c).line = p.line := by simp [Position.next, isBreak]
        have found := ih (p.next c) (.inr later)
        rw [next] at lines found
        generalize before.foldl Position.next (p.next c) = target at lines found
        have further := lines.2 later
        obtain ⟨passed, isPassed⟩ : ∃ passed, target.line - p.line = passed + 1 := ⟨target.line - p.line - 1, by omega⟩
        rw [isPassed] at found ⊢
        rw [offsetFrom, if_neg isBreak, found, Option.map_some]
    · have first : p.character = 0 := by simpa [inLine] using fromStart
      rw [foldl_next_inLine inLine, first, Nat.zero_add, Nat.sub_self, offsetFrom, column_unitsOf inLine]

theorem offset?_positionAt (before after : List Char) :
    offset? ⟨before ++ after⟩ (positionAt ⟨before ++ after⟩ (width before)) = some (width before) := by
  have found := offsetFrom_foldl_next before after ⟨0, 0⟩ (.inl rfl)
  simpa [offset?, positionAt, positionFrom_width] using found

end Document
end PddlAssist
