namespace List

variable {α : Type} [BEq α] [LawfulBEq α]

theorem nodup_eraseDups (as : List α) : as.eraseDups.Nodup := by
  -- by induction on the length, since what repeats the first element is left out behind it
  induction size : as.length using Nat.strongRecOn generalizing as with
  | ind size ih =>
    cases as with
    | nil => exact .nil
    | cons a as =>
      have shorter := as.length_filter_le (fun b => !b == a)
      rw [length_cons] at size
      rw [eraseDups_cons, nodup_cons, mem_eraseDups]
      exact ⟨by simp, ih _ (by omega) _ rfl⟩

theorem eraseDups_concat (as : List α) (a : α) [Decidable (a ∈ as)] :
    (as ++ [a]).eraseDups = if a ∈ as then as.eraseDups else as.eraseDups ++ [a] := by
  rw [eraseDups_append]
  split
  case isTrue known => simp [removeAll, known]
  case isFalse unknown => simp [removeAll, unknown, eraseDups_cons]

end List
