import PddlAssist.Document.Occurrence

namespace PddlAssist.Text

theorem toNat_toLower (c : Char) :
    c.toLower.toNat = if 65 ≤ c.toNat ∧ c.toNat ≤ 90 then c.toNat + 32 else c.toNat := by
  by_cases upper : 65 ≤ c.toNat ∧ c.toNat ≤ 90
  · have raised : c.toLower.val = c.val + 32 := congrArg Char.val (dif_pos upper : c.toLower = _)
    have small : c.val.toNat + 32 < 2 ^ 32 := by
      have := upper.2
      simp only [Char.toNat] at this
      omega
    rw [if_pos upper, Char.toNat, raised, UInt32.toNat_add]
    exact Nat.mod_eq_of_lt small
  · have same : c.toLower = c := dif_neg upper
    rw [if_neg upper, same]

@[simp] theorem toLower_toLower (c : Char) : c.toLower.toLower = c.toLower := by
  rw [← Char.toNat_inj, toNat_toLower c.toLower, if_neg]
  rw [toNat_toLower]
  split <;> omega

@[simp] theorem lower_lower (s : String) : lower (lower s) = lower s := by
  simp [lower, Function.comp_def]

theorem isEmpty_of_lower {s t : String} (same : lower s = lower t) : s.isEmpty = t.isEmpty := by
  have letters : s.toList.map Char.toLower = t.toList.map Char.toLower := by
    simpa [lower] using congrArg String.toList same
  have together : s.toList = [] ↔ t.toList = [] := by
    rw [← List.map_eq_nil_iff (f := Char.toLower), letters, List.map_eq_nil_iff]
  rw [Bool.eq_iff_iff, String.isEmpty_iff, String.isEmpty_iff, ← String.toList_eq_nil_iff, together,
    String.toList_eq_nil_iff]

theorem isAlpha_iff (c : Char) :
    c.isAlpha = true ↔ 65 ≤ c.toNat ∧ c.toNat ≤ 90 ∨ 97 ≤ c.toNat ∧ c.toNat ≤ 122 := by
  have isUpper : c.isUpper = true ↔ 65 ≤ c.toNat ∧ c.toNat ≤ 90 := decide_eq_true_iff
  have isLower : c.isLower = true ↔ 97 ≤ c.toNat ∧ c.toNat ≤ 122 := by
    show (decide ('a'.val ≤ c.val) && decide (c.val ≤ 'z'.val)) = true ↔ _
    rw [Bool.and_eq_true, decide_eq_true_eq, decide_eq_true_eq]
    exact Iff.rfl
  show (c.isUpper || c.isLower) = true ↔ _
  rw [Bool.or_eq_true, isUpper, isLower]

theorem isDigit_iff (c : Char) : c.isDigit = true ↔ 48 ≤ c.toNat ∧ c.toNat ≤ 57 := by
  simp only [Char.isDigit, Bool.and_eq_true, decide_eq_true_eq]
  exact Iff.rfl

@[simp] theorem isAlpha_toLower (c : Char) : c.toLower.isAlpha = c.isAlpha := by
  rw [Bool.eq_iff_iff, isAlpha_iff, isAlpha_iff, toNat_toLower]
  split <;> omega

@[simp] theorem isDigit_toLower (c : Char) : c.toLower.isDigit = c.isDigit := by
  rw [Bool.eq_iff_iff, isDigit_iff, isDigit_iff, toNat_toLower]
  split <;> omega

@[simp] theorem isAlphanum_toLower (c : Char) : c.toLower.isAlphanum = c.isAlphanum := by
  simp only [Char.isAlphanum, isAlpha_toLower, isDigit_toLower]

theorem toLower_eq_iff {c other : Char} (caseless : other.isAlpha = false) : c.toLower = other ↔ c = other := by
  have notLetter : ¬(65 ≤ other.toNat ∧ other.toNat ≤ 90 ∨ 97 ≤ other.toNat ∧ other.toNat ≤ 122) := by
    rw [← isAlpha_iff, caseless]
    exact Bool.false_ne_true
  rw [← Char.toNat_inj, ← Char.toNat_inj, toNat_toLower]
  split <;> omega

@[simp] theorem isIdentifierChar_toLower (c : Char) : isIdentifierChar c.toLower = isIdentifierChar c := by
  have same {other : Char} (caseless : other.isAlpha = false) : (c.toLower == other) = (c == other) := by
    rw [Bool.eq_iff_iff, beq_iff_eq, beq_iff_eq, toLower_eq_iff caseless]
  simp only [isIdentifierChar, isAlphanum_toLower, same (by decide : '-'.isAlpha = false),
    same (by decide : '_'.isAlpha = false), same (by decide : '?'.isAlpha = false),
    same (by decide : ':'.isAlpha = false), same (by decide : '.'.isAlpha = false)]

@[simp] theorem utf8Size_toLower (c : Char) : c.toLower.utf8Size = c.utf8Size := by
  have sizes (d : Char) : d.utf8Size = if d.toNat ≤ 127 then 1 else if d.toNat ≤ 2047 then 2
      else if d.toNat ≤ 65535 then 3 else 4 := by
    simp only [Char.utf8Size, UInt32.le_iff_toNat_le]
    rfl
  rw [sizes, sizes, toNat_toLower]
  by_cases isUpper : 65 ≤ c.toNat ∧ c.toNat ≤ 90
  · have small : c.toNat ≤ 127 := by omega
    have smallLower : c.toNat + 32 ≤ 127 := by omega
    simp only [isUpper, and_self, if_true, small, smallLower]
  · rw [if_neg isUpper]

end PddlAssist.Text
