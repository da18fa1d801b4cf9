import PddlAssist.Proofs.Text.Case
import PddlAssist.Proofs.Token.Scan
import PddlAssist.Symbol

namespace PddlAssist

open Text

theorem isWordChar_of_isIdentifierChar {c : Char} (isIdentifier : isIdentifierChar c = true) :
    Token.isWordChar c = true := by
  cases isWord : Token.isWordChar c with
  | true => rfl
  | false =>
    rw [Token.not_isIdentifierChar isWord] at isIdentifier
    cases isIdentifier

namespace Symbol

theorem isIdentifierChar_of_isSymbolChar {c : Char} (isSymbol : isSymbolChar c = true) :
    isIdentifierChar c = true := by
  simp only [isSymbolChar, Bool.or_eq_true] at isSymbol
  simp only [isIdentifierChar, Bool.or_eq_true]
  rcases isSymbol with (isAlphanum | isDash) | isUnderscore <;> simp_all

theorem isValidName_cases {name : String} (valid : isValidName name = true) :
    ∃ c rest, name.toList = c :: rest ∧ c.isAlpha = true ∧ ∀ a ∈ name.toList, isSymbolChar a = true := by
  simp only [isValidName] at valid
  split at valid
  · cases valid
  · rename_i c rest spelled
    simp only [Bool.and_eq_true, List.all_eq_true] at valid
    refine ⟨c, rest, spelled, valid.1, ?_⟩
    rw [spelled, List.forall_mem_cons]
    exact ⟨by simp [isSymbolChar, Char.isAlphanum, valid.1], valid.2⟩

theorem isIdentifierChar_of_isValidName {name : String} (valid : isValidName name = true) :
    ∀ c ∈ name.toList, isIdentifierChar c = true := by
  obtain ⟨_, _, _, _, symbols⟩ := isValidName_cases valid
  exact fun c member => isIdentifierChar_of_isSymbolChar (symbols c member)

theorem isWordChar_of_isValidName {name : String} (valid : isValidName name = true) :
    ∀ c ∈ name.toList, Token.isWordChar c = true :=
  fun c member => isWordChar_of_isIdentifierChar (isIdentifierChar_of_isValidName valid c member)

theorem wordKind_of_isAlpha {c : Char} (isAlpha : c.isAlpha = true) (rest : List Char) :
    Token.wordKind (c :: rest) = .word := by
  have letter {other : Char} (isOther : other.isAlpha = false) : c ≠ other := by
    rintro rfl
    rw [isAlpha] at isOther
    cases isOther
  simp only [Token.wordKind]
  split
  · exact absurd (List.cons.inj ‹_›).1 (letter (by decide))
  · exact absurd (List.cons.inj ‹_›).1 (letter (by decide))
  · exact absurd (List.cons.inj ‹_›).1 (letter (by decide))
  · rfl

theorem wordKind_of_isValidName {name : String} (valid : isValidName name = true) :
    Token.wordKind name.toList = .word := by
  obtain ⟨c, rest, spelled, isAlpha, _⟩ := isValidName_cases valid
  rw [spelled, wordKind_of_isAlpha isAlpha]

@[simp] theorem isSymbolChar_toLower (c : Char) : isSymbolChar c.toLower = isSymbolChar c := by
  have same {other : Char} (caseless : other.isAlpha = false) : (c.toLower == other) = (c == other) := by
    rw [Bool.eq_iff_iff, beq_iff_eq, beq_iff_eq, toLower_eq_iff caseless]
  simp only [isSymbolChar, isAlphanum_toLower, same (by decide : '-'.isAlpha = false),
    same (by decide : '_'.isAlpha = false)]

theorem isValidName_lower (name : String) : isValidName (lower name) = isValidName name := by
  simp only [isValidName, lower, String.toList_ofList]
  cases name.toList with
  | nil => rfl
  | cons c rest => simp [Function.comp_def]

theorem isValidName_of_sameName {name other : String} (same : sameName other name = true)
    (valid : isValidName name = true) : isValidName other = true := by
  rw [← isValidName_lower, sameName_iff.mp same, isValidName_lower, valid]

theorem head_not_isBlank {name : String} (valid : isValidName name = true) :
    ∃ c rest, name.toList = c :: rest ∧ isBlank c = false ∧ c ≠ ';' := by
  obtain ⟨c, rest, spelled, isAlpha, _⟩ := isValidName_cases valid
  rw [isAlpha_iff] at isAlpha
  refine ⟨c, rest, spelled, ?_, ?_⟩
  · simp only [isBlank, Bool.or_eq_false_iff, Bool.and_eq_false_iff, decide_eq_false_iff_not, beq_eq_false_iff_ne]
    omega
  · rintro rfl
    exact absurd isAlpha (by decide)

end Symbol

end PddlAssist
