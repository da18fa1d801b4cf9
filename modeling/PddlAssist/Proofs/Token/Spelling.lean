import PddlAssist.Proofs.Token.Lines
import PddlAssist.Proofs.Tree.Bare

namespace PddlAssist

open Text

namespace Token

/-- A text that is one token wherever it stands between blanks or brackets. -/
def IsRun (word : String) : Prop := word.toList ≠ [] ∧ ∀ c ∈ word.toList, isWordChar c = true

-- over the characters of the word, not over all characters there are
instance (word : String) : Decidable (IsRun word) :=
  @instDecidableAnd _ _ _ (List.decidableBAll (fun c => isWordChar c = true) word.toList)

def ofWord (word : String) : Token := ⟨wordKind word.toList, word, 0⟩

def opening : Token := ⟨.openBracket, "(", 0⟩

def closing : Token := ⟨.closeBracket, ")", 0⟩

theorem scanFrom_bare (start start' : Nat) (cs : List Char) :
    (scanFrom start cs).map bare = (scanFrom start' cs).map bare := by
  fun_induction scanFrom start cs generalizing start' with
  | case1 => simp [scanFrom]
  | case2 start c rest lex chars ih =>
    rw [scanFrom, List.map_cons, List.map_cons, ih (start' + width chars)]
    rfl

end Token

open Token

def Trace.bare (trace : Trace) : Token := ⟨trace.kind, String.ofList trace.text, 0⟩

theorem significantTokens_eq (before cs : List Char) :
    significantTokens cs = ((tracesFrom before cs).filter (·.kind != .comment)).map Trace.bare := by
  have same : ((scanFrom 0 cs).filter Token.isSignificant).map Token.bare =
      ((scanFrom (width before) cs).filter Token.isSignificant).map Token.bare := by
    have kinds (start : Nat) : ((scanFrom start cs).filter Token.isSignificant).map Token.bare =
        ((scanFrom start cs).map Token.bare).filter Token.isSignificant := by
      rw [List.filter_map]
      rfl
    rw [kinds, kinds, scanFrom_bare]
  have shown : ∀ t ∈ (scanFrom (width before) cs).filter Token.isSignificant,
      t.bare = (t.trace (before ++ cs)).bare := by
    intro t member
    have significant := (List.mem_filter.mp member).2
    simp only [Token.isSignificant, Bool.and_eq_true, bne_iff_ne] at significant
    simp [Token.trace, Trace.bare, Token.bare, Token.shown, significant.2]
  rw [significantTokens, Token.scan, same, tracesFrom, List.filter_map, List.map_map, List.filter_filter,
    List.map_congr_left shown]
  refine congrArg (List.map _) (List.filter_congr fun t _ => ?_)
  simp [Token.isSignificant, Token.trace, Bool.and_comm]

theorem significantTokens_nil : significantTokens [] = [] := by
  simp [significantTokens, scan, scanFrom]

theorem significantTokens_blank {c : Char} (blank : isAsciiBlank c = true) (rest : List Char) :
    significantTokens (c :: rest) = significantTokens rest := by
  rw [significantTokens_eq [] (c :: rest), tracesFrom_blank blank, ← significantTokens_eq]

theorem significantTokens_append {kind : TokenKind} {text : String} {rest : List Char}
    (leads : Leads ⟨kind, text, 0⟩ rest) (notBlank : kind ≠ .blank) (notComment : kind ≠ .comment) :
    significantTokens (text.toList ++ rest) = ⟨kind, text, 0⟩ :: significantTokens rest := by
  have leads' : Leads ⟨kind, String.ofList text.toList, width []⟩ rest := by simpa using leads
  rw [significantTokens_eq [] (text.toList ++ rest), tracesFrom_append leads',
    significantTokens_eq ([] ++ text.toList) rest]
  simp [notBlank, notComment, Trace.bare]

/-- The text spells the tokens, whatever follows that does not continue a word. -/
def Spells (cs : List Char) (tokens : List Token) : Prop :=
  ∀ rest, (∀ c ∈ rest.head?, isWordChar c = false) →
    significantTokens (cs ++ rest) = tokens ++ significantTokens rest

namespace Spells

theorem nil : Spells [] [] := fun _ _ => rfl

theorem word {text : String} (run : IsRun text) : Spells text.toList [ofWord text] := by
  intro rest ends
  have leads : Leads ⟨wordKind text.toList, text, 0⟩ rest := by
    simpa using Leads.word 0 run.1 run.2 ends
  exact significantTokens_append leads (wordKind_ne rfl _) (wordKind_ne rfl _)

theorem spaced {left right : List Char} {tokens tokens' : List Token} (first : Spells left tokens)
    (second : Spells right tokens') : Spells (left ++ ' ' :: right) (tokens ++ tokens') := by
  intro rest ends
  rw [List.append_assoc, List.cons_append, first _ (by simp [isWordChar, isAsciiBlank]),
    significantTokens_blank (by decide), second rest ends, List.append_assoc]

theorem bracket {cs : List Char} {tokens : List Token} (inside : Spells cs tokens) :
    Spells ('(' :: (cs ++ [')'])) (opening :: (tokens ++ [closing])) := by
  intro rest _
  have opens := significantTokens_append (Leads.openBracket 0 (cs ++ ([')'] ++ rest))) (by decide) (by decide)
  have closes := significantTokens_append (Leads.closeBracket 0 rest) (by decide) (by decide)
  simp only [String.toList_ofList] at opens closes
  rw [inside _ (by simp [isWordChar]), closes] at opens
  simpa [opening, closing] using opens

theorem joined {texts : List String} {tokens : List (List Token)}
    (each : List.Forall₂ (fun text tokens => Spells text.toList tokens) texts tokens) :
    Spells (" ".intercalate texts).toList tokens.flatten := by
  induction each with
  | nil => exact nil
  | @cons text first texts tokens here later ih =>
    cases later with
    | nil => simpa using here
    | cons next later =>
      rw [String.intercalate_cons_cons, String.toList_append, String.toList_append, List.append_assoc]
      exact here.spaced ih

end Spells
end PddlAssist
