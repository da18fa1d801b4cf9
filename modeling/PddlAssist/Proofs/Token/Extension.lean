import PddlAssist.Proofs.Token.Lines
import PddlAssist.Proofs.Token.Names

namespace PddlAssist

open Text

namespace Token

def IsBracket (t : Token) : Prop := t.kind = .openBracket ∨ t.kind = .closeBracket

theorem isPrefix_dropReturn_append (line : List Char) {more : List Char} (nonempty : more ≠ []) :
    line <+: Document.dropReturn (line ++ more) := by
  rw [Document.dropReturn]
  split
  · rw [List.dropLast_append_of_ne_nil nonempty]
    exact List.prefix_append _ _
  · exact List.prefix_append _ _

theorem isPrefix_takeWhile_append {p : Char → Bool} {run : List Char} (holds : ∀ c ∈ run, p c = true)
    (more : List Char) : run <+: (run ++ more).takeWhile p := by
  rw [List.takeWhile_append_of_pos holds]
  exact List.prefix_append _ _

theorem takeWhile_append_of_not_all {p : Char → Bool} {text : List Char} (stops : ¬ ∀ c ∈ text, p c = true)
    (more : List Char) : (text ++ more).takeWhile p = text.takeWhile p := by
  rw [List.takeWhile_append, if_neg]
  intro same
  exact stops (List.takeWhile_eq_self_iff.mp ((List.takeWhile_prefix p).eq_of_length same))

theorem wordKind_plain (word : List Char) : wordKind word ≠ .openBracket ∧ wordKind word ≠ .closeBracket :=
  ⟨wordKind_ne rfl word, wordKind_ne rfl word⟩

/-- What the last tokens of a text become when more text follows: one token that holds all of their text. -/
structure Merges (t : Token) (rest : List Token) (more : List Char) : Prop where
  plain : ∀ u ∈ t :: rest, ¬ u.IsBracket
  merged : ∃ c run, t.text.toList = c :: run ∧ run ++ texts rest <+: (lexeme c (run ++ (texts rest ++ more))).2 ∧
    (lexeme c (run ++ (texts rest ++ more))).1 ≠ .openBracket ∧
    (lexeme c (run ++ (texts rest ++ more))).1 ≠ .closeBracket

theorem texts_eq_nil_of_scanned {start : Nat} {tokens : List Token} (scanned : Scanned start tokens)
    (nothing : texts tokens = []) : tokens = [] := by
  cases scanned with
  | nil => rfl
  | cons leads _ =>
    rw [texts_cons, List.append_eq_nil_iff] at nothing
    exact absurd nothing.1 leads.text_ne_nil

theorem Leads.grow_comment {start : Nat} {line : List Char} {rest : List Token}
    (ends : Document.dropReturn ((line ++ texts rest).takeWhile (· != '\n')) = line) {later : Nat}
    (scanned : Scanned later rest) (more : List Char) :
    Leads ⟨.comment, String.ofList (';' :: line), start⟩ (texts rest ++ more) ∨
      Merges ⟨.comment, String.ofList (';' :: line), start⟩ rest more := by
  have leads : Leads ⟨.comment, String.ofList (';' :: line), start⟩ (texts rest) := .comment start ends
  obtain ⟨inLine, _⟩ := comment_ends ends
  by_cases isLast : ∀ c ∈ texts rest, (c != '\n') = true
  · have allInLine : ∀ c ∈ line ++ texts rest, (c != '\n') = true := List.forall_mem_append.mpr ⟨inLine, isLast⟩
    by_cases stops : more.takeWhile (· != '\n') = []
    · left
      refine .comment start ?_
      rw [← List.append_assoc, List.takeWhile_append_of_pos allInLine, stops, List.append_nil]
      rwa [List.takeWhile_eq_self_iff.mpr allInLine] at ends
    · right
      have blanks : ∀ u ∈ rest, u.kind = .blank := by
        cases scanned with
        | nil => simp
        | @cons b later next scanned =>
          obtain ⟨isBlank, ending⟩ := leads.blank_after_comment rfl next
          have noBreak : '\n' ∉ b.text.toList := fun member => by
            cases isLast '\n' (List.mem_append_left _ member)
          rw [texts_eq_nil_of_scanned scanned (ending.resolve_left noBreak)]
          simpa using isBlank
      have merged : Token.lexeme ';' (line ++ (texts rest ++ more)) =
          (.comment, Document.dropReturn (line ++ texts rest ++ more.takeWhile (· != '\n'))) := by
        rw [← List.takeWhile_append_of_pos allInLine, List.append_assoc]
        rfl
      refine ⟨?_, ';', line, String.toList_ofList, ?_⟩
      · rw [List.forall_mem_cons]
        exact ⟨by simp [IsBracket], fun u member => by simp [IsBracket, blanks u member]⟩
      · rw [merged]
        exact ⟨isPrefix_dropReturn_append _ stops, by simp, by simp⟩
  · left
    refine .comment start ?_
    rw [List.takeWhile_append_of_pos inLine] at ends ⊢
    rwa [takeWhile_append_of_not_all isLast]

theorem Leads.grow {t : Token} {rest : List Token} (leads : t.Leads (texts rest)) {later : Nat}
    (scanned : Scanned later rest) (more : List Char) : t.Leads (texts rest ++ more) ∨ Merges t rest more := by
  have last (nonempty : texts rest ≠ []) : ∀ c ∈ (texts rest ++ more).head?, c ∈ (texts rest).head? := by
    rw [List.head?_append_of_ne_nil _ nonempty]
    exact fun _ => id
  cases leads with
  | openBracket start => exact .inl (.openBracket start _)
  | closeBracket start => exact .inl (.closeBracket start _)
  | comment start ends => exact Leads.grow_comment ends scanned more
  | @blank start run _ nonempty blanks ends =>
    by_cases isLast : texts rest = []
    · right
      rw [texts_eq_nil_of_scanned scanned isLast]
      obtain ⟨c, run, rfl⟩ := List.exists_cons_of_ne_nil nonempty
      rw [List.forall_mem_cons] at blanks
      refine ⟨by simp [IsBracket], c, run, String.toList_ofList, ?_⟩
      rw [texts_nil, List.nil_append, List.append_nil, lexeme_blank blanks.1]
      exact ⟨isPrefix_takeWhile_append blanks.2 more, by simp, by simp⟩
    · exact .inl (.blank start nonempty blanks fun c member => ends c (last isLast c member))
  | @word start run _ nonempty chars ends =>
    by_cases isLast : texts rest = []
    · right
      rw [texts_eq_nil_of_scanned scanned isLast]
      obtain ⟨c, run, rfl⟩ := List.exists_cons_of_ne_nil nonempty
      rw [List.forall_mem_cons] at chars
      refine ⟨by simpa [IsBracket] using wordKind_plain (c :: run), c, run, String.toList_ofList, ?_⟩
      rw [texts_nil, List.nil_append, List.append_nil, lexeme_word chars.1]
      exact ⟨isPrefix_takeWhile_append chars.2 more, wordKind_plain _⟩
    · exact .inl (.word start nonempty chars fun c member => ends c (last isLast c member))

/-- The last tokens of a text may change when more text follows. No bracket is among them, and none comes in their
place. -/
theorem Scanned.extend {start : Nat} {tokens : List Token} (scanned : Scanned start tokens) (after : List Char) :
    ∃ kept ended more, tokens = kept ++ ended ∧ scanFrom start (texts tokens ++ after) = kept ++ more ∧
      (∀ t ∈ ended, ¬ t.IsBracket) ∧ ∀ t ∈ more, t.IsBracket → start + width (texts tokens) ≤ t.start := by
  induction scanned with
  | nil start =>
    refine ⟨[], [], scanFrom start after, rfl, rfl, by simp, fun t member _ => ?_⟩
    simpa using (scanned_scanFrom start after).sorted.1 t member
  | @cons t rest leads scanned ih =>
    rcases leads.grow scanned after with leads' | ⟨plain, c, run, spelled, longer, notOpen, notClose⟩
    · obtain ⟨kept, ended, more, rfl, scan, plain, later⟩ := ih
      refine ⟨t :: kept, ended, more, rfl, ?_, plain, fun u member isBracket => ?_⟩
      · rw [texts_cons, List.append_assoc, scanFrom_append leads', scan]
        rfl
      · have := later u member isBracket
        simp only [stop] at this
        rw [texts_cons, width_append]
        omega
    · refine ⟨[], t :: rest, _, rfl, rfl, plain, ?_⟩
      rw [texts_cons, spelled]
      simp only [List.cons_append, List.append_assoc, scanFrom]
      rw [List.forall_mem_cons]
      refine ⟨fun isBracket => (isBracket.elim notOpen notClose).elim, fun u member _ => ?_⟩
      have after := (scanned_scanFrom _ _).sorted.1 u member
      obtain ⟨behind, isMerged⟩ := longer
      rw [← isMerged] at after
      simp only [width_cons, width_append] at after ⊢
      omega

theorem scan_extend (before after : List Char) :
    ∃ kept ended more, scan before = kept ++ ended ∧ scan (before ++ after) = kept ++ more ∧
      (∀ t ∈ ended, ¬ t.IsBracket) ∧ ∀ t ∈ more, t.IsBracket → width before ≤ t.start := by
  have grown := (scanned_scanFrom 0 before).extend after
  rwa [texts_scanFrom, Nat.zero_add] at grown

end Token
end PddlAssist
