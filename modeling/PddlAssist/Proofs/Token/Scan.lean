import Mathlib.Data.List.TakeWhile
import PddlAssist.Document.Occurrence
import PddlAssist.Token

namespace PddlAssist

open Text

theorem takeWhile_append_stop {α : Type} {p : α → Bool} {run rest : List α} (holds : ∀ a ∈ run, p a = true)
    (ends : ∀ a ∈ rest.head?, p a = false) : (run ++ rest).takeWhile p = run := by
  rw [List.takeWhile_append_of_pos holds]
  cases rest with
  | nil => simp
  | cons a rest => simp [ends a rfl]

theorem head?_dropWhile_stop {α : Type} {p : α → Bool} (l : List α) :
    ∀ a ∈ (l.dropWhile p).head?, p a = false := by
  induction l with
  | nil => simp
  | cons a l ih =>
    rw [List.dropWhile_cons]
    split
    · exact ih
    · rename_i fails
      simpa using fails

namespace Token

/-- The text that tokens spell. -/
def texts (tokens : List Token) : List Char := tokens.flatMap (·.text.toList)

@[simp] theorem texts_nil : texts [] = [] := rfl

@[simp] theorem texts_cons (t : Token) (tokens : List Token) :
    texts (t :: tokens) = t.text.toList ++ texts tokens := rfl

@[simp] theorem texts_append (left right : List Token) :
    texts (left ++ right) = texts left ++ texts right := by
  simp [texts]

/-- The token that is read at the front of its own text when `rest` follows. -/
inductive Leads : Token → List Char → Prop where
  | openBracket (start : Nat) (rest : List Char) : Leads ⟨.openBracket, String.ofList ['('], start⟩ rest
  | closeBracket (start : Nat) (rest : List Char) : Leads ⟨.closeBracket, String.ofList [')'], start⟩ rest
  | comment (start : Nat) {line rest : List Char}
      (ends : Document.dropReturn ((line ++ rest).takeWhile (· != '\n')) = line) :
      Leads ⟨.comment, String.ofList (';' :: line), start⟩ rest
  | blank (start : Nat) {run rest : List Char} (nonempty : run ≠ [])
      (blanks : ∀ c ∈ run, isAsciiBlank c = true) (ends : ∀ c ∈ rest.head?, isAsciiBlank c = false) :
      Leads ⟨.blank, String.ofList run, start⟩ rest
  | word (start : Nat) {run rest : List Char} (nonempty : run ≠ [])
      (chars : ∀ c ∈ run, isWordChar c = true) (ends : ∀ c ∈ rest.head?, isWordChar c = false) :
      Leads ⟨wordKind run, String.ofList run, start⟩ rest

theorem dropReturn_eq_iff {line shown : List Char} :
    Document.dropReturn line = shown ↔
      line = shown ++ ['\r'] ∨ line = shown ∧ shown.getLast? ≠ some '\r' := by
  simp only [Document.dropReturn]
  split
  case isTrue isReturn =>
    obtain ⟨before, rfl⟩ := List.getLast?_eq_some_iff.mp isReturn
    constructor
    · intro same
      rw [List.dropLast_concat] at same
      exact .inl (by rw [same])
    · rintro (same | ⟨same, plain⟩)
      · rw [same, List.dropLast_concat]
      · rw [← same, isReturn] at plain
        exact absurd rfl plain
  case isFalse noReturn =>
    constructor
    · rintro rfl
      exact .inr ⟨rfl, noReturn⟩
    · rintro (rfl | ⟨same, _⟩)
      · simp at noReturn
      · exact same

theorem lexeme_isPrefix (c : Char) (rest : List Char) : (lexeme c rest).2 <+: rest := by
  simp only [lexeme]
  split
  · exact List.nil_prefix
  split
  · exact List.nil_prefix
  split
  · rcases dropReturn_eq_iff.mp (rfl : Document.dropReturn (rest.takeWhile (· != '\n')) = _) with same | ⟨same, _⟩
    · refine ⟨'\r' :: rest.dropWhile (· != '\n'), ?_⟩
      rw [List.append_cons, ← same, List.takeWhile_append_dropWhile]
    · exact ⟨rest.dropWhile (· != '\n'), by rw [← same, List.takeWhile_append_dropWhile]⟩
  split
  · exact List.takeWhile_prefix _
  · exact List.takeWhile_prefix _

theorem lexeme_append (c : Char) (rest : List Char) :
    rest = (lexeme c rest).2 ++ rest.drop (lexeme c rest).2.length :=
  (List.prefix_iff_eq_append.mp (lexeme_isPrefix c rest)).symm

theorem leads_run {p : Char → Bool} {c : Char} {rest after : List Char} (first : p c = true)
    (same : rest = rest.takeWhile p ++ after) :
    (∀ a ∈ c :: rest.takeWhile p, p a = true) ∧ ∀ a ∈ after.head?, p a = false := by
  constructor
  · intro a member
    rcases List.mem_cons.mp member with rfl | member
    · exact first
    · exact List.mem_takeWhile_imp member
  · have dropped : after = rest.dropWhile p := by
      apply List.append_cancel_left
      rw [← same, List.takeWhile_append_dropWhile]
    rw [dropped]
    exact head?_dropWhile_stop rest

theorem lexeme_blank {c : Char} (blank : isAsciiBlank c = true) (rest : List Char) :
    lexeme c rest = (.blank, rest.takeWhile isAsciiBlank) := by
  have differs {other : Char} (notBlank : isAsciiBlank other = false) : c ≠ other := by
    rintro rfl
    rw [blank] at notBlank
    cases notBlank
  simp only [lexeme, differs (by decide : isAsciiBlank '(' = false), differs (by decide : isAsciiBlank ')' = false),
    differs (by decide : isAsciiBlank ';' = false), blank, if_true, if_false]

theorem lexeme_word {c : Char} (isWord : isWordChar c = true) (rest : List Char) :
    lexeme c rest = (wordKind (c :: rest.takeWhile isWordChar), rest.takeWhile isWordChar) := by
  simp only [isWordChar, Bool.and_eq_true, Bool.not_eq_true', bne_iff_ne] at isWord
  obtain ⟨⟨⟨blank, isOpen⟩, isClose⟩, isSemicolon⟩ := isWord
  simp [lexeme, isOpen, isClose, isSemicolon, blank]

theorem leads_lexeme (start : Nat) {c : Char} {rest after : List Char}
    (same : rest = (lexeme c rest).2 ++ after) :
    Leads ⟨(lexeme c rest).1, String.ofList (c :: (lexeme c rest).2), start⟩ after := by
  by_cases isOpen : c = '('
  · simpa [lexeme, isOpen] using .openBracket start after
  by_cases isClose : c = ')'
  · simpa [lexeme, isClose] using .closeBracket start after
  by_cases isSemicolon : c = ';'
  · subst isSemicolon
    have isComment : lexeme ';' rest = (.comment, Document.dropReturn (rest.takeWhile (· != '\n'))) := rfl
    rw [isComment] at same ⊢
    apply Leads.comment
    rw [← same]
  by_cases blank : isAsciiBlank c = true
  · rw [lexeme_blank blank] at same ⊢
    obtain ⟨blanks, ends⟩ := leads_run blank same
    exact .blank start (by simp) blanks ends
  · have first : isWordChar c = true := by simp [isWordChar, isOpen, isClose, isSemicolon, blank]
    rw [lexeme_word first] at same ⊢
    obtain ⟨chars, ends⟩ := leads_run first same
    exact .word start (by simp) chars ends

theorem Leads.lexeme {t : Token} {rest : List Char} (leads : t.Leads rest) :
    ∃ c run, t.text = String.ofList (c :: run) ∧ Token.lexeme c (run ++ rest) = (t.kind, run) := by
  cases leads with
  | openBracket start => exact ⟨'(', [], rfl, rfl⟩
  | closeBracket start => exact ⟨')', [], rfl, rfl⟩
  | comment start ends => exact ⟨';', _, rfl, by simp [Token.lexeme, ends]⟩
  | @blank start run _ nonempty blanks ends =>
    cases run with
    | nil => exact absurd rfl nonempty
    | cons c run =>
      rw [List.forall_mem_cons] at blanks
      refine ⟨c, run, rfl, ?_⟩
      rw [lexeme_blank blanks.1, takeWhile_append_stop blanks.2 ends]
  | @word start run _ nonempty chars ends =>
    cases run with
    | nil => exact absurd rfl nonempty
    | cons c run =>
      rw [List.forall_mem_cons] at chars
      refine ⟨c, run, rfl, ?_⟩
      rw [lexeme_word chars.1, takeWhile_append_stop chars.2 ends]

inductive Scanned : Nat → List Token → Prop where
  | nil (start : Nat) : Scanned start []
  | cons {t : Token} {rest : List Token} (leads : t.Leads (texts rest)) (scanned : Scanned t.stop rest) :
    Scanned t.start (t :: rest)

theorem texts_scanFrom (start : Nat) (cs : List Char) : texts (scanFrom start cs) = cs := by
  fun_induction scanFrom start cs with
  | case1 => rfl
  | case2 start c rest lex chars ih =>
    simp only [texts_cons, ih, String.toList_ofList, chars, List.cons_append, lex]
    rw [← lexeme_append]

theorem scanned_scanFrom (start : Nat) (cs : List Char) : Scanned start (scanFrom start cs) := by
  fun_induction scanFrom start cs with
  | case1 => exact .nil _
  | case2 start c rest lex chars ih =>
    refine .cons (t := ⟨lex.1, String.ofList chars, start⟩) ?_ ?_
    · rw [texts_scanFrom]
      exact leads_lexeme start (lexeme_append c rest)
    · simpa only [stop, String.toList_ofList] using ih

theorem Scanned.scanFrom_texts {start : Nat} {tokens : List Token} (scanned : Scanned start tokens) :
    scanFrom start (texts tokens) = tokens := by
  induction scanned with
  | nil => simp [scanFrom]
  | @cons t rest leads _ ih =>
    obtain ⟨c, run, text, lexed⟩ := leads.lexeme
    have spelled : t.text.toList = c :: run := by rw [text, String.toList_ofList]
    simp only [stop, spelled] at ih
    simp only [texts_cons, spelled, List.cons_append, scanFrom, lexed, List.drop_left, ih, ← text]

theorem scan_eq_iff {cs : List Char} {tokens : List Token} :
    scan cs = tokens ↔ Scanned 0 tokens ∧ texts tokens = cs := by
  constructor
  · rintro rfl
    exact ⟨scanned_scanFrom 0 cs, texts_scanFrom 0 cs⟩
  · rintro ⟨scanned, rfl⟩
    exact scanned.scanFrom_texts

theorem Leads.text_ne_nil {t : Token} {rest : List Char} (leads : t.Leads rest) : t.text.toList ≠ [] := by
  obtain ⟨c, run, text, _⟩ := leads.lexeme
  simp [text]

theorem scanned_cons_iff {start : Nat} {t : Token} {rest : List Token} :
    Scanned start (t :: rest) ↔ t.start = start ∧ t.Leads (texts rest) ∧ Scanned t.stop rest := by
  constructor
  · intro scanned
    cases scanned with
    | cons leads scanned => exact ⟨rfl, leads, scanned⟩
  · rintro ⟨rfl, leads, scanned⟩
    exact .cons leads scanned

theorem Scanned.append_right {start : Nat} {earlier later : List Token} (scanned : Scanned start (earlier ++ later)) :
    Scanned (start + width (texts earlier)) later := by
  induction earlier generalizing start with
  | nil => exact scanned
  | cons t earlier ih =>
    obtain ⟨isStart, _, scanned⟩ := scanned_cons_iff.mp scanned
    have tail := ih scanned
    rw [stop, isStart] at tail
    rwa [texts_cons, width_append, ← Nat.add_assoc]

theorem scan_split {cs : List Char} {earlier later : List Token} {t : Token} (whole : scan cs = earlier ++ t :: later) :
    cs = texts earlier ++ (t.text.toList ++ texts later) ∧ t.start = width (texts earlier) ∧ t.Leads (texts later) ∧
      Scanned 0 (earlier ++ t :: later) := by
  obtain ⟨scanned, spelled⟩ := scan_eq_iff.mp whole
  obtain ⟨start, leads, _⟩ := scanned_cons_iff.mp scanned.append_right
  exact ⟨by rw [← spelled, texts_append, texts_cons], by rw [start, Nat.zero_add], leads, scanned⟩

theorem mem_scan {cs : List Char} {t : Token} (member : t ∈ scan cs) :
    ∃ earlier later, cs = texts earlier ++ (t.text.toList ++ texts later) ∧ t.start = width (texts earlier) ∧
      t.Leads (texts later) ∧ Scanned 0 (earlier ++ t :: later) := by
  obtain ⟨earlier, later, whole⟩ := List.append_of_mem member
  exact ⟨earlier, later, scan_split whole⟩

end Token

def TokenKind.isWord : TokenKind → Bool
  | keyword | parameter | dash | word => true
  | openBracket | closeBracket | blank | comment => false

namespace Token

theorem wordKind_isWord (run : List Char) : (wordKind run).isWord = true := by
  simp only [wordKind]
  split <;> rfl

theorem wordKind_ne {kind : TokenKind} (other : kind.isWord = false) (run : List Char) : wordKind run ≠ kind := by
  rintro rfl
  rw [wordKind_isWord] at other
  cases other

theorem not_isIdentifierChar {c : Char} (other : isWordChar c = false) : isIdentifierChar c = false := by
  simp only [isWordChar, isAsciiBlank, Bool.and_eq_false_iff, Bool.not_eq_false', Bool.or_eq_true, beq_iff_eq,
    bne_eq_false_iff_eq] at other
  rcases other with (((((((rfl | rfl) | rfl) | rfl) | rfl) | rfl) | rfl) | rfl) <;> decide

theorem isWordChar_cases {c : Char} (isWord : isWordChar c = true) :
    isAsciiBlank c = false ∧ c ≠ ';' ∧ c ≠ '\n' := by
  simp only [isWordChar, Bool.and_eq_true, Bool.not_eq_true', bne_iff_ne] at isWord
  refine ⟨isWord.1.1.1, isWord.2, ?_⟩
  rintro rfl
  exact absurd isWord.1.1.1 (by decide)

theorem Leads.joins_head? {t : Token} {rest : List Char} (leads : t.Leads rest) (isWord : t.kind.isWord = true) :
    joins rest.head? = false := by
  cases leads with
  | openBracket | closeBracket | comment | blank => cases isWord
  | word start nonempty chars ends =>
    cases rest with
    | nil => rfl
    | cons c rest => exact not_isIdentifierChar (ends c rfl)

theorem comment_ends {line rest : List Char}
    (ends : Document.dropReturn ((line ++ rest).takeWhile (· != '\n')) = line) :
    (∀ c ∈ line, (c != '\n') = true) ∧
      (rest.takeWhile (· != '\n') = [] ∨ rest.takeWhile (· != '\n') = ['\r']) := by
  rw [dropReturn_eq_iff] at ends
  have inLine : ∀ c ∈ line, (c != '\n') = true := by
    intro c member
    apply List.mem_takeWhile_imp (p := (· != '\n')) (l := line ++ rest)
    rcases ends with same | ⟨same, _⟩
    · rw [same]
      exact List.mem_append_left _ member
    · rwa [same]
  rw [List.takeWhile_append_of_pos inLine] at ends
  refine ⟨inLine, ?_⟩
  rcases ends with same | ⟨same, _⟩
  · exact .inr (List.append_cancel_left same)
  · exact .inl (List.append_right_eq_self.mp same)

theorem Leads.kind_of_blank {t : Token} {rest : List Char} (leads : t.Leads rest) {c : Char} {run : List Char}
    (text : t.text.toList = c :: run) (blank : isAsciiBlank c = true) : t.kind = .blank := by
  have notOther {other : Char} (same : other = c) (notBlank : isAsciiBlank other = false) : False := by
    rw [same, blank] at notBlank
    cases notBlank
  cases leads with
  | openBracket | closeBracket | comment =>
    rw [String.toList_ofList] at text
    exact (notOther (List.cons.inj text).1 (by decide)).elim
  | blank => rfl
  | word start nonempty chars =>
    rw [String.toList_ofList] at text
    subst text
    exact (notOther rfl (isWordChar_cases (chars c (by simp))).1).elim

theorem Leads.head_not_blank {t : Token} {rest : List Char} (leads : t.Leads rest) (blank : t.kind = .blank) :
    ∀ c ∈ rest.head?, isAsciiBlank c = false := by
  cases leads with
  | openBracket | closeBracket | comment => cases blank
  | blank start nonempty blanks ends => exact ends
  | @word start run => exact absurd blank (wordKind_ne rfl run)

theorem Leads.text_of_comment {t : Token} {rest : List Char} (leads : t.Leads rest) (isComment : t.kind = .comment) :
    ∃ line, t.text.toList = ';' :: line ∧
      Document.dropReturn ((line ++ rest).takeWhile (· != '\n')) = line := by
  cases leads with
  | openBracket | closeBracket | blank => cases isComment
  | @comment start line _ ends => exact ⟨line, String.toList_ofList, ends⟩
  | @word start run => exact absurd isComment (wordKind_ne rfl run)

theorem Leads.blank_after_comment {t b : Token} {later : List Token} (leads : t.Leads (texts (b :: later)))
    (isComment : t.kind = .comment) (next : b.Leads (texts later)) :
    b.kind = .blank ∧ ('\n' ∈ b.text.toList ∨ texts later = []) := by
  obtain ⟨c, run, text, _⟩ := next.lexeme
  have spelled : b.text.toList = c :: run := by rw [text, String.toList_ofList]
  obtain ⟨_, _, ends⟩ := leads.text_of_comment isComment
  have ending := (comment_ends ends).2
  rw [texts_cons, spelled, List.cons_append, List.takeWhile_cons] at ending
  by_cases isBreak : c = '\n'
  · subst isBreak
    exact ⟨next.kind_of_blank spelled (by decide), .inl (by simp [spelled])⟩
  · simp only [bne_iff_ne, ne_eq, isBreak, not_false_eq_true, if_true] at ending
    rcases ending with none | some
    · cases none
    · obtain ⟨rfl, after⟩ := List.cons.inj some
      refine ⟨next.kind_of_blank spelled (by decide), ?_⟩
      cases run with
      | cons d run =>
        have isBreak : d = '\n' := by simpa [List.takeWhile_cons] using after
        exact .inl (by simp [spelled, isBreak])
      | nil =>
        right
        cases following : texts later with
        | nil => rfl
        | cons d rest =>
          have isBreak : d = '\n' := by simpa [following, List.takeWhile_cons] using after
          exact absurd (next.head_not_blank (next.kind_of_blank spelled (by decide)) d (by simp [following]))
            (by simp [isBreak, isAsciiBlank])

theorem commentedAfter_plain {cs : List Char} (plain : ∀ c ∈ cs, c ≠ ';' ∧ c ≠ '\n') (commented : Bool) :
    cs.foldl commentedAfter commented = commented := by
  induction cs with
  | nil => rfl
  | cons c cs ih =>
    rw [List.forall_mem_cons] at plain
    have step : commentedAfter commented c = commented := by simp [commentedAfter, plain.1.1, plain.1.2]
    rw [List.foldl_cons, step, ih plain.2]

theorem commentedAfter_blank {cs : List Char} (blanks : ∀ c ∈ cs, isAsciiBlank c = true) {commented : Bool}
    (ends : commented = true → '\n' ∈ cs) : cs.foldl commentedAfter commented = false := by
  induction cs generalizing commented with
  | nil => simpa using ends
  | cons c cs ih =>
    rw [List.forall_mem_cons] at blanks
    have notSemicolon : c ≠ ';' := by
      rintro rfl
      exact absurd blanks.1 (by decide)
    rw [List.foldl_cons]
    apply ih blanks.2
    by_cases isBreak : c = '\n'
    · simp [commentedAfter, isBreak]
    · intro still
      have before : commented = true := by simpa [commentedAfter, isBreak, notSemicolon] using still
      simpa [Ne.symm isBreak] using ends before

/-- Where the line is commented, a blank follows that ends the comment, or nothing. -/
def EndsComment (commented : Bool) (tokens : List Token) : Prop :=
  commented = true → ∀ b later, tokens = b :: later →
    b.kind = .blank ∧ ('\n' ∈ b.text.toList ∨ texts later = [])

theorem Leads.uncommented {t : Token} {later : List Token} (leads : t.Leads (texts later))
    (notComment : t.kind ≠ .comment) {commented : Bool} (ends : EndsComment commented (t :: later))
    (more : texts later ≠ []) : t.text.toList.foldl commentedAfter commented = false := by
  have known : t.kind ≠ .blank → commented = false := by
    intro notBlank
    cases commented with
    | false => rfl
    | true => exact absurd (ends rfl t later rfl).1 notBlank
  have plain (isPlain : ∀ c ∈ t.text.toList, c ≠ ';' ∧ c ≠ '\n') (notBlank : t.kind ≠ .blank) :
      t.text.toList.foldl commentedAfter commented = false := by
    rw [commentedAfter_plain isPlain, known notBlank]
  cases leads with
  | openBracket | closeBracket => exact plain (by simp) (by simp)
  | comment => exact absurd rfl notComment
  | blank start nonempty blanks =>
    refine commentedAfter_blank (by simpa using blanks) ?_
    intro isCommented
    rcases (ends isCommented _ later rfl).2 with isBreak | nothing
    · exact isBreak
    · exact absurd nothing more
  | @word start run _ nonempty chars =>
    refine plain ?_ ?_
    · intro c member
      exact (isWordChar_cases (chars c (by simpa using member))).2
    · exact wordKind_ne rfl run

theorem EndsComment.step {start : Nat} {t : Token} {later : List Token} (scanned : Scanned start (t :: later))
    {commented : Bool} (ends : EndsComment commented (t :: later)) :
    EndsComment (t.text.toList.foldl commentedAfter commented) later := by
  intro still b rest isLater
  subst isLater
  obtain ⟨_, leads, scanned⟩ := scanned_cons_iff.mp scanned
  obtain ⟨_, next, _⟩ := scanned_cons_iff.mp scanned
  by_cases isComment : t.kind = .comment
  · exact leads.blank_after_comment isComment next
  · have more : texts (b :: rest) ≠ [] := by simp [next.text_ne_nil]
    rw [leads.uncommented isComment ends more] at still
    cases still

theorem EndsComment.append {start : Nat} {earlier later : List Token} (scanned : Scanned start (earlier ++ later))
    {commented : Bool} (ends : EndsComment commented (earlier ++ later)) :
    EndsComment ((texts earlier).foldl commentedAfter commented) later := by
  induction earlier generalizing start commented with
  | nil => exact ends
  | cons t earlier ih =>
    rw [texts_cons, List.foldl_append]
    exact ih (scanned_cons_iff.mp scanned).2.2 (ends.step scanned)

theorem Scanned.uncommented {start : Nat} {earlier later : List Token} {t : Token}
    (scanned : Scanned start (earlier ++ t :: later)) (notBlank : t.kind ≠ .blank) :
    (texts earlier).foldl commentedAfter false = false := by
  have fresh : EndsComment false (earlier ++ t :: later) := fun isCommented => by cases isCommented
  have ends := fresh.append scanned
  cases commented : (texts earlier).foldl commentedAfter false with
  | false => rfl
  | true => exact absurd (ends commented t later rfl).1 notBlank

theorem Leads.head_isWordChar {t : Token} {rest : List Char} (leads : t.Leads rest)
    (isWord : t.kind.isWord = true) : ∃ c run, t.text.toList = c :: run ∧ isWordChar c = true := by
  cases leads with
  | openBracket | closeBracket | comment | blank => cases isWord
  | @word start run _ nonempty chars =>
    cases run with
    | nil => exact absurd rfl nonempty
    | cons c run => exact ⟨c, run, by simp, chars c (by simp)⟩

theorem Leads.getLast?_before_word {t u : Token} {later : List Token} (leads : u.Leads (texts (t :: later)))
    (next : t.Leads (texts later)) (isWord : t.kind.isWord = true) :
    ∀ c ∈ u.text.toList.getLast?, isWordChar c = false := by
  intro c last
  cases leads with
  | openBracket | closeBracket =>
    rw [String.toList_ofList, List.getLast?_singleton, Option.mem_some] at last
    rw [← last]
    decide
  | comment start ends =>
    have blank := ((Leads.comment start ends).blank_after_comment rfl next).1
    rw [blank] at isWord
    cases isWord
  | @blank start blanks _ nonempty isBlank =>
    rw [String.toList_ofList] at last
    simp [isWordChar, isBlank c (List.mem_of_getLast? last)]
  | word start nonempty chars ends =>
    obtain ⟨first, run, spelled, isFirst⟩ := next.head_isWordChar isWord
    have differs := ends first (by simp [spelled])
    rw [isFirst] at differs
    cases differs

theorem Scanned.getLast?_before_word {start : Nat} {earlier later : List Token} {t : Token}
    (scanned : Scanned start (earlier ++ t :: later)) (isWord : t.kind.isWord = true) :
    ∀ c ∈ (texts earlier).getLast?, isWordChar c = false := by
  rcases List.eq_nil_or_concat earlier with rfl | ⟨before, u, rfl⟩
  · simp
  · rw [List.concat_eq_append, List.append_assoc] at scanned
    obtain ⟨_, leads, scanned⟩ := scanned_cons_iff.mp scanned.append_right
    obtain ⟨_, next, _⟩ := scanned_cons_iff.mp scanned
    rw [List.concat_eq_append, texts_append, texts_cons, texts_nil, List.append_nil, List.getLast?_append,
      Option.or_of_isSome (List.getLast?_isSome.mpr leads.text_ne_nil)]
    exact leads.getLast?_before_word next isWord

theorem Scanned.joins_getLast? {start : Nat} {earlier later : List Token} {t : Token}
    (scanned : Scanned start (earlier ++ t :: later)) (isWord : t.kind.isWord = true) :
    joins (texts earlier).getLast? = false := by
  have ends := scanned.getLast?_before_word isWord
  cases last : (texts earlier).getLast? with
  | none => rfl
  | some c => exact not_isIdentifierChar (ends c last)

end Token
end PddlAssist
