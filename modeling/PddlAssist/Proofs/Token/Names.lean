import PddlAssist.Proofs.Document.Occurrence
import PddlAssist.Proofs.Document.Patch

namespace PddlAssist

open Text

namespace Token

/-- A word after `t` names a bracket if `t` opens one, or only lays out the text before its name. -/
def awaits (awaited : Bool) (t : Token) : Bool :=
  match t.kind with
  | .openBracket => true
  | .blank | .comment => awaited
  | _ => false

def namesFrom (awaited : Bool) : List Token → List Token
  | [] => []
  | t :: rest =>
    if awaited && t.kind.isWord then t :: namesFrom (t.awaits awaited) rest
    else namesFrom (t.awaits awaited) rest

theorem namesFrom_sublist (awaited : Bool) (tokens : List Token) : (namesFrom awaited tokens).Sublist tokens := by
  induction tokens generalizing awaited with
  | nil => exact .slnil
  | cons t rest ih =>
    simp only [namesFrom]
    split
    · exact (ih _).cons_cons t
    · exact (ih _).cons t

theorem isWord_of_mem_namesFrom {awaited : Bool} {tokens : List Token} {t : Token}
    (member : t ∈ namesFrom awaited tokens) : t.kind.isWord = true := by
  induction tokens generalizing awaited with
  | nil => cases member
  | cons u rest ih =>
    simp only [namesFrom] at member
    split at member
    case isTrue isName =>
      rcases List.mem_cons.mp member with rfl | later
      · exact (Bool.and_eq_true_iff.mp isName).2
      · exact ih later
    case isFalse => exact ih member

theorem Leads.start_lt_stop {t : Token} {rest : List Char} (leads : t.Leads rest) : t.start < t.stop :=
  Nat.lt_add_of_pos_right (width_pos leads.text_ne_nil)

theorem bounds_of_mem_scan {cs : List Char} {t : Token} (member : t ∈ scan cs) :
    t.start < t.stop ∧ t.stop ≤ width cs := by
  obtain ⟨earlier, later, rfl, start, leads, _⟩ := mem_scan member
  refine ⟨leads.start_lt_stop, ?_⟩
  simp only [stop, start, width_append]
  omega

theorem Scanned.sorted {start : Nat} {tokens : List Token} (scanned : Scanned start tokens) :
    (∀ t ∈ tokens, start ≤ t.start) ∧ tokens.Pairwise fun left right => left.start < right.start := by
  induction scanned with
  | nil => exact ⟨by simp, .nil⟩
  | @cons t rest leads _ ih =>
    obtain ⟨after, sorted⟩ := ih
    have positive := leads.start_lt_stop
    refine ⟨?_, .cons (fun u member => Nat.lt_of_lt_of_le positive (after u member)) sorted⟩
    intro u member
    rcases List.mem_cons.mp member with rfl | member
    · exact Nat.le_refl _
    · exact Nat.le_trans (Nat.le_of_lt positive) (after u member)

/-- The tokens from `start` on with the names of brackets changed. -/
def renameFrom (rename : String → String) (start : Nat) (awaited : Bool) : List Token → List Token
  | [] => []
  | t :: rest =>
    let text := if awaited && t.kind.isWord then rename t.text else t.text
    ⟨t.kind, text, start⟩ :: renameFrom rename (start + width text.toList) (t.awaits awaited) rest

open PddlAssist.Symbol

def Exchanges (rename : String → String) (t : Token) : Prop :=
  rename t.text = t.text ∨ isValidName t.text = true ∧ isValidName (rename t.text) = true

section

variable {rename : String → String}

theorem Leads.kind_of_isValidName {t : Token} {rest : List Char} (leads : t.Leads rest)
    (isWord : t.kind.isWord = true) (valid : isValidName t.text = true) : t.kind = .word := by
  cases leads with
  | openBracket | closeBracket | comment | blank => cases isWord
  | word => simpa using wordKind_of_isValidName valid

theorem renameFrom_cons {t : Token} {rest : List Token} {following : List Char} (leads : t.Leads following)
    (start : Nat) {awaited : Bool} (exchanges : ∀ u ∈ namesFrom awaited (t :: rest), u.Exchanges rename) :
    ∃ text, renameFrom rename start awaited (t :: rest) =
        ⟨t.kind, text, start⟩ :: renameFrom rename (start + width text.toList) (t.awaits awaited) rest ∧
      (text = t.text ∨ t.kind = .word ∧ isValidName t.text = true ∧ isValidName text = true) ∧
      ∀ u ∈ namesFrom (t.awaits awaited) rest, u.Exchanges rename := by
  refine ⟨_, rfl, ?_⟩
  simp only [namesFrom] at exchanges
  cases named : awaited && t.kind.isWord with
  | false => exact ⟨.inl (by simp), by simpa [named] using exchanges⟩
  | true =>
    simp only [named, if_true, List.forall_mem_cons] at exchanges ⊢
    refine ⟨?_, exchanges.2⟩
    rcases exchanges.1 with same | ⟨valid, valid'⟩
    · exact .inl same
    · simp only [Bool.and_eq_true] at named
      exact .inr ⟨leads.kind_of_isValidName named.2 valid, valid, valid'⟩

theorem texts_head? {t : Token} {c : Char} {run : List Char} (spelled : t.text.toList = c :: run)
    (rest : List Token) : (texts (t :: rest)).head? = some c := by
  simp [spelled]

theorem head?_renameFrom {start : Nat} {tokens : List Token} (scanned : Scanned start tokens) (start' : Nat)
    {awaited : Bool} (exchanges : ∀ t ∈ namesFrom awaited tokens, t.Exchanges rename) :
    ∀ c' ∈ (texts (renameFrom rename start' awaited tokens)).head?, ∃ c ∈ (texts tokens).head?,
      c' = c ∨ isWordChar c = true ∧ isWordChar c' = true := by
  intro c' first
  cases tokens with
  | nil => cases first
  | cons t rest =>
    obtain ⟨_, leads, _⟩ := scanned_cons_iff.mp scanned
    obtain ⟨text, renamed, exchanged, _⟩ := renameFrom_cons leads start' exchanges
    rw [renamed] at first
    rcases exchanged with rfl | ⟨_, valid, valid'⟩
    · obtain ⟨c, run, spelled⟩ := List.exists_cons_of_ne_nil leads.text_ne_nil
      rw [texts_head? (by exact spelled)] at first
      exact ⟨c, texts_head? spelled rest, .inl (Option.some.inj first).symm⟩
    · obtain ⟨c, run, spelled, _⟩ := isValidName_cases valid
      obtain ⟨d, run', spelled', _⟩ := isValidName_cases valid'
      rw [texts_head? (by exact spelled')] at first
      cases first
      exact ⟨c, texts_head? spelled rest, .inr ⟨isWordChar_of_isValidName valid c (by simp [spelled]),
        isWordChar_of_isValidName valid' _ (by simp [spelled'])⟩⟩

theorem takeWhile_append_of_mem {p : Char → Bool} {text : List Char} {c : Char} (member : c ∈ text)
    (stops : p c = false) (left right : List Char) : (text ++ left).takeWhile p = (text ++ right).takeWhile p := by
  induction text with
  | nil => cases member
  | cons d text ih =>
    rw [List.cons_append, List.cons_append, List.takeWhile_cons, List.takeWhile_cons]
    split
    case isTrue holds =>
      rcases List.mem_cons.mp member with rfl | member
      · rw [stops] at holds
        cases holds
      · rw [ih member]
    case isFalse => rfl

theorem Leads.renameFrom_comment {t : Token} {rest : List Token} (leads : t.Leads (texts rest))
    (isComment : t.kind = .comment) (scanned : Scanned t.stop rest) (start' : Nat) {awaited : Bool}
    (exchanges : ∀ u ∈ namesFrom awaited rest, u.Exchanges rename) (line : List Char) :
    (line ++ texts (renameFrom rename start' awaited rest)).takeWhile (· != '\n') =
      (line ++ texts rest).takeWhile (· != '\n') := by
  cases rest with
  | nil => rfl
  | cons b later =>
    obtain ⟨_, next, _⟩ := scanned_cons_iff.mp scanned
    obtain ⟨blank, isBreak⟩ := leads.blank_after_comment isComment next
    have sameText : renameFrom rename start' awaited (b :: later) =
        ⟨b.kind, b.text, start'⟩ :: renameFrom rename (start' + width b.text.toList) awaited later := by
      simp [Token.renameFrom, blank, TokenKind.isWord, awaits]
    rw [sameText, texts_cons, texts_cons, ← List.append_assoc, ← List.append_assoc]
    rcases isBreak with member | nothing
    · exact takeWhile_append_of_mem (List.mem_append_right line member) (by decide) _ _
    · cases later with
      | nil => rfl
      | cons u more =>
        obtain ⟨_, leads, _⟩ := scanned_cons_iff.mp (scanned_cons_iff.mp scanned).2.2
        rw [texts_cons, List.append_eq_nil_iff] at nothing
        exact absurd nothing.1 leads.text_ne_nil

theorem Scanned.renameFrom {start : Nat} {tokens : List Token} (scanned : Scanned start tokens) (start' : Nat)
    {awaited : Bool} (exchanges : ∀ t ∈ namesFrom awaited tokens, t.Exchanges rename) :
    Scanned start' (renameFrom rename start' awaited tokens) := by
  induction tokens generalizing start start' awaited with
  | nil => exact .nil start'
  | cons t rest ih =>
    obtain ⟨_, leads, tail⟩ := scanned_cons_iff.mp scanned
    obtain ⟨text, renamed, exchanged, later⟩ := renameFrom_cons leads start' exchanges
    rw [renamed, scanned_cons_iff]
    refine ⟨rfl, ?_, ih tail _ later⟩
    have first := head?_renameFrom tail (start' + width text.toList) later
    have wordEnds (ends : ∀ c ∈ (texts rest).head?, isWordChar c = false) : ∀ c' ∈
        (texts (Token.renameFrom rename (start' + width text.toList) (t.awaits awaited) rest)).head?,
        isWordChar c' = false := by
      intro c' isFirst
      obtain ⟨c, wasFirst, rfl | ⟨isWord, _⟩⟩ := first c' isFirst
      · exact ends c' wasFirst
      · rw [ends c wasFirst] at isWord
        cases isWord
    rcases exchanged with rfl | ⟨isWord, valid, valid'⟩
    · have commentEnds := @Leads.renameFrom_comment rename t rest leads
      cases leads with
      | openBracket => exact .openBracket _ _
      | closeBracket => exact .closeBracket _ _
      | comment _ ends =>
        refine .comment start' ?_
        rw [commentEnds rfl tail _ later, ends]
      | blank _ nonempty blanks ends =>
        refine .blank start' nonempty blanks ?_
        intro c' isFirst
        obtain ⟨c, wasFirst, rfl | ⟨_, isWord⟩⟩ := first c' isFirst
        · exact ends c' wasFirst
        · exact (isWordChar_cases isWord).1
      | word _ nonempty chars ends => exact .word start' nonempty chars (wordEnds ends)
    · have ends : ∀ c ∈ (texts rest).head?, isWordChar c = false := by
        cases leads with
        | word _ _ _ ends => exact ends
        | openBracket | closeBracket | comment | blank => cases isWord
      obtain ⟨c, run, spelled, _⟩ := isValidName_cases valid'
      have new := Leads.word start' (by simp [spelled] : text.toList ≠ []) (isWordChar_of_isValidName valid')
        (wordEnds ends)
      rwa [wordKind_of_isValidName valid', String.ofList_toList, ← isWord] at new

theorem patch_renameFrom {start : Nat} {tokens later : List Token} (scanned : Scanned start (tokens ++ later))
    {commented : Bool} (ends : EndsComment commented (tokens ++ later)) (start' : Nat) {awaited : Bool}
    (exchanges : ∀ t ∈ namesFrom awaited tokens, t.Exchanges rename) :
    Patch commented (texts tokens) (texts (renameFrom rename start' awaited tokens)) := by
  induction tokens generalizing start commented start' awaited with
  | nil => exact .nil commented
  | cons t rest ih =>
    obtain ⟨_, leads, tail⟩ := scanned_cons_iff.mp scanned
    obtain ⟨text, renamed, exchanged, more⟩ := renameFrom_cons leads start' exchanges
    have patched := ih tail (ends.step scanned) (start' + width text.toList) more
    rw [renamed, texts_cons, texts_cons]
    rcases exchanged with rfl | ⟨isWord, valid, valid'⟩
    · exact .keepAll t.text.toList patched
    · have uncommented : commented = false := by
        cases commented with
        | false => rfl
        | true =>
          have blank := (ends rfl t (rest ++ later) rfl).1
          rw [isWord] at blank
          cases blank
      subst uncommented
      rw [commentedAfter_plain (Patch.plain_of_isValidName valid)] at patched
      exact .swap valid valid' patched

/-- Whether a word after some tokens names a bracket. -/
def awaitedAfter (awaited : Bool) (tokens : List Token) : Bool := tokens.foldl awaits awaited

theorem renameFrom_append (start : Nat) (awaited : Bool) (earlier later : List Token) :
    renameFrom rename start awaited (earlier ++ later) =
      renameFrom rename start awaited earlier ++
        renameFrom rename (start + width (texts (renameFrom rename start awaited earlier)))
          (awaitedAfter awaited earlier) later := by
  induction earlier generalizing start awaited with
  | nil => rfl
  | cons t earlier ih =>
    simp only [List.cons_append, renameFrom, ih, texts_cons, width_append, Nat.add_assoc]
    rfl

theorem namesFrom_append (awaited : Bool) (earlier later : List Token) :
    namesFrom awaited (earlier ++ later) =
      namesFrom awaited earlier ++ namesFrom (awaitedAfter awaited earlier) later := by
  induction earlier generalizing awaited with
  | nil => rfl
  | cons t earlier ih =>
    simp only [List.cons_append, namesFrom, ih]
    split <;> rfl

end

end Token
end PddlAssist
