import Mathlib.Data.List.Induction
import PddlAssist.Proofs.Document.Precedence
import PddlAssist.Proofs.Token.Names

namespace PddlAssist

open Text

theorem dash_in_last {front word skipped lead blanks : List Char}
    (same : front ++ (word ++ skipped) = lead ++ '-' :: blanks) (areSkipped : ∀ c ∈ skipped, isBlank c = true)
    (areBlank : ∀ c ∈ blanks, isBlank c = true) (solid : ∃ c ∈ word, isBlank c = false) :
    ∃ more rest, word = more ++ '-' :: rest ∧ lead = front ++ more ∧ ∀ c ∈ rest, isBlank c = true := by
  have dash : isBlank '-' = false := by decide
  obtain ⟨c, inWord, notBlank⟩ := solid
  rcases List.append_eq_append_iff.mp same with ⟨more, isLead, inside⟩ | ⟨more, isFront, beyond⟩
  · rcases List.append_eq_append_iff.mp inside with ⟨gap, _, isSkipped⟩ | ⟨rest, isWord, isRest⟩
    · rw [areSkipped '-' (by simp [isSkipped])] at dash
      cases dash
    · cases rest with
      | nil =>
        have isSkipped : '-' :: blanks = skipped := isRest
        rw [areSkipped '-' (by simp [← isSkipped])] at dash
        cases dash
      | cons d rest =>
        obtain ⟨rfl, isBlanks⟩ := List.cons.inj isRest
        refine ⟨more, rest, isWord, isLead, fun c member => areBlank c ?_⟩
        rw [isBlanks]
        exact List.mem_append_left _ member
  · cases more with
    | nil =>
      cases word with
      | nil => cases inWord
      | cons d rest =>
        obtain ⟨rfl, isBlanks⟩ := List.cons.inj beyond
        refine ⟨[], rest, rfl, by simpa using isFront.symm, fun c member => areBlank c ?_⟩
        rw [isBlanks]
        exact List.mem_append_left _ member
    | cons d more =>
      have isBlanks := (List.cons.inj beyond).2
      rw [areBlank c (by simp [isBlanks, inWord])] at notBlank
      cases notBlank

namespace Token

theorem blanks_between {tokens : List Token} {left right : Token}
    (adjacent : [left, right] <:+: tokens.filter (·.kind != .blank)) :
    ∃ earlier blanks later, tokens = earlier ++ left :: (blanks ++ right :: later) ∧
      ∀ b ∈ blanks, b.kind = .blank := by
  obtain ⟨front, back, same⟩ := adjacent
  rw [List.append_assoc] at same
  obtain ⟨first, rest, rfl, _, isRest⟩ := List.filter_eq_append_iff.mp same.symm
  rw [List.cons_append] at isRest
  obtain ⟨skipped, rest, rfl, _, _, isRest⟩ := List.filter_eq_cons_iff.mp isRest
  rw [List.singleton_append] at isRest
  obtain ⟨blanks, later, rfl, areBlank, _, _⟩ := List.filter_eq_cons_iff.mp isRest
  exact ⟨first ++ skipped, blanks, later, by simp, by simpa using areBlank⟩

theorem Leads.isBlank {b : Token} {rest : List Char} (leads : b.Leads rest) (blank : b.kind = .blank) :
    ∀ c ∈ b.text.toList, isBlank c = true := by
  cases leads with
  | openBracket | closeBracket | comment => cases blank
  | blank start nonempty blanks =>
    intro c member
    exact isBlank_of_isAsciiBlank (blanks c (by simpa using member))
  | @word start run => exact absurd blank (wordKind_ne rfl run)

theorem Scanned.isBlank {start : Nat} {blanks later : List Token} (scanned : Scanned start (blanks ++ later))
    (areBlank : ∀ b ∈ blanks, b.kind = .blank) : ∀ c ∈ texts blanks, isBlank c = true := by
  induction blanks generalizing start with
  | nil => simp
  | cons b blanks ih =>
    rw [List.forall_mem_cons] at areBlank
    obtain ⟨_, leads, tail⟩ := scanned_cons_iff.mp scanned
    rw [texts_cons, List.forall_mem_append]
    exact ⟨leads.isBlank areBlank.1, ih tail areBlank.2⟩

theorem last_significant (tokens : List Token) : (∀ b ∈ tokens, b.kind = .blank) ∨
    ∃ earlier last blanks, tokens = earlier ++ last :: blanks ∧ last.kind ≠ .blank ∧
      ∀ b ∈ blanks, b.kind = .blank := by
  induction tokens using List.reverseRecOn with
  | nil => exact .inl (List.forall_mem_nil _)
  | append_singleton tokens u ih =>
    by_cases isBlank : u.kind = .blank
    · rcases ih with areBlank | ⟨earlier, last, blanks, rfl, other, areBlank⟩
      · left
        rw [List.forall_mem_append, List.forall_mem_singleton]
        exact ⟨areBlank, isBlank⟩
      · refine .inr ⟨earlier, last, blanks ++ [u], by simp, other, ?_⟩
        rw [List.forall_mem_append, List.forall_mem_singleton]
        exact ⟨areBlank, isBlank⟩
    · exact .inr ⟨tokens, u, [], rfl, isBlank, List.forall_mem_nil _⟩

theorem Leads.text_of_dash {t : Token} {rest : List Char} (leads : t.Leads rest) :
    t.kind = .dash ↔ t.text.toList = ['-'] := by
  cases leads with
  | openBracket | closeBracket | comment => simp
  | blank start nonempty blanks =>
    rw [String.toList_ofList]
    refine iff_of_false (by simp) ?_
    rintro rfl
    simp [isAsciiBlank] at blanks
  | @word start run =>
    rw [String.toList_ofList]
    simp only [wordKind]
    split <;> simp_all

theorem precededByDash_of_dash {cs : List Char} {earlier blanks later : List Token} {dash t : Token}
    (whole : scan cs = earlier ++ dash :: (blanks ++ t :: later)) (isDash : dash.kind = .dash)
    (areBlank : ∀ b ∈ blanks, b.kind = .blank)
    (alone : ∀ c ∈ (texts earlier).getLast?, c = ' ' ∨ c = '\t' ∨ c = '\n') : precededByDash cs t.start = true := by
  obtain ⟨_, _, leads, scanned⟩ := scan_split whole
  have split : scan cs = (earlier ++ dash :: blanks) ++ t :: later := by simp [whole]
  obtain ⟨spelled, start, _⟩ := scan_split split
  have tail := (scanned_cons_iff.mp scanned.append_right).2.2
  have text : texts (earlier ++ dash :: blanks) = texts earlier ++ '-' :: texts blanks := by
    simp [leads.text_of_dash.mp isDash]
  refine precededByDash_iff.mpr ⟨texts earlier, texts blanks, ?_, tail.isBlank areBlank, alone⟩
  rw [start, spelled, takeBytes_width, text]

/-- Where no word has a blank in it and no comment ends like a dash, what follows a dash follows a token that is
one. -/
theorem dash_of_precededByDash {cs : List Char} {t : Token} (member : t ∈ scan cs)
    (unspaced : ∀ u ∈ scan cs, u.kind.isWord = true → ∀ c ∈ u.text.toList, isBlank c = false)
    (remarks : ∀ u ∈ scan cs, u.kind = .comment → precededByDash u.text.toList (width u.text.toList) = false)
    (preceded : precededByDash cs t.start = true) : ∃ earlier dash blanks later,
      scan cs = earlier ++ dash :: (blanks ++ t :: later) ∧ dash.kind = .dash ∧ ∀ b ∈ blanks, b.kind = .blank := by
  obtain ⟨before, later, whole⟩ := List.append_of_mem member
  obtain ⟨spelled, start, _, scanned⟩ := scan_split whole
  obtain ⟨lead, blanks, taken, areBlank, alone⟩ := precededByDash_iff.mp preceded
  rw [start, spelled, takeBytes_width] at taken
  rcases last_significant before with allBlank | ⟨earlier, u, skipped, rfl, significant, areSkipped⟩
  · have dashBlank := scanned.isBlank allBlank '-' (by simp [taken])
    cases dashBlank
  · have isToken : u ∈ scan cs := by simp [whole]
    obtain ⟨_, _, _, _, leads, _⟩ := mem_scan isToken
    have skippedBlank : ∀ c ∈ texts skipped, isBlank c = true := by
      rw [List.append_assoc] at scanned
      exact (scanned_cons_iff.mp scanned.append_right).2.2.isBlank areSkipped
    have solid : ∃ c ∈ u.text.toList, isBlank c = false := by
      cases leads with
      | openBracket => exact ⟨'(', by simp, by decide⟩
      | closeBracket => exact ⟨')', by simp, by decide⟩
      | comment => exact ⟨';', by simp, by decide⟩
      | blank => exact absurd rfl significant
      | @word start run _ nonempty =>
        obtain ⟨c, inWord⟩ := List.exists_mem_of_ne_nil run nonempty
        have isChar : c ∈ (String.ofList run).toList := by rwa [String.toList_ofList]
        exact ⟨c, isChar, unspaced _ isToken (wordKind_isWord run) c isChar⟩
    rw [texts_append, texts_cons] at taken
    obtain ⟨more, rest, text, rfl, restBlank⟩ := dash_in_last taken skippedBlank areBlank solid
    refine ⟨earlier, u, skipped, later, by simp [whole], ?_, areSkipped⟩
    have last : ∀ c ∈ more.getLast?, c = ' ' ∨ c = '\t' ∨ c = '\n' := by
      intro c isLast
      exact alone c (List.mem_getLast?_append_of_mem_getLast? isLast)
    -- a word that ends like a dash is one, since the character before it would be a blank in a word
    by_cases isWord : u.kind.isWord = true
    · have plain := unspaced u isToken isWord
      rw [text] at plain
      have nothingAfter : rest = [] := by
        refine List.eq_nil_iff_forall_not_mem.mpr fun c member => ?_
        have notBlank := plain c (by simp [member])
        rw [restBlank c member] at notBlank
        cases notBlank
      have nothingBefore : more = [] := by
        refine List.getLast?_eq_none_iff.mp (Option.eq_none_iff_forall_ne_some.mpr fun c isLast => ?_)
        have notBlank := plain c (by simp [List.mem_of_getLast? isLast])
        rcases last c isLast with rfl | rfl | rfl <;> cases notBlank
      rw [leads.text_of_dash, text, nothingAfter, nothingBefore]
      rfl
    · cases leads with
      | openBracket | closeBracket => simp [List.singleton_eq_append_iff] at text
      | @comment start line =>
        have silent := remarks _ isToken rfl
        rw [text, Bool.eq_false_iff, ne_eq, precededByDash_iff] at silent
        refine absurd ⟨more, rest, ?_, restBlank, last⟩ silent
        simpa using takeBytes_width (more ++ '-' :: rest) []
      | blank => exact absurd rfl significant
      | @word _ run => exact absurd (wordKind_isWord run) isWord

theorem token_of_char {tokens : List Token} {before after : List Char} {c : Char}
    (spelled : texts tokens = before ++ c :: after) : ∃ earlier t later front back,
      tokens = earlier ++ t :: later ∧ before = texts earlier ++ front ∧ t.text.toList = front ++ c :: back ∧
        after = back ++ texts later := by
  induction tokens generalizing before with
  | nil => simp at spelled
  | cons u tokens ih =>
    have further (before' : List Char) (isBefore : before = u.text.toList ++ before')
        (rest : texts tokens = before' ++ c :: after) : ∃ earlier t later front back,
          u :: tokens = earlier ++ t :: later ∧ before = texts earlier ++ front ∧
            t.text.toList = front ++ c :: back ∧ after = back ++ texts later := by
      obtain ⟨earlier, t, later, front, back, rfl, rfl, text, isAfter⟩ := ih rest
      exact ⟨u :: earlier, t, later, front, back, rfl, by simp [isBefore], text, isAfter⟩
    rcases List.append_eq_append_iff.mp spelled with ⟨more, isBefore, rest⟩ | ⟨more, text, rest⟩
    · exact further more isBefore rest
    · cases more with
      | nil => exact further [] (by simpa using text.symm) rest.symm
      | cons d back =>
        obtain ⟨rfl, isAfter⟩ := List.cons.inj rest
        exact ⟨[], u, tokens, before, back, rfl, rfl, text, isAfter⟩

def bracketKind? (c : Char) : Option TokenKind :=
  if c = '(' then some .openBracket else if c = ')' then some .closeBracket else none

theorem Leads.comment_or_bracket {t : Token} {rest : List Char} (leads : t.Leads rest) {front back : List Char} {c : Char}
    (text : t.text.toList = front ++ c :: back) (solid : isAsciiBlank c = false) (other : isWordChar c = false) :
    t.kind = .comment ∨ front = [] ∧ back = [] ∧ bracketKind? c = some t.kind := by
  have inText : c ∈ t.text.toList := by simp [text]
  cases leads with
  | openBracket | closeBracket =>
    right
    rw [String.toList_ofList, eq_comm, List.append_eq_singleton_iff] at text
    obtain ⟨rfl, isBack⟩ | ⟨-, none⟩ := text
    · obtain ⟨rfl, rfl⟩ := List.cons.inj isBack
      exact ⟨rfl, rfl, rfl⟩
    · cases none
  | comment => exact .inl rfl
  | blank _ _ blanks =>
    rw [blanks c (by simpa using inText)] at solid
    cases solid
  | word _ _ chars =>
    rw [chars c (by simpa using inText)] at other
    cases other

theorem Leads.isWord_of_isWordChar {t : Token} {rest : List Char} (leads : t.Leads rest) {c : Char} {run : List Char}
    (text : t.text.toList = c :: run) (isWord : isWordChar c = true) : t.kind.isWord = true := by
  cases leads with
  | openBracket | closeBracket | comment =>
    rw [String.toList_ofList] at text
    obtain ⟨rfl, -⟩ := List.cons.inj text
    cases isWord
  | blank _ _ blanks =>
    rw [String.toList_ofList] at text
    rw [isWordChar, blanks c (by simp [text])] at isWord
    cases isWord
  | @word _ run => exact wordKind_isWord run

theorem Scanned.blanks_before {start : Nat} {tokens : List Token} (scanned : Scanned start tokens)
    {blanks after : List Char} {c : Char} (spelled : texts tokens = blanks ++ c :: after)
    (areBlank : ∀ b ∈ blanks, isAsciiBlank b = true) (identifier : isIdentifierChar c = true) :
    ∃ layout t later, tokens = layout ++ t :: later ∧ (∀ b ∈ layout, b.kind = .blank) ∧ texts layout = blanks ∧
      t.kind.isWord = true := by
  induction tokens generalizing start blanks with
  | nil => simp at spelled
  | cons u tokens ih =>
    obtain ⟨_, leads, tail⟩ := scanned_cons_iff.mp scanned
    obtain ⟨first, run, text⟩ := List.exists_cons_of_ne_nil leads.text_ne_nil
    rw [texts_cons] at spelled
    cases blanks with
    | nil =>
      rw [text] at spelled
      obtain ⟨rfl, -⟩ := List.cons.inj spelled
      exact ⟨[], u, tokens, rfl, List.forall_mem_nil _, rfl,
        leads.isWord_of_isWordChar text (isWordChar_of_isIdentifierChar identifier)⟩
    | cons b blanks =>
      have isFirst : first = b := by
        rw [text] at spelled
        exact (List.cons.inj spelled).1
      have isBlank := leads.kind_of_blank text (isFirst ▸ areBlank b (.head _))
      have proceed (rest : List Char) (whole : b :: blanks = u.text.toList ++ rest)
          (spelled : texts tokens = rest ++ c :: after) : ∃ layout t later, u :: tokens = layout ++ t :: later ∧
            (∀ b ∈ layout, b.kind = .blank) ∧ texts layout = b :: blanks ∧ t.kind.isWord = true := by
        have restBlank : ∀ d ∈ rest, isAsciiBlank d = true := fun d member =>
          areBlank d (whole ▸ List.mem_append_right _ member)
        obtain ⟨layout, t, later, rfl, layoutBlank, isLayout, isWord⟩ := ih tail spelled restBlank
        exact ⟨u :: layout, t, later, rfl, List.forall_mem_cons.mpr ⟨isBlank, layoutBlank⟩,
          by rw [texts_cons, isLayout, whole], isWord⟩
      rcases List.append_eq_append_iff.mp spelled with ⟨rest, whole, spelled⟩ | ⟨rest, isText, spelled⟩
      · exact proceed rest whole spelled
      · cases rest with
        | nil => exact proceed [] (by simpa using isText.symm) spelled.symm
        | cons d rest =>
          -- a blank does not go on in a word
          obtain ⟨rfl, -⟩ := List.cons.inj spelled
          have blank := leads.isBlank isBlank c (by simp [isText])
          rw [not_isIdentifierChar_of_isBlank blank] at identifier
          cases identifier

theorem mem_namesFrom_of_bracket (awaited : Bool) (earlier later : List Token) {bracket t : Token} {layout : List Token}
    (isBracket : bracket.kind = .openBracket) (areBlank : ∀ b ∈ layout, b.kind = .blank)
    (isWord : t.kind.isWord = true) : t ∈ namesFrom awaited (earlier ++ bracket :: (layout ++ t :: later)) := by
  have named : t ∈ namesFrom true (layout ++ t :: later) := by
    induction layout with
    | nil => simp [namesFrom, isWord]
    | cons b layout ih =>
      rw [List.forall_mem_cons] at areBlank
      simpa [namesFrom, awaits, areBlank.1, TokenKind.isWord] using ih areBlank.2
  rw [namesFrom_append]
  refine List.mem_append_right _ ?_
  simpa [namesFrom, awaits, isBracket, TokenKind.isWord] using named

theorem commentedAfter_line {line : List Char} (inLine : ∀ c ∈ line, (c != '\n') = true) :
    line.foldl commentedAfter true = true := by
  induction line with
  | nil => rfl
  | cons c line ih =>
    rw [List.forall_mem_cons, bne_iff_ne] at inLine
    simp [commentedAfter, inLine.1, ih inLine.2]

end Token

/-- All blanks are blanks to the scanner as well, and no comment ends like an opening bracket. -/
structure BracketsStandClear (cs : List Char) : Prop where
  blanks : ∀ c ∈ cs, isBlank c = true → isAsciiBlank c = true
  remarks : ∀ t ∈ Token.scan cs, t.kind = .comment → precededByBracket t.text.toList (width t.text.toList) = false

theorem bracketsStandClear_iff {cs : List Char} : BracketsStandClear cs ↔
    (cs.all fun c => !isBlank c || isAsciiBlank c) = true ∧ ∀ t ∈ Token.scan cs, t.kind = .comment →
      precededByBracket t.text.toList (width t.text.toList) = false := by
  have blanks : (cs.all fun c => !isBlank c || isAsciiBlank c) = true ↔
      ∀ c ∈ cs, isBlank c = true → isAsciiBlank c = true := by
    simp only [List.all_eq_true, Bool.or_eq_true, Bool.not_eq_true', ← Bool.not_eq_true, imp_iff_not_or]
  rw [blanks]
  exact ⟨fun clear => ⟨clear.blanks, clear.remarks⟩, fun both => ⟨both.1, both.2⟩⟩

instance (cs : List Char) : Decidable (BracketsStandClear cs) := decidable_of_iff _ bracketsStandClear_iff.symm

namespace BracketsStandClear

open Token

theorem bracket_of_blanks {cs lead blanks rest : List Char} (clear : BracketsStandClear cs)
    (whole : cs = lead ++ '(' :: (blanks ++ rest)) (areBlank : ∀ b ∈ blanks, isBlank b = true)
    (uncommented : (lead ++ '(' :: blanks).foldl commentedAfter false = false) :
    ∃ earlier bracket later, scan cs = earlier ++ bracket :: later ∧ bracket.kind = .openBracket ∧
      lead = texts earlier ∧ texts later = blanks ++ rest := by
  have spelled := (scan_eq_iff.mp (rfl : scan cs = _)).2
  rw [whole] at spelled
  obtain ⟨earlier, u, later, front, back, isScan, rfl, text, isRest⟩ := token_of_char spelled
  rw [← whole] at isScan
  obtain ⟨-, -, leads, -⟩ := scan_split isScan
  have member : u ∈ scan cs := by simp [isScan]
  rcases leads.comment_or_bracket text (by decide) (by decide) with isComment | ⟨rfl, rfl, isBracket⟩
  case inr =>
    exact ⟨earlier, u, later, isScan, (Option.some.inj isBracket).symm, by simp, by simpa using isRest.symm⟩
  case inl =>
    obtain ⟨line, isText, ends⟩ := leads.text_of_comment isComment
    rw [isText] at text
    obtain ⟨first, rfl⟩ : ∃ first, front = ';' :: first := by
      cases front with
      | nil => cases text
      | cons c first => exact ⟨first, by rw [(List.cons.inj text).1]⟩
    have isLine : line = first ++ '(' :: back := (List.cons.inj text).2
    rcases List.append_eq_append_iff.mp isRest with ⟨more, isBack, -⟩ | ⟨more, isBlanks, -⟩
    · -- the comment would go on beyond the place
      have inLine : ∀ c ∈ first ++ '(' :: blanks, (c != '\n') = true := by
        intro c member
        refine (comment_ends ends).1 c ?_
        rw [isLine, isBack, ← List.cons_append, ← List.append_assoc]
        exact List.mem_append_left _ member
      have started : commentedAfter ((texts earlier).foldl commentedAfter false) ';' = true := by simp [commentedAfter]
      rw [List.append_assoc, List.foldl_append, List.cons_append, List.foldl_cons, started,
        commentedAfter_line inLine] at uncommented
      cases uncommented
    · have silent := clear.remarks _ member isComment
      rw [Bool.eq_false_iff, ne_eq, precededByBracket_iff] at silent
      refine absurd ⟨';' :: first, back, ?_, fun b inBack => areBlank b ?_⟩ silent
      · simpa [isText, isLine] using takeBytes_width (';' :: first ++ '(' :: back) []
      · rw [isBlanks]
        exact List.mem_append_left _ inBack

theorem name_of_precededByBracket {cs before after : List Char} (clear : BracketsStandClear cs)
    {c : Char} (whole : cs = before ++ c :: after) (identifier : isIdentifierChar c = true)
    (uncommented : before.foldl commentedAfter false = false)
    (preceded : precededByBracket cs (width before) = true) :
    ∃ t ∈ namesFrom false (scan cs), t.start = width before := by
  obtain ⟨lead, blanks, taken, areBlank⟩ := precededByBracket_iff.mp preceded
  rw [whole, takeBytes_width] at taken
  subst taken
  have split : cs = lead ++ '(' :: (blanks ++ c :: after) := by simp [whole]
  obtain ⟨earlier, bracket, later, isScan, isBracket, rfl, spelled⟩ :=
    clear.bracket_of_blanks split areBlank uncommented
  obtain ⟨-, -, leads, scanned⟩ := scan_split isScan
  have areAscii : ∀ b ∈ blanks, isAsciiBlank b = true := fun b member =>
    clear.blanks b (by simp [whole, member]) (areBlank b member)
  obtain ⟨layout, t, last, rfl, layoutBlank, rfl, isWord⟩ :=
    (scanned_cons_iff.mp scanned.append_right).2.2.blanks_before spelled areAscii identifier
  refine ⟨t, ?_, ?_⟩
  · rw [isScan]
    exact mem_namesFrom_of_bracket false earlier last isBracket layoutBlank isWord
  · have split : scan cs = (earlier ++ bracket :: layout) ++ t :: last := by simp [isScan]
    rw [(scan_split split).2.1]
    cases leads with
    | openBracket => simp
    | closeBracket | comment | blank => cases isBracket
    | @word _ run => exact absurd isBracket (wordKind_ne rfl run)

end BracketsStandClear
end PddlAssist
