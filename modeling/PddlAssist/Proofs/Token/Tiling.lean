import PddlAssist.Proofs.Document.Identifiers
import PddlAssist.Proofs.Token.Precedence

namespace PddlAssist

open Text

namespace Token

def isBlankByte (b : UInt8) : Bool :=
  b == ' '.toUInt8 || b == '\t'.toUInt8 || b == '\n'.toUInt8 || b == '\x0c'.toUInt8 || b == '\r'.toUInt8

def isWordByte (b : UInt8) : Bool := !isBlankByte b && b != '('.toUInt8 && b != ')'.toUInt8 && b != ';'.toUInt8

def wordKindOfBytes (word : Bytes) : TokenKind :=
  if word = ['-'.toUInt8] then .dash
  else if word.head? = some ':'.toUInt8 then .keyword
  else if word.head? = some '?'.toUInt8 then .parameter
  else .word

def lexemeBytes (b : UInt8) (rest : Bytes) : TokenKind × Bytes :=
  if b == '('.toUInt8 then (.openBracket, [b])
  else if b == ')'.toUInt8 then (.closeBracket, [b])
  else if b == ';'.toUInt8 then
    let line := (b :: rest).takeWhile (· != '\n'.toUInt8)
    (.comment, if line.getLast? = some '\r'.toUInt8 then line.dropLast else line)
  else if isBlankByte b then (.blank, (b :: rest).takeWhile isBlankByte)
  else
    let word := (b :: rest).takeWhile isWordByte
    (wordKindOfBytes word, word)

/-- The kinds and spans of the tokens of bytes, the first of which has offset `start`, unless there are more tokens than
rounds. -/
def scanBytes : Nat → Nat → Bytes → Option (List (TokenKind × Span))
  | _, _, [] => some []
  | 0, _, _ :: _ => none
  | rounds + 1, start, b :: rest =>
    let lex := lexemeBytes b rest
    let stop := start + lex.2.length
    (scanBytes rounds stop ((b :: rest).drop lex.2.length)).map ((lex.1, ⟨start, stop⟩) :: ·)

theorem mirrors_isBlankByte : Mirrors isBlankByte isAsciiBlank :=
  ((((mirrors_beq (d := ' ') (by decide)).or (mirrors_beq (d := '\t') (by decide))).or
    (mirrors_beq (d := '\n') (by decide))).or (mirrors_beq (d := '\x0c') (by decide))).or
    (mirrors_beq (d := '\r') (by decide))

theorem mirrors_isWordByte : Mirrors isWordByte isWordChar :=
  ((mirrors_isBlankByte.not.and (mirrors_beq (d := '(') (by decide)).not).and
    (mirrors_beq (d := ')') (by decide)).not).and (mirrors_beq (d := ';') (by decide)).not

theorem wordKind_eq (run : List Char) : wordKind run =
    if run = ['-'] then .dash
    else if run.head? = some ':' then .keyword
    else if run.head? = some '?' then .parameter
    else .word := by
  simp only [wordKind]
  split <;> simp_all [List.head?_eq_some_iff]

theorem wordKindOfBytes_encode (run : List Char) : wordKindOfBytes (encode run) = wordKind run := by
  have dash : encode run = ['-'.toUInt8] ↔ run = ['-'] := by
    refine (encode_eq_append_cons_iff (c := '-') (p := []) (q := []) (by decide)).trans ?_
    simp [encode_eq_nil_iff]
  have colon : (encode run).head? = some ':'.toUInt8 ↔ run.head? = some ':' := head?_encode_iff (by decide)
  have mark : (encode run).head? = some '?'.toUInt8 ↔ run.head? = some '?' := head?_encode_iff (by decide)
  simp only [wordKindOfBytes, wordKind_eq, dash, colon, mark]

theorem dropReturn_encode (line : List Char) :
    (if (encode line).getLast? = some '\r'.toUInt8 then (encode line).dropLast else encode line) =
      encode (Document.dropReturn line) := by
  have isReturn : (encode line).getLast? = some '\r'.toUInt8 ↔ line.getLast? = some '\r' :=
    getLast?_encode_iff (by decide)
  simp only [isReturn, Document.dropReturn]
  split
  case isTrue last =>
    obtain ⟨before, rfl⟩ := List.getLast?_eq_some_iff.mp last
    rw [encode_append, List.dropLast_concat]
    exact List.dropLast_concat
  case isFalse => rfl

theorem dropReturn_cons {c : Char} (other : c ≠ '\r') (line : List Char) :
    Document.dropReturn (c :: line) = c :: Document.dropReturn line := by
  refine dropReturn_eq_iff.mpr ?_
  rcases dropReturn_eq_iff.mp (rfl : Document.dropReturn line = _) with same | ⟨same, plain⟩
  · exact .inl (congrArg (c :: ·) same)
  · refine .inr ⟨congrArg (c :: ·) same, ?_⟩
    rw [List.getLast?_cons]
    cases last : (Document.dropReturn line).getLast? with
    | none => simpa using other
    | some d =>
      rw [last] at plain
      exact plain

theorem lexemeBytes_encode {c : Char} {rest : List Char} {b : UInt8} {bs : Bytes} (spelled : encode (c :: rest) = b :: bs) :
    lexemeBytes b bs = ((lexeme c rest).1, encode (c :: (lexeme c rest).2)) := by
  have isFirst : b ∈ String.utf8EncodeChar c := by
    obtain ⟨d, more, isChar⟩ := List.exists_cons_of_ne_nil (String.utf8EncodeChar_ne_nil (c := c))
    rw [encode_cons, isChar, List.cons_append] at spelled
    simp [isChar, (List.cons.inj spelled).1]
  have run {p : UInt8 → Bool} {q : Char → Bool} (mirrors : Mirrors p q) (first : q c = true) :
      (b :: bs).takeWhile p = encode (c :: rest.takeWhile q) := by
    rw [← spelled, mirrors.takeWhile_encode, List.takeWhile_cons_of_pos first]
  -- the first byte tells of the first character which branch is taken
  have isOpen : (b == '('.toUInt8) = (c == '(') := mirrors_beq (by decide) c b isFirst
  have isClose : (b == ')'.toUInt8) = (c == ')') := mirrors_beq (by decide) c b isFirst
  have isSemicolon : (b == ';'.toUInt8) = (c == ';') := mirrors_beq (by decide) c b isFirst
  have single {d : Char} (ascii : d.toNat < 0x80) (same : c = d) : [b] = encode [c] := by
    rw [same, utf8EncodeChar_ascii ascii, List.mem_singleton] at isFirst
    rw [isFirst, same, encode_cons, utf8EncodeChar_ascii ascii]
    rfl
  simp only [lexemeBytes, lexeme, isOpen, isClose, isSemicolon, mirrors_isBlankByte c b isFirst, beq_iff_eq]
  split
  case isTrue same => rw [single (by decide) same]
  split
  case isTrue same => rw [single (by decide) same]
  split
  case isTrue same =>
    have inLine : Mirrors (· != '\n'.toUInt8) (· != '\n') := (mirrors_beq (by decide)).not
    have other : c ≠ '\r' := by simp [same]
    rw [run inLine (by simp [same]), dropReturn_encode, dropReturn_cons other]
  split
  case isTrue blank => rw [run mirrors_isBlankByte blank]
  case isFalse solid =>
    have isWord : isWordChar c = true := by simp_all [isWordChar]
    rw [run mirrors_isWordByte isWord, wordKindOfBytes_encode]

theorem Scanned.length_le {start : Nat} {tokens : List Token} (scanned : Scanned start tokens) :
    tokens.length ≤ width (texts tokens) := by
  induction scanned with
  | nil => exact Nat.le_refl 0
  | cons leads _ ih =>
    have := width_pos leads.text_ne_nil
    rw [List.length_cons, texts_cons, width_append]
    omega

theorem scanBytes_encode (start : Nat) (cs : List Char) : ∀ rounds, (scanFrom start cs).length ≤ rounds →
    scanBytes rounds start (encode cs) = some ((scanFrom start cs).map fun t => (t.kind, t.span)) := by
  fun_induction scanFrom start cs with
  | case1 => exact fun rounds _ => by cases rounds <;> rfl
  | case2 start c rest lex chars ih =>
    obtain ⟨b, bs, spelled⟩ := List.exists_cons_of_ne_nil (mt encode_eq_nil_iff.mp (List.cons_ne_nil c rest))
    intro rounds enough
    cases rounds with
    | zero => cases enough
    | succ rounds =>
      -- a token ends between characters, so what is left is again the bytes of a text
      have whole : c :: rest = chars ++ rest.drop lex.2.length := congrArg (c :: ·) (lexeme_append c rest)
      have left : (b :: bs).drop (width chars) = encode (rest.drop lex.2.length) := by
        rw [← spelled, whole, encode_append, ← length_encode, List.drop_left]
      have read : lexemeBytes b bs = (lex.1, encode chars) := lexemeBytes_encode spelled
      have later := ih rounds (Nat.le_of_succ_le_succ enough)
      rw [spelled, scanBytes, read]
      simp only [length_encode, left, later, Option.map_some, List.map_cons, span, stop, String.toList_ofList]

/-- Tokens that cover a stretch without gaps, and of which none is empty. -/
inductive Tiles : Nat → List Token → Nat → Prop where
  | nil (n : Nat) : Tiles n [] n
  | cons {t : Token} {rest : List Token} {stop : Nat} (nonempty : t.start < t.stop) (later : Tiles t.stop rest stop) :
    Tiles t.start (t :: rest) stop

theorem Scanned.tiles {start : Nat} {tokens : List Token} (scanned : Scanned start tokens) :
    Tiles start tokens (start + width (texts tokens)) := by
  induction scanned with
  | nil => exact .nil _
  | @cons t rest leads _ ih =>
    rw [texts_cons, width_append, ← Nat.add_assoc]
    exact .cons leads.start_lt_stop ih

inductive EndsLine : List Char → Prop where
  | nil : EndsLine []
  | lineBreak (rest : List Char) : EndsLine ('\n' :: rest)
  | lastReturn : EndsLine ['\r']
  | returnBreak (rest : List Char) : EndsLine ('\r' :: '\n' :: rest)

theorem endsLine_of_takeWhile {cs : List Char}
    (line : cs.takeWhile (· != '\n') = [] ∨ cs.takeWhile (· != '\n') = ['\r']) : EndsLine cs := by
  cases cs with
  | nil => exact .nil
  | cons c cs =>
    by_cases isBreak : c = '\n'
    · rw [isBreak]
      exact .lineBreak cs
    · rw [List.takeWhile_cons_of_pos (by simpa using isBreak)] at line
      obtain ⟨rfl, ends⟩ := List.cons.inj (line.resolve_left (List.cons_ne_nil _ _))
      cases cs with
      | nil => exact .lastReturn
      | cons d cs =>
        have isBreak : d = '\n' := by simpa [List.takeWhile_cons] using ends
        rw [isBreak]
        exact .returnBreak cs

structure IsWordKind (kind : TokenKind) (run : List Char) : Prop where
  isWord : kind.isWord = true
  dash : kind = .dash ↔ run = ['-']
  keyword : kind = .keyword ↔ run.head? = some ':'
  parameter : kind = .parameter ↔ run.head? = some '?'

theorem isWordKind_wordKind (run : List Char) : IsWordKind (wordKind run) run := by
  rw [wordKind_eq]
  split
  case isTrue dash =>
    subst dash
    exact ⟨rfl, by simp, by simp, by simp⟩
  split
  · constructor <;> simp_all [TokenKind.isWord]
  split
  · constructor <;> simp_all [TokenKind.isWord]
  · constructor <;> simp_all [TokenKind.isWord]

/-- The text of a token of some kind, between the text before it and the text after it. -/
inductive IsLexeme (before after : List Char) : TokenKind → List Char → Prop where
  | openBracket : IsLexeme before after .openBracket ['(']
  | closeBracket : IsLexeme before after .closeBracket [')']
  | blank {run : List Char} (blanks : ∀ c ∈ run, isAsciiBlank c = true) (ends : ∀ c ∈ after.head?, isAsciiBlank c = false) :
    IsLexeme before after .blank run
  | comment {line : List Char} (first : ∀ earlier later, before = earlier ++ ';' :: later → '\n' ∈ later)
      (inLine : '\n' ∉ line) (ends : EndsLine after) : IsLexeme before after .comment (';' :: line)
  | word {kind : TokenKind} {run : List Char} (isKind : IsWordKind kind run) (chars : ∀ c ∈ run, isWordChar c = true)
      (begins : ∀ c ∈ before.getLast?, isWordChar c = false) (ends : ∀ c ∈ after.head?, isWordChar c = false) :
    IsLexeme before after kind run

theorem Leads.isLexeme {start : Nat} {earlier later : List Token} {t : Token} (leads : t.Leads (texts later))
    (scanned : Scanned start (earlier ++ t :: later)) :
    IsLexeme (texts earlier) (texts later) t.kind t.text.toList := by
  cases leads with
  | openBracket =>
    rw [String.toList_ofList]
    exact .openBracket
  | closeBracket =>
    rw [String.toList_ofList]
    exact .closeBracket
  | blank _ _ blanks ends =>
    rw [String.toList_ofList]
    exact .blank blanks ends
  | comment _ ends =>
    have uncommented := scanned.uncommented (by simp)
    obtain ⟨inLine, after⟩ := comment_ends ends
    rw [String.toList_ofList]
    refine .comment (fun first later split => ?_) (fun isBreak => by simpa using inLine _ isBreak)
      (endsLine_of_takeWhile after)
    by_contra noBreak
    rw [(commented_iff _).mpr ⟨first, later, split, noBreak⟩] at uncommented
    cases uncommented
  | @word _ run _ _ chars ends =>
    rw [String.toList_ofList]
    exact .word (isWordKind_wordKind run) chars (scanned.getLast?_before_word (wordKind_isWord run)) ends

theorem bracketKind?_plain {c : Char} {kind : TokenKind} (isBracket : bracketKind? c = some kind) :
    c ≠ ';' ∧ isAsciiBlank c = false ∧ isWordChar c = false := by
  obtain rfl | rfl : c = '(' ∨ c = ')' := by
    by_contra other
    rw [not_or] at other
    rw [bracketKind?, if_neg other.1, if_neg other.2] at isBracket
    cases isBracket
  all_goals decide

theorem bracket_cases {before after : List Char} {c : Char} {kind : TokenKind} (isBracket : bracketKind? c = some kind) :
    ⟨kind, String.ofList [c], width before⟩ ∈ scan (before ++ c :: after) ∨
      ∃ t ∈ scan (before ++ c :: after), t.kind = .comment ∧ t.start < width before ∧ width before < t.stop := by
  obtain ⟨notSemicolon, solid, other⟩ := bracketKind?_plain isBracket
  have spelled := (scan_eq_iff.mp (rfl : scan (before ++ c :: after) = _)).2
  obtain ⟨earlier, t, later, front, back, isScan, rfl, text, -⟩ := token_of_char spelled
  obtain ⟨-, start, leads, -⟩ := scan_split isScan
  have member : t ∈ scan (texts earlier ++ front ++ c :: after) := by
    rw [isScan]
    exact List.mem_append_cons_self
  rcases leads.comment_or_bracket text solid other with isComment | ⟨rfl, rfl, isKind⟩
  · right
    obtain ⟨line, isText, -⟩ := leads.text_of_comment isComment
    refine ⟨t, member, isComment, ?_, ?_⟩
    · have nonempty : front ≠ [] := by
        rintro rfl
        rw [isText] at text
        exact notSemicolon (List.cons.inj text).1.symm
      have := width_pos nonempty
      rw [start, width_append]
      omega
    · have := c.utf8Size_pos
      rw [stop, start, text]
      simp only [width_append, width_cons]
      omega
  · left
    rw [isBracket, Option.some.injEq] at isKind
    have same : t = ⟨kind, String.ofList [c], width (texts earlier ++ [])⟩ := by
      rw [isKind, ← List.nil_append [c], ← text, String.ofList_toList, List.append_nil, ← start]
    rwa [← same]

/-- The tokens of a text tile it, each from one place between characters to another, and each is what may stand between
the text before it and the text after it. Brackets outside comments are tokens by themselves. Reading the bytes of the
text comes to its end and gives the same tokens. -/
theorem tokens_tile_text (cs : List Char) :
    Tiles 0 (scan cs) (width cs) ∧
      (∀ t ∈ scan cs, ∃ before after, cs = before ++ t.text.toList ++ after ∧ t.start = width before ∧
        t.stop = width (before ++ t.text.toList) ∧ IsLexeme before after t.kind t.text.toList) ∧
      (∀ before c after kind, cs = before ++ c :: after → bracketKind? c = some kind →
        ⟨kind, String.ofList [c], width before⟩ ∈ scan cs ∨
          ∃ t ∈ scan cs, t.kind = .comment ∧ t.start < width before ∧ width before < t.stop) ∧
      ∀ more, scanBytes (width cs + more) 0 (encode cs) = some ((scan cs).map fun t => (t.kind, t.span)) := by
  obtain ⟨scanned, spelled⟩ := scan_eq_iff.mp (rfl : scan cs = _)
  refine ⟨?_, fun t member => ?_, ?_, fun more => ?_⟩
  · have tiles := scanned.tiles
    rwa [spelled, Nat.zero_add] at tiles
  · obtain ⟨earlier, later, whole, start, leads, scanned⟩ := mem_scan member
    exact ⟨texts earlier, texts later, by rw [whole, List.append_assoc], start, by rw [stop, start, width_append],
      leads.isLexeme scanned⟩
  · rintro before c after kind rfl isBracket
    exact bracket_cases isBracket
  · have few := scanned.length_le
    rw [spelled] at few
    exact scanBytes_encode 0 cs _ (Nat.le_add_right_of_le few)

example : scanBytes 4 0 (encode "(;é\r\n".toList) =
    some [(.openBracket, ⟨0, 1⟩), (.comment, ⟨1, 4⟩), (.blank, ⟨4, 6⟩)] := by decide

end Token
end PddlAssist
