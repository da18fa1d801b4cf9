import PddlAssist.Proofs.Document.Position
import PddlAssist.Proofs.Text.Trim
import PddlAssist.Proofs.Token.Names

namespace PddlAssist

open Text

namespace Document

theorem splitLines_line {line : List Char} (inLine : '\n' ∉ line) : splitLines line = [line] := by
  have single := splitLines_append (fun c member => ne_of_mem_of_not_mem member inLine) (rfl : splitLines [] = _)
  simpa using single

theorem splitLines_break {line : List Char} (inLine : '\n' ∉ line) (rest : List Char) :
    splitLines (line ++ '\n' :: rest) = line :: splitLines rest := by
  have cut : splitLines ('\n' :: rest) = [] :: splitLines rest := rfl
  simpa using splitLines_append (fun c member => ne_of_mem_of_not_mem member inLine) cut

theorem splitLines_cases (cs : List Char) : '\n' ∉ cs ∨ ∃ line rest, '\n' ∉ line ∧ cs = line ++ '\n' :: rest := by
  by_cases isBreak : '\n' ∈ cs
  · obtain ⟨line, rest, whole, inLine⟩ := List.eq_append_cons_of_mem isBreak
    exact .inr ⟨line, rest, inLine, whole⟩
  · exact .inl isBreak

theorem mem_of_mem_splitLines {cs line : List Char} (isLine : line ∈ splitLines cs) {c : Char} (member : c ∈ line) :
    c ∈ cs := by
  induction h : cs.length using Nat.strong_induction_on generalizing cs with
  | h size ih =>
    subst h
    rcases splitLines_cases cs with inLine | ⟨first, rest, inLine, rfl⟩
    · rw [splitLines_line inLine] at isLine
      rwa [List.mem_singleton.mp isLine] at member
    · rw [splitLines_break inLine] at isLine
      rcases List.mem_cons.mp isLine with rfl | isLine
      · exact List.mem_append_left _ member
      · exact List.mem_append_right _ (.tail _ (ih rest.length (by simp; omega) isLine rfl))

theorem splitLines_append_last {before last : List Char} {lines : List (List Char)}
    (isLast : splitLines before = lines ++ [last]) (after : List Char) :
    splitLines (before ++ after) = lines ++ splitLines (last ++ after) := by
  induction h : before.length using Nat.strong_induction_on generalizing before lines with
  | h size ih =>
    subst h
    rcases splitLines_cases before with inLine | ⟨line, rest, inLine, rfl⟩
    · rw [splitLines_line inLine] at isLast
      obtain ⟨rfl, same⟩ := List.append_eq_singleton_iff.mp isLast.symm |>.resolve_right (by simp)
      cases same
      rfl
    · rw [splitLines_break inLine] at isLast
      cases lines with
      | nil => exact absurd (List.cons.inj isLast).2 (splitLines_ne_nil rest)
      | cons first lines =>
        obtain ⟨rfl, isRest⟩ := List.cons.inj isLast
        rw [List.append_assoc, List.cons_append, splitLines_break inLine,
          ih rest.length (by simp; omega) isRest rfl, List.cons_append]

theorem splitLines_length (cs : List Char) (p : Position) :
    (cs.foldl Position.next p).line + 1 = p.line + (splitLines cs).length := by
  induction cs generalizing p with
  | nil => rfl
  | cons c cs ih =>
    rw [List.foldl_cons, ih]
    by_cases isBreak : c = '\n'
    · simp only [Position.next, isBreak, if_true, splitLines, List.length_cons]
      omega
    · obtain ⟨line, lines, rest⟩ := List.exists_cons_of_ne_nil (splitLines_ne_nil cs)
      rw [splitLines_cons isBreak rest, rest]
      simp [Position.next, isBreak]

end Document

open Document

def linesAbove (before : List Char) : List (List Char) := (splitLines before).dropLast.map trim

def lineAhead (after : List Char) : List Char := trimEnd (after.takeWhile (· != '\n'))

theorem linesAbove_append {before : List Char} {text : List Char} (inLine : '\n' ∉ text) :
    linesAbove (before ++ text) = linesAbove before := by
  obtain ⟨lines, last, isLast⟩ := (List.eq_nil_or_concat' (splitLines before)).resolve_left (splitLines_ne_nil before)
  have isLine : last ∈ splitLines before := by simp [isLast]
  have lastInLine := splitLines_noBreak last isLine
  rw [linesAbove, splitLines_append_last isLast, splitLines_line (by simp [lastInLine, inLine]), List.dropLast_concat,
    linesAbove, isLast, List.dropLast_concat]

theorem lineAhead_append {line rest : List Char} (inLine : '\n' ∉ line) (ends : ∀ c ∈ rest.head?, c = '\n') :
    lineAhead (line ++ rest) = trimEnd line := by
  rw [lineAhead, takeWhile_append_stop]
  · intro c member
    simpa using ne_of_mem_of_not_mem member inLine
  · intro c first
    simp [ends c first]

/-- What stays of a token when the blanks around it change: its kind and its text, save for the blanks that end a
comment, the lines above it, and its own line from where it stands. -/
structure Trace where
  kind : TokenKind
  text : List Char
  above : List (List Char)
  ahead : List Char
  deriving DecidableEq

def Trace.below (above : List (List Char)) (trace : Trace) : Trace := { trace with above := above }

namespace Token

def shown (t : Token) : List Char := if t.kind = .comment then trimEnd t.text.toList else t.text.toList

def trace (cs : List Char) (t : Token) : Trace :=
  ⟨t.kind, t.shown, linesAbove (takeBytes t.start cs), lineAhead (dropBytes t.start cs)⟩

theorem scanFrom_append {t : Token} {rest : List Char} (leads : t.Leads rest) :
    scanFrom t.start (t.text.toList ++ rest) = t :: scanFrom t.stop rest := by
  have scanned : Scanned t.start (t :: scanFrom t.stop rest) := .cons (by rwa [texts_scanFrom]) (scanned_scanFrom _ _)
  simpa only [texts_cons, texts_scanFrom] using scanned.scanFrom_texts

end Token

open Token

def tracesFrom (before after : List Char) : List Trace :=
  ((scanFrom (width before) after).filter (·.kind != .blank)).map (Token.trace (before ++ after))

section

variable {before rest : List Char}

theorem tracesFrom_append {kind : TokenKind} {text : List Char}
    (leads : Leads ⟨kind, String.ofList text, width before⟩ rest) :
    tracesFrom before (text ++ rest) = (if kind = .blank then [] else
      [⟨kind, if kind = .comment then trimEnd text else text, linesAbove before, lineAhead (text ++ rest)⟩]) ++
        tracesFrom (before ++ text) rest := by
  have scanned := scanFrom_append leads
  simp only [String.toList_ofList, stop] at scanned
  have here : Token.trace (before ++ (text ++ rest)) ⟨kind, String.ofList text, width before⟩ =
      ⟨kind, if kind = .comment then trimEnd text else text, linesAbove before, lineAhead (text ++ rest)⟩ := by
    simp only [Token.trace, shown, String.toList_ofList, takeBytes_width, dropBytes_width]
  rw [tracesFrom, scanned, List.filter_cons, tracesFrom, width_append, List.append_assoc]
  by_cases blank : kind = .blank
  · simp [blank]
  · simp [blank, here]

@[simp] theorem tracesFrom_nil (before : List Char) : tracesFrom before [] = [] := by
  simp [tracesFrom, scanFrom]

theorem tracesFrom_blank {c : Char} (blank : isAsciiBlank c = true) :
    tracesFrom before (c :: rest) = tracesFrom (before ++ [c]) rest := by
  have run (before first : List Char) (nonempty : first ≠ []) (blanks : ∀ c ∈ first, isAsciiBlank c = true)
      (after : List Char) (ends : ∀ c ∈ after.head?, isAsciiBlank c = false) :
      tracesFrom before (first ++ after) = tracesFrom (before ++ first) after :=
    tracesFrom_append (.blank _ nonempty blanks ends)
  have whole := List.takeWhile_append_dropWhile (p := isAsciiBlank) (l := rest)
  have blanks : ∀ c ∈ rest.takeWhile isAsciiBlank, isAsciiBlank c = true := fun _ => List.mem_takeWhile_imp
  have ends := head?_dropWhile_stop (p := isAsciiBlank) rest
  have together :=
    run before (c :: rest.takeWhile isAsciiBlank) (by simp) (List.forall_mem_cons.mpr ⟨blank, blanks⟩) _ ends
  rw [List.cons_append, whole] at together
  rw [together]
  by_cases nothing : rest.takeWhile isAsciiBlank = []
  · rw [nothing, List.nil_append] at whole
    rw [nothing, whole]
  · have later := run (before ++ [c]) _ nothing blanks _ ends
    rw [whole] at later
    rw [later, List.append_assoc, List.singleton_append]

theorem tracesFrom_blanks {bs : List Char} (blanks : ∀ c ∈ bs, isAsciiBlank c = true) :
    tracesFrom before (bs ++ rest) = tracesFrom (before ++ bs) rest := by
  induction bs generalizing before with
  | nil => rw [List.nil_append, List.append_nil]
  | cons b bs ih =>
    rw [List.forall_mem_cons] at blanks
    rw [List.cons_append, tracesFrom_blank blanks.1, ih blanks.2, List.append_assoc, List.singleton_append]

theorem tracesFrom_comment {line : List Char} (inLine : '\n' ∉ line) (ends : ∀ c ∈ rest.head?, c = '\n') :
    tracesFrom before (';' :: line ++ rest) =
      ⟨.comment, trimEnd (';' :: line), linesAbove before, trimEnd (';' :: line)⟩ ::
        tracesFrom (before ++ ';' :: line) rest := by
  have inLine' : '\n' ∉ ';' :: line := by simp [inLine]
  have isLine : (line ++ rest).takeWhile (· != '\n') = line := by
    refine takeWhile_append_stop (fun c member => by simpa using ne_of_mem_of_not_mem member inLine) ?_
    intro c first
    simp [ends c first]
  rcases dropReturn_eq_iff.mp (rfl : dropReturn line = _) with same | ⟨same, _⟩
  · have leads : Leads ⟨.comment, String.ofList (';' :: dropReturn line), width before⟩ ('\r' :: rest) := by
      apply Leads.comment
      rw [List.append_cons, ← same, isLine]
    have first := tracesFrom_append leads
    have isComment : ';' :: dropReturn line ++ '\r' :: rest = ';' :: line ++ rest := by
      conv_rhs => rw [same]
      simp
    have trimmed : trimEnd (';' :: line) = trimEnd (';' :: dropReturn line) := by
      conv_lhs => rw [same, ← List.cons_append]
      exact trimEnd_append (List.forall_mem_singleton.mpr (by decide)) _
    rw [isComment, lineAhead_append inLine' ends, tracesFrom_blank (by decide)] at first
    rw [first, List.append_assoc, List.cons_append, ← same, trimmed]
    rfl
  · have leads : Leads ⟨.comment, String.ofList (';' :: line), width before⟩ rest := by
      apply Leads.comment
      rw [isLine, ← same]
    rw [tracesFrom_append leads, lineAhead_append inLine' ends]
    rfl

end

namespace Token

inductive IsLine : List Char → Prop where
  | nil : IsLine []
  | blank {c : Char} {rest : List Char} (blank : isAsciiBlank c = true) (inLine : c ≠ '\n') (later : IsLine rest) :
      IsLine (c :: rest)
  | openBracket {rest : List Char} (later : IsLine rest) : IsLine ('(' :: rest)
  | closeBracket {rest : List Char} (later : IsLine rest) : IsLine (')' :: rest)
  | word {run rest : List Char} (nonempty : run ≠ []) (chars : ∀ c ∈ run, isWordChar c = true)
      (ends : ∀ c ∈ rest.head?, isWordChar c = false) (later : IsLine rest) : IsLine (run ++ rest)
  | comment {line : List Char} (inLine : '\n' ∉ line) : IsLine (';' :: line)

theorem isLine {cs : List Char} (inLine : '\n' ∉ cs) : IsLine cs := by
  induction h : cs.length using Nat.strong_induction_on generalizing cs with
  | h size ih =>
    subst h
    cases cs with
    | nil => exact .nil
    | cons c rest =>
      rw [List.mem_cons, not_or] at inLine
      have later := ih rest.length (by simp) inLine.2 rfl
      by_cases isWord : isWordChar c = true
      · have whole := List.takeWhile_append_dropWhile (p := isWordChar) (l := c :: rest)
        rw [List.takeWhile_cons_of_pos isWord, List.dropWhile_cons_of_pos isWord] at whole
        rw [← whole]
        refine .word (by simp) ?_ (head?_dropWhile_stop rest) (ih _ ?_ ?_ rfl)
        · exact List.forall_mem_cons.mpr ⟨isWord, fun _ => List.mem_takeWhile_imp⟩
        · exact Nat.lt_succ_of_le (List.length_dropWhile_le _ _)
        · exact fun member => inLine.2 ((List.dropWhile_sublist _).subset member)
      · simp only [isWordChar, Bool.and_eq_true, Bool.not_eq_true', bne_iff_ne, not_and, not_not] at isWord
        by_cases blank : isAsciiBlank c = true
        · exact .blank blank (Ne.symm inLine.1) later
        by_cases isOpen : c = '('
        · exact isOpen ▸ .openBracket later
        by_cases isClose : c = ')'
        · exact isClose ▸ .closeBracket later
        · have isSemicolon := isWord ⟨⟨by simpa using blank, isOpen⟩, isClose⟩
          exact isSemicolon ▸ .comment inLine.2

theorem IsLine.noBreak {cs : List Char} (line : IsLine cs) : '\n' ∉ cs := by
  induction line with
  | nil => simp
  | blank _ inLine _ ih => simp [Ne.symm inLine, ih]
  | openBracket _ ih | closeBracket _ ih => simp [ih]
  | word _ chars _ _ ih =>
    have inWord : '\n' ∉ _ := fun member => (isWordChar_cases (chars '\n' member)).2.2 rfl
    simp [inWord, ih]
  | comment inLine => simp [inLine]

end Token

section

variable {before inner bs rest : List Char}

theorem lineAhead_line {line : List Char} (inLine : '\n' ∉ line) : lineAhead line = trimEnd line := by
  rw [← List.append_nil line, lineAhead_append inLine (by simp), List.append_nil]

theorem trimEnd_blanks (blanks : ∀ c ∈ bs, isAsciiBlank c = true) (cs : List Char) : trimEnd (cs ++ bs) = trimEnd cs :=
  trimEnd_append (fun c member => isBlank_of_isAsciiBlank (blanks c member)) cs

theorem head?_append_all {holds : Char → Prop} {left right : List Char} (first : ∀ c ∈ left.head?, holds c)
    (second : ∀ c ∈ right.head?, holds c) : ∀ c ∈ (left ++ right).head?, holds c := by
  cases left with
  | nil => exact second
  | cons c left => exact first

theorem tracesFrom_piece (blanks : ∀ c ∈ bs, isAsciiBlank c = true) (blanksInLine : '\n' ∉ bs)
    (ends : ∀ c ∈ rest.head?, c = '\n') (inLine : '\n' ∉ inner) {kind : TokenKind} (text : List Char) {line : List Char}
    (pieceInLine : '\n' ∉ text ++ line)
    (leads : Leads ⟨kind, String.ofList text, width (before ++ inner)⟩ (line ++ (bs ++ rest)))
    (leads' : Leads ⟨kind, String.ofList text, width inner⟩ line)
    (later : tracesFrom (before ++ (inner ++ text)) (line ++ (bs ++ rest)) =
      (tracesFrom (inner ++ text) line).map (Trace.below (linesAbove before)) ++
        tracesFrom (before ++ (inner ++ text ++ (line ++ bs))) rest) :
    tracesFrom (before ++ inner) (text ++ line ++ (bs ++ rest)) =
      (tracesFrom inner (text ++ line)).map (Trace.below (linesAbove before)) ++
        tracesFrom (before ++ (inner ++ (text ++ line ++ bs))) rest := by
  have ahead : lineAhead (text ++ line ++ (bs ++ rest)) = lineAhead (text ++ line) := by
    rw [← List.append_assoc _ bs, lineAhead_append (by simp_all) ends, trimEnd_blanks blanks,
      lineAhead_line pieceInLine]
  rw [List.append_assoc text, tracesFrom_append leads, tracesFrom_append leads', ← List.append_assoc text, ahead,
    List.append_assoc before, later, linesAbove_append inLine]
  by_cases blank : kind = .blank
  · simp [blank]
  · simp [blank, Trace.below]

theorem Token.IsLine.traces {line : List Char} (isLine : IsLine line) (blanks : ∀ c ∈ bs, isAsciiBlank c = true)
    (blanksInLine : '\n' ∉ bs) (ends : ∀ c ∈ rest.head?, c = '\n') (inLine : '\n' ∉ inner) :
    tracesFrom (before ++ inner) (line ++ (bs ++ rest)) =
      (tracesFrom inner line).map (Trace.below (linesAbove before)) ++
        tracesFrom (before ++ (inner ++ (line ++ bs))) rest := by
  induction isLine generalizing inner with
  | nil => simp [tracesFrom_blanks blanks]
  | @blank c line blank notBreak _ ih =>
    have inLine' : '\n' ∉ inner ++ [c] := by simp [inLine, Ne.symm notBreak]
    rw [List.cons_append, tracesFrom_blank blank, tracesFrom_blank blank, List.append_assoc, ih inLine']
    simp
  | @openBracket line isLine ih =>
    refine tracesFrom_piece blanks blanksInLine ends inLine ['('] ?_ (.openBracket _ _) (.openBracket _ _) ?_
    · simp [isLine.noBreak]
    · exact ih (by simp [inLine])
  | @closeBracket line isLine ih =>
    refine tracesFrom_piece blanks blanksInLine ends inLine [')'] ?_ (.closeBracket _ _) (.closeBracket _ _) ?_
    · simp [isLine.noBreak]
    · exact ih (by simp [inLine])
  | @word run line nonempty chars wordEnds isLine ih =>
    have inWord : '\n' ∉ run := fun member => (isWordChar_cases (chars _ member)).2.2 rfl
    refine tracesFrom_piece blanks blanksInLine ends inLine run ?_ (.word _ nonempty chars ?_)
      (.word _ nonempty chars wordEnds) ?_
    · simp [inWord, isLine.noBreak]
    · refine head?_append_all wordEnds (head?_append_all ?_ ?_)
      · intro c first
        simp [isWordChar, blanks c (List.mem_of_mem_head? first)]
      · intro c first
        rw [ends c first]
        decide
    · exact ih (by simp [inLine, inWord])
  | @comment line noBreak =>
    have alone : tracesFrom inner (';' :: line ++ []) = _ := tracesFrom_comment noBreak (by simp)
    rw [List.append_nil, tracesFrom_nil] at alone
    have isComment : ';' :: line ++ (bs ++ rest) = ';' :: (line ++ bs) ++ rest := by simp
    rw [isComment, tracesFrom_comment (by simp [noBreak, blanksInLine]) ends, alone, ← List.cons_append,
      trimEnd_blanks blanks, linesAbove_append inLine]
    simp [Trace.below]

end

def traces (cs : List Char) : List Trace := tracesFrom [] cs

theorem traces_padded {line lead bs : List Char} (inLine : '\n' ∉ line) (leadBlanks : ∀ c ∈ lead, isAsciiBlank c = true)
    (leadInLine : '\n' ∉ lead) (blanks : ∀ c ∈ bs, isAsciiBlank c = true) (blanksInLine : '\n' ∉ bs) :
    traces (lead ++ (line ++ bs)) = traces line := by
  have alone : tracesFrom ([] ++ []) (line ++ ([] ++ [])) = _ :=
    (isLine inLine).traces (by simp) List.not_mem_nil (by simp) List.not_mem_nil
  have padded : tracesFrom (lead ++ []) (line ++ (bs ++ [])) = _ :=
    (isLine inLine).traces blanks blanksInLine (by simp) List.not_mem_nil
  have above : linesAbove ([] ++ lead) = linesAbove [] := linesAbove_append leadInLine
  simp only [List.append_nil, List.nil_append, tracesFrom_nil] at alone padded above
  rw [traces, tracesFrom_blanks leadBlanks, List.nil_append, padded, above, ← alone, traces]

def tracesOf (above : List (List Char)) : List (List Char) → List Trace
  | [] => []
  | line :: rest => (traces line).map (Trace.below above) ++ tracesOf (above ++ [trim line]) rest

theorem tracesFrom_lines {before : List Char} (done : List (List Char)) (isDone : splitLines before = done ++ [[]])
    (after : List Char) : tracesFrom before after = tracesOf (done.map trim) (splitLines after) := by
  have above : linesAbove before = done.map trim := by rw [linesAbove, isDone, List.dropLast_concat]
  induction h : after.length using Nat.strong_induction_on generalizing before done after with
  | h size ih =>
    subst h
    have here {line rest : List Char} (inLine : '\n' ∉ line) (ends : ∀ c ∈ rest.head?, c = '\n') :
        tracesFrom before (line ++ rest) = (traces line).map (Trace.below (done.map trim)) ++
          tracesFrom (before ++ line) rest := by
      have shown : tracesFrom (before ++ []) (line ++ ([] ++ rest)) = _ :=
        (isLine inLine).traces (by simp) List.not_mem_nil ends List.not_mem_nil
      simpa [above, traces] using shown
    rcases splitLines_cases after with inLine | ⟨line, rest, inLine, rfl⟩
    · have shown : tracesFrom before (after ++ []) = _ := here inLine (by simp)
      simpa [splitLines_line inLine, tracesOf] using shown
    · have isDone' : splitLines (before ++ (line ++ ['\n'])) = (done ++ [line]) ++ [[]] := by
        rw [splitLines_append_last isDone, List.nil_append, splitLines_break inLine]
        simp [splitLines]
      have above' : linesAbove (before ++ (line ++ ['\n'])) = (done ++ [line]).map trim := by
        rw [linesAbove, isDone', List.dropLast_concat]
      have later := ih rest.length (by simp; omega) _ isDone' rest above' rfl
      rw [here inLine (by simp), tracesFrom_blank (by decide), splitLines_break inLine, tracesOf, List.append_assoc,
        later, List.map_append]
      rfl

theorem traces_eq (cs : List Char) : traces cs = tracesOf [] (splitLines cs) :=
  tracesFrom_lines [] (show splitLines [] = [[]] from rfl) cs

namespace Token

theorem scan_before {cs : List Char} {t : Token} (member : t ∈ scan cs) :
    ∃ before after, cs = before ++ after ∧ t.start = width before := by
  obtain ⟨scanned, spelled⟩ := scan_eq_iff.mp (rfl : scan cs = _)
  obtain ⟨earlier, later, whole⟩ := List.append_of_mem member
  rw [whole] at scanned spelled
  refine ⟨texts earlier, texts (t :: later), by rw [← texts_append, spelled], ?_⟩
  rw [← Nat.zero_add (width _)]
  exact (scanned_cons_iff.mp scanned.append_right).1

theorem line_of_mem_scan {cs : List Char} {t : Token} (member : t ∈ scan cs) :
    (positionAt ⟨cs⟩ t.start).line = (t.trace cs).above.length := by
  obtain ⟨before, after, rfl, start⟩ := scan_before member
  have line : _ = 0 + _ := splitLines_length before ⟨0, 0⟩
  rw [positionAt, start, positionFrom_width]
  simp only [trace, start, takeBytes_width, linesAbove, List.length_map, List.length_dropLast]
  omega

end Token
end PddlAssist
