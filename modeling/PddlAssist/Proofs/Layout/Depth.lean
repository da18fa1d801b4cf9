import PddlAssist.Proofs.Layout.LaidOut
import PddlAssist.Proofs.Token.Spelling
import PddlAssist.Proofs.Tree.Depth

namespace PddlAssist

open Text Document Token

theorem depth_significantTokens (cs : List Char) : depth (significantTokens cs) = depth (scan cs) := by
  have bare (tokens : List Token) : depth (tokens.map Token.bare) = depth tokens := by
    rw [depth, List.map_map]
    rfl
  rw [significantTokens, bare, depth_filter]
  intro t _ layout
  refine opens_of_plain ?_
  rintro (isOpen | isClose)
  · simp [isSignificant, isOpen] at layout
  · simp [isSignificant, isClose] at layout

theorem significantTokens_lines (cs : List Char) : significantTokens cs = (splitLines cs).flatMap significantTokens := by
  have lines (above : List (List Char)) (lines : List (List Char)) :
      ((tracesOf above lines).filter (·.kind != .comment)).map Trace.bare = lines.flatMap significantTokens := by
    induction lines generalizing above with
    | nil => rfl
    | cons line rest ih =>
      rw [tracesOf, List.filter_append, List.map_append, ih, List.flatMap_cons, significantTokens_eq [] line,
        List.filter_map, List.map_map]
      rfl
  rw [significantTokens_eq [] cs, ← lines []]
  exact congrArg (fun traces => (traces.filter (·.kind != .comment)).map Trace.bare) (traces_eq cs)

theorem depth_scan_append {before : List Char} {done : List (List Char)} (isDone : splitLines before = done ++ [[]])
    (after : List Char) : depth (scan (before ++ after)) = depth (scan before) + depth (scan after) := by
  simp only [← depth_significantTokens, ← depth_append]
  rw [significantTokens_lines (before ++ after), splitLines_append_last isDone, significantTokens_lines before, isDone,
    significantTokens_lines after]
  simp [significantTokens_nil]

theorem depth_scan_break {line : List Char} (inLine : '\n' ∉ line) :
    depth (scan (line ++ ['\n'])) = depth (scan line) := by
  rw [← depth_significantTokens, significantTokens_lines, splitLines_break inLine, ← depth_significantTokens]
  simp [splitLines, significantTokens_nil]

namespace Layout

theorem significantTokens_trim {line : List Char} (inLine : '\n' ∉ line)
    (ascii : ∀ c ∈ line, isBlank c = true → isAsciiBlank c = true) :
    significantTokens (trim line) = significantTokens line := by
  rw [significantTokens_eq [] (trim line), significantTokens_eq [] line]
  exact congrArg (fun traces => (traces.filter (·.kind != .comment)).map Trace.bare) (traces_trim inLine ascii)

theorem leadingCloses_significantTokens (cs : List Char) :
    leadingCloses (significantTokens cs) = leadingCloses (scan cs) := by
  rw [significantTokens]
  induction scan cs with
  | nil => rfl
  | cons t rest ih =>
    rw [List.filter_cons]
    cases kind : t.kind <;> simp [isSignificant, kind, leadingCloses, ih]

def leadingRun (line : List Char) : List Char := line.takeWhile fun c => isAsciiBlank c || c == ')'

theorem leadingCloses_word {c : Char} (notClose : c ≠ ')') (notBlank : isAsciiBlank c = false) (notComment : c ≠ ';')
    (rest : List Char) : leadingCloses (scan (c :: rest)) = 0 := by
  rw [scan, scanFrom]
  by_cases isOpen : c = '('
  · simp [leadingCloses, lexeme, isOpen]
  · have isWord : isWordChar c = true := by simp [isWordChar, notClose, notBlank, notComment, isOpen]
    have kind := wordKind_isWord (c :: rest.takeWhile isWordChar)
    rw [lexeme_word isWord]
    simp only [leadingCloses]
    split <;> simp_all [TokenKind.isWord]

theorem depth_leadingRun {line : List Char} (inLine : '\n' ∉ line) :
    depth (scan (leadingRun line)) = -(leadingCloses (scan line) : Int) := by
  rw [← depth_significantTokens, ← leadingCloses_significantTokens]
  induction line with
  | nil => simp [leadingRun, significantTokens_nil, leadingCloses]
  | cons c rest ih =>
    rw [List.mem_cons, not_or] at inLine
    have later := ih inLine.2
    by_cases blank : isAsciiBlank c = true
    · have run : leadingRun (c :: rest) = c :: leadingRun rest := by simp [leadingRun, blank]
      rw [run, significantTokens_blank blank, significantTokens_blank blank, later]
    by_cases isClose : c = ')'
    · subst isClose
      have run : leadingRun (')' :: rest) = ')' :: leadingRun rest := by simp [leadingRun]
      have closes (cs : List Char) : significantTokens (')' :: cs) = ⟨.closeBracket, ")", 0⟩ :: significantTokens cs :=
        significantTokens_append (.closeBracket 0 cs) (by simp) (by simp)
      rw [run, closes, closes, depth_cons, later, leadingCloses, opens_of_closeBracket rfl]
      simp
    · have run : leadingRun (c :: rest) = [] := by simp [leadingRun, blank, isClose]
      have nothing : leadingCloses (significantTokens (c :: rest)) = 0 := by
        by_cases isComment : c = ';'
        · have alone : tracesFrom [] (';' :: rest ++ []) = _ := tracesFrom_comment inLine.2 (by simp)
          rw [List.append_nil, tracesFrom_nil] at alone
          rw [isComment, significantTokens_eq [] (';' :: rest), alone]
          rfl
        · rw [leadingCloses_significantTokens]
          exact leadingCloses_word isClose (by simpa using blank) isComment rest
      rw [run, nothing, significantTokens_nil]
      rfl

theorem head_trim {line : List Char} {c : Char} {rest : List Char} (content : trim line = c :: rest) :
    isBlank c = false := by
  obtain ⟨bs, whole, _⟩ := trimEnd_cases (trimStart line)
  have first : c ∈ (trimStart line).head? := by
    rw [whole, ← trim, content]
    rfl
  exact head?_dropWhile_stop line c first

/-- A line of the formatted text for a line that begins at a place of the text. -/
inductive IsIndented (t : Tree) : Nat × List Char → List Char → Prop where
  | blank {place : Nat} {line : List Char} (blank : ∀ c ∈ line, isBlank c = true) : IsIndented t (place, line) []
  | text {place : Nat} {line : List Char} {c : Char} {rest : List Char} (content : trim line = c :: rest)
      (notSpace : c ≠ ' ') :
      IsIndented t (place, line)
        (List.replicate (4 * t.openAt (place + width (leadingRun line))) ' ' ++ c :: rest)

def formatLine (level : Nat) (line : List Char) : List Char :=
  if (trim line).isEmpty then [] else indent (level - leadingCloses (scan (trim line))) ++ trim line

theorem levelAfter_eq (level : Nat) (tokens : List Token) : levelAfter level tokens = (level + depth tokens).toNat := by
  have fold (start : Int) : tokens.foldl (fun depth token => depth + opens token) start = start + depth tokens := by
    induction tokens generalizing start with
    | nil => simp
    | cons t rest ih =>
      rw [List.foldl_cons, ih, depth_cons]
      omega
  rw [levelAfter, fold]

theorem formatLines_cons (level : Nat) (line : List Char) (rest : List (List Char)) :
    formatLines level (line :: rest) =
      formatLine level line :: formatLines (levelAfter level (scan (trim line))) rest := by
  simp only [formatLines, formatLine]
  split
  · rename_i isEmpty
    rw [List.isEmpty_iff.mp isEmpty, levelAfter_eq]
    simp [scan, scanFrom]
  · rfl

section

variable {before line : List Char} {done : List (List Char)} {level : Nat}

theorem isIndented_formatLine (isDone : splitLines before = done ++ [[]]) (inLine : '\n' ∉ line)
    (ascii : ∀ c ∈ line, isBlank c = true → isAsciiBlank c = true) (isLevel : (level : Int) = depth (scan before))
    {rest : List Char} (balanced : (Tree.build (before ++ (line ++ rest))).stray = []) :
    IsIndented (Tree.build (before ++ (line ++ rest))) (width before, line) (formatLine level line) := by
  have run : before ++ (line ++ rest) = (before ++ leadingRun line) ++
      (line.dropWhile (fun c => isAsciiBlank c || c == ')') ++ rest) := by
    simp only [leadingRun, List.append_assoc]
    rw [← List.append_assoc (line.takeWhile _), List.takeWhile_append_dropWhile]
  have opened := Tree.openAt_build _ _ (run ▸ balanced)
  rw [← run, width_append, depth_scan_append isDone, depth_leadingRun inLine, ← isLevel] at opened
  have closes : leadingCloses (scan (trim line)) = leadingCloses (scan line) := by
    rw [← leadingCloses_significantTokens, significantTokens_trim inLine ascii, leadingCloses_significantTokens]
  cases content : trim line with
  | nil =>
    rw [formatLine, content]
    refine .blank fun c member => ?_
    obtain ⟨lead, bs, whole, leadBlanks, blanks⟩ := trim_cases line
    rw [whole, content, List.nil_append, List.mem_append] at member
    exact member.elim (leadBlanks c) (blanks c)
  | cons c more =>
    have depth : level - leadingCloses (scan (c :: more)) =
        (Tree.build (before ++ (line ++ rest))).openAt (width before + width (leadingRun line)) := by
      rw [← content, closes]
      omega
    have notSpace : c ≠ ' ' := by
      rintro rfl
      cases head_trim content
    rw [formatLine, content, indent, depth]
    exact .text content notSpace

theorem levelAfter_line (isDone : splitLines before = done ++ [[]]) (inLine : '\n' ∉ line)
    (ascii : ∀ c ∈ line, isBlank c = true → isAsciiBlank c = true) (isLevel : (level : Int) = depth (scan before))
    {rest : List Char} (balanced : (Tree.build (before ++ (line ++ ['\n']) ++ rest)).stray = []) :
    (levelAfter level (scan (trim line)) : Int) = depth (scan (before ++ (line ++ ['\n']))) := by
  have opened := Tree.openAt_build _ _ balanced
  have trimmed : depth (scan (trim line)) = depth (scan line) := by
    rw [← depth_significantTokens, significantTokens_trim inLine ascii, depth_significantTokens]
  rw [depth_scan_append isDone, depth_scan_break inLine, ← isLevel] at opened ⊢
  rw [levelAfter_eq, trimmed]
  omega

end

/-- By induction on the lines, with the text before them. -/
theorem isIndented_formatLines {before : List Char} {done : List (List Char)} (isDone : splitLines before = done ++ [[]])
    {after : List Char} (ascii : ∀ c ∈ after, isBlank c = true → isAsciiBlank c = true) {level : Nat}
    (isLevel : (level : Int) = depth (scan before)) (balanced : (Tree.build (before ++ after)).stray = []) :
    List.Forall₂ (IsIndented (Tree.build (before ++ after))) (linesFrom (width before) (splitLines after))
      (formatLines level (splitLines after)) := by
  induction size : after.length using Nat.strong_induction_on generalizing before done after level with
  | h size ih =>
    subst size
    rcases splitLines_cases after with inLine | ⟨line, rest, inLine, rfl⟩
    · have last : after = after ++ [] := (List.append_nil after).symm
      rw [splitLines_line inLine, formatLines_cons, linesFrom]
      refine .cons ?_ .nil
      rw [last] at balanced
      have indented := isIndented_formatLine isDone inLine ascii isLevel balanced
      rwa [← last] at indented
    · have whole : before ++ (line ++ '\n' :: rest) = before ++ (line ++ ['\n']) ++ rest := by simp
      have isDone' : splitLines (before ++ (line ++ ['\n'])) = (done ++ [line]) ++ [[]] := by
        rw [splitLines_append_last isDone, List.nil_append, splitLines_break inLine]
        simp [splitLines]
      have narrow : '\n'.utf8Size = 1 := rfl
      have start : width before + width line + 1 = width (before ++ (line ++ ['\n'])) := by
        simp [narrow]
        omega
      rw [List.forall_mem_append, List.forall_mem_cons] at ascii
      have later := ih rest.length (by simp; omega) isDone' ascii.2.2
        (levelAfter_line isDone inLine ascii.1 isLevel (whole ▸ balanced)) (whole ▸ balanced) rfl
      rw [splitLines_break inLine, formatLines_cons, linesFrom, start]
      exact .cons (isIndented_formatLine isDone inLine ascii.1 isLevel balanced) (whole ▸ later)

/-- In a text without stray brackets and with no blanks but those that separate words, each line is indented by four
spaces for each bracket of the tree that is open behind the closing brackets that lead the line. Blank lines become
empty, and a line break may be added at the end. -/
theorem format_indents {cs : List Char} (balanced : (Tree.build cs).stray = [])
    (ascii : ∀ c ∈ cs, isBlank c = true → isAsciiBlank c = true) :
    ∃ lines, List.Forall₂ (IsIndented (Tree.build cs)) (linesFrom 0 (splitLines cs)) lines ∧
      (splitLines (format cs) = lines ∨ splitLines (format cs) = lines ++ [[]]) := by
  have start : splitLines [] = [] ++ [[]] := rfl
  have level : ((0 : Nat) : Int) = depth (scan []) := by simp [scan, scanFrom]
  refine ⟨formatLines 0 (splitLines cs), isIndented_formatLines start ascii level balanced, ?_⟩
  exact (splitLines_joinLines (noBreak_formatLines (@splitLines_noBreak cs) 0)).imp And.left id

theorem format_indents_leading :
    let cs := "(define (domain d) ; )((\n\t(:types a) (b \r\n ) ) x\n \n  (e".toList
    (Tree.build cs).stray = [] ∧ (∀ c ∈ cs, isBlank c = true → isAsciiBlank c = true) ∧
      ∃ lines, List.Forall₂ (IsIndented (Tree.build cs)) (linesFrom 0 (splitLines cs)) lines ∧
        (splitLines (format cs) = lines ∨ splitLines (format cs) = lines ++ [[]]) := by
  intro cs
  have known : ((Tree.build cs).stray.isEmpty && cs.all fun c => !isBlank c || isAsciiBlank c) = true := by
    simp only [cs, String.reduceToList]
    decide +kernel
  clear_value cs
  simp only [Bool.and_eq_true, List.isEmpty_iff, List.all_eq_true, Bool.or_eq_true, Bool.not_eq_true'] at known
  obtain ⟨balanced, blanks⟩ := known
  have ascii : ∀ c ∈ cs, isBlank c = true → isAsciiBlank c = true := by
    intro c member blank
    exact (blanks c member).resolve_left (by simp [blank])
  exact ⟨balanced, ascii, format_indents balanced ascii⟩

end Layout
end PddlAssist
