import PddlAssist.Planning
import PddlAssist.Proofs.Document.Patch
import PddlAssist.Proofs.Token.Lines

namespace PddlAssist

open Text

theorem dropWhile_append_stop {α : Type} {p : α → Bool} {run rest : List α} (holds : ∀ a ∈ run, p a = true)
    (ends : ∀ a ∈ rest.head?, p a = false) : (run ++ rest).dropWhile p = rest := by
  rw [List.dropWhile_append_of_pos holds]
  cases rest with
  | nil => rfl
  | cons a rest => rw [List.dropWhile_cons_of_neg (by simp [ends a rfl])]

namespace Decimal

def HasPlaces (places : Nat) (text : String) : Prop :=
  ∃ whole fraction, text.toList = whole ++ '.' :: fraction ∧ whole ≠ [] ∧ fraction.length = places ∧
    (∀ c ∈ whole, c.isDigit = true) ∧ ∀ c ∈ fraction, c.isDigit = true

theorem hasPlaces_fixedText {x : Float} {b : Binary64} (finite : classify x = .finite false b) (places : Nat) :
    HasPlaces places (fixedText places x) := by
  simp only [fixedText, finite, signed, Bool.false_eq_true, if_false, fixedDigits]
  generalize roundDiv _ _ = n
  generalize isPadded : List.replicate (places + 1 - (Nat.toDigits 10 n).length) '0' ++ Nat.toDigits 10 n = padded
  have digits : ∀ c ∈ padded, c.isDigit = true := by
    intro c member
    rw [← isPadded, List.mem_append, List.mem_replicate] at member
    rcases member with ⟨_, rfl⟩ | member
    · rfl
    · exact Nat.isDigit_of_mem_toDigits (by decide) (by decide) member
  have long : places + 1 ≤ padded.length := by
    rw [← isPadded, List.length_append, List.length_replicate]
    omega
  refine ⟨_, _, String.toList_ofList, ?_, ?_, fun c member => digits c (List.mem_of_mem_take member),
    fun c member => digits c (List.mem_of_mem_drop member)⟩
  · rw [ne_eq, List.take_eq_nil_iff, List.eq_nil_iff_length_eq_zero]
    omega
  · rw [List.length_drop]
    omega

theorem numeral?_isSome {places : Nat} {text : String} (printed : HasPlaces places text) :
    (numeral? text).isSome = true := by
  obtain ⟨whole, fraction, spelled, nonempty, -, digits, places⟩ := printed
  have unsigned : splitSign text.toList = (false, whole ++ '.' :: fraction) := by
    obtain ⟨d, whole, rfl⟩ := List.exists_cons_of_ne_nil nonempty
    have isDigit := digits d (.head _)
    rw [spelled, List.cons_append, splitSign.eq_def]
    split <;> simp_all
  -- a point is in no word for what is infinite or no number
  have point : '.' ∈ (whole ++ '.' :: fraction).map Char.toLower := by
    simp [show '.'.toLower = '.' from rfl]
  simp only [numeral?, unsigned]
  generalize (whole ++ '.' :: fraction).map Char.toLower = word at point
  rw [if_neg (by rintro (rfl | rfl) <;> simp at point), if_neg (by rintro rfl; simp at point), unsigned?,
    takeWhile_append_stop digits (by simp), dropWhile_append_stop digits (by simp)]
  have all : fraction.takeWhile Char.isDigit = fraction := List.takeWhile_eq_self_iff.mpr places
  have nothing : fraction.dropWhile Char.isDigit = [] := List.dropWhile_eq_nil_iff.mpr places
  simp [all, nothing, nonempty, exponent?]

end Decimal

namespace Text

theorem isDecimalDigit_of_isDigit {c : Char} (isDigit : c.isDigit = true) : isDecimalDigit c = true := by
  have small := (isDigit_iff c).mp isDigit
  rw [isDecimalDigit, if_pos (by omega), isDigit]

theorem isBlank_of_isDigit {c : Char} (isDigit : c.isDigit = true) : isBlank c = false := by
  have small := (isDigit_iff c).mp isDigit
  simp only [isBlank, Bool.or_eq_false_iff, Bool.and_eq_false_iff, decide_eq_false_iff_not, beq_eq_false_iff_ne]
  omega

theorem trimStart_cons {c : Char} (notBlank : isBlank c = false) (cs : List Char) : trimStart (c :: cs) = c :: cs := by
  rw [trimStart, List.dropWhile_cons_of_neg (by simp [notBlank])]

theorem notBlank_of_all {cs : List Char} (notBlank : cs.all (!isBlank ·) = true) : ∀ c ∈ cs, isBlank c = false := by
  simpa using notBlank

theorem trim_trimEnd (cs : List Char) : trim (trimEnd cs) = trim cs := by
  obtain ⟨bs, whole, blanks⟩ := trimEnd_cases cs
  conv_rhs => rw [whole, trim_append blanks]

theorem trimEnd_append_left {lead : List Char} (trimmed : trimEnd lead = lead) (cs : List Char) :
    trimEnd (lead ++ cs) = lead ++ trimEnd cs := by
  simp only [trimEnd] at trimmed ⊢
  rw [List.reverse_append, List.dropWhile_append]
  split
  · rename_i nothing
    rw [trimmed, List.isEmpty_iff.mp nothing, List.reverse_nil, List.append_nil]
  · rw [List.reverse_append, List.reverse_reverse]

theorem dropWhile_of_notBlank {cs : List Char} (notBlank : ∀ c ∈ cs, isBlank c = false) :
    cs.dropWhile isBlank = cs := by
  cases cs with
  | nil => rfl
  | cons c cs => exact trimStart_cons (notBlank c (.head _)) cs

theorem trimEnd_of_notBlank {cs : List Char} (notBlank : ∀ c ∈ cs, isBlank c = false) : trimEnd cs = cs := by
  rw [trimEnd, dropWhile_of_notBlank (by simpa using notBlank), List.reverse_reverse]

theorem trim_of_notBlank {cs : List Char} (notBlank : ∀ c ∈ cs, isBlank c = false) : trim cs = cs := by
  rw [trim, trimStart, dropWhile_of_notBlank notBlank, trimEnd_of_notBlank notBlank]

theorem wordsAfter_append {run : List Char} (notBlank : ∀ c ∈ run, isBlank c = false) (word rest : List Char) :
    wordsAfter word (run ++ rest) = wordsAfter (run.reverse ++ word) rest := by
  induction run generalizing word with
  | nil => rfl
  | cons c run ih =>
    have first := notBlank c (.head _)
    simp [wordsAfter, first, ih fun d member => notBlank d (.tail _ member)]

theorem words_intercalate {names : List (List Char)}
    (isWord : ∀ name ∈ names, name ≠ [] ∧ ∀ c ∈ name, isBlank c = false) :
    words (List.intercalate [' '] names) = names := by
  induction names with
  | nil => rfl
  | cons name names ih =>
    obtain ⟨nonempty, notBlank⟩ := isWord name (.head _)
    have others := ih fun other member => isWord other (.tail _ member)
    cases names with
    | nil => simpa [words, wordsAfter, nonempty] using wordsAfter_append notBlank [] []
    | cons next names =>
      rw [List.intercalate_cons_cons, words, List.append_assoc, wordsAfter_append notBlank]
      have cut : isBlank ' ' = true := rfl
      simp only [List.append_nil, List.singleton_append, wordsAfter, cut, if_true, List.isEmpty_reverse,
        List.isEmpty_iff, nonempty, if_false, List.reverse_reverse]
      rw [← words, others]

theorem mem_intercalate {c : Char} {names : List (List Char)} (member : c ∈ List.intercalate [' '] names) :
    c = ' ' ∨ ∃ name ∈ names, c ∈ name := by
  induction names with
  | nil => simp at member
  | cons name names ih =>
    cases names with
    | nil => exact .inr ⟨name, .head _, by simpa using member⟩
    | cons next names =>
      rw [List.intercalate_cons_cons, List.append_assoc, List.mem_append, List.singleton_append,
        List.mem_cons] at member
      rcases member with inside | isSpace | member
      · exact .inr ⟨name, .head _, inside⟩
      · exact .inl isSpace
      · obtain isSpace | ⟨other, isOther, inside⟩ := ih member
        · exact .inl isSpace
        · exact .inr ⟨other, .tail _ isOther, inside⟩

end Text

def IsActionWord (word : String) : Prop := word ≠ "" ∧ ∀ c ∈ word.toList, isBlank c = false ∧ c ≠ ')'

-- over the characters of the word, not over all characters there are
instance (word : String) : Decidable (IsActionWord word) :=
  decidable_of_iff (word ≠ "" ∧ word.toList.all (fun c => !isBlank c && c != ')') = true) (by simp [IsActionWord])

namespace Line

section

variable {places : Nat} {numeral : String} {rest : List Char}

theorem head_of_hasPlaces (printed : Decimal.HasPlaces places numeral) :
    ∃ d more, numeral.toList = d :: more ∧ d.isDigit = true := by
  obtain ⟨whole, fraction, spelled, nonempty, -, digits, -⟩ := printed
  obtain ⟨d, whole, rfl⟩ := List.exists_cons_of_ne_nil nonempty
  exact ⟨d, _, spelled, digits d (.head _)⟩

theorem notBlank_of_hasPlaces (printed : Decimal.HasPlaces places numeral) :
    ∀ c ∈ numeral.toList, isBlank c = false := by
  obtain ⟨whole, fraction, spelled, -, -, digits, isFraction⟩ := printed
  intro c member
  rw [spelled, List.mem_append, List.mem_cons] at member
  rcases member with member | rfl | member
  · exact isBlank_of_isDigit (digits c member)
  · rfl
  · exact isBlank_of_isDigit (isFraction c member)

theorem trimStart_of_hasPlaces (printed : Decimal.HasPlaces places numeral) :
    trimStart (numeral.toList ++ rest) = numeral.toList ++ rest := by
  obtain ⟨d, more, spelled, isDigit⟩ := head_of_hasPlaces printed
  rw [spelled, List.cons_append, trimStart_cons (isBlank_of_isDigit isDigit)]

theorem number?_of_hasPlaces (printed : Decimal.HasPlaces places numeral)
    (ends : ∀ c ∈ rest.head?, isDecimalDigit c = false) :
    number? (numeral.toList ++ rest) = some (numeral.toList, rest) := by
  obtain ⟨whole, fraction, spelled, nonempty, -, digits, isFraction⟩ := printed
  have wholeDigits := fun c member => isDecimalDigit_of_isDigit (digits c member)
  have fractionDigits := fun c member => isDecimalDigit_of_isDigit (isFraction c member)
  have point : isDecimalDigit '.' = false := by decide
  obtain ⟨d, whole, rfl⟩ := List.exists_cons_of_ne_nil nonempty
  rw [number?, spelled, List.append_assoc, takeWhile_append_stop wholeDigits (by simpa using point),
    dropWhile_append_stop wholeDigits (by simpa using point)]
  simp only [List.cons_append]
  rw [takeWhile_append_stop fractionDigits ends, dropWhile_append_stop fractionDigits ends]

theorem time_of_hasPlaces (printed : Decimal.HasPlaces places numeral) :
    time (numeral.toList ++ ':' :: rest) = (some numeral.toList, rest) := by
  have colon : isDecimalDigit ':' = false := by decide
  have notBlank : isBlank ':' = false := rfl
  rw [time, trimStart_of_hasPlaces printed, number?_of_hasPlaces printed (by simpa using colon)]
  simp only [trimStart_cons notBlank]

theorem bracketed?_of_not_mem {action : List Char} (isOpen : ')' ∉ action) :
    bracketed? (' ' :: '(' :: (action ++ ')' :: rest)) = some (action, rest) := by
  have opening : trimStart (' ' :: '(' :: (action ++ ')' :: rest)) = '(' :: (action ++ ')' :: rest) := rfl
  have inside : ∀ c ∈ action, (c != ')') = true := fun c member => by simpa using ne_of_mem_of_not_mem member isOpen
  simp only [bracketed?, opening]
  simp only [takeWhile_append_stop inside (by simp : ∀ c ∈ (')' :: rest).head?, (c != ')') = false),
    dropWhile_append_stop inside (by simp : ∀ c ∈ (')' :: rest).head?, (c != ')') = false)]

theorem duration_of_hasPlaces (printed : Decimal.HasPlaces places numeral) :
    duration (' ' :: '[' :: (numeral.toList ++ ']' :: rest)) = (some numeral.toList, rest) := by
  have bracket : isDecimalDigit ']' = false := by decide
  have notBlank : isBlank ']' = false := rfl
  have opening : trimStart (' ' :: '[' :: (numeral.toList ++ ']' :: rest)) =
    '[' :: (numeral.toList ++ ']' :: rest) := rfl
  simp only [duration, opening, trimStart_of_hasPlaces printed]
  rw [number?_of_hasPlaces printed (by simpa using bracket)]
  simp only [trimStart_cons notBlank]

end

end Line

namespace PlanStep

def lineText (s : PlanStep) : List Char :=
  (Decimal.fixedText 3 s.time).toList ++ ':' :: ' ' :: '(' :: (s.fullName.toList ++ ')' ::
    s.duration.elim [] fun d => ' ' :: '[' :: ((Decimal.fixedText 3 d).toList ++ [']']))

/-- A step whose line says what the step is. -/
structure IsPrintable (s : PlanStep) : Prop where
  words : ∀ word ∈ s.actionName :: s.parameters, IsActionWord word
  time : Decimal.HasPlaces 3 (Decimal.fixedText 3 s.time)
  duration : ∀ d ∈ s.duration, Decimal.HasPlaces 3 (Decimal.fixedText 3 d)

/-- `r` is the same step as `s`, with the time and the duration as they are printed. -/
structure IsReprint (s r : PlanStep) : Prop where
  actionName : r.actionName = s.actionName
  parameters : r.parameters = s.parameters
  time : some r.time = Decimal.numeral? (Decimal.fixedText 3 s.time)
  duration : r.duration.map some = s.duration.map fun d => Decimal.numeral? (Decimal.fixedText 3 d)

variable {s : PlanStep}

theorem toList_fullName (s : PlanStep) :
    s.fullName.toList = List.intercalate [' '] ((s.actionName :: s.parameters).map (·.toList)) := by
  rw [fullName, fullActionName, String.toList_intercalate]
  rfl

theorem IsPrintable.words_fullName (printable : s.IsPrintable) :
    (Text.words s.fullName.toList).map String.ofList = s.actionName :: s.parameters := by
  rw [toList_fullName, words_intercalate]
  · simp
  · intro name member
    obtain ⟨word, isWord, rfl⟩ := List.mem_map.mp member
    obtain ⟨nonempty, chars⟩ := printable.words word isWord
    exact ⟨by simpa using nonempty, fun c isChar => (chars c isChar).1⟩

theorem IsPrintable.mem_fullName (printable : s.IsPrintable) {c : Char} (member : c ∈ s.fullName.toList) :
    c = ' ' ∨ isBlank c = false ∧ c ≠ ')' := by
  rw [toList_fullName] at member
  rcases mem_intercalate member with isSpace | ⟨name, isName, inside⟩
  · exact .inl isSpace
  · obtain ⟨word, isWord, rfl⟩ := List.mem_map.mp isName
    exact .inr ((printable.words word isWord).2 c inside)

theorem IsPrintable.mem_lineText (printable : s.IsPrintable) {c : Char} (member : c ∈ s.lineText) :
    c = ' ' ∨ isBlank c = false := by
  have numeral {x : Float} (printed : Decimal.HasPlaces 3 (Decimal.fixedText 3 x))
      (member : c ∈ (Decimal.fixedText 3 x).toList) : c = ' ' ∨ isBlank c = false :=
    .inr (Line.notBlank_of_hasPlaces printed c member)
  have sign {other : Char} (notBlank : isBlank other = false) (same : c = other) : c = ' ' ∨ isBlank c = false :=
    .inr (same ▸ notBlank)
  simp only [lineText, List.mem_append, List.mem_cons] at member
  rcases member with member | same | same | same | member | same | member
  · exact numeral printable.time member
  · exact sign rfl same
  · exact .inl same
  · exact sign rfl same
  · exact (printable.mem_fullName member).imp_right (·.1)
  · exact sign rfl same
  · cases isDuration : s.duration with
    | none => simp [isDuration] at member
    | some d =>
      simp only [isDuration, Option.elim_some, List.mem_cons, List.mem_append, List.not_mem_nil, or_false] at member
      rcases member with same | same | member | same
      · exact .inl same
      · exact sign rfl same
      · exact numeral (printable.duration d isDuration) member
      · exact sign rfl same

theorem IsPrintable.readLine?_lineText (printable : s.IsPrintable) :
    readLine? s.lineText = some ⟨some (Decimal.fixedText 3 s.time).toList, s.actionName :: s.parameters,
      s.duration.map fun d => (Decimal.fixedText 3 d).toList⟩ := by
  have inside : ')' ∉ s.fullName.toList := by
    intro member
    rcases printable.mem_fullName member with same | ⟨-, other⟩
    · exact absurd same (by decide)
    · exact other rfl
  rw [readLine?, lineText, Line.time_of_hasPlaces printable.time]
  simp only [Option.bind_eq_bind, Line.bracketed?_of_not_mem inside, Option.bind_some, printable.words_fullName]
  cases isDuration : s.duration with
  | none => rfl
  | some d =>
    simp only [Option.elim_some, Line.duration_of_hasPlaces (printable.duration d isDuration)]
    rfl

end PlanStep

namespace Plan

section

variable {mark : String} {name : List Char}

theorem trim_marked (mark : String) (nonempty : mark.toList ≠ []) (plain : ∀ c ∈ mark.toList, isBlank c = false)
    (name : List Char) :
    trim (mark.toList ++ ' ' :: name) = mark.toList ++ trimEnd (' ' :: name) := by
  obtain ⟨c, rest, spelled⟩ := List.exists_cons_of_ne_nil nonempty
  have start : trimStart (mark.toList ++ ' ' :: name) = mark.toList ++ ' ' :: name := by
    rw [spelled, List.cons_append, trimStart_cons (plain c (by rw [spelled]; exact .head _))]
  rw [trim, start, trimEnd_append_left (trimEnd_of_notBlank plain)]

theorem afterMark?_append (notBlank : ∀ c ∈ name, isBlank c = false) :
    afterMark? mark (mark.toList ++ trimEnd (' ' :: name)) = some (String.ofList name) := by
  rw [afterMark?, if_pos (by simp), List.drop_left, trim_trimEnd, trim_blank rfl, trim_of_notBlank notBlank]

end

variable (document : Document) (epsilon : Float) {s : PlanStep}

theorem readLine_domainLine {name : String} (notBlank : ∀ c ∈ name.toList, isBlank c = false) (r : Reading) (n : Nat) :
    readLine document epsilon r n (domainMark.toList ++ ' ' :: name.toList) =
      { r with plan := { r.plan with domainName := some name } } := by
  simp only [readLine, trim_marked domainMark (by decide) (notBlank_of_all (by decide)), afterMark?_append notBlank,
    String.ofList_toList]

theorem readLine_problemLine {name : String} (notBlank : ∀ c ∈ name.toList, isBlank c = false) (r : Reading)
    (n : Nat) :
    readLine document epsilon r n (problemMark.toList ++ ' ' :: name.toList) =
      { r with plan := { r.plan with problemName := some name } } := by
  have otherMark : afterMark? domainMark (problemMark.toList ++ trimEnd (' ' :: name.toList)) = none := rfl
  simp only [readLine, trim_marked problemMark (by decide) (notBlank_of_all (by decide)), afterMark?_append notBlank,
    otherMark, String.ofList_toList]

theorem readLine_lineText (printable : s.IsPrintable) (r : Reading) (n : Nat) :
    ∃ step, s.IsReprint step ∧ readLine document epsilon r n s.lineText =
      { r with plan := { r.plan with steps := r.plan.steps ++ [step] } } := by
  obtain ⟨digit, more, spelled, isDigit⟩ := Line.head_of_hasPlaces printable.time
  have first : (trim s.lineText).head? = some digit := by
    rw [PlanStep.lineText, spelled, List.cons_append, trim_head? (isBlank_of_isDigit isDigit)]
  have other : digit ≠ ';' := by
    rintro rfl
    exact absurd isDigit (by decide)
  obtain ⟨line, isLine⟩ := List.head?_eq_some_iff.mp first
  have unmarked {mark : String} (isMark : mark.toList.head? = some ';') : afterMark? mark (trim s.lineText) = none := by
    obtain ⟨rest, isRest⟩ := List.head?_eq_some_iff.mp isMark
    simp [afterMark?, isLine, isRest, Ne.symm other]
  have isStep : ((trim s.lineText).isEmpty || (trim s.lineText).head? == some ';') = false := by
    simp [isLine, other]
  obtain ⟨time, isTime⟩ := Option.isSome_iff_exists.mp (Decimal.numeral?_isSome printable.time)
  refine ⟨⟨time, s.actionName, s.parameters, s.duration.bind fun d => Decimal.numeral? (Decimal.fixedText 3 d), n⟩,
    ⟨rfl, rfl, isTime.symm, ?_⟩, ?_⟩
  · cases isDuration : s.duration with
    | none => rfl
    | some d =>
      obtain ⟨length, isLength⟩ :=
        Option.isSome_iff_exists.mp (Decimal.numeral?_isSome (printable.duration d isDuration))
      simp [isLength]
  · simp only [readLine, unmarked (rfl : domainMark.toList.head? = _), unmarked (rfl : problemMark.toList.head? = _),
      isStep, Bool.false_eq_true, if_false, printable.readLine?_lineText, Line.floatOf?, Option.bind_some,
      String.ofList_toList, isTime, Option.getD_some, Option.bind_map, Function.comp_def]

theorem readLines_cons {lines : List (Nat × List Char)} {line : List Char} {others : List (List Char)}
    (isLines : lines.map (·.2) = line :: others) (r : Reading) (n : Nat) :
    ∃ rest, rest.map (·.2) = others ∧ readLines document epsilon r n lines =
      readLines document epsilon (readLine document epsilon r n line) (n + 1) rest := by
  obtain ⟨⟨_, _⟩, rest, rfl, rfl, isRest⟩ := List.map_eq_cons_iff.mp isLines
  exact ⟨rest, isRest, rfl⟩

theorem readLines_lineText {steps : List PlanStep} (printable : ∀ step ∈ steps, step.IsPrintable)
    {lines : List (Nat × List Char)} (isLines : lines.map (·.2) = steps.map (·.lineText) ++ [[]]) (r : Reading)
    (n : Nat) :
    ∃ read, List.Forall₂ PlanStep.IsReprint steps read ∧ readLines document epsilon r n lines =
      { r with plan := { r.plan with steps := r.plan.steps ++ read } } := by
  induction steps generalizing lines r n with
  | nil =>
    obtain ⟨⟨_, _⟩, rfl, rfl⟩ := List.map_eq_singleton_iff.mp isLines
    refine ⟨[], .nil, ?_⟩
    rw [List.append_nil]
    rfl
  | cons s steps ih =>
    obtain ⟨lines, rest, isRead⟩ := readLines_cons document epsilon isLines r n
    obtain ⟨step, isStep, read⟩ :=
      readLine_lineText document epsilon (printable s (.head _)) r n
    obtain ⟨others, areOthers, readOthers⟩ := ih (fun other member => printable other (.tail _ member)) rest
      { r with plan := { r.plan with steps := r.plan.steps ++ [step] } } (n + 1)
    refine ⟨step :: others, .cons isStep areOthers, ?_⟩
    rw [isRead, read, readOthers]
    simp

theorem lines_snd (d : Document) : d.lines.map (·.2) = (Document.splitLines d.chars).map Document.dropReturn := by
  have offsets (start : Nat) (lines : List (List Char)) : (Document.linesFrom start lines).map (·.2) = lines := by
    induction lines generalizing start with
    | nil => rfl
    | cons line lines ih => rw [Document.linesFrom, List.map_cons, ih]
  rw [Document.lines, List.map_map]
  conv_rhs => rw [← offsets 0 (Document.splitLines d.chars), List.map_map]
  rfl

theorem splitLines_spaced {lines : List (List Char)}
    (spaced : ∀ line ∈ lines, ∀ c ∈ line, c = ' ' ∨ isBlank c = false) :
    (Document.splitLines (lines.flatMap (· ++ ['\n']))).map Document.dropReturn = lines ++ [[]] := by
  induction lines with
  | nil => rfl
  | cons line lines ih =>
    have absent {c : Char} (notSpace : c ≠ ' ') (blank : isBlank c = true) : c ∉ line := by
      intro member
      rcases spaced line (.head _) c member with same | notBlank
      · exact notSpace same
      · rw [notBlank] at blank
        cases blank
    have plain : Document.dropReturn line = line := Token.dropReturn_eq_iff.mpr (.inr ⟨rfl, fun last =>
      absent (by decide) (by decide) (List.mem_of_getLast? last)⟩)
    rw [List.flatMap_cons, List.append_assoc, List.singleton_append,
      Document.splitLines_break (absent (by decide) (by decide)), List.map_cons, plain,
      ih fun other member => spaced other (.tail _ member), List.cons_append]

theorem toList_renderStep (s : PlanStep) : (renderStep s).toList = s.lineText ++ ['\n'] := by
  cases isDuration : s.duration <;> simp [renderStep, PlanStep.lineText, isDuration]

theorem lines_render {domainName problemName : String} {steps : List PlanStep}
    (isDomain : ∀ c ∈ domainName.toList, isBlank c = false) (isProblem : ∀ c ∈ problemName.toList, isBlank c = false)
    (printable : ∀ step ∈ steps, step.IsPrintable) :
    (Document.mk (render domainName problemName steps).toList).lines.map (·.2) =
      (domainMark.toList ++ ' ' :: domainName.toList) :: (problemMark.toList ++ ' ' :: problemName.toList) :: [] ::
        (steps.map (·.lineText) ++ [[]]) := by
  have isText : (render domainName problemName steps).toList =
      ((domainMark.toList ++ ' ' :: domainName.toList) :: (problemMark.toList ++ ' ' :: problemName.toList) :: [] ::
        steps.map (·.lineText)).flatMap (· ++ ['\n']) := by
    simp [render, String.toList_join, List.flatMap_map, toList_renderStep]
  have isMarked {mark name : String} (plain : ∀ c ∈ mark.toList, isBlank c = false)
      (notBlank : ∀ c ∈ name.toList, isBlank c = false) :
      ∀ c ∈ mark.toList ++ ' ' :: name.toList, c = ' ' ∨ isBlank c = false := by
    intro c member
    rw [List.mem_append, List.mem_cons] at member
    rcases member with inMark | isSpace | inName
    · exact .inr (plain c inMark)
    · exact .inl isSpace
    · exact .inr (notBlank c inName)
  rw [lines_snd, isText, splitLines_spaced, List.cons_append, List.cons_append, List.cons_append]
  intro line member
  simp only [List.mem_cons, List.mem_map] at member
  rcases member with rfl | rfl | rfl | ⟨step, isStep, rfl⟩
  · exact isMarked (notBlank_of_all (by decide)) isDomain
  · exact isMarked (notBlank_of_all (by decide)) isProblem
  · simp
  · exact fun c => (printable step isStep).mem_lineText

/-- A plan is read from the text that a planner's outcome is rendered as. -/
theorem rendered_plan_is_read (outcome : PlanningOutcome) (domainName problemName : String) (epsilon : Float)
    (isDomain : ∀ c ∈ domainName.toList, isBlank c = false) (isProblem : ∀ c ∈ problemName.toList, isBlank c = false)
    (printable : ∀ step ∈ outcome.steps, step.IsPrintable) :
    ∃ steps, read ⟨(outcome.render domainName problemName).toList⟩ epsilon =
        ({ domainName := some domainName, problemName := some problemName, steps }, []) ∧
      List.Forall₂ PlanStep.IsReprint outcome.steps steps := by
  have isLines := lines_render isDomain isProblem printable
  rw [PlanningOutcome.render, read]
  generalize Document.mk _ = document at isLines
  obtain ⟨others, areOthers, readDomain⟩ := readLines_cons document epsilon isLines {} 0
  obtain ⟨others, areOthers, readProblem⟩ := readLines_cons document epsilon areOthers
    { plan := { domainName := some domainName } } 1
  obtain ⟨others, areSteps, readEmpty⟩ := readLines_cons document epsilon areOthers
    { plan := { domainName := some domainName, problemName := some problemName } } 2
  obtain ⟨steps, isReprint, readSteps⟩ := readLines_lineText document epsilon printable
    areSteps { plan := { domainName := some domainName, problemName := some problemName } } 3
  have isEmpty (r : Reading) : readLine document epsilon r 2 [] = r := rfl
  refine ⟨steps, ?_, isReprint⟩
  rw [readDomain, readLine_domainLine _ _ isDomain, readProblem, readLine_problemLine _ _ isProblem, readEmpty,
    isEmpty, readSteps]
  rfl

theorem rendered_plan_is_read_timed :
    let outcome : PlanningOutcome :=
      ⟨[⟨0.5, ";;!domain:", ["a(b", "[3]"], some 2.0625, 0⟩, ⟨10, "fly;x", [], none, 0⟩], ""⟩
    outcome.render "d;!" "" = ";;!domain: d;!\n;;!problem: \n\n0.500: (;;!domain: a(b [3]) [2.062]\n10.000: (fly;x)\n" ∧
      ∃ steps, read ⟨(outcome.render "d;!" "").toList⟩ 0.001 =
          ({ domainName := some "d;!", problemName := some "", steps }, []) ∧
        List.Forall₂ PlanStep.IsReprint outcome.steps steps := by
  intro outcome
  have half : Decimal.HasPlaces 3 (Decimal.fixedText 3 0.5) :=
    Decimal.hasPlaces_fixedText (b := ⟨2 ^ 52, -53⟩) (by decide +kernel) 3
  have ten : Decimal.HasPlaces 3 (Decimal.fixedText 3 10) :=
    Decimal.hasPlaces_fixedText (b := ⟨5 * 2 ^ 50, -49⟩) (by decide +kernel) 3
  have sixteenths : Decimal.HasPlaces 3 (Decimal.fixedText 3 2.0625) :=
    Decimal.hasPlaces_fixedText (b := ⟨33 * 2 ^ 47, -51⟩) (by decide +kernel) 3
  refine ⟨by decide +kernel, rendered_plan_is_read outcome "d;!" "" 0.001 (notBlank_of_all (by decide))
    (notBlank_of_all (by decide)) ?_⟩
  intro step isStep
  simp only [outcome, List.mem_cons, List.not_mem_nil, or_false] at isStep
  rcases isStep with rfl | rfl
  · exact ⟨by decide, half, by simpa using sixteenths⟩
  · exact ⟨by decide, ten, by simp⟩

end Plan

end PddlAssist
