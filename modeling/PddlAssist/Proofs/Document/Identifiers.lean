import Mathlib.Data.List.Basic
import Mathlib.Data.List.Induction
import PddlAssist.Proofs.Document.Occurrence
import PddlAssist.Proofs.Text.Encoding

namespace PddlAssist

open Text

/-- An ASCII letter or digit, or one of the other bytes that identifiers are made of. -/
def isIdentifierByte (b : UInt8) : Bool :=
  '0'.toUInt8 ≤ b && b ≤ '9'.toUInt8 || 'A'.toUInt8 ≤ b && b ≤ 'Z'.toUInt8 || 'a'.toUInt8 ≤ b && b ≤ 'z'.toUInt8 ||
    b == '-'.toUInt8 || b == '_'.toUInt8 || b == '?'.toUInt8 || b == ':'.toUInt8 || b == '.'.toUInt8

/-- A name stands at a span of a text: in any case, between bytes that are of no identifier, and with no semicolon
before it on its line. -/
def StandsAt (text name : Bytes) (span : Span) : Prop :=
  ∃ before written after, text = before ++ (written ++ after) ∧ span.start = before.length ∧
    span.stop = before.length + written.length ∧ written.map lowerByte = name.map lowerByte ∧
    (∀ b ∈ before.getLast?, isIdentifierByte b = false) ∧ (∀ b ∈ after.head?, isIdentifierByte b = false) ∧
    ∀ earlier later, before = earlier ++ ';'.toUInt8 :: later → '\n'.toUInt8 ∈ later

theorem isIdentifierByte_of_le {b : UInt8} (high : 0x80 ≤ b.toNat) : isIdentifierByte b = false := by
  have noByte : ∀ n < 256, 128 ≤ n → isIdentifierByte (UInt8.ofNat n) = false := by decide +kernel
  have here := noByte b.toNat b.toNat_lt high
  rwa [UInt8.ofNat_toNat] at here

theorem isIdentifierByte_of_mem {c : Char} {b : UInt8} (member : b ∈ String.utf8EncodeChar c) :
    isIdentifierByte b = isIdentifierChar c := by
  by_cases wide : 0x80 ≤ c.toNat
  · have apart {d : Char} (ascii : d.toNat < 0x80) : c ≠ d := by
      rintro rfl
      omega
    have noLetter : c.isAlpha = false := Bool.eq_false_iff.mpr fun letter => by
      have := (isAlpha_iff c).mp letter
      omega
    have noDigit : c.isDigit = false := Bool.eq_false_iff.mpr fun digit => by
      have := (isDigit_iff c).mp digit
      omega
    rw [isIdentifierByte_of_le (le_of_mem_utf8EncodeChar wide member), isIdentifierChar, Char.isAlphanum, noLetter,
      noDigit, beq_false_of_ne (apart (d := '-') (by decide)), beq_false_of_ne (apart (d := '_') (by decide)),
      beq_false_of_ne (apart (d := '?') (by decide)), beq_false_of_ne (apart (d := ':') (by decide)),
      beq_false_of_ne (apart (d := '.') (by decide))]
    rfl
  · have asciiByte : ∀ n < 128, isIdentifierByte (UInt8.ofNat n) = isIdentifierChar (Char.ofNat n) := by decide
    have here := asciiByte c.toNat (Nat.lt_of_not_le wide)
    rw [utf8EncodeChar_ascii (Nat.lt_of_not_le wide), List.mem_singleton] at member
    rw [member, here, Char.ofNat_toNat]

theorem joins_getLast?_iff (cs : List Char) :
    joins cs.getLast? = false ↔ ∀ b ∈ (encode cs).getLast?, isIdentifierByte b = false := by
  rcases List.eq_nil_or_concat' cs with rfl | ⟨cs, c, rfl⟩
  · simp [joins, encode]
  · have bytes : encode (cs ++ [c]) = encode cs ++ String.utf8EncodeChar c := by simp [encode]
    have last := List.getLast?_eq_some_getLast (l := String.utf8EncodeChar c) String.utf8EncodeChar_ne_nil
    rw [bytes, List.getLast?_concat, List.getLast?_append, last, Option.some_or]
    simp [joins, isIdentifierByte_of_mem (List.getLast_mem _)]

theorem joins_head?_iff (cs : List Char) :
    joins cs.head? = false ↔ ∀ b ∈ (encode cs).head?, isIdentifierByte b = false := by
  cases cs with
  | nil => simp [joins, encode]
  | cons c cs =>
    have first := List.head?_eq_some_head (l := String.utf8EncodeChar c) String.utf8EncodeChar_ne_nil
    rw [encode_cons, List.head?_append, first, Option.some_or]
    simp [joins, isIdentifierByte_of_mem (List.head_mem _)]

theorem commented_iff (cs : List Char) :
    cs.foldl commentedAfter false = true ↔ ∃ earlier later, cs = earlier ++ ';' :: later ∧ '\n' ∉ later := by
  induction cs using List.reverseRecOn with
  | nil => simp
  | append_singleton cs c ih =>
    rw [List.foldl_append, List.foldl_cons, List.foldl_nil, commentedAfter]
    constructor
    · intro commented
      split at commented
      · cases commented
      · rename_i inLine
        rcases Bool.or_eq_true_iff.mp commented with already | opens
        · obtain ⟨earlier, later, rfl, noBreak⟩ := ih.mp already
          exact ⟨earlier, later ++ [c], by simp, by simp [noBreak, Ne.symm inLine]⟩
        · exact ⟨cs, [], by rw [beq_iff_eq.mp opens], by simp⟩
    · rintro ⟨earlier, later, whole, noBreak⟩
      rcases List.eq_nil_or_concat' later with rfl | ⟨later, last, rfl⟩
      · obtain ⟨-, isLast⟩ := List.append_inj' whole rfl
        simp [List.singleton_inj.mp isLast]
      · rw [← List.cons_append, ← List.append_assoc] at whole
        obtain ⟨rfl, isLast⟩ := List.append_inj' whole rfl
        obtain rfl := List.singleton_inj.mp isLast
        simp only [List.mem_append, List.mem_singleton, not_or] at noBreak
        rw [if_neg (Ne.symm noBreak.2), ih.mpr ⟨earlier, later, rfl, noBreak.1⟩, Bool.true_or]

theorem uncommented_iff (cs : List Char) : cs.foldl commentedAfter false = false ↔
    ∀ earlier later, encode cs = earlier ++ ';'.toUInt8 :: later → '\n'.toUInt8 ∈ later := by
  rw [← Bool.not_eq_true, commented_iff]
  constructor
  · intro uncommented earlier later split
    obtain ⟨before, after, whole, -, rfl⟩ := (encode_eq_append_cons_iff (c := ';') (by decide)).mp split
    refine (mem_encode_iff (c := '\n') (by decide)).mpr (Classical.byContradiction fun noBreak => ?_)
    exact uncommented ⟨before, after, whole, noBreak⟩
  · rintro uncommented ⟨earlier, later, rfl, noBreak⟩
    have bytes : encode (earlier ++ ';' :: later) = encode earlier ++ ';'.toUInt8 :: encode later := by
      rw [encode_append, encode_cons]
      rfl
    exact noBreak ((mem_encode_iff (by decide)).mp (uncommented _ _ bytes))

section

variable {cs : List Char} {scope span : Span} {name : String}

theorem standsAt_of_mem (member : span ∈ occurrences cs scope name) :
    StandsAt (encode cs) (encode name.toList) span ∧ scope.start ≤ span.start ∧ span.stop ≤ scope.stop := by
  rw [occurrences] at member
  split at member
  · cases member
  obtain ⟨before, after, rfl, found, rfl⟩ := Occurrence.foundAt_of_mem member
  obtain ⟨written, rest, rfl, same⟩ := startsWithName_cases found.starts
  have long : written.length = name.toList.length := by simpa using congrArg List.length same
  have ends := found.ends
  rw [← long, List.drop_left] at ends
  refine ⟨⟨encode before, encode written, encode rest, ?_, ?_, ?_, ?_, ?_, ?_, ?_⟩, found.inScope⟩
  · rw [encode_append, encode_append]
  · rw [length_encode, Nat.zero_add]
  · rw [length_encode, length_encode, Nat.zero_add, width_of_map_toLower same]
  · rw [← encode_map_toLower, same, encode_map_toLower]
  · exact (joins_getLast?_iff before).mp (by simpa using found.begins)
  · exact (joins_head?_iff rest).mp ends
  · exact (uncommented_iff before).mp found.uncommented

theorem isWritten_of_standsAt (identifier : ∀ b ∈ encode name.toList, isIdentifierByte b = true)
    (nonempty : name.toList ≠ []) (stands : StandsAt (encode cs) (encode name.toList) span) :
    IsWritten cs name span.start ∧ span.stop = span.start + width name.toList := by
  obtain ⟨before, written, after, whole, isStart, isStop, same, begins, ends, uncommented⟩ := stands
  have ascii : ∀ c ∈ name.toList, c.toNat < 0x80 := by
    intro c member
    refine Nat.lt_of_not_le fun wide => ?_
    obtain ⟨b, isByte⟩ := List.exists_mem_of_ne_nil _ (String.utf8EncodeChar_ne_nil (c := c))
    have isIdentifier := identifier b (List.mem_flatMap.mpr ⟨c, member, isByte⟩)
    rw [isIdentifierByte_of_le (le_of_mem_utf8EncodeChar wide isByte)] at isIdentifier
    cases isIdentifier
  -- the first letter of the name is a character of the text, so the name does not begin inside one
  obtain ⟨n, letters, isName⟩ := List.exists_cons_of_ne_nil nonempty
  have spelled := same
  rw [isName, encode_cons, utf8EncodeChar_ascii (ascii n (by simp [isName])), List.singleton_append, List.map_cons]
    at spelled
  obtain ⟨b, written, rfl, isFirst, -⟩ := List.map_eq_cons_iff.mp spelled
  obtain ⟨head, c, tail, rfl, rfl, isTail, -⟩ := letter_of_encode (ascii n (by simp [isName])) isFirst whole
  have ahead : encode (c :: tail) = b :: written ++ after := by
    rw [encode_append] at whole
    exact List.append_cancel_left whole
  obtain ⟨word, rest, isWord, rfl, sameWord⟩ := spelled_of_encode ascii ahead same
  rw [length_encode] at isStart
  have long : (b :: written).length = width name.toList := by
    rw [← length_encode, ← List.length_map lowerByte, same, List.length_map]
  refine ⟨⟨head, word, rest, by rw [isWord], isStart, sameWord, (joins_getLast?_iff head).mpr begins,
    (joins_head?_iff rest).mpr ends, ?_⟩, ?_⟩
  · rw [isCommented, isStart, takeBytes_width]
    exact (uncommented_iff head).mpr uncommented
  · rw [isStop, length_encode, isStart, long]

end

/-- A search finds a name one place after the other, and only where it stands in the scope. A name of identifier bytes
is found wherever it stands there. -/
theorem identifiers_are_found {cs : List Char} {scope : Span} (within : scope.stop ≤ width cs) {name : String}
    (nonempty : name ≠ "") :
    (occurrences cs scope name).Pairwise (fun left right => left.start < right.start ∧ left.stop ≤ right.start) ∧
      (∀ span ∈ occurrences cs scope name,
        StandsAt (encode cs) (encode name.toList) span ∧ scope.start ≤ span.start ∧ span.stop ≤ scope.stop) ∧
      ((∀ b ∈ encode name.toList, isIdentifierByte b = true) → ∀ span, span ∈ occurrences cs scope name ↔
        StandsAt (encode cs) (encode name.toList) span ∧ scope.start ≤ span.start ∧ span.stop ≤ scope.stop) := by
  have letters : name.toList ≠ [] := fun empty => nonempty (String.toList_eq_nil_iff.mp empty)
  refine ⟨(occurrences_sorted cs scope name).and (occurrences_disjoint cs scope name), fun span => standsAt_of_mem,
    fun identifier span => ⟨standsAt_of_mem, fun ⟨stands, inScope⟩ => ?_⟩⟩
  have chars : ∀ c ∈ name.toList, isIdentifierChar c = true := by
    intro c member
    obtain ⟨b, isByte⟩ := List.exists_mem_of_ne_nil _ (String.utf8EncodeChar_ne_nil (c := c))
    rw [← isIdentifierByte_of_mem isByte]
    exact identifier b (List.mem_flatMap.mpr ⟨c, member, isByte⟩)
  obtain ⟨isWritten, isStop⟩ := isWritten_of_standsAt identifier letters stands
  exact (mem_occurrences_iff letters chars within).mpr ⟨isWritten, isStop, inScope⟩

theorem identifiers_are_found_mixed :
    let cs := "ö(At ?at) at-x ; at\nat".toList
    23 ≤ width cs ∧ "at" ≠ "" ∧ ∀ span,
      StandsAt (encode cs) (encode "at".toList) span ∧ 2 ≤ span.start ∧ span.stop ≤ 23 ↔
        span = ⟨3, 5⟩ ∨ span = ⟨21, 23⟩ := by
  intro cs
  have within : (⟨2, 23⟩ : Span).stop ≤ width cs := by decide
  have nonempty : "at" ≠ "" := by decide
  have found : occurrences cs ⟨2, 23⟩ "at" = [⟨3, 5⟩, ⟨21, 23⟩] := by decide
  have identifier : (encode "at".toList).all isIdentifierByte = true := by decide
  refine ⟨within, nonempty, fun span => ?_⟩
  rw [← (identifiers_are_found within nonempty).2.2 (List.all_eq_true.mp identifier) span, found]
  simp

end PddlAssist
