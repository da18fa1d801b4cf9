import PddlAssist.Proofs.Text.Case

namespace PddlAssist

open Text

theorem startsWithName_cases {name cs : List Char} (starts : startsWithName name cs = true) :
    ∃ written rest, cs = written ++ rest ∧ written.map Char.toLower = name.map Char.toLower := by
  induction name generalizing cs with
  | nil => exact ⟨[], cs, rfl, rfl⟩
  | cons n name ih =>
    cases cs with
    | nil => cases starts
    | cons c cs =>
      simp only [startsWithName, Bool.and_eq_true, beq_iff_eq] at starts
      obtain ⟨written, rest, rfl, same⟩ := ih starts.2
      exact ⟨c :: written, rest, rfl, by simp [starts.1, same]⟩

theorem startsWithName_append {name written : List Char} (same : written.map Char.toLower = name.map Char.toLower)
    (rest : List Char) : startsWithName name (written ++ rest) = true := by
  induction name generalizing written with
  | nil =>
    rw [List.map_nil, List.map_eq_nil_iff] at same
    rw [same]
    rfl
  | cons n name ih =>
    cases written with
    | nil => simp at same
    | cons c written =>
      rw [List.map_cons, List.map_cons, List.cons.injEq] at same
      simp [startsWithName, same.1, ih same.2]

theorem width_pos {cs : List Char} (nonempty : cs ≠ []) : 0 < width cs := by
  cases cs with
  | nil => exact absurd rfl nonempty
  | cons c cs =>
    have := c.utf8Size_pos
    simp only [width_cons]
    omega

theorem width_of_map_toLower {left right : List Char} (same : left.map Char.toLower = right.map Char.toLower) :
    width left = width right := by
  have lowered (cs : List Char) : width (cs.map Char.toLower) = width cs := by
    induction cs with
    | nil => rfl
    | cons c cs ih => simp [ih]
  rw [← lowered left, same, lowered]

namespace Occurrence

/-- The name stands after `before` as a whole identifier, in scope and outside comments. -/
structure Found (name : List Char) (scope : Span) (head : Head) (before after : List Char) : Prop where
  inScope : scope.start ≤ head.offset + width before ∧ head.offset + width before + width name ≤ scope.stop
  starts : startsWithName name after = true
  begins : joins (before.getLast?.or head.previous) = false
  ends : joins (after.drop name.length).head? = false
  uncommented : before.foldl commentedAfter head.commented = false

theorem found_cons {name : List Char} {scope : Span} {head : Head} {c : Char} {before after : List Char}
    (passing : Nat) :
    Found name scope head (c :: before) after ↔ Found name scope (head.move c passing) before after := by
  have place : head.offset + width (c :: before) = (head.move c passing).offset + width before := by
    simp [Head.move, Nat.add_assoc]
  have previous : (c :: before).getLast?.or head.previous = before.getLast?.or (head.move c passing).previous := by
    cases last : before.getLast? <;> simp [List.getLast?_cons, last, Head.move]
  constructor
  · rintro ⟨inScope, starts, begins, ends, uncommented⟩
    exact ⟨place ▸ inScope, starts, previous ▸ begins, ends, uncommented⟩
  · rintro ⟨inScope, starts, begins, ends, uncommented⟩
    exact ⟨place ▸ inScope, starts, previous ▸ begins, ends, uncommented⟩

def FoundAt (name : List Char) (scope : Span) (head : Head) (cs : List Char) (span : Span) : Prop :=
  ∃ before after, cs = before ++ after ∧ Found name scope head before after ∧
    span = ⟨head.offset + width before, head.offset + width before + width name⟩

theorem foundAt_cons {name : List Char} {scope span : Span} {head : Head} {c : Char} {cs : List Char}
    (passing : Nat) :
    FoundAt name scope head (c :: cs) span ↔
      Found name scope head [] (c :: cs) ∧ span = ⟨head.offset, head.offset + width name⟩ ∨
        FoundAt name scope (head.move c passing) cs span := by
  have place (before : List Char) :
      head.offset + width (c :: before) = (head.move c passing).offset + width before := by
    simp [Head.move, Nat.add_assoc]
  constructor
  · rintro ⟨before, after, whole, found, isSpan⟩
    cases before with
    | nil =>
      rw [List.nil_append] at whole
      exact .inl ⟨whole ▸ found, by simpa using isSpan⟩
    | cons d before =>
      obtain ⟨rfl, rest⟩ := List.cons.inj whole
      exact .inr ⟨before, after, rest, (found_cons passing).mp found, by rw [isSpan, place]⟩
  · rintro (⟨found, isSpan⟩ | ⟨before, after, rest, found, isSpan⟩)
    · exact ⟨[], c :: cs, rfl, found, by simpa using isSpan⟩
    · exact ⟨c :: before, after, by rw [rest, List.cons_append], (found_cons passing).mpr found, by rw [isSpan, place]⟩

/-- Where a match is passed over, the last character and those to come belong to the identifier. -/
def InMatch (head : Head) (cs : List Char) : Prop :=
  0 < head.passing → joins head.previous = true ∧ ∀ c ∈ cs.take head.passing, isIdentifierChar c = true

theorem InMatch.move {head : Head} {c : Char} {cs : List Char} (inMatch : InMatch head (c :: cs))
    (passing : 0 < head.passing) : InMatch (head.move c (head.passing - 1)) cs := by
  intro more
  obtain ⟨_, chars⟩ := inMatch passing
  have taken : (c :: cs).take head.passing = c :: cs.take (head.passing - 1) := by
    obtain ⟨n, isNext⟩ := Nat.exists_eq_succ_of_ne_zero (Nat.ne_of_gt passing)
    rw [isNext]
    rfl
  rw [taken, List.forall_mem_cons] at chars
  exact chars

theorem inMatch_of_startsWithName {name : List Char} (identifier : ∀ c ∈ name, isIdentifierChar c = true)
    {head : Head} {c : Char} {cs : List Char} (starts : startsWithName name (c :: cs) = true) :
    InMatch (head.move c (name.length - 1)) cs := by
  intro more
  obtain ⟨written, rest, whole, same⟩ := startsWithName_cases starts
  have long : written.length = name.length := by simpa using congrArg List.length same
  have chars : ∀ d ∈ written, isIdentifierChar d = true := by
    intro d member
    have lowered : d.toLower ∈ name.map Char.toLower := same ▸ List.mem_map_of_mem member
    obtain ⟨n, inName, isLower⟩ := List.mem_map.mp lowered
    rw [← isIdentifierChar_toLower, ← isLower, isIdentifierChar_toLower]
    exact identifier n inName
  cases written with
  | nil =>
    simp only [Head.move, List.length_nil] at more long
    omega
  | cons d written =>
    obtain ⟨rfl, rfl⟩ := List.cons.inj whole
    rw [List.forall_mem_cons] at chars
    refine ⟨chars.1, ?_⟩
    have taken : (written ++ rest).take (name.length - 1) = written := by
      rw [← long]
      simp
    simpa [Head.move, taken] using chars.2

theorem foundAt_of_mem {name : List Char} {scope span : Span} {head : Head} {cs : List Char}
    (member : span ∈ occurrencesFrom name scope head cs) : FoundAt name scope head cs span := by
  induction cs generalizing head with
  | nil => cases member
  | cons c cs ih =>
    simp only [occurrencesFrom] at member
    split at member
    · exact (foundAt_cons _).mpr (.inr (ih member))
    split at member
    · rename_i here
      split at member
      · exact (foundAt_cons _).mpr (.inr (ih member))
      · rename_i apart
        rcases List.mem_cons.mp member with rfl | later
        · simp only [Bool.or_eq_true, not_or, Bool.not_eq_true] at apart
          refine (foundAt_cons 0).mpr (.inl ⟨⟨?_, here.2.2, apart.1.1, apart.1.2, apart.2⟩, rfl⟩)
          exact ⟨here.1, here.2.1⟩
        · exact (foundAt_cons _).mpr (.inr (ih later))
    · exact (foundAt_cons _).mpr (.inr (ih member))

theorem mem_of_foundAt {name : List Char} (nonempty : name ≠ [])
    (identifier : ∀ c ∈ name, isIdentifierChar c = true) {scope span : Span} {head : Head} {cs : List Char}
    (inMatch : InMatch head cs) (found : FoundAt name scope head cs span) :
    span ∈ occurrencesFrom name scope head cs := by
  induction cs generalizing head with
  | nil =>
    obtain ⟨before, after, whole, here, _⟩ := found
    obtain ⟨rfl, rfl⟩ := List.append_eq_nil_iff.mp whole.symm
    have starts := here.starts
    cases name with
    | nil => exact absurd rfl nonempty
    | cons n name => cases starts
  | cons c cs ih =>
    simp only [occurrencesFrom]
    split
    case isTrue passing =>
      rcases (foundAt_cons (head.passing - 1)).mp found with ⟨first, _⟩ | later
      · have begins := first.begins
        rw [List.getLast?_nil, Option.none_or, (inMatch passing).1] at begins
        cases begins
      · exact ih (inMatch.move passing) later
    case isFalse =>
      split
      case isFalse apart =>
        rcases (foundAt_cons 0).mp found with ⟨first, _⟩ | later
        · have inScope := first.inScope
          rw [width_nil, Nat.add_zero] at inScope
          exact absurd ⟨inScope.1, inScope.2, first.starts⟩ apart
        · exact ih (fun more => by cases more) later
      case isTrue here =>
        have inside : InMatch (head.move c (name.length - 1)) cs := inMatch_of_startsWithName identifier here.2.2
        rcases (foundAt_cons (name.length - 1)).mp found with ⟨first, isSpan⟩ | later
        · have begins : joins head.previous = false := first.begins
          have uncommented : head.commented = false := first.uncommented
          have alone : (joins head.previous || joins ((c :: cs).drop name.length).head? || head.commented) = false := by
            rw [begins, first.ends, uncommented]
            rfl
          rw [alone, isSpan]
          exact .head _
        · have member := ih inside later
          split
          · exact member
          · exact .tail _ member

theorem mem_occurrencesFrom {name : List Char} (nonempty : name ≠ [])
    (identifier : ∀ c ∈ name, isIdentifierChar c = true) {scope span : Span} {head : Head} {cs : List Char}
    (inMatch : InMatch head cs) :
    span ∈ occurrencesFrom name scope head cs ↔ FoundAt name scope head cs span :=
  ⟨foundAt_of_mem, mem_of_foundAt nonempty identifier inMatch⟩

theorem occurrencesFrom_sorted (name : List Char) (scope : Span) (head : Head) (cs : List Char) :
    (∀ span ∈ occurrencesFrom name scope head cs, head.offset ≤ span.start) ∧
      (occurrencesFrom name scope head cs).Pairwise fun left right => left.start < right.start := by
  induction cs generalizing head with
  | nil => exact ⟨by simp [occurrencesFrom], by simp [occurrencesFrom]⟩
  | cons c cs ih =>
    have moved (passing : Nat) :
        (∀ span ∈ occurrencesFrom name scope (head.move c passing) cs, head.offset < span.start) ∧
          (occurrencesFrom name scope (head.move c passing) cs).Pairwise fun left right => left.start < right.start := by
      obtain ⟨later, sorted⟩ := ih (head.move c passing)
      refine ⟨fun span member => ?_, sorted⟩
      have bound := later span member
      have := c.utf8Size_pos
      simp only [Head.move] at bound
      omega
    have further (passing : Nat) :
        (∀ span ∈ occurrencesFrom name scope (head.move c passing) cs, head.offset ≤ span.start) ∧
          (occurrencesFrom name scope (head.move c passing) cs).Pairwise fun left right => left.start < right.start :=
      ⟨fun span member => Nat.le_of_lt ((moved passing).1 span member), (moved passing).2⟩
    simp only [occurrencesFrom]
    split
    · exact further _
    split
    · split
      · exact further _
      · rw [List.forall_mem_cons, List.pairwise_cons]
        exact ⟨⟨Nat.le_refl _, (further _).1⟩, (moved _).1, (moved _).2⟩
    · exact further _

/-- The search passes over the rest of a match before it looks for the next one. -/
theorem le_start_of_mem {name : List Char} {scope span : Span} {head : Head} {cs : List Char}
    (member : span ∈ occurrencesFrom name scope head cs) : head.offset + width (cs.take head.passing) ≤ span.start := by
  induction cs generalizing head with
  | nil => cases member
  | cons c cs ih =>
    have moved {passing : Nat} (later : span ∈ occurrencesFrom name scope (head.move c passing) cs) :
        head.offset + width ((c :: cs).take (passing + 1)) ≤ span.start := by
      simpa [Head.move, Nat.add_assoc] using ih later
    simp only [occurrencesFrom] at member
    split at member
    · rename_i passing
      rw [← Nat.sub_add_cancel passing]
      exact moved member
    · rename_i still
      rw [Nat.eq_zero_of_not_pos still, List.take_zero, width_nil, Nat.add_zero]
      split at member
      · split at member
        · exact Nat.le_of_add_right_le (moved member)
        · rcases List.mem_cons.mp member with rfl | later
          · exact Nat.le_refl _
          · exact Nat.le_of_add_right_le (moved later)
      · exact Nat.le_of_add_right_le (moved member)

theorem occurrencesFrom_apart {name : List Char} (nonempty : name ≠ []) (scope : Span) (head : Head) (cs : List Char) :
    (occurrencesFrom name scope head cs).Pairwise fun left right => left.stop ≤ right.start := by
  induction cs generalizing head with
  | nil => exact .nil
  | cons c cs ih =>
    simp only [occurrencesFrom]
    split
    · exact ih _
    split
    · rename_i here
      split
      · exact ih _
      · refine List.pairwise_cons.mpr ⟨fun span later => ?_, ih _⟩
        obtain ⟨written, rest, whole, same⟩ := startsWithName_cases here.2.2
        have long : written.length = name.length := by simpa using congrArg List.length same
        have bound := le_start_of_mem later
        have isWritten : c :: cs.take (name.length - 1) = written := by
          rw [← List.take_succ_cons, Nat.sub_add_cancel (List.length_pos_iff.mpr nonempty), whole, ← long, List.take_left]
        have wide := congrArg width isWritten
        rw [width_of_map_toLower same, width_cons] at wide
        simp only [Head.move] at bound
        show head.offset + width name ≤ span.start
        omega
    · exact ih _

end Occurrence

/-- A name is written at a place of a text: in any case, as a whole identifier and outside comments. -/
def IsWritten (cs : List Char) (name : String) (place : Nat) : Prop :=
  ∃ before written after, cs = before ++ (written ++ after) ∧ place = width before ∧
    written.map Char.toLower = name.toList.map Char.toLower ∧ joins before.getLast? = false ∧
    joins after.head? = false ∧ isCommented cs place = false

theorem IsWritten.isBoundary {cs : List Char} {name : String} {place : Nat} (isWritten : IsWritten cs name place) :
    IsBoundary cs place := by
  obtain ⟨before, written, after, whole, isPlace, _⟩ := isWritten
  exact ⟨before, written ++ after, whole, isPlace.symm⟩

theorem ne_nil_of_mem_occurrences {name : String} {cs : List Char} {scope span : Span}
    (found : span ∈ occurrences cs scope name) : name.toList ≠ [] := by
  intro empty
  rw [String.toList_eq_nil_iff] at empty
  simp [occurrences, empty] at found

theorem isBoundary_of_mem_occurrences {name : String} {cs : List Char} {scope span : Span}
    (found : span ∈ occurrences cs scope name) : IsBoundary cs span.start := by
  rw [occurrences] at found
  split at found
  · cases found
  · obtain ⟨before, after, whole, -, rfl⟩ := Occurrence.foundAt_of_mem found
    exact ⟨before, after, whole, (Nat.zero_add _).symm⟩

theorem within_of_mem_occurrences {name : String} {cs : List Char} {scope span : Span}
    (found : span ∈ occurrences cs scope name) : scope.stop ≤ width cs := by
  rw [occurrences] at found
  split at found
  · cases found
  · rename_i searched
    simp only [not_or, Nat.not_lt] at searched
    exact searched.2.1

section

variable {name : String} (nonempty : name.toList ≠ []) (identifier : ∀ c ∈ name.toList, isIdentifierChar c = true)
  {cs : List Char} {span : Span}
include nonempty identifier

theorem mem_occurrences_foundAt {scope : Span} (within : scope.stop ≤ width cs) :
    span ∈ occurrences cs scope name ↔ Occurrence.FoundAt name.toList scope ⟨0, none, false, 0⟩ cs span := by
  have found := @Occurrence.mem_occurrencesFrom name.toList nonempty identifier scope span ⟨0, none, false, 0⟩ cs
    (fun passing => by cases passing)
  have notEmpty : ¬name.isEmpty = true := by simpa [String.isEmpty_iff] using nonempty
  have notAfter : ¬scope.stop > width cs := Nat.not_lt.mpr within
  simp only [occurrences, notEmpty, notAfter, Bool.false_eq_true, false_or]
  split
  case isTrue nothing =>
    constructor
    · intro member
      cases member
    · rintro ⟨before, after, _, here, _⟩
      have positive := width_pos nonempty
      have inScope := here.inScope
      omega
  case isFalse => exact found

theorem mem_occurrences :
    span ∈ occurrences cs ⟨0, width cs⟩ name ↔
      ∃ before after, cs = before ++ after ∧ startsWithName name.toList after = true ∧
        joins before.getLast? = false ∧ joins (after.drop name.toList.length).head? = false ∧
        before.foldl commentedAfter false = false ∧
        span = ⟨width before, width before + width name.toList⟩ := by
  rw [mem_occurrences_foundAt nonempty identifier (Nat.le_refl _)]
  constructor
  · rintro ⟨before, after, whole, here, isSpan⟩
    exact ⟨before, after, whole, here.starts, by simpa using here.begins, here.ends, here.uncommented,
      by simpa using isSpan⟩
  · rintro ⟨before, after, rfl, starts, begins, ends, uncommented, isSpan⟩
    obtain ⟨written, rest, rfl, same⟩ := startsWithName_cases starts
    have fits := width_of_map_toLower same
    refine ⟨before, written ++ rest, rfl, ⟨?_, starts, by simpa using begins, ends, uncommented⟩, by simpa using isSpan⟩
    simp only [width_append, Nat.zero_add]
    omega

theorem mem_occurrences_iff {scope : Span} (within : scope.stop ≤ width cs) :
    span ∈ occurrences cs scope name ↔ IsWritten cs name span.start ∧
      span.stop = span.start + width name.toList ∧ scope.start ≤ span.start ∧ span.stop ≤ scope.stop := by
  rw [mem_occurrences_foundAt nonempty identifier within]
  constructor
  · rintro ⟨before, after, rfl, here, rfl⟩
    obtain ⟨written, rest, rfl, same⟩ := startsWithName_cases here.starts
    have long : written.length = name.toList.length := by simpa using congrArg List.length same
    have ends := here.ends
    rw [← long, List.drop_left] at ends
    refine ⟨⟨before, written, rest, rfl, Nat.zero_add _, same, by simpa using here.begins, ends, ?_⟩, rfl,
      here.inScope⟩
    rw [Nat.zero_add, isCommented, takeBytes_width]
    exact here.uncommented
  · rintro ⟨⟨before, written, rest, rfl, isPlace, same, begins, ends, uncommented⟩, isStop, inScope⟩
    have long : written.length = name.toList.length := by simpa using congrArg List.length same
    rw [isPlace, isCommented, takeBytes_width] at uncommented
    refine ⟨before, written ++ rest, rfl, ⟨?_, startsWithName_append same rest, by simpa using begins, ?_, uncommented⟩, ?_⟩
    · rwa [Nat.zero_add, ← isPlace, ← isStop]
    · rwa [← long, List.drop_left]
    · rw [Nat.zero_add, ← isPlace, ← isStop]

end

theorem occurrences_sorted (cs : List Char) (scope : Span) (name : String) :
    (occurrences cs scope name).Pairwise fun left right => left.start < right.start := by
  simp only [occurrences]
  split
  · exact .nil
  · exact (Occurrence.occurrencesFrom_sorted _ _ _ _).2

theorem occurrences_disjoint (cs : List Char) (scope : Span) (name : String) :
    (occurrences cs scope name).Pairwise fun left right => left.stop ≤ right.start := by
  simp only [occurrences]
  split
  case isTrue => exact .nil
  case isFalse searched =>
    refine Occurrence.occurrencesFrom_apart (fun empty => searched (.inl ?_)) _ _ _
    rw [String.isEmpty_iff, ← String.toList_eq_nil_iff, empty]

end PddlAssist
