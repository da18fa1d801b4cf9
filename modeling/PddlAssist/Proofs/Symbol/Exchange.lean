import PddlAssist.Proofs.Reading.Renaming
import PddlAssist.Proofs.Symbol.Edit

namespace PddlAssist

open Text

namespace Symbol

/-- The valid names that mean something when a bracket has them. -/
def takenNames : List String := ["at", "define", "domain", "problem", "either", "not"]

/-- A name that a variable can have. -/
structure IsFreeName (name : String) : Prop where
  valid : isValidName name = true
  free : ∀ word ∈ takenNames, sameName name word = false

/-- A text in which a name can be exchanged for another: the new name is no word of it, and no word goes on
loosely after one of the two. -/
structure Admits (name newName : String) (cs : List Char) : Prop where
  new : ∀ t ∈ Token.scan cs, t.kind = .word → sameName t.text newName = false
  strict : Strict name cs
  strictNew : Strict newName cs

instance (name : String) : Decidable (IsFreeName name) :=
  decidable_of_iff (isValidName name = true ∧ ∀ word ∈ takenNames, sameName name word = false)
    ⟨fun ⟨valid, free⟩ => ⟨valid, free⟩, fun ⟨valid, free⟩ => ⟨valid, free⟩⟩

instance (name newName : String) (cs : List Char) : Decidable (Admits name newName cs) :=
  decidable_of_iff ((∀ t ∈ Token.scan cs, t.kind = .word → sameName t.text newName = false) ∧
      Strict name cs ∧ Strict newName cs)
    ⟨fun ⟨new, strict, strictNew⟩ => ⟨new, strict, strictNew⟩,
      fun ⟨new, strict, strictNew⟩ => ⟨new, strict, strictNew⟩⟩

theorem IsFreeName.of_sameName {name other : String} (free : IsFreeName name) (same : sameName other name = true) :
    IsFreeName other := by
  refine ⟨isValidName_of_sameName same free.valid, fun word taken => ?_⟩
  rw [sameName, sameName_iff.mp same, ← sameName, free.free word taken]

theorem IsFreeName.isPlainName {name : String} (free : IsFreeName name) : IsPlainName name := by
  intro word reserved
  have known : word ∈ takenNames ∨ isValidName word = false := by
    revert word
    decide
  rcases known with taken | invalid
  · exact free.free word taken
  · cases same : sameName name word with
    | false => rfl
    | true =>
      rw [sameName_comm] at same
      rw [isValidName_of_sameName same free.valid] at invalid
      cases invalid

theorem beginsLoosely_of_isValidName (name : String) {text : String} (valid : isValidName text = true) :
    beginsLoosely name text = false := by
  have joined : (text.toList.drop name.toList.length).head?.any (!isIdentifierChar ·) = false := by
    cases first : (text.toList.drop name.toList.length).head? with
    | none => rfl
    | some c =>
      have member : c ∈ text.toList := List.mem_of_mem_drop (List.mem_of_mem_head? first)
      simp [isIdentifierChar_of_isValidName valid c member]
  rw [beginsLoosely, joined, Bool.and_false]

end Symbol

namespace Token

theorem mem_renameFrom {rename : String → String} {start : Nat} {awaited : Bool} {tokens : List Token} {u : Token}
    (member : u ∈ renameFrom rename start awaited tokens) :
    ∃ t ∈ tokens, u.kind = t.kind ∧ (u.text = t.text ∨ u.text = rename t.text) := by
  induction tokens generalizing start awaited with
  | nil => cases member
  | cons t rest ih =>
    rcases List.mem_cons.mp member with rfl | later
    · refine ⟨t, List.mem_cons_self, rfl, ?_⟩
      dsimp only
      split
      · exact .inr rfl
      · exact .inl rfl
    · obtain ⟨t, isRest, same⟩ := ih later
      exact ⟨t, List.mem_cons_of_mem _ isRest, same⟩

theorem namesFrom_renameFrom (rename : String → String) (start : Nat) (awaited : Bool) (tokens : List Token) :
    (namesFrom awaited (renameFrom rename start awaited tokens)).map text =
      (namesFrom awaited tokens).map fun t => rename t.text := by
  induction tokens generalizing start awaited with
  | nil => rfl
  | cons t rest ih =>
    have awaits {kind : TokenKind} {word word' : String} {place place' : Nat} :
        (Token.mk kind word place).awaits awaited = (Token.mk kind word' place').awaits awaited := rfl
    obtain ⟨kind, word, place⟩ := t
    simp only [renameFrom, namesFrom]
    cases isName : awaited && kind.isWord with
    | false =>
      simp only [Bool.false_eq_true, if_false]
      rw [awaits, ih]
    | true =>
      simp only [if_true, List.map_cons]
      rw [awaits, ih]

theorem kind_of_sameName {cs : List Char} {t : Token} (isName : t ∈ namesFrom false (scan cs)) {name : String}
    (valid : Symbol.isValidName name = true) (same : sameName t.text name = true) :
    t ∈ scan cs ∧ t.kind = .word := by
  have member := (namesFrom_sublist false _).subset isName
  obtain ⟨_, _, _, _, leads, _⟩ := mem_scan member
  exact ⟨member, leads.kind_of_isValidName (isWord_of_mem_namesFrom isName)
    (Symbol.isValidName_of_sameName same valid)⟩

end Token

namespace Symbol

variable {name newName : String} {cs : List Char}

theorem exchange_cases (name newName text : String) :
    sameName text name = true ∧ exchange name newName text = newName ∨
      sameName text name = false ∧ exchange name newName text = text := by
  rw [exchange]
  cases same : sameName text name with
  | true => exact .inl ⟨rfl, if_pos rfl⟩
  | false => exact .inr ⟨rfl, if_neg Bool.false_ne_true⟩

theorem sameName_congr {a b : String} (same : sameName a b = true) (other : String) :
    sameName a other = sameName b other := by
  rw [sameName, sameName_iff.mp same, ← sameName]

namespace Admits

theorem new_of_isName (admits : Admits name newName cs) (valid : isValidName newName = true) {text : String}
    (isName : Token.IsName (Token.scan cs) text) : sameName text newName = false := by
  obtain ⟨t, isName, rfl⟩ := isName
  cases same : sameName t.text newName with
  | false => rfl
  | true =>
    obtain ⟨member, kind⟩ := Token.kind_of_sameName isName valid same
    rw [admits.new t member kind] at same
    cases same

theorem harmless (admits : Admits name newName cs) (free : IsFreeName name) (freeNew : IsFreeName newName) :
    Harmless (exchange name newName) cs where
  exchanges t _ := by
    rcases exchange_cases name newName t.text with ⟨same, isNew⟩ | ⟨_, kept⟩
    · refine .inr ⟨isValidName_of_sameName same free.valid, ?_⟩
      rw [isNew]
      exact freeNew.valid
    · exact .inl kept
  plain text _ := by
    rcases exchange_cases name newName text with ⟨same, isNew⟩ | ⟨_, kept⟩
    · refine .inr ⟨(free.of_sameName same).isPlainName, ?_⟩
      rw [isNew]
      exact freeNew.isPlainName
    · exact .inl kept
  distinct left right isLeft isRight := by
    have newLeft := admits.new_of_isName freeNew.valid isLeft
    have newRight := admits.new_of_isName freeNew.valid isRight
    rcases exchange_cases name newName left with ⟨same, isNew⟩ | ⟨differs, kept⟩ <;>
      rcases exchange_cases name newName right with ⟨same', isNew'⟩ | ⟨differs', kept'⟩
    · rw [isNew, isNew', sameName_refl, sameName_congr same, sameName_comm, same']
    · rw [isNew, kept', sameName_comm newName, newRight, sameName_congr same, sameName_comm, differs']
    · rw [kept, isNew', newLeft, sameName_comm left, sameName_congr same', sameName_comm, differs]
    · rw [kept, kept']

theorem scan_renamedText (admits : Admits name newName cs) (free : IsFreeName name) (freeNew : IsFreeName newName) :
    Token.scan (renamedText (exchange name newName) cs) =
      Token.renameFrom (exchange name newName) 0 false (Token.scan cs) :=
  (Tree.build_renamed (admits.harmless free freeNew).exchanges).1

theorem strict_renamedText (admits : Admits name newName cs) (free : IsFreeName name) (freeNew : IsFreeName newName)
    {other : String} (strict : Strict other cs) : Strict other (renamedText (exchange name newName) cs) := by
  intro u member kind
  rw [admits.scan_renamedText free freeNew] at member
  obtain ⟨t, isOld, sameKind, same | same⟩ := Token.mem_renameFrom member
  · rw [same]
    exact strict t isOld (sameKind ▸ kind)
  · rw [same]
    rcases exchange_cases name newName t.text with ⟨_, isNew⟩ | ⟨_, kept⟩
    · rw [isNew]
      exact beginsLoosely_of_isValidName other freeNew.valid
    · rw [kept]
      exact strict t isOld (sameKind ▸ kind)

theorem length_namedTokens (admits : Admits name newName cs) (free : IsFreeName name)
    (freeNew : IsFreeName newName) (other : String) :
    (namedTokens other (renamedText (exchange name newName) cs)).length =
      (Token.namesFrom false (Token.scan cs)).countP fun t => sameName (exchange name newName t.text) other := by
  have names := Token.namesFrom_renameFrom (exchange name newName) 0 false (Token.scan cs)
  have counted := congrArg (List.countP (sameName · other)) names
  rw [List.countP_map, List.countP_map] at counted
  rw [namedTokens, ← List.countP_eq_length_filter, admits.scan_renamedText free freeNew]
  exact counted

theorem length_namedTokens_new (admits : Admits name newName cs) (free : IsFreeName name)
    (freeNew : IsFreeName newName) :
    (namedTokens newName (renamedText (exchange name newName) cs)).length = (namedTokens name cs).length := by
  rw [admits.length_namedTokens free freeNew, namedTokens, ← List.countP_eq_length_filter]
  refine List.countP_congr fun t isName => ?_
  rcases exchange_cases name newName t.text with ⟨same, isNew⟩ | ⟨differs, kept⟩
  · rw [isNew, sameName_refl, same]
  · rw [kept, admits.new_of_isName freeNew.valid ⟨t, isName, rfl⟩, differs]

theorem namedTokens_old (admits : Admits name newName cs) (free : IsFreeName name) (freeNew : IsFreeName newName)
    (differ : sameName name newName = false) : namedTokens name (renamedText (exchange name newName) cs) = [] := by
  rw [← List.length_eq_zero_iff, admits.length_namedTokens free freeNew, List.countP_eq_zero]
  intro t _
  rcases exchange_cases name newName t.text with ⟨_, isNew⟩ | ⟨differs, kept⟩
  · rw [isNew, sameName_comm, differ]
    exact Bool.false_ne_true
  · rw [kept, differs]
    exact Bool.false_ne_true

end Admits
end Symbol
end PddlAssist
