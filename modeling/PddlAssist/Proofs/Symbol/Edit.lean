import PddlAssist.Proofs.Document.Position
import PddlAssist.Proofs.Symbol.Places
import PddlAssist.Proofs.Tree.Renaming

namespace PddlAssist

open Text

def splice (cs : List Char) (span : Span) (new : List Char) : List Char :=
  takeBytes span.start cs ++ new ++ dropBytes span.stop cs

namespace Document

def spanOf? (d : Document) (range : Range) : Option Span :=
  (d.offset? range.start).bind fun start => (d.offset? range.stop).map fun stop => ⟨start, stop⟩

/-- The text after some edits, listed from the top. All their ranges belong to the document as it is, so
the last edit is made first. -/
def edited? (d : Document) : List TextEdit → Option (List Char)
  | [] => some d.chars
  | edit :: later =>
    (d.edited? later).bind fun cs => (d.spanOf? edit.range).map (splice cs · edit.newText.toList)

end Document

theorem splice_middle (before old after new : List Char) :
    splice (before ++ (old ++ after)) ⟨width before, width before + width old⟩ new = before ++ (new ++ after) := by
  have rest := dropBytes_width (before ++ old) after
  rw [width_append, List.append_assoc] at rest
  rw [splice, takeBytes_width, rest, List.append_assoc]

theorem Document.spanOf?_rangeOf (before old after : List Char) :
    spanOf? ⟨before ++ (old ++ after)⟩
        (rangeOf ⟨before ++ (old ++ after)⟩ ⟨width before, width before + width old⟩) =
      some ⟨width before, width before + width old⟩ := by
  have start := offset?_positionAt before (old ++ after)
  have stop := offset?_positionAt (before ++ old) after
  rw [width_append, List.append_assoc] at stop
  rw [spanOf?, rangeOf, start, stop]
  rfl

namespace Symbol

/-- One name is changed into another. -/
def exchange (name newName : String) (text : String) : String := if sameName text name then newName else text

def editOf (document : Document) (newName : String) (t : Token) : TextEdit := ⟨document.rangeOf t.span, newName⟩

theorem edited?_from (document : Document) (name newName : String) (start : Nat) (awaited : Bool)
    {before : List Char} {tokens : List Token} (scanned : Token.Scanned (width before) tokens)
    (whole : document.chars = before ++ Token.texts tokens) :
    document.edited? (((Token.namesFrom awaited tokens).filter (sameName ·.text name)).map (editOf document newName)) =
      some (before ++ Token.texts (Token.renameFrom (exchange name newName) start awaited tokens)) := by
  induction tokens generalizing before start awaited with
  | nil => simp [Token.namesFrom, Token.renameFrom, Document.edited?, whole]
  | cons t rest ih =>
    obtain ⟨isStart, _, tail⟩ := Token.scanned_cons_iff.mp scanned
    have after : t.stop = width (before ++ t.text.toList) := by rw [Token.stop, isStart, width_append]
    rw [after] at tail
    have later (start : Nat) := ih start (t.awaits awaited) tail (by simp [whole])
    simp only [Token.namesFrom, Token.renameFrom, Token.texts_cons]
    cases named : awaited && t.kind.isWord with
    | false =>
      simp only [Bool.false_eq_true, if_false]
      rw [later, List.append_assoc]
    | true =>
      simp only [if_true, List.filter_cons, exchange]
      cases same : sameName t.text name with
      | false =>
        simp only [Bool.false_eq_true, if_false]
        rw [later, List.append_assoc]
      | true =>
        have place : t.span = ⟨width before, width before + width t.text.toList⟩ := by
          rw [Token.span, Token.stop, isStart]
        have found : document.spanOf? (document.rangeOf t.span) = some t.span := by
          obtain ⟨chars⟩ := document
          simp only at whole
          rw [whole, place, Token.texts_cons]
          exact Document.spanOf?_rangeOf before t.text.toList (Token.texts rest)
        simp only [if_true, List.map_cons, Document.edited?]
        rw [later, Option.bind_some, editOf, found, Option.map_some, List.append_assoc, place, splice_middle]

theorem edited?_namedTokens (document : Document) (name newName : String) :
    document.edited? ((namedTokens name document.chars).map (editOf document newName)) =
      some (renamedText (exchange name newName) document.chars) := by
  obtain ⟨scanned, spelled⟩ := Token.scan_eq_iff.mp (rfl : Token.scan document.chars = _)
  have start : Token.Scanned (width []) (Token.scan document.chars) := scanned
  exact edited?_from document name newName 0 false start (by rw [spelled, List.nil_append])

def editsOf (edits : List (Uri × List TextEdit)) (uri : Uri) : List TextEdit := (edits.lookup uri).getD []

theorem editsOf_addEdit (edits : List (Uri × List TextEdit)) (uri other : Uri) (edit : TextEdit) :
    editsOf (addEdit edits uri edit) other = editsOf edits other ++ if uri = other then [edit] else [] := by
  induction edits with
  | nil =>
    by_cases same : uri = other
    · subst same
      simp [addEdit, editsOf]
    · have differs : (other == uri) = false := by simpa using Ne.symm same
      simp [addEdit, editsOf, List.lookup_cons, differs, same]
  | cons first rest ih =>
    obtain ⟨u, known⟩ := first
    simp only [editsOf] at ih
    by_cases here : u = uri <;> by_cases same : u = other
    · subst here same
      simp [addEdit, editsOf]
    · have differs : (other == u) = false := by simpa using Ne.symm same
      subst here
      simp [addEdit, editsOf, List.lookup_cons, differs, same]
    · subst same
      simp [addEdit, editsOf, here, Ne.symm here]
    · have differs : (other == u) = false := by simpa using Ne.symm same
      simp [addEdit, editsOf, List.lookup_cons, differs, here, ih]

theorem editsOf_editsFor (locations : List Location) (newName : String) (uri : Uri) :
    editsOf (editsFor locations newName) uri =
      (locations.filter (·.uri = uri)).map fun location => ⟨location.range, newName⟩ := by
  suffices general : ∀ edits, editsOf (locations.foldl (fun edits location =>
      addEdit edits location.uri ⟨location.range, newName⟩) edits) uri = editsOf edits uri ++
        (locations.filter (·.uri = uri)).map fun location => ⟨location.range, newName⟩ from general []
  induction locations with
  | nil => simp
  | cons location rest ih =>
    intro edits
    rw [List.foldl_cons, ih, editsOf_addEdit, List.append_assoc]
    by_cases same : location.uri = uri <;> simp [same]

theorem filter_locations {files : List SourceFile} (apart : files.Pairwise fun f g => f.uri ≠ g.uri)
    (places : SourceFile → List Range) {file : SourceFile} (member : file ∈ files) :
    (files.flatMap fun f => (places f).map (Location.mk f.uri)).filter (·.uri = file.uri) =
      (places file).map (Location.mk file.uri) := by
  have foreign {f : SourceFile} (other : f.uri ≠ file.uri) :
      ((places f).map (Location.mk f.uri)).filter (·.uri = file.uri) = [] := by simp [other]
  induction files with
  | nil => cases member
  | cons f rest ih =>
    obtain ⟨others, apart⟩ := List.pairwise_cons.mp apart
    rw [List.flatMap_cons, List.filter_append]
    rcases List.mem_cons.mp member with rfl | later
    · have nothing : (rest.flatMap fun f => (places f).map (Location.mk f.uri)).filter (·.uri = file.uri) = [] := by
        rw [List.filter_flatMap, List.flatMap_eq_nil_iff]
        exact fun g isRest => foreign (Ne.symm (others g isRest))
      rw [nothing, List.append_nil, List.filter_eq_self]
      intro location isOwn
      obtain ⟨range, _, rfl⟩ := List.mem_map.mp isOwn
      exact decide_eq_true rfl
    · rw [foreign (others file later), List.nil_append, ih apart later]

end Symbol
end PddlAssist
