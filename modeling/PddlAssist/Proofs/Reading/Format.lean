import PddlAssist.Layout
import PddlAssist.Proofs.Reading.Inheritance
import PddlAssist.Proofs.Reading.Layout
import PddlAssist.Proofs.Token.Lines
import PddlAssist.Proofs.Tree.Renaming

namespace PddlAssist

open Text

namespace Layout

open Document

theorem traces_trim {line : List Char} (inLine : '\n' ∉ line)
    (ascii : ∀ c ∈ line, isBlank c = true → isAsciiBlank c = true) : traces (trim line) = traces line := by
  obtain ⟨lead, bs, whole, leadBlanks, blanks⟩ := trim_cases line
  have parts := whole ▸ ascii
  simp only [List.forall_mem_append] at parts
  rw [whole] at inLine
  simp only [List.mem_append, not_or] at inLine
  conv_rhs => rw [whole]
  exact (traces_padded inLine.2.1 (fun c member => parts.1 c member (leadBlanks c member)) inLine.1
    (fun c member => parts.2.2 c member (blanks c member)) inLine.2.2).symm

theorem indent_spaces (level : Nat) : ∀ c ∈ indent level, c = ' ' := fun _ member => List.eq_of_mem_replicate member

theorem noBreak_indent (level : Nat) : '\n' ∉ indent level := fun member => by cases indent_spaces level _ member

theorem trim_indent (level : Nat) (cs : List Char) : trim (indent level ++ cs) = trim cs :=
  trim_lead (fun c member => by rw [indent_spaces level c member]; rfl) cs

theorem traces_indent {line : List Char} (inLine : '\n' ∉ line) (level : Nat) :
    traces (indent level ++ line) = traces line := by
  have blanks : ∀ c ∈ indent level, isAsciiBlank c = true := fun c member => by rw [indent_spaces level c member]; rfl
  have padded := traces_padded inLine blanks (noBreak_indent level) (List.forall_mem_nil _) List.not_mem_nil
  rwa [List.append_nil] at padded

theorem noBreak_trim {line : List Char} (inLine : '\n' ∉ line) : '\n' ∉ trim line := by
  obtain ⟨lead, bs, whole, _⟩ := trim_cases line
  rw [whole] at inLine
  simp only [List.mem_append, not_or] at inLine
  exact inLine.2.1

theorem tracesOf_formatLines {lines : List (List Char)} (inLine : ∀ line ∈ lines, '\n' ∉ line)
    (ascii : ∀ line ∈ lines, ∀ c ∈ line, isBlank c = true → isAsciiBlank c = true) (level : Nat)
    (above : List (List Char)) : tracesOf above (formatLines level lines) = tracesOf above lines := by
  induction lines generalizing level above with
  | nil => rfl
  | cons line rest ih =>
    rw [List.forall_mem_cons] at inLine ascii
    have trimmed := traces_trim inLine.1 ascii.1
    simp only [formatLines]
    split
    · rename_i isEmpty
      have nothing : trim line = [] := List.isEmpty_iff.mp isEmpty
      rw [tracesOf, ih inLine.2 ascii.2, tracesOf, ← trimmed, nothing]
      rfl
    · rw [tracesOf, ih inLine.2 ascii.2, tracesOf, traces_indent (noBreak_trim inLine.1), trimmed, trim_indent,
        trim_trim]

theorem noBreak_formatLines {lines : List (List Char)} (inLine : ∀ line ∈ lines, '\n' ∉ line) (level : Nat) :
    ∀ line ∈ formatLines level lines, '\n' ∉ line := by
  induction lines generalizing level with
  | nil => simp [formatLines]
  | cons line rest ih =>
    rw [List.forall_mem_cons] at inLine
    simp only [formatLines]
    split
    · exact List.forall_mem_cons.mpr ⟨List.not_mem_nil, ih inLine.2 _⟩
    · refine List.forall_mem_cons.mpr ⟨?_, ih inLine.2 _⟩
      simp [noBreak_indent, noBreak_trim inLine.1]

theorem tracesOf_joinLines {lines : List (List Char)} (inLine : ∀ line ∈ lines, '\n' ∉ line)
    (above : List (List Char)) : tracesOf above (splitLines (joinLines lines)) = tracesOf above lines := by
  induction lines generalizing above with
  | nil => simp [joinLines, splitLines, tracesOf, traces]
  | cons line rest ih =>
    rw [List.forall_mem_cons] at inLine
    cases rest with
    | nil =>
      simp only [joinLines]
      split
      · rename_i isEmpty
        rw [List.isEmpty_iff.mp isEmpty]
        rfl
      · rw [splitLines_break inLine.1]
        simp [tracesOf, splitLines, traces]
    | cons next rest =>
      have joined : joinLines (line :: next :: rest) = line ++ '\n' :: joinLines (next :: rest) := rfl
      rw [joined, splitLines_break inLine.1, tracesOf, ih inLine.2]
      rfl

theorem traces_format {cs : List Char} (ascii : ∀ c ∈ cs, isBlank c = true → isAsciiBlank c = true) :
    traces (format cs) = traces cs := by
  have inLine : ∀ line ∈ splitLines cs, '\n' ∉ line := splitLines_noBreak
  have asciiLines : ∀ line ∈ splitLines cs, ∀ c ∈ line, isBlank c = true → isAsciiBlank c = true :=
    fun line isLine c member => ascii c (mem_of_mem_splitLines isLine member)
  rw [traces_eq, format, tracesOf_joinLines (noBreak_formatLines inLine 0), tracesOf_formatLines inLine asciiLines,
    traces_eq]

end Layout

namespace Tree

def documented (above : List (List Char)) (ahead : List Char) : Option String :=
  let trailing := trim ((ahead.dropWhile (· != ';')).dropWhile (· == ';'))
  let lines := ((remarks above.reverse).reverse ++ [trailing]).filter (!·.isEmpty)
  if lines.isEmpty then none else some ("\n".intercalate (lines.map String.ofList))

theorem remarks_map_trim (lines : List (List Char)) : remarks (lines.map trim) = remarks lines := by
  induction lines with
  | nil => rfl
  | cons line rest ih => simp only [List.map_cons, remarks, remark?, trim_trim, ih]

theorem trailing_trimEnd (line : List Char) :
    trim (((trimEnd line).dropWhile (· != ';')).dropWhile (· == ';')) =
      trim ((line.dropWhile (· != ';')).dropWhile (· == ';')) := by
  obtain ⟨bs, whole, blanks⟩ := trimEnd_cases line
  have noSemicolon : ∀ c ∈ bs, (c != ';') = true := by
    intro c member
    rw [bne_iff_ne]
    rintro rfl
    cases blanks ';' member
  conv_rhs => rw [whole, List.dropWhile_append]
  split
  · rename_i nothing
    rw [List.isEmpty_iff.mp nothing, List.dropWhile_eq_nil_iff.mpr noSemicolon]
  · rw [List.dropWhile_append]
    split
    · rename_i nothing
      rw [List.isEmpty_iff.mp nothing]
      exact (trim_blanks fun c member => blanks c ((List.dropWhile_sublist _).subset member)).symm
    · exact (trim_append blanks _).symm

theorem documentation?_eq (t : Tree) (place : Nat) :
    t.documentation? place =
      documented (linesAbove (takeBytes place t.chars)) (lineAhead (dropBytes place t.chars)) := by
  simp only [documentation?, documented, linesAbove, lineAhead, ← List.map_reverse, remarks_map_trim, trailing_trimEnd,
    List.tail_reverse]

end Tree

/-- Tokens that agree in kind, and in text unless they are comments, at places that are related. -/
def Token.Resembles (places : Nat → Nat → Prop) (t t' : Token) : Prop :=
  t'.kind = t.kind ∧ (t.kind ≠ .comment → t'.text = t.text) ∧ places t.start t'.start

namespace Tree

variable {places : Nat → Nat → Prop}

theorem Growth.foldl_step_filter (tokens : List Token) (g : Growth) :
    tokens.foldl step g = (tokens.filter (·.kind != .blank)).foldl step g := by
  induction tokens generalizing g with
  | nil => rfl
  | cons t rest ih =>
    rw [List.foldl_cons, ih, List.filter_cons]
    by_cases blank : t.kind = .blank
    · simp [step, blank]
    · simp [blank]

theorem Growth.Renamed.step_resembling {awaited : Bool} {g g' : Growth}
    (renamed : Growth.Renamed id (fun _ => True) places awaited g g') {t t' : Token}
    (resembles : t.Resembles places t') :
    Growth.Renamed id (fun _ => True) places (t.awaits awaited) (g.step t) (g'.step t') := by
  obtain ⟨kind, text, place⟩ := resembles
  by_cases isComment : t.kind = .comment
  · simpa [Growth.step, kind, isComment, Token.awaits] using renamed.addLeaf_comment isComment kind
  · exact renamed.step kind (by simp [text isComment]) (fun _ => trivial) place

theorem Growth.Renamed.foldl_resembling {tokens tokens' : List Token}
    (resemble : List.Forall₂ (Token.Resembles places) tokens tokens') {awaited : Bool} {g g' : Growth}
    (renamed : Growth.Renamed id (fun _ => True) places awaited g g') :
    ∃ awaited', Growth.Renamed id (fun _ => True) places awaited' (tokens.foldl Growth.step g)
      (tokens'.foldl Growth.step g') := by
  induction resemble generalizing awaited g g' with
  | nil => exact ⟨awaited, renamed⟩
  | cons first _ ih => exact ih (renamed.step_resembling first)

theorem build_resembling {cs cs' : List Char}
    (resemble : List.Forall₂ (Token.Resembles places) ((Token.scan cs).filter (·.kind != .blank))
      ((Token.scan cs').filter (·.kind != .blank))) :
    Node.Renamed id (fun _ => True) places false (build cs).root (build cs').root := by
  have empty : Growth.Renamed id (fun _ => True) places false .empty .empty := ⟨rfl, .nil, .nil false, rfl⟩
  obtain ⟨_, grown⟩ := empty.foldl_resembling resemble
  rw [← Growth.foldl_step_filter, ← Growth.foldl_step_filter] at grown
  exact .document (Growth.Renamed.finish _ _ grown.top grown.frames fun b => .nil b)

end Tree

namespace Domain

/-- What the comments say of the variables and the actions. -/
def documentation (d : Domain) : List (Option String) :=
  d.allVariables.map (·.documentation) ++ d.actions.map (·.documentation)

/-- What is written above a section that declares an action. -/
def actionDocumentation (tree : Tree) (part : Node) : List (Option String) :=
  if ((part.name?.map lower).bind ActionKind.ofKeyword?).isSome then [tree.documentation? part.span.start] else []

theorem readActionParts_documentation (action : Action) (nodes : List Node) :
    (readActionParts action nodes).documentation = action.documentation := by
  induction nodes generalizing action with
  | nil => rfl
  | cons node rest ih =>
    simp only [readActionParts]
    split
    · rw [ih]
      split
      · rfl
      · split <;> rfl
    · exact ih action

theorem readSection_documentation (document : Document) (tree : Tree) (r : Reading) (part : Node) :
    (readSection document tree r part).domain.actions.map (·.documentation) =
      r.domain.actions.map (·.documentation) ++ actionDocumentation tree part := by
  have other : ∀ keyword ∈ [":requirements", ":types", ":constants", ":predicates", ":functions", ":derived"],
      ActionKind.ofKeyword? keyword = none := by decide
  simp only [List.forall_mem_cons] at other
  obtain ⟨requirements, types, constants, predicates, functions, derived, _⟩ := other
  cases named : part.name?.map lower with
  | none => simp [readSection, actionDocumentation, named]
  | some keyword =>
    simp only [readSection, actionDocumentation, named, Option.bind_some]
    split
    · cases ‹some keyword = none›
    · cases ‹some keyword = _›
      simp [requirements]
    · cases ‹some keyword = _›
      have kept := congrArg Domain.actions (readTypes_untyped document { r with domain := { r.domain with
        sections := { r.domain.sections with types := some part.span } } } part)
      simp only [untyped] at kept
      simp [types, kept]
    · cases ‹some keyword = _›
      simp [constants]
    · cases ‹some keyword = _›
      simp [predicates]
    · cases ‹some keyword = _›
      simp [functions]
    · cases ‹some keyword = _›
      simp [derived]
    · cases ‹some keyword = _›
      cases isAction : ActionKind.ofKeyword? keyword with
      | none => simp
      | some kind => simp [readAction, readActionParts_documentation]

theorem ofTree?_documentation {document : Document} {tree : Tree} {d : Domain} {issues : List Issue}
    (read : ofTree? document tree = some (d, issues)) : ∃ define, tree.define? = some define ∧
      d.actions.map (·.documentation) =
        (define.significant.filter Node.isBracket).flatMap (actionDocumentation tree) := by
  have fold (sections : List Node) (r : Reading) :
      (sections.foldl (readSection document tree) r).domain.actions.map (·.documentation) =
        r.domain.actions.map (·.documentation) ++ sections.flatMap (actionDocumentation tree) := by
    induction sections generalizing r with
    | nil => simp
    | cons part rest ih => rw [List.foldl_cons, ih, readSection_documentation, List.append_assoc, List.flatMap_cons]
  simp only [ofTree?, Option.bind_eq_bind, Option.bind_eq_some_iff] at read
  obtain ⟨define, isDefine, header, _, read⟩ := read
  cases read
  exact ⟨define, isDefine, fold _ _⟩

end Domain

namespace Similarity

variable {tree tree' : Tree} {R : Node → Node → Prop}

theorem documentation_eq (sim : Similarity id (· = ·) tree tree' R) (root : R tree.root tree'.root)
    {document document' : Document} {d d' : Domain} {issues issues' : List Issue}
    (read : Domain.ofTree? document tree = some (d, issues))
    (read' : Domain.ofTree? document' tree' = some (d', issues')) (alike : Domain.Alike id (· = ·) d d') :
    d'.documentation = d.documentation := by
  obtain ⟨define, isDefine, actions⟩ := Domain.ofTree?_documentation read
  obtain ⟨define', isDefine', actions'⟩ := Domain.ofTree?_documentation read'
  have defines := head?_rel (sim.childrenNamed root (by decide : "define" ∈ reservedNames))
  rw [Tree.define?] at isDefine isDefine'
  rw [isDefine, isDefine'] at defines
  cases defines with
  | some defineAlike =>
  have said {vs vs' : List Variable} (alike : List.Forall₂ (Variable.Alike id (· = ·)) vs vs') :
      vs'.map (·.documentation) = vs.map (·.documentation) :=
    map_eq_of_forall₂ alike fun _ _ v => v.documentation.symm
  have sections : (define'.significant.filter Node.isBracket).flatMap (Domain.actionDocumentation tree') =
      (define.significant.filter Node.isBracket).flatMap (Domain.actionDocumentation tree) := by
    rw [Node.significant_brackets, Node.significant_brackets, List.flatMap, List.flatMap]
    refine congrArg List.flatten (map_eq_of_forall₂ (sim.brackets defineAlike) ?_)
    rintro part part' ⟨isBracket, partAlike⟩
    simp only [Domain.actionDocumentation, sim.name? partAlike, sim.documentation partAlike isBracket, Option.map_id,
      id_eq]
  simp only [Domain.documentation, Domain.allVariables, List.map_append, said alike.predicates,
    said alike.functions, said alike.derived, actions, actions', sections]

end Similarity

namespace Layout

/-- What a token keeps when a text is formatted: its kind, its text but for the blanks that end a comment, and its
line. -/
def kept (cs : List Char) (t : Token) : TokenKind × List Char × Nat :=
  (t.kind, t.shown, (Document.positionAt ⟨cs⟩ t.start).line)

theorem kept_of_trace {cs : List Char} {t : Token} (member : t ∈ Token.scan cs) :
    kept cs t = ((t.trace cs).kind, (t.trace cs).text, (t.trace cs).above.length) := by
  rw [kept, Token.line_of_mem_scan member]
  rfl

theorem kept_eq {cs cs' : List Char} (same : traces cs' = traces cs) :
    ((Token.scan cs').filter (·.kind != .blank)).map (kept cs') =
      ((Token.scan cs).filter (·.kind != .blank)).map (kept cs) := by
  have shown (cs : List Char) : ((Token.scan cs).filter (·.kind != .blank)).map (kept cs) =
      (traces cs).map fun trace => (trace.kind, trace.text, trace.above.length) := by
    rw [traces, tracesFrom, List.map_map]
    exact List.map_congr_left fun t member => kept_of_trace (List.mem_of_mem_filter member)
  rw [shown, shown, same]

def DocumentedAlike (cs cs' : List Char) (place place' : Nat) : Prop :=
  (Tree.build cs).documentation? place = (Tree.build cs').documentation? place'

theorem resemble_of_traces {cs cs' : List Char} (same : traces cs' = traces cs) :
    List.Forall₂ (Token.Resembles (DocumentedAlike cs cs')) ((Token.scan cs).filter (·.kind != .blank))
      ((Token.scan cs').filter (·.kind != .blank)) := by
  have traced := (List.forall₂_eq_eq_eq ▸ same.symm : List.Forall₂ Eq (traces cs) (traces cs'))
  simp only [traces, tracesFrom, List.nil_append, width_nil, List.forall₂_map_left_iff, List.forall₂_map_right_iff]
    at traced
  refine traced.imp fun t t' trace => ?_
  simp only [Token.trace, Trace.mk.injEq, Token.shown] at trace
  obtain ⟨kind, text, above, ahead⟩ := trace
  refine ⟨kind.symm, fun isWord => ?_, ?_⟩
  · rw [if_neg isWord, if_neg (kind ▸ isWord), String.toList_inj] at text
    exact text.symm
  · rw [DocumentedAlike, Tree.documentation?_eq, Tree.documentation?_eq]
    exact congrArg₂ Tree.documented above ahead

/-- Formatting keeps what a text says if its blanks are ASCII: the tokens that are no blanks stay in their order on
their lines, and the domain or the problem stays that the text defines, places and quotations apart. -/
theorem format_keeps (cs : List Char) (ascii : ∀ c ∈ cs, isBlank c = true → isAsciiBlank c = true) :
    ((Token.scan (format cs)).filter (·.kind != .blank)).map (kept (format cs)) =
        ((Token.scan cs).filter (·.kind != .blank)).map (kept cs) ∧
      ((Domain.ofTree? ⟨format cs⟩ (Tree.build (format cs))).map fun (d, issues) =>
          (d.bare, d.documentation, issues.map Issue.bare)) =
        ((Domain.ofTree? ⟨cs⟩ (Tree.build cs)).map fun (d, issues) =>
          (d.bare, d.documentation, issues.map Issue.bare)) ∧
      ((Problem.ofTree? ⟨format cs⟩ (Tree.build (format cs))).map fun (p, issues) =>
          (p.bare, issues.map Issue.bare)) =
        ((Problem.ofTree? ⟨cs⟩ (Tree.build cs)).map fun (p, issues) => (p.bare, issues.map Issue.bare)) := by
  have same := traces_format ascii
  have root := Tree.build_resembling (resemble_of_traces same)
  have sim : Similarity id (· = ·) (Tree.build cs) (Tree.build (format cs))
      (Node.Renamed id (fun _ => True) (DocumentedAlike cs (format cs)) false) :=
    Node.Renamed.similarity (fun together => together) (fun _ _ => .inl rfl) fun _ _ _ _ => rfl
  refine ⟨kept_eq same, ?_, ?_⟩
  · have read := sim.domain root ⟨cs⟩ ⟨format cs⟩
    generalize first : Domain.ofTree? ⟨cs⟩ (Tree.build cs) = found,
      second : Domain.ofTree? ⟨format cs⟩ (Tree.build (format cs)) = found' at read
    cases read with
    | none => rfl
    | some alike =>
      have issues := map_eq_of_forall₂ alike.2 fun _ _ => Issue.Alike.bare
      have documentation := sim.documentation_eq root first second alike.1
      simp only [Option.map_some, alike.1.bare, documentation, issues]
  · have read := sim.problem root ⟨cs⟩ ⟨format cs⟩
    generalize first : Problem.ofTree? ⟨cs⟩ (Tree.build cs) = found,
      second : Problem.ofTree? ⟨format cs⟩ (Tree.build (format cs)) = found' at read
    cases read with
    | none => rfl
    | some alike =>
      have bare := alike.1.bare (Problem.ofTree?_inits first) (Problem.ofTree?_inits second)
      have issues := map_eq_of_forall₂ alike.2 fun _ _ => Issue.Alike.bare
      simp only [Option.map_some, bare, issues]

theorem format_keeps_carriage_returns :
    let cs := "(define (domain d) ; both \t\r\n\t(:predicates (p ?x - t) )\r\n \x0c\n  ) ".toList
    (∀ c ∈ cs, isBlank c = true → isAsciiBlank c = true) ∧
      ((Domain.ofTree? ⟨format cs⟩ (Tree.build (format cs))).map fun (d, issues) =>
          (d.bare, d.documentation, issues.map Issue.bare)) =
        ((Domain.ofTree? ⟨cs⟩ (Tree.build cs)).map fun (d, issues) =>
          (d.bare, d.documentation, issues.map Issue.bare)) := by
  intro cs
  have plain : (cs.all fun c => !isBlank c || isAsciiBlank c) = true := by decide +kernel
  have ascii : ∀ c ∈ cs, isBlank c = true → isAsciiBlank c = true := by
    intro c member blank
    simpa [blank] using List.all_eq_true.mp plain c member
  exact ⟨ascii, (format_keeps cs ascii).2.1⟩

end Layout
end PddlAssist
