import PddlAssist.Program.Place
import PddlAssist.Text.Blank

namespace PddlAssist.Shell

open Text

/-- A part of a word: a text, the value of a parameter, or the output of a script, whose lines are
counted from `line` on. What stands in quotes is not divided into words. -/
inductive Part where
  | text (cs : List Char) (isQuoted : Bool)
  | parameter (name : String) (isQuoted : Bool)
  | output (script : List Char) (line : Nat) (isQuoted : Bool)
  deriving DecidableEq, Repr, Inhabited

abbrev Word := List Part

inductive Redirection where
  | input
  | create
  | append
  deriving DecidableEq, Repr, Inhabited

inductive Token where
  | word (w : Word)
  | separator (s : String)
  | redirect (stream : Nat) (kind : Redirection)
  | broken (complaint : String)
  deriving DecidableEq, Repr, Inhabited

/-- A token and the line on which it ends. -/
structure Placed where
  token : Token
  line : Nat
  deriving DecidableEq, Repr, Inhabited

inductive Quote where
  | none
  | single
  | double
  deriving DecidableEq, Repr, Inhabited

/-- A script that is being read. The current word has its last part first. -/
structure Reader where
  tokens : List Placed := []
  word : Option Word := none
  quote : Quote := .none
  line : Nat := 1
  deriving Inhabited

namespace Reader

def pass (r : Reader) (piece : List Char) : Reader := { r with line := r.line + piece.count '\n' }

def put (r : Reader) (part : Part) : Reader := { r with word := some (part :: r.word.getD []) }

def putChar (r : Reader) (c : Char) (isQuoted : Bool) : Reader :=
  match r.word with
  | some (.text cs quoted :: parts) =>
    if quoted = isQuoted then { r with word := some (.text (cs ++ [c]) quoted :: parts) }
    else r.put (.text [c] isQuoted)
  | _ => r.put (.text [c] isQuoted)

def endWord (r : Reader) : Reader :=
  match r.word with
  | none => r
  | some parts => { r with tokens := ⟨.word parts.reverse, r.line⟩ :: r.tokens, word := none }

def add (r : Reader) (t : Token) : Reader :=
  let r := r.endWord
  { r with tokens := ⟨t, r.line⟩ :: r.tokens }

def endLine (r : Reader) : Reader :=
  let r := r.endWord
  { r with line := r.line + 1 }.add (.separator "\n")

def redirect (r : Reader) (kind : Redirection) : Reader :=
  match r.word with
  | some [.text [c] false] =>
    if c.isDigit then { r with word := none }.add (.redirect (c.toNat - 48) kind)
    else r.add (.redirect (if kind = .input then 0 else 1) kind)
  | _ => r.add (.redirect (if kind = .input then 0 else 1) kind)

def stop (r : Reader) (complaint : String) : List Placed :=
  (⟨.broken complaint, r.line⟩ :: r.tokens).reverse

def finish (r : Reader) : List Placed :=
  match r.quote with
  | .none => r.endWord.tokens.reverse
  | _ => r.stop "Unterminated quoted string"

end Reader

def isNameChar (c : Char) : Bool := c.isAlphanum || c == '_'

def isSpecialParameter (c : Char) : Bool := c.isDigit || ['$', '#', '@', '*', '?', '!', '-'].contains c

/-- The script up to the parenthesis that closes it, and the text after that. `depth` counts the
parentheses that are open. -/
def scriptInside (depth : Nat) (quote : Quote) : List Char → Option (List Char × List Char)
  | [] => none
  | c :: rest =>
    let next (depth : Nat) (quote : Quote) : Option (List Char × List Char) :=
      (scriptInside depth quote rest).map fun (script, after) => (c :: script, after)
    match quote with
    | .single => next depth (if c = '\'' then .none else .single)
    | .double => next depth (if c = '"' then .none else .double)
    | .none =>
      if c = '\'' then next depth .single
      else if c = '"' then next depth .double
      else if c = '(' then next (depth + 1) .none
      else if c = ')' then if depth = 0 then some ([], rest) else next (depth - 1) .none
      else next depth .none

def scriptBefore : List Char → Option (List Char × List Char)
  | [] => none
  | '\x60' :: rest => some ([], rest)
  | '\\' :: '\x60' :: rest =>
    (scriptBefore rest).map fun (script, after) => ('\x60' :: script, after)
  | c :: rest => (scriptBefore rest).map fun (script, after) => (c :: script, after)

def parameter? (line : Nat) (isQuoted : Bool) : List Char → Option (Except String Part × List Char)
  | '(' :: rest =>
    match scriptInside 0 .none rest with
    | some (script, after) => some (.ok (.output script line isQuoted), after)
    | none => some (.error "end of file unexpected (expecting \")\")", [])
  | '\x7b' :: rest =>
    let name := rest.takeWhile fun c => isNameChar c || isSpecialParameter c
    match rest.drop name.length with
    | '\x7d' :: after => some (.ok (.parameter (String.ofList name) isQuoted), after)
    | _ => some (.error "Bad substitution", [])
  | c :: rest =>
    if isSpecialParameter c then some (.ok (.parameter (String.singleton c) isQuoted), rest)
    else if isNameChar c then
      let name := (c :: rest).takeWhile isNameChar
      some (.ok (.parameter (String.ofList name) isQuoted), (c :: rest).drop name.length)
    else none
  | [] => none

def isEscapable (c : Char) : Bool := ['"', '\\', '$', '\x60', '\n'].contains c

def startsComment (r : Reader) (c : Char) : Bool := c = '#' && r.word.isNone

def tokensFrom : (fuel : Nat) → Reader → List Char → List Placed
  | 0, r, _ | _ + 1, r, [] => r.finish
  | fuel + 1, r, c :: rest =>
    let go (r : Reader) (rest : List Char) : List Placed := tokensFrom fuel r rest
    let goAfter (part : Part) (after : List Char) : List Placed :=
      go ((r.put part).pass (rest.take (rest.length - after.length))) after
    let dollar (isQuoted : Bool) : List Placed :=
      match parameter? r.line isQuoted rest with
      | some (.ok part, after) => goAfter part after
      | some (.error complaint, after) =>
        (r.pass (rest.take (rest.length - after.length))).stop complaint
      | none => go (r.putChar '$' isQuoted) rest
    -- The lines of a script between grave accents are counted anew.
    let accent (isQuoted : Bool) : List Placed :=
      match scriptBefore rest with
      | some (script, after) => goAfter (.output script 1 isQuoted) after
      | none => (r.pass rest).stop "EOF in backquote substitution"
    match r.quote with
    | .single =>
      if c = '\'' then go { r with quote := .none } rest else go ((r.putChar c true).pass [c]) rest
    | .double =>
      match c, rest with
      | '"', rest => go { r with quote := .none } rest
      | '\\', d :: more =>
        if d = '\n' then go (r.pass [d]) more
        else if isEscapable d then go (r.putChar d true) more
        else go (r.putChar '\\' true) (d :: more)
      | '$', _ => dollar true
      | '\x60', _ => accent true
      | c, rest => go ((r.putChar c true).pass [c]) rest
    | .none =>
      if startsComment r c then go r (rest.dropWhile (· != '\n'))
      else
        match c, rest with
        | '\'', rest => go { r.put (.text [] true) with quote := .single } rest
        | '"', rest => go { r.put (.text [] true) with quote := .double } rest
        | '\\', '\n' :: more => go (r.pass ['\n']) more
        | '\\', d :: more => go (r.putChar d true) more
        | '$', _ => dollar false
        | '\x60', _ => accent false
        | '&', '&' :: more => go (r.add (.separator "&&")) more
        | '|', '|' :: more => go (r.add (.separator "||")) more
        | ';', ';' :: more => go (r.add (.separator ";;")) more
        | '&', rest => go (r.add (.separator "&")) rest
        | '|', rest => go (r.add (.separator "|")) rest
        | ';', rest => go (r.add (.separator ";")) rest
        | '\n', rest => go r.endLine rest
        | '(', rest => go (r.add (.separator "(")) rest
        | ')', rest => go (r.add (.separator ")")) rest
        | '>', '>' :: more => go (r.redirect .append) more
        | '>', '&' :: more => go ((r.redirect .create).putChar '&' false) more
        | '>', rest => go (r.redirect .create) rest
        | '<', rest => go (r.redirect .input) rest
        | c, rest => if c = ' ' || c = '\t' then go r.endWord rest else go (r.putChar c false) rest

def tokens (line : Nat) (script : List Char) : List Placed :=
  tokensFrom (script.length + 1) { line } script

structure Step where
  words : List Word := []
  redirects : List (Nat × Redirection × Word) := []
  line : Nat := 1
  deriving DecidableEq, Repr, Inhabited

def Step.isEmpty (s : Step) : Bool := s.words.isEmpty && s.redirects.isEmpty

structure Pipeline where
  connector : String
  steps : List Step
  deriving DecidableEq, Repr, Inhabited

/-- The commands of a script up to a line that cannot be read, and the complaint about that line. -/
structure Program where
  pipelines : List Pipeline := []
  complaint : Option (Nat × String) := none
  deriving DecidableEq, Repr, Inhabited

/-- A script that is being put together: the pipelines of earlier lines, those of this line, and the
commands of the last pipeline, each in reverse order. -/
structure Draft where
  earlier : List Pipeline := []
  pipelines : List Pipeline := []
  connector : String := ";"
  steps : List Step := []
  step : Step := {}
  target : Option (Nat × Redirection) := none
  line : Nat := 1
  deriving Inhabited

namespace Draft

def fail (d : Draft) (complaint : String) : Program :=
  { pipelines := d.earlier.reverse, complaint := some (d.line, complaint) }

def unexpected (d : Draft) (s : String) : Program :=
  d.fail ("Syntax error: \"" ++ s ++ "\" unexpected")

def isWaiting (d : Draft) : Bool := d.connector = "&&" || d.connector = "||" || !d.steps.isEmpty

def endPipeline (d : Draft) (connector : String) : Draft :=
  { d with
    pipelines := ⟨d.connector, (d.step :: d.steps).reverse⟩ :: d.pipelines
    connector
    steps := []
    step := {} }

def settle (d : Draft) : Draft :=
  { d with earlier := d.pipelines ++ d.earlier, pipelines := [] }

def current (d : Draft) : Step := if d.step.isEmpty then { d.step with line := d.line } else d.step

def isMisplaced (d : Draft) (w : Word) : Bool :=
  w == [.text ['!'] false] && d.step.isEmpty && !d.steps.isEmpty

def add (d : Draft) : Token → Except Program Draft
  | .broken complaint => .error (d.fail ("Syntax error: " ++ complaint))
  | .word w =>
    match d.target with
    | some (stream, kind) =>
      let step := { d.step with redirects := d.step.redirects ++ [(stream, kind, w)] }
      .ok { d with step, target := none }
    | none =>
      if d.isMisplaced w then .error (d.unexpected "!")
      else .ok { d with step := { d.current with words := d.step.words ++ [w] } }
  | .redirect stream kind =>
    if d.target.isSome then .error (d.fail "Syntax error: redirection unexpected")
    else .ok { d with step := d.current, target := some (stream, kind) }
  | .separator s =>
    if d.target.isSome then
      .error (if s = "\n" then d.fail "Syntax error: newline unexpected" else d.unexpected s)
    else if s = "\n" then
      if d.step.isEmpty then .ok (if d.isWaiting then d else d.settle)
      else .ok (d.endPipeline ";").settle
    else if s = ";;" || s = "(" || s = ")" || d.step.isEmpty then .error (d.unexpected s)
    else if s = "|" then .ok { d with steps := d.step :: d.steps, step := {} }
    else .ok (d.endPipeline (if s = "&" then ";" else s))

def finish (d : Draft) : Program :=
  if d.target.isSome || (d.step.isEmpty && d.isWaiting) then
    d.fail "Syntax error: end of file unexpected"
  else
    let d := if d.step.isEmpty then d else d.endPipeline ";"
    { pipelines := d.settle.earlier.reverse }

end Draft

def assemble (d : Draft) : List Placed → Program
  | [] => d.finish
  | ⟨token, line⟩ :: rest =>
    match { d with line }.add token with
    | .ok d => assemble d rest
    | .error program => program

def readScript (line : Nat) (script : List Char) : Program :=
  assemble { line } (tokens line script)

end PddlAssist.Shell
