import PddlAssist.Regex.Expr
import PddlAssist.Text.Blank
import PddlAssist.Unicode.Property

namespace PddlAssist.Regex

open Text

def skipComments (comment : Bool) : List Char → List Char
  | [] => []
  | c :: rest =>
    if comment then skipComments (c != '\n') rest
    else if isBlank c then skipComments false rest
    else if c = '#' then skipComments true rest
    else c :: rest

def skip (extended : Bool) (cs : List Char) : List Char :=
  if extended then skipComments false cs else cs

/-- The character after a dash. Of blanks and comments only the blanks and one number sign are passed,
and not when nothing follows them. -/
def peek (extended : Bool) (cs : List Char) : Option Char :=
  if extended then
    let after :=
      match cs.dropWhile isBlank with
      | '#' :: more => more.dropWhile isBlank
      | more => more
    after.head?.or cs.head?
  else cs.head?

def hexDigit? (c : Char) : Option Nat :=
  if c.isDigit then some (c.toNat - 48)
  else if 'a' ≤ c ∧ c ≤ 'f' then some (c.toNat - 87)
  else if 'A' ≤ c ∧ c ≤ 'F' then some (c.toNat - 55)
  else none

def hexChar? (digits : List Nat) : Option Char :=
  let n := digits.foldl (16 * · + ·) 0
  if n.isValidChar then some (Char.ofNat n) else none

def hexDigits? (extended : Bool) : Nat → List Char → Option (List Nat × List Char)
  | 0, cs => some ([], cs)
  | _ + 1, [] => none
  | n + 1, c :: rest =>
    (hexDigit? c).bind fun d =>
      (hexDigits? extended n (skip extended rest)).map fun (ds, rest) => (d :: ds, rest)

def hexBraced? (extended : Bool) (fuel : Nat) (digits : List Nat) (cs : List Char) :
    Option (List Nat × List Char) :=
  match fuel with
  | 0 => none
  | fuel + 1 =>
    match skip extended cs with
    | [] => none
    | '\x7d' :: rest =>
      if digits.isEmpty then none else some (digits.reverse, skip extended rest)
    | c :: rest => (hexDigit? c).bind fun d => hexBraced? extended fuel (d :: digits) rest

def braced? (extended : Bool) (fuel : Nat) (name : List Char) (cs : List Char) :
    Option (List Char × List Char) :=
  match fuel with
  | 0 => none
  | fuel + 1 =>
    match skip extended cs with
    | [] => none
    | '\x7d' :: rest => some (name.reverse, rest)
    | c :: rest => braced? extended fuel (c :: name) rest

def splitAt? (mark : List Char) (before : List Char) : List Char → Option (List Char × List Char)
  | [] => none
  | c :: rest =>
    if mark.isPrefixOf (c :: rest) then some (before.reverse, (c :: rest).drop mark.length)
    else splitAt? mark (c :: before) rest

def Query.ofName (negated : Bool) (name : List Char) : Query :=
  match splitAt? ['!', '='] [] name with
  | some (property, value) => ⟨!negated, property, some value⟩
  | none =>
    match (splitAt? [':'] [] name).or (splitAt? ['='] [] name) with
    | some (property, value) => ⟨negated, property, some value⟩
    | none => ⟨negated, name, none⟩

def query? (extended negated : Bool) (cs : List Char) : Option (Query × List Char) :=
  match skip extended cs with
  | [] => none
  | '\x7b' :: rest =>
    (braced? extended (rest.length + 1) [] rest).map fun (name, rest) =>
      (Query.ofName negated name, rest)
  | c :: rest => if c = '\\' then none else some (⟨negated, [c], none⟩, skip extended rest)

def controlChar? : Char → Option Char
  | 'n' => some '\n'
  | 't' => some '\t'
  | 'r' => some '\r'
  | 'a' => some '\x07'
  | 'f' => some '\x0c'
  | 'v' => some '\x0b'
  | _ => none

def isEscapable (c : Char) : Bool := c.toNat < 0x80 && !c.isAlphanum && c != '<' && c != '>'

def isEdgeLetter (c : Char) : Bool := c.isAlpha || c == '-'

def edgeName (extended : Bool) (fuel : Nat) (name : List Char) (cs : List Char) :
    List Char × List Char :=
  match fuel, cs with
  | fuel + 1, c :: rest =>
    if isEdgeLetter c then edgeName extended fuel (c :: name) (skip extended rest)
    else (name.reverse, cs)
  | _, _ => (name.reverse, cs)

def wordEdge? (extended : Bool) (cs : List Char) : Option (Anchor × List Char) :=
  match cs with
  | '\x7b' :: rest =>
    match skip extended rest with
    | [] => none
    | c :: more =>
      if isEdgeLetter c then
        match edgeName extended (more.length + 1) [] (c :: more) with
        | (name, '\x7d' :: after) =>
          match String.ofList name with
          | "start" => some (.wordStart, after)
          | "end" => some (.wordEnd, after)
          | "start-half" => some (.noWordBefore, after)
          | "end-half" => some (.noWordAfter, after)
          | _ => none
        | _ => none
      else some (.wordEdge, cs)
  | _ => some (.wordEdge, cs)

/-- A character that hexadecimal digits stand for; the letter before them says how many. -/
def hexLiteral? (extended : Bool) (count : Nat) (cs : List Char) : Option (Expr × List Char) :=
  match skip extended cs with
  | [] => none
  | '\x7b' :: rest =>
    (hexBraced? extended (rest.length + 1) [] rest).bind fun (digits, rest) =>
      (hexChar? digits).map fun c => (.literal c false, rest)
  | cs =>
    (hexDigits? extended count cs).bind fun (digits, rest) =>
      (hexChar? digits).map fun c => (.literal c (count == 2), rest)

def escape? (extended : Bool) (cs : List Char) : Option (Expr × List Char) :=
  match cs with
  | [] => none
  | 'x' :: rest => hexLiteral? extended 2 rest
  | 'u' :: rest => hexLiteral? extended 4 rest
  | 'U' :: rest => hexLiteral? extended 8 rest
  | 'p' :: rest => (query? extended false rest).map fun (q, rest) => (.query q, rest)
  | 'P' :: rest => (query? extended true rest).map fun (q, rest) => (.query q, rest)
  | 'd' :: rest => some (.shorthand false .digit, rest)
  | 'D' :: rest => some (.shorthand true .digit, rest)
  | 's' :: rest => some (.shorthand false .blank, rest)
  | 'S' :: rest => some (.shorthand true .blank, rest)
  | 'w' :: rest => some (.shorthand false .word, rest)
  | 'W' :: rest => some (.shorthand true .word, rest)
  | 'A' :: rest => some (.anchor .textStart, rest)
  | 'z' :: rest => some (.anchor .textEnd, rest)
  | 'b' :: rest => (wordEdge? extended rest).map fun (a, rest) => (.anchor a, rest)
  | 'B' :: rest => some (.anchor .noWordEdge, rest)
  | '<' :: rest => some (.anchor .wordStart, rest)
  | '>' :: rest => some (.anchor .wordEnd, rest)
  | c :: rest =>
    match controlChar? c with
    | some d => some (.literal d false, rest)
    | none => if isEscapable c then some (.literal c false, rest) else none

def posixNames : List String :=
  ["alnum", "alpha", "ascii", "blank", "cntrl", "digit", "graph", "lower", "print", "punct",
   "space", "upper", "word", "xdigit"]

def posix? (cs : List Char) : Option (SetExpr × List Char) :=
  match cs with
  | ':' :: rest =>
    let (negated, rest) :=
      match rest with
      | '^' :: more => (true, more)
      | more => (false, more)
    let name := rest.takeWhile (· != ':')
    match rest.drop name.length with
    | ':' :: ']' :: after =>
      if posixNames.contains (String.ofList name) then
        some (.posix negated (String.ofList name), after)
      else none
    | _ => none
  | _ => none

def setItem? (extended : Bool) (cs : List Char) : Option (Expr × List Char) :=
  match cs with
  | '\\' :: rest => escape? extended rest
  | c :: rest => some (.literal c false, rest)
  | [] => none

def SetExpr.ofItem? : Expr → Option SetExpr
  | .literal c _ => some (.range c c)
  | .shorthand negated kind => some (.shorthand negated kind)
  | .query q => some (.query q)
  | _ => none

/-- An item of a set or a range. A dash before a closing bracket or another dash makes no range. -/
def setRange? (extended : Bool) (cs : List Char) : Option (SetExpr × List Char) :=
  (setItem? extended cs).bind fun (first, rest) =>
    match skip extended rest with
    | [] => none
    | '-' :: more =>
      if peek extended more = some ']' ∨ peek extended more = some '-' then
        (SetExpr.ofItem? first).map fun item => (item, '-' :: more)
      else
        match skip extended more with
        | [] => none
        | more =>
          (setItem? extended more).bind fun (last, rest) =>
            match first, last with
            | .literal low _, .literal high _ =>
              if low ≤ high then some (.range low high, rest) else none
            | _, _ => none
    | rest => (SetExpr.ofItem? first).map fun item => (item, rest)

/-- Dashes at the start of a set stand for themselves. -/
def leadingDashes (extended : Bool) (fuel : Nat) (items : List SetExpr) (cs : List Char) :
    List SetExpr × List Char :=
  match fuel, cs with
  | fuel + 1, '-' :: rest =>
    leadingDashes extended fuel (.range '-' '-' :: items) (skip extended rest)
  | _, cs => (items, cs)

/-- The start of a set after its opening bracket: whether it is negated, and the items that stand for
themselves because they come first. -/
def setStart? (extended : Bool) (cs : List Char) : Option (Bool × List SetExpr × List Char) :=
  let (negated, rest) :=
    match skip extended cs with
    | '^' :: more => (true, skip extended more)
    | more => (false, more)
  let (items, rest) := leadingDashes extended rest.length [] rest
  match items, rest with
  | _, [] => none
  | [], ']' :: more =>
    match skip extended more with
    | [] => none
    | more => some (negated, [.range ']' ']'], more)
  | items, rest => some (negated, items, rest)

def joined (left : Option (SetExpr × SetOp)) (items : List SetExpr) : SetExpr :=
  match left with
  | some (e, op) => .join op e (.ofItems items.reverse)
  | none => .ofItems items.reverse

/-- The inside of a set up to its closing bracket. `left` is what stands before the last operator, and
`items` are those after it, last first. -/
def set? (fuel : Nat) (extended : Bool) (left : Option (SetExpr × SetOp)) (items : List SetExpr)
    (cs : List Char) : Option (SetExpr × List Char) :=
  match fuel with
  | 0 => none
  | fuel + 1 =>
    let operator (op : SetOp) (rest : List Char) : Option (SetExpr × List Char) :=
      set? fuel extended (some (joined left items, op)) [] rest
    match skip extended cs with
    | [] => none
    | ']' :: rest => some (joined left items, rest)
    | '&' :: '&' :: rest => operator .intersection rest
    | '-' :: '-' :: rest => operator .difference rest
    | '~' :: '~' :: rest => operator .symmetric rest
    | '[' :: rest =>
      match posix? rest with
      | some (item, rest) => set? fuel extended left (item :: items) rest
      | none =>
        (setStart? extended rest).bind fun (negated, start, rest) =>
          (set? fuel extended none start rest).bind fun (inner, rest) =>
            set? fuel extended left (.bracket negated inner :: items) rest
    | cs =>
      (setRange? extended cs).bind fun (item, rest) => set? fuel extended left (item :: items) rest

def flag? : Char → Option Flag
  | 'i' => some .ignoreCase
  | 'm' => some .multiLine
  | 's' => some .dotAll
  | 'U' => some .swapGreed
  | 'u' => some .unicode
  | 'R' => some .crlf
  | 'x' => some .extended
  | _ => none

/-- Flags up to a colon or closing bracket, which stays in front of the rest. Each flag is written once,
and a dash before those that are cleared. -/
def flags? (set : List Flag) (clear : Option (List Flag)) :
    List Char → Option (List Flag × List Flag × List Char)
  | [] => none
  | c :: rest =>
    if c = ':' ∨ c = ')' then
      if clear = some [] then none else some (set.reverse, (clear.getD []).reverse, c :: rest)
    else if c = '-' then if clear.isSome then none else flags? set (some []) rest
    else
      (flag? c).bind fun flag =>
        if set.contains flag || (clear.getD []).contains flag then none
        else
          match clear with
          | none => flags? (flag :: set) none rest
          | some cleared => flags? set (some (flag :: cleared)) rest

def isNameChar (first : Bool) (c : Char) : Bool :=
  let isLetter : Bool := if c.toNat < 0x80 then c.isAlpha else Unicode.Property.alphabetic.contains c
  let isNumber : Bool :=
    if c.toNat < 0x80 then c.isDigit
    else (Unicode.Category.having Unicode.Category.numbers).contains c
  c == '_' || isLetter || (!first && (c == '.' || c == '[' || c == ']' || isNumber))

structure Reading where
  extended : Bool := false
  groups : Nat := 0
  names : List (String × Nat) := []
  deriving Inhabited

def groupName? (r : Reading) (cs : List Char) : Option (String × List Char) :=
  let name := cs.takeWhile (· != '>')
  match name, cs.drop name.length with
  | c :: more, _ :: rest =>
    let text := String.ofList name
    if isNameChar true c && more.all (isNameChar false) && (r.names.lookup text).isNone then
      some (text, rest)
    else none
  | _, _ => none

def opening? (r : Reading) (cs : List Char) :
    Option ((GroupKind ⊕ List Flag × List Flag) × Reading × List Char) :=
  let index := r.groups + 1
  let named (rest : List Char) : Option ((GroupKind ⊕ List Flag × List Flag) × Reading × List Char) :=
    (groupName? r rest).map fun (name, rest) =>
      (.inl (.capture index), { r with groups := index, names := (name, index) :: r.names }, rest)
  let extended (set clear : List Flag) : Bool :=
    if clear.contains .extended then false else set.contains .extended || r.extended
  match skip r.extended cs with
  | '?' :: 'P' :: '<' :: rest => named rest
  | '?' :: '<' :: '=' :: _ | '?' :: '<' :: '!' :: _ => none
  | '?' :: '<' :: rest => named rest
  | '?' :: rest =>
    match flags? [] none rest with
    | some (set, clear, ':' :: rest) =>
      some (.inl (.plain set clear), { r with extended := extended set clear }, rest)
    | some (set, clear, ')' :: rest) =>
      if set.isEmpty && clear.isEmpty then none
      else some (.inr (set, clear), { r with extended := extended set clear }, rest)
    | _ => none
  | rest => some (.inl (.capture index), { r with groups := index }, rest)

def bound? (extended : Bool) (fuel : Nat) (digits : List Char) (cs : List Char) :
    Option (Nat × List Char) :=
  match fuel, cs with
  | fuel + 1, c :: rest =>
    if c.isDigit then bound? extended fuel (c :: digits) (skip extended rest) else finish cs
  | _, cs => finish cs
where
  finish (cs : List Char) : Option (Nat × List Char) :=
    let n := digits.reverse.foldl (fun n c => 10 * n + (c.toNat - 48)) 0
    if digits.isEmpty || Nat.pow 2 32 ≤ n then none
    else some (n, skip extended (cs.dropWhile isBlank))

def bounds? (extended : Bool) (cs : List Char) : Option (Nat × Option Nat × List Char) :=
  let number? (cs : List Char) : Option (Nat × List Char) :=
    let cs := (skip extended cs).dropWhile isBlank
    bound? extended (cs.length + 1) [] cs
  match number? cs with
  | some (low, '\x7d' :: rest) => some (low, some low, rest)
  | some (low, ',' :: rest) =>
    match skip extended rest with
    | '\x7d' :: rest => some (low, none, rest)
    | rest =>
      match number? rest with
      | some (high, '\x7d' :: rest) => if high < low then none else some (low, some high, rest)
      | _ => none
  | _ => none

def repeatLast? (greedy : Bool) (low : Nat) (high : Option Nat) : List Expr → Option (List Expr)
  | [] | .empty :: _ | .flags .. :: _ => none
  | e :: parts => some (.repeated greedy e low high :: parts)

def lazily (cs : List Char) : Bool × List Char :=
  match cs with
  | '?' :: rest => (false, rest)
  | rest => (true, rest)

/-- Reads the inside of a group up to its closing bracket or the end of the text. `branches` are the
alternatives before the current one and `parts` its parts, last first. -/
def inside? (fuel : Nat) (r : Reading) (branches parts : List Expr) (cs : List Char) :
    Option (Expr × Reading × List Char) :=
  match fuel with
  | 0 => none
  | fuel + 1 =>
    let current : Expr := .ofParts parts.reverse
    let part (e : Expr) (rest : List Char) : Option (Expr × Reading × List Char) :=
      inside? fuel r branches (e :: parts) rest
    let again (low : Nat) (high : Option Nat) (rest : List Char) :
        Option (Expr × Reading × List Char) :=
      let (greedy, rest) := lazily rest
      (repeatLast? greedy low high parts).bind fun parts => inside? fuel r branches parts rest
    match skip r.extended cs with
    | [] => some (.ofBranches (current :: branches).reverse, r, [])
    | ')' :: rest => some (.ofBranches (current :: branches).reverse, r, ')' :: rest)
    | '|' :: rest => inside? fuel r (current :: branches) [] rest
    | '(' :: rest =>
      (opening? r rest).bind fun (start, inner, rest) =>
        match start with
        | .inr (set, clear) => inside? fuel inner branches (.flags set clear :: parts) rest
        | .inl kind =>
          match inside? fuel inner [] [] rest with
          | some (e, after, ')' :: rest) =>
            inside? fuel { after with extended := r.extended } branches (.group kind e :: parts) rest
          | _ => none
    | '[' :: rest =>
      (setStart? r.extended rest).bind fun (negated, start, rest) =>
        (set? (rest.length + 1) r.extended none start rest).bind fun (inner, rest) =>
          part (.bracket negated inner) rest
    | '*' :: rest => again 0 none rest
    | '+' :: rest => again 1 none rest
    | '?' :: rest => again 0 (some 1) rest
    | '\x7b' :: rest =>
      (bounds? r.extended rest).bind fun (low, high, rest) => again low high (skip r.extended rest)
    | '.' :: rest => part .dot rest
    | '^' :: rest => part (.anchor .lineStart) rest
    | '$' :: rest => part (.anchor .lineEnd) rest
    | '\\' :: rest => (escape? r.extended rest).bind fun (e, rest) => part e rest
    | c :: rest => part (.literal c false) rest

def maxDepth : Nat := 250

/-- Reads a whole pattern, with the numbers of its named groups. Every step of the reader consumes a
character, or ends a group. -/
def Expr.parse? (s : String) : Option (Expr × List (String × Nat)) :=
  match inside? (2 * s.length + 2) {} [] [] s.toList with
  | some (e, r, []) => if e.depth ≤ maxDepth then some (e, r.names) else none
  | _ => none

end PddlAssist.Regex
