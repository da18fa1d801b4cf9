import PddlAssist.Regex
import PddlAssist.Regex.Expr
import PddlAssist.Text.Blank
import PddlAssist.Text.Digit
import PddlAssist.Unicode.Fold
import PddlAssist.Unicode.Query

namespace PddlAssist.Regex

open Text

structure Flags where
  ignoreCase : Bool := false
  multiLine : Bool := false
  dotAll : Bool := false
  swapGreed : Bool := false
  unicode : Bool := true
  crlf : Bool := false
  deriving Inhabited

namespace Flags

def put (f : Flags) (value : Bool) : Flag → Flags
  | .ignoreCase => { f with ignoreCase := value }
  | .multiLine => { f with multiLine := value }
  | .dotAll => { f with dotAll := value }
  | .swapGreed => { f with swapGreed := value }
  | .unicode => { f with unicode := value }
  | .crlf => { f with crlf := value }
  | .extended => f

def change (f : Flags) (set clear : List Flag) : Flags :=
  clear.foldl (·.put false ·) (set.foldl (·.put true ·) f)

def fold (f : Flags) (s : CharSet) : CharSet :=
  if f.ignoreCase then if f.unicode then s.foldCase else s.foldAsciiCase else s

def allow? (f : Flags) (s : CharSet) : Option CharSet :=
  if f.unicode || s.isAscii then some s else none

end Flags

def blanks : CharSet :=
  ⟨[(9, 13), (0x20, 0x20), (0x85, 0x85), (0xA0, 0xA0), (0x1680, 0x1680), (0x2000, 0x200A),
    (0x2028, 0x2029), (0x202F, 0x202F), (0x205F, 0x205F), (0x3000, 0x3000)]⟩

def Shorthand.members (unicode : Bool) : Shorthand → CharSet
  | digit => if unicode then decimalDigits else .range '0' '9'
  | blank => if unicode then blanks else ⟨[(9, 13), (0x20, 0x20)]⟩
  | word => if unicode then wordChars else ⟨[(0x30, 0x39), (0x41, 0x5A), (0x5F, 0x5F), (0x61, 0x7A)]⟩

def negate (negated : Bool) (s : CharSet) : CharSet := if negated then s.compl else s

def Shorthand.meaning? (f : Flags) (negated : Bool) (kind : Shorthand) : Option CharSet :=
  f.allow? (negate negated (kind.members f.unicode))

def Query.meaning? (f : Flags) (q : Query) : Option CharSet :=
  if f.unicode then
    let set :=
      match q.value with
      | some value => Unicode.valued? q.name value
      | none => Unicode.named? q.name
    set.map fun s => negate q.negated (f.fold (s.inter .all))
  else none

def posixMembers (name : String) : CharSet :=
  match name with
  | "alnum" => .ofHex "30-39 41-5A 61-7A"
  | "alpha" => .ofHex "41-5A 61-7A"
  | "ascii" => .ofHex "0-7F"
  | "blank" => .ofHex "9 20"
  | "cntrl" => .ofHex "0-1F 7F"
  | "digit" => .ofHex "30-39"
  | "graph" => .ofHex "21-7E"
  | "lower" => .ofHex "61-7A"
  | "print" => .ofHex "20-7E"
  | "punct" => .ofHex "21-2F 3A-40 5B-60 7B-7E"
  | "space" => .ofHex "9-D 20"
  | "upper" => .ofHex "41-5A"
  | "word" => .ofHex "30-39 41-5A 5F 61-7A"
  | "xdigit" => .ofHex "30-39 41-46 61-66"
  | _ => {}

def SetOp.apply (a b : CharSet) : SetOp → CharSet
  | intersection => a.inter b
  | difference => a.diff b
  | symmetric => a.symmDiff b

mutual

/-- The characters of a set as it is written. Case is folded in every bracket before it is negated, and
on both sides of an operator before it is applied. -/
def SetExpr.meaning? (f : Flags) : SetExpr → Option CharSet
  | .range low high => f.allow? (.range low high)
  | .posix negated name => f.allow? (negate negated (f.fold (posixMembers name)))
  | .shorthand negated kind => kind.meaning? f negated
  | .query q => q.meaning? f
  | .bracket negated inner =>
    (SetExpr.meaning? f inner).bind fun s => f.allow? (negate negated (f.fold s))
  | .union items => (SetExpr.meanings? f items).map CharSet.unions
  | .join op left right =>
    (SetExpr.meaning? f left).bind fun a =>
      (SetExpr.meaning? f right).map fun b => op.apply (f.fold a) (f.fold b)

def SetExpr.meanings? (f : Flags) : List SetExpr → Option (List CharSet)
  | [] => some []
  | item :: items =>
    (SetExpr.meaning? f item).bind fun s => (SetExpr.meanings? f items).map (s :: ·)

end

def Anchor.look (f : Flags) : Anchor → Look
  | lineStart => if f.multiLine then .lineStart f.crlf else .textStart
  | lineEnd => if f.multiLine then .lineEnd f.crlf else .textEnd
  | textStart => .textStart
  | textEnd => .textEnd
  | wordEdge => .wordEdge f.unicode
  | noWordEdge => .noWordEdge f.unicode
  | wordStart => .wordStart f.unicode
  | wordEnd => .wordEnd f.unicode
  | noWordBefore => .noWordBefore f.unicode
  | noWordAfter => .noWordAfter f.unicode

/-- A dot stands for any character but a line break, and never for a byte. -/
def dotMembers? (f : Flags) : Option CharSet :=
  if !f.unicode then none
  else if f.dotAll then some .all
  else if f.crlf then some (CharSet.ofHex "A D").compl
  else some (CharSet.ofHex "A").compl

mutual

def Expr.meaning? (f : Flags) : Expr → Option (Regex × Flags)
  | .empty => some (.empty, f)
  | .flags set clear => some (.empty, f.change set clear)
  | .literal c byte =>
    if byte && !f.unicode && 0x80 ≤ c.toNat then none else some (.char (f.fold (.single c)), f)
  | .dot => (dotMembers? f).map fun s => (.char s, f)
  | .anchor a => some (.look (a.look f), f)
  | .shorthand negated kind => (kind.meaning? f negated).map fun s => (.char s, f)
  | .query q => (q.meaning? f).map fun s => (.char s, f)
  | .bracket negated inner =>
    (SetExpr.meaning? f (.bracket negated inner)).map fun s => (.char s, f)
  | .repeated greedy inner low high =>
    (Expr.meaning? f inner).map fun (r, f) => (.times (greedy != f.swapGreed) r low high, f)
  | .group (.capture index) inner =>
    (Expr.meaning? f inner).map fun (r, _) => (.group index r, f)
  | .group (.plain set clear) inner =>
    (Expr.meaning? (f.change set clear) inner).map fun (r, _) => (r, f)
  | .alternatives branches => (Expr.meanings? f branches).map fun (rs, f) => (.altOf rs, f)
  | .sequence parts => (Expr.meanings? f parts).map fun (rs, f) => (.seqOf rs, f)

def Expr.meanings? (f : Flags) : List Expr → Option (List Regex × Flags)
  | [] => some ([], f)
  | e :: rest =>
    (Expr.meaning? f e).bind fun (r, f) =>
      (Expr.meanings? f rest).map fun (rs, f) => (r :: rs, f)

end

end PddlAssist.Regex
