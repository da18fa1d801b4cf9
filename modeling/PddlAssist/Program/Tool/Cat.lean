import PddlAssist.Program.Tool

namespace PddlAssist.Tool.Cat

open Text

def flags : List Flag :=
  [{ short := some 'b', long := some "number-nonblank" }, { short := some 'n', long := some "number" },
   { short := some 's', long := some "squeeze-blank" },
   { short := some 'v', long := some "show-nonprinting" },
   { short := some 'E', long := some "show-ends" }, { short := some 'T', long := some "show-tabs" },
   { short := some 'A', long := some "show-all" }, { short := some 'e' }, { short := some 't' },
   { short := some 'u' }]

structure Style where
  countsAll : Bool
  countsText : Bool
  squeezes : Bool
  showsHidden : Bool
  showsEnds : Bool
  showsTabs : Bool
  deriving Repr, Inhabited

def Style.ofWords (w : Words) : Style :=
  { countsAll := w.has 'n' && !w.has 'b'
    countsText := w.has 'n' || w.has 'b'
    squeezes := w.has 's'
    showsHidden := w.has 'v' || w.has 'e' || w.has 't' || w.has 'A'
    showsEnds := w.has 'E' || w.has 'e' || w.has 'A'
    showsTabs := w.has 'T' || w.has 't' || w.has 'A' }

structure Progress where
  lines : Nat := 0
  /-- How many line breaks stand right before, but not more than two; none inside a line. -/
  breaks : Option Nat := some 0

def newline : UInt8 := 10

def tab : UInt8 := 9

def carriageReturn : UInt8 := 13

def counter (n : Nat) : Bytes :=
  let digits := Nat.toDigits 10 n
  encode (List.replicate (6 - digits.length) ' ' ++ digits ++ ['\t'])

def shownLow (n : Nat) : List Nat :=
  if n = 127 then [94, 63] else if n < 32 then [94, n + 64] else [n]

def shown (style : Style) (b : UInt8) : Bytes :=
  let n := b.toNat
  if b = tab then if style.showsTabs then [94, 73] else [b]
  else if !style.showsHidden then [b]
  else ((if n < 128 then shownLow n else [77, 45] ++ shownLow (n - 128))).map UInt8.ofNat

def write (style : Style) (p : Progress) : Bytes → Bytes × Progress
  | [] => ([], p)
  | b :: rest =>
    if b = newline then
      let breaks := p.breaks.elim 0 (· + 1)
      if style.squeezes && 2 ≤ breaks then write style { p with breaks := some 2 } rest
      else
        let counts := style.countsAll && 0 < breaks
        let lines := if counts then p.lines + 1 else p.lines
        let (written, p) := write style ⟨lines, some (min 2 breaks)⟩ rest
        ((if counts then counter lines else []) ++ (if style.showsEnds then [36] else []) ++
          newline :: written, p)
    else
      let counts := style.countsText && p.breaks.isSome
      let lines := if counts then p.lines + 1 else p.lines
      let (written, p) := write style ⟨lines, none⟩ rest
      let isEnd := style.showsEnds && b = carriageReturn && rest.head? == some newline
      ((if counts then counter lines else []) ++ (if isEnd then [94, 77] else shown style b) ++
        written, p)

def writeAll (name : String) (style : Style) (files : Files) (p : Progress) (input : Bytes) :
    List String → Result
  | [] => { input }
  | operand :: rest =>
    let found := if operand = "-" then .ok input else Place.read files operand
    let input := if operand = "-" then [] else input
    match found with
    | .ok bytes =>
      let (written, p) := write style p bytes
      Result.append { output := written } (writeAll name style files p input rest)
    | .error e =>
      Result.append (.complain [] (name ++ ": " ++ quotedIfNeeded operand ++ ": " ++ e.message))
        (writeAll name style files p input rest)

def run (name : String) (arguments : List String) (files : Files) (input : Bytes) : Result :=
  let words := readWords flags {} arguments
  match words.complaint with
  | some e => .complain input (usageComplaint name e)
  | none =>
    let operands := if words.operands.isEmpty then ["-"] else words.operands
    writeAll name (.ofWords words) files {} input operands

end PddlAssist.Tool.Cat
