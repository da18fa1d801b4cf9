import PddlAssist.Program.Tool
import PddlAssist.Text.Blank

namespace PddlAssist.Tool

open Text

def dropLines (stop : UInt8) : Nat → Bytes → Bytes
  | 0, bs => bs
  | _ + 1, [] => []
  | n + 1, b :: rest => if b = stop then dropLines stop n rest else dropLines stop (n + 1) rest

def takeLines (stop : UInt8) : Nat → Bytes → Bytes
  | 0, _ => []
  | _ + 1, [] => []
  | n + 1, b :: rest =>
    if b = stop then b :: takeLines stop n rest else b :: takeLines stop (n + 1) rest

def lineCount (stop : UInt8) (bs : Bytes) : Nat :=
  bs.count stop + if bs.getLast?.any (· != stop) then 1 else 0

def suffixFactor? : List Char → Option Nat
  | [] => some 1
  | ['b'] => some 512
  | letter :: unit =>
    let power? : Option Nat :=
      (([('K', 1), ('k', 1), ('M', 2), ('m', 2), ('G', 3), ('T', 4), ('P', 5), ('E', 6), ('Z', 7),
        ('Y', 8), ('R', 9), ('Q', 10)] : List (Char × Nat)).lookup letter)
    match power?, unit with
    | some power, [] | some power, ['i', 'B'] => some (Nat.pow 1024 power)
    | some power, ['B'] | some power, ['D'] => some (Nat.pow 1000 power)
    | _, _ => none

inductive CountError where
  | invalid
  | tooLarge

/-- A number with an optional sign before it and an optional suffix; a suffix alone is one. -/
def readCount (cs : List Char) : Except CountError Nat :=
  let body :=
    match trimStart cs with
    | '+' :: rest => rest
    | rest => rest
  let digits := body.takeWhile Char.isDigit
  let suffix := body.drop digits.length
  let n := if digits.isEmpty then 1 else digits.foldl (fun n d => 10 * n + (d.toNat - 48)) 0
  match suffixFactor? suffix with
  | some factor =>
    if digits.isEmpty && (suffix.isEmpty || body.length < cs.length) then .error .invalid
    else if n * factor < Nat.pow 2 64 then .ok (n * factor)
    else .error .tooLarge
  | none => .error .invalid

structure Portion where
  count : Nat := 10
  bytes : Bool := false
  reversed : Bool := false
  zeroEnded : Bool := false
  follows : Bool := false
  deriving DecidableEq, Repr, Inhabited

def Portion.stop (p : Portion) : UInt8 := if p.zeroEnded then 0 else 10

def Portion.last (p : Portion) (bs : Bytes) : Bytes :=
  match p.bytes, p.reversed with
  | false, false => dropLines p.stop (lineCount p.stop bs - p.count) bs
  | false, true => dropLines p.stop (p.count - 1) bs
  | true, false => bs.drop (bs.length - p.count)
  | true, true => bs.drop (p.count - 1)

def Portion.first (p : Portion) (bs : Bytes) : Bytes :=
  match p.bytes, p.reversed with
  | false, false => takeLines p.stop p.count bs
  | false, true => takeLines p.stop (lineCount p.stop bs - p.count) bs
  | true, false => bs.take p.count
  | true, true => bs.take (bs.length - p.count)

def countComplaint (name : String) (isBytes : Bool) (text : List Char) (e : CountError) : String :=
  name ++ ": invalid number of " ++ (if isBytes then "bytes" else "lines") ++ ": '" ++
    String.ofList text ++ "'" ++
    match e with
    | .invalid => ""
    | .tooLarge => ": Value too large for defined data type"

inductive Headers where
  | ifSeveral
  | always
  | never
  deriving DecidableEq, Repr, Inhabited

def writeParts (name : String) (headers follows : Bool) (portion : Bytes → Bytes) (files : Files)
    (isFirst : Bool) (input : Bytes) : List String → Result
  | [] => { input }
  | operand :: rest =>
    let isInput := operand = "-"
    let found := if isInput then .ok input else Place.read files operand
    let input := if isInput then [] else input
    let title := if isInput then "standard input" else operand
    let header :=
      if headers then textBytes ((if isFirst then "" else "\n") ++ "==> " ++ title ++ " <==\n") else []
    match found with
    | .ok bytes =>
      Result.append { output := header ++ portion bytes }
        (writeParts name headers follows portion files false input rest)
    | .error .isFolder =>
      let givenUp :=
        if follows then
          "\n" ++ name ++ ": " ++ operand ++
            ": cannot follow end of this type of file; giving up on this name"
        else ""
      Result.append
        { Result.complain []
            (name ++ ": error reading " ++ quoted operand ++ ": Is a directory" ++ givenUp) with
          output := header }
        (writeParts name headers follows portion files false input rest)
    | .error e =>
      Result.append
        (.complain [] (name ++ ": cannot open " ++ quoted operand ++ " for reading: " ++ e.message))
        (writeParts name headers follows portion files isFirst input rest)

def headersOf (w : Words) : Headers :=
  match (w.flags.reverse.find? fun (flag, _) => flag.short == some 'q' || flag.short == some 'v') with
  | some (flag, _) => if flag.short == some 'q' then .never else .always
  | none => .ifSeveral

def showsHeaders (headers : Headers) (operands : List String) : Bool :=
  headers == .always || (headers == .ifSeveral && 1 < operands.length)

namespace Tail

def flags : List Flag :=
  [{ short := some 'n', long := some "lines", takesValue := true },
   { short := some 'c', long := some "bytes", takesValue := true },
   { short := some 'f', long := some "follow" },
   { short := some 'q', long := some "quiet" }, { short := some 'q', long := some "silent" },
   { short := some 's', long := some "sleep-interval", takesValue := true },
   { short := some 'v', long := some "verbose" }, { short := some 'z', long := some "zero-terminated" }]
    ++ "0123456789".toList.map fun c => { short := some c }

def oldForm? (word : String) : Option Portion :=
  match word.toList with
  | sign :: cs =>
    let digits := cs.takeWhile Char.isDigit
    let count := if digits.isEmpty then 10 else digits.foldl (fun n d => 10 * n + (d.toNat - 48)) 0
    let rest := cs.drop digits.length
    let portion : Option (Portion × List Char) :=
      match rest with
      | 'b' :: rest => some ({ count := 512 * count, bytes := true }, rest)
      | 'c' :: rest => some ({ count, bytes := true }, rest)
      | 'l' :: rest => some ({ count }, rest)
      | rest => some ({ count }, rest)
    let whole (reversed : Bool) : Option Portion :=
      portion.bind fun (p, rest) =>
        if rest.isEmpty then some { p with reversed }
        else if rest == ['f'] then some { p with reversed, follows := true }
        else none
    if sign = '+' then whole true
    else if sign = '-' && !cs.isEmpty && cs != ['c'] then whole false
    else none
  | [] => none

/-- The old form stands first, and at most one file follows it. -/
def splitOldForm? : List String → Option (Portion × List String)
  | [word] => (oldForm? word).map (·, [])
  | [word, "--"] => (oldForm? word).map (·, [])
  | [word, "--", file] => (oldForm? word).map (·, [file])
  | [word, file] =>
    if file.toList.head? == some '-' && file != "-" then none
    else (oldForm? word).map (·, [file])
  | _ => none

/-- Follows the options one by one. A count with a plus sign is taken from the start of the file, and
so are all counts after it. -/
def portionOf (name : String) (p : Portion) : List (Flag × String) → Except String Portion
  | [] => .ok p
  | (flag, value) :: rest =>
    match flag.short with
    | some c =>
      if c = 'n' || c = 'c' then
        let isBytes := c = 'c'
        let fromStart := p.reversed || value.toList.head? == some '+'
        let text := if value.toList.head? == some '-' then value.toList.tail else value.toList
        match readCount text with
        | .ok count =>
          portionOf name { p with count, bytes := isBytes, reversed := fromStart } rest
        | .error e => .error (countComplaint name isBytes text e)
      else if c.isDigit then
        .error (name ++ ": option used in invalid context -- " ++ String.singleton c)
      else
        portionOf name
          { p with zeroEnded := p.zeroEnded || c = 'z', follows := p.follows || c = 'f' } rest
    | none => portionOf name p rest

/-- Files are to be watched, and none of them can be. The input ends, so nobody watches it. -/
def watchesNothing (p : Portion) (files : Files) (operands : List String) : Bool :=
  let paths := operands.filter (· != "-")
  p.follows && !paths.isEmpty && paths.all fun path => !(Place.read files path).toBool

def write (name : String) (p : Portion) (headers : Headers) (files : Files) (input : Bytes)
    (operands : List String) : Result :=
  let operands := if operands.isEmpty then ["-"] else operands
  let written :=
    if p.count = 0 && !p.reversed && !p.follows then { input }
    else writeParts name (showsHeaders headers operands) p.follows p.last files true input operands
  if watchesNothing p files operands then
    written.append (.complain written.input (name ++ ": no files remaining"))
  else written

def run (name : String) (arguments : List String) (files : Files) (input : Bytes) : Result :=
  match splitOldForm? arguments with
  | some (p, operands) => write name p .ifSeveral files input operands
  | none =>
    let words := readWords flags {} arguments
    match portionOf name {} words.flags, words.complaint with
    | .error e, _ => .complain input e
    | .ok _, some e => .complain input (usageComplaint name e)
    | .ok p, none => write name p (headersOf words) files input words.operands

end Tail

namespace Head

def flags : List Flag :=
  [{ short := some 'n', long := some "lines", takesValue := true },
   { short := some 'c', long := some "bytes", takesValue := true },
   { short := some 'q', long := some "quiet" }, { short := some 'q', long := some "silent" },
   { short := some 'v', long := some "verbose" }, { short := some 'z', long := some "zero-terminated" }]
    ++ "0123456789".toList.map fun c => { short := some c }

def trailingComplaint (name : String) (c : Char) : String :=
  usageComplaint name ("invalid trailing option -- " ++ String.singleton c)

def modern (name : String) : List String → Except String (List String)
  | [] => .ok []
  | word :: rest =>
    match word.toList with
    | '-' :: c :: cs =>
      if !c.isDigit then .ok (word :: rest)
      else
        let digits := (c :: cs).takeWhile Char.isDigit
        let letters := (c :: cs).drop digits.length
        let isCount (c : Char) : Bool := ['c', 'b', 'k', 'm'].contains c
        let isFlag (c : Char) : Bool := ['l', 'q', 'v', 'z'].contains c
        match letters.find? fun c => !isCount c && !isFlag c with
        | some c => .error (trailingComplaint name c)
        | none =>
          let unit := letters.filter ['b', 'k', 'm'].contains
          let kind := if letters.any isCount then "-c" else "-n"
          let others := (letters.filter ['q', 'v', 'z'].contains).map fun c =>
            "-" ++ String.singleton c
          .ok (kind :: String.ofList (digits ++ unit.take 1) :: others ++ rest)
    | _ => .ok (word :: rest)

/-- A count with a minus sign is what stays away. -/
def portionOf (name : String) (p : Portion) : List (Flag × String) → Except String Portion
  | [] => .ok p
  | (flag, value) :: rest =>
    if flag.short == some 'n' || flag.short == some 'c' then
      let isBytes := flag.short == some 'c'
      let fromEnd := value.toList.head? == some '-'
      let text := if fromEnd then value.toList.tail else value.toList
      match readCount text with
      | .ok count => portionOf name { p with count, bytes := isBytes, reversed := fromEnd } rest
      | .error e => .error (countComplaint name isBytes text e)
    else if flag.short.any Char.isDigit then
      .error (trailingComplaint name (flag.short.getD ' '))
    else portionOf name { p with zeroEnded := p.zeroEnded || flag.short == some 'z' } rest

def run (name : String) (arguments : List String) (files : Files) (input : Bytes) : Result :=
  match modern name arguments with
  | .error e => .complain input e
  | .ok arguments =>
    let words := readWords flags {} arguments
    match portionOf name {} words.flags, words.complaint with
    | .error e, _ => .complain input e
    | .ok _, some e => .complain input (usageComplaint name e)
    | .ok p, none =>
      let operands := if words.operands.isEmpty then ["-"] else words.operands
      writeParts name (showsHeaders (headersOf words) operands) false p.first files true input operands

end Head
end PddlAssist.Tool
