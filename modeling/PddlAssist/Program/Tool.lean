import PddlAssist.Program.Place

namespace PddlAssist.Tool

open Text

structure Result where
  output : Bytes := []
  errors : Bytes := []
  status : Nat := 0
  input : Bytes := []
  deriving Repr, Inhabited

def textBytes (s : String) : Bytes := encode s.toList

namespace Result

def complain (input : Bytes) (text : String) : Result :=
  { errors := textBytes (text ++ "\n"), status := 1, input }

/-- One result after another; the second one starts with the input that the first one left. -/
def append (first second : Result) : Result :=
  { output := first.output ++ second.output
    errors := first.errors ++ second.errors
    status := max first.status second.status
    input := second.input }

end Result

structure Flag where
  short : Option Char := none
  long : Option String := none
  takesValue : Bool := false
  deriving DecidableEq, Repr, Inhabited

structure Words where
  flags : List (Flag × String) := []
  operands : List String := []
  complaint : Option String := none
  deriving Repr, Inhabited

namespace Words

def addFlag (w : Words) (flag : Flag) (value : String) : Words :=
  { w with flags := w.flags ++ [(flag, value)] }

def complain (w : Words) (text : String) : Words := { w with complaint := some text }

def value? (w : Words) (short : Char) : Option String :=
  (w.flags.reverse.find? (·.1.short == some short)).map (·.2)

def has (w : Words) (short : Char) : Bool := (w.value? short).isSome

end Words

def meanings (flags : List Flag) (name : String) : List Flag :=
  match flags.find? (·.long == some name) with
  | some flag => [flag]
  | none => flags.filter fun flag => flag.long.any fun long => name.toList.isPrefixOf long.toList

/-- Reads the letters after one dash; `next` is the word after them. Says whether that word was used as
a value. -/
def readShort (flags : List Flag) (next : Option String) (w : Words) : List Char → Words × Bool
  | [] => (w, false)
  | c :: rest =>
    match flags.find? (·.short == some c) with
    | none => (w.complain ("invalid option -- '" ++ String.singleton c ++ "'"), false)
    | some flag =>
      if !flag.takesValue then readShort flags next (w.addFlag flag "") rest
      else if !rest.isEmpty then (w.addFlag flag (String.ofList rest), false)
      else
        match next with
        | some value => (w.addFlag flag value, true)
        | none => (w.complain ("option requires an argument -- '" ++ String.singleton c ++ "'"), false)

def readLong (flags : List Flag) (next : Option String) (w : Words) (cs : List Char) :
    Words × Bool :=
  let name := String.ofList (cs.takeWhile (· != '='))
  let value := (cs.dropWhile (· != '=')).tail
  let hasValue := cs.contains '='
  match meanings flags name with
  | [] => (w.complain ("unrecognized option '--" ++ String.ofList cs ++ "'"), false)
  | [flag] =>
    let long := flag.long.getD ""
    if !flag.takesValue then
      if hasValue then (w.complain ("option '--" ++ long ++ "' doesn't allow an argument"), false)
      else (w.addFlag flag "", false)
    else if hasValue then (w.addFlag flag (String.ofList value), false)
    else
      match next with
      | some value => (w.addFlag flag value, true)
      | none => (w.complain ("option '--" ++ long ++ "' requires an argument"), false)
  | several =>
    let names := several.map fun flag => " '--" ++ flag.long.getD "" ++ "'"
    let complaint := "option '--" ++ String.ofList cs ++ "' is ambiguous; possibilities:"
    (w.complain (complaint ++ String.join names), false)

def readWords (flags : List Flag) (w : Words) : List String → Words
  | [] => w
  | word :: rest =>
    match word.toList with
    | ['-', '-'] => { w with operands := w.operands ++ rest }
    | '-' :: c :: cs =>
      let (w, used) :=
        if c = '-' then readLong flags rest.head? w cs else readShort flags rest.head? w (c :: cs)
      if w.complaint.isSome then w
      else
        match used, rest with
        | true, _ :: rest => readWords flags w rest
        | _, rest => readWords flags w rest
    | _ => readWords flags { w with operands := w.operands ++ [word] } rest

def usageComplaint (name : String) (complaint : String) : String :=
  name ++ ": " ++ complaint ++ "\nTry '" ++ name ++ " --help' for more information."

def quotedSigns : List Char :=
  [' ', '!', '"', '$', '&', '\'', '(', ')', '*', ';', '<', '=', '>', '?', '[', '\\', '^', '\x60', '|',
   ':']

def needsQuotes (name : String) : Bool :=
  name.isEmpty || name.toList.any quotedSigns.contains || ["\x7b", "\x7d"].contains name ||
    ['#', '~'].any fun c => name.toList.head? == some c

/-- A name in quotes. A name with single quotes and few other signs takes double ones. -/
def quoted (name : String) : String :=
  let others := quotedSigns.filter fun c => c != ' ' && c != '\'' && c != ':'
  if name.toList.contains '\'' && !name.toList.any others.contains then "\"" ++ name ++ "\""
  else
    let inner := name.toList.flatMap fun c => if c = '\'' then ['\'', '\\', '\'', '\''] else [c]
    "'" ++ String.ofList inner ++ "'"

def quotedIfNeeded (name : String) : String := if needsQuotes name then quoted name else name

end PddlAssist.Tool
