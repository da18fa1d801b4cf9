import PddlAssist.Program.Tool

namespace PddlAssist.Tool.Echo

open Text

def octal? (c : Char) : Option Nat := if '0' ≤ c ∧ c ≤ '7' then some (c.toNat - 48) else none

def hex? (c : Char) : Option Nat :=
  if c.isDigit then some (c.toNat - 48)
  else if 'a' ≤ c ∧ c ≤ 'f' then some (c.toNat - 87)
  else if 'A' ≤ c ∧ c ≤ 'F' then some (c.toNat - 55)
  else none

def digits (digit? : Char → Option Nat) (base : Nat) :
    (count value : Nat) → List Char → Nat × List Char
  | 0, value, cs => (value, cs)
  | _ + 1, value, [] => (value, [])
  | count + 1, value, c :: rest =>
    match digit? c with
    | some d => digits digit? base count (base * value + d) rest
    | none => (value, c :: rest)

def letter? : Char → Option UInt8
  | '\\' => some 92
  | 'a' => some 7
  | 'b' => some 8
  | 'f' => some 12
  | 'n' => some 10
  | 'r' => some 13
  | 't' => some 9
  | 'v' => some 11
  | _ => none

/-- What the text after a backslash begins with: bytes and the text after them, or the order to stop.
Only the program knows `e` and hexadecimal digits. -/
def escape (isProgram : Bool) : List Char → Option (Bytes × List Char)
  | [] => some ([92], [])
  | 'c' :: _ => none
  | '0' :: rest =>
    let (n, rest) := digits octal? 8 3 0 rest
    some ([UInt8.ofNat n], rest)
  | 'e' :: rest => some (if isProgram then [27] else [92, 101], rest)
  | 'x' :: rest =>
    match isProgram, rest.head?.bind hex? with
    | true, some _ =>
      let (n, rest) := digits hex? 16 2 0 rest
      some ([UInt8.ofNat n], rest)
    | _, _ => some ([92, 120], rest)
  | c :: rest =>
    if (octal? c).isSome then
      let (n, rest) := digits octal? 8 3 0 (c :: rest)
      some ([UInt8.ofNat n], rest)
    else
      match letter? c with
      | some b => some ([b], rest)
      | none => some (92 :: encode [c], rest)

def unescape (isProgram : Bool) : (fuel : Nat) → List Char → Bytes × Bool
  | 0, _ => ([], true)
  | _ + 1, [] => ([], true)
  | fuel + 1, '\\' :: rest =>
    match escape isProgram rest with
    | none => ([], false)
    | some (bytes, rest) =>
      let (more, goesOn) := unescape isProgram fuel rest
      (bytes ++ more, goesOn)
  | fuel + 1, c :: rest =>
    let (more, goesOn) := unescape isProgram fuel rest
    (encode [c] ++ more, goesOn)

def write (isProgram escapes line : Bool) (words : List String) : Bytes :=
  let text := (" ".intercalate words).toList
  let (bytes, goesOn) :=
    if escapes then unescape isProgram text.length text else (encode text, true)
  bytes ++ if line && goesOn then [10] else []

def optionLetters? (word : String) : Option (List Char) :=
  match word.toList with
  | '-' :: c :: cs => if (c :: cs).all ['n', 'e', 'E'].contains then some (c :: cs) else none
  | _ => none

/-- The program: options are the words in front that hold nothing but known letters, and of two letters
about escapes the last one counts. -/
def program (escapes line : Bool) : List String → Bytes
  | [] => write true escapes line []
  | word :: rest =>
    match optionLetters? word with
    | some letters =>
      let escapes :=
        letters.foldl (fun b c => if c = 'e' then true else if c = 'E' then false else b) escapes
      program escapes (line && !letters.contains 'n') rest
    | none => write true escapes line (word :: rest)

def builtin : List String → Bytes
  | "-n" :: words => write false true false words
  | words => write false true true words

end PddlAssist.Tool.Echo
