import PddlAssist.Program.Tool.Echo

namespace PddlAssist.Tool.Printf

open Text

structure Conversion where
  left : Bool := false
  zeros : Bool := false
  plus : Bool := false
  width : Nat := 0
  precision : Option Nat := none
  kind : Char
  deriving DecidableEq, Repr, Inhabited

inductive Piece where
  | bytes (bs : Bytes)
  | conversion (c : Conversion)
  deriving DecidableEq, Repr, Inhabited

def conversion? (cs : List Char) : Option (Conversion × List Char) :=
  let flags := cs.takeWhile ['-', '0', '+', ' ', '#'].contains
  let rest := cs.drop flags.length
  let width := rest.takeWhile Char.isDigit
  let rest := rest.drop width.length
  let (precision, rest) :=
    match rest with
    | '.' :: rest =>
      let digits := rest.takeWhile Char.isDigit
      (some (Echo.digits Echo.hex? 10 digits.length 0 digits).1, rest.drop digits.length)
    | _ => (none, rest)
  match rest with
  | kind :: rest =>
    some ({ left := flags.contains '-', zeros := flags.contains '0', plus := flags.contains '+',
            width := (Echo.digits Echo.hex? 10 width.length 0 width).1, precision, kind }, rest)
  | [] => none

def pieces : (fuel : Nat) → List Char → List Piece
  | 0, _ | _ + 1, [] => []
  | fuel + 1, '\\' :: rest =>
    match Echo.escape false (match rest with | '0' :: more => '0' :: more | other => other) with
    | some (bs, rest) => .bytes bs :: pieces fuel rest
    | none => []
  | fuel + 1, '%' :: '%' :: rest => .bytes [37] :: pieces fuel rest
  | fuel + 1, '%' :: rest =>
    match conversion? rest with
    | some (c, rest) => .conversion c :: pieces fuel rest
    | none => []
  | fuel + 1, c :: rest => .bytes (encode [c]) :: pieces fuel rest

def fillTo (c : Conversion) (pad : Char) (cs : List Char) : List Char :=
  let padding := List.replicate (c.width - cs.length) pad
  if c.left then cs ++ List.replicate (c.width - cs.length) ' ' else padding ++ cs

def number? (s : String) : Option Int :=
  match s.toList with
  | [] => some 0
  | '\'' :: c :: _ | '"' :: c :: _ => some c.toNat
  | '-' :: rest => (natural? rest).map fun n => -(n : Int)
  | '+' :: rest => (natural? rest).map Int.ofNat
  | rest => (natural? rest).map Int.ofNat
where
  natural? (cs : List Char) : Option Nat :=
    let inBase (digit? : Char → Option Nat) (base : Nat) (cs : List Char) : Option Nat :=
      match Echo.digits digit? base cs.length 0 cs with
      | (n, []) => if cs.isEmpty then none else some n
      | _ => none
    match cs with
    | '0' :: 'x' :: rest | '0' :: 'X' :: rest => inBase Echo.hex? 16 rest
    | ['0'] => some 0
    | '0' :: rest => inBase Echo.octal? 8 rest
    | rest => if rest.all Char.isDigit then inBase Echo.hex? 10 rest else none

def digitsOf (base : Nat) (c : Conversion) (n : Nat) : List Char :=
  let digits := Nat.toDigits base n
  List.replicate ((c.precision.getD 1) - digits.length) '0' ++ digits

def numberText (c : Conversion) (n : Int) : List Char :=
  let wrapped := (n % (Nat.pow 2 64 : Nat)).toNat
  let signed := (if n < 0 then ['-'] else if c.plus then ['+'] else [])
  let (sign, digits) :=
    if c.kind = 'o' then ([], digitsOf 8 c wrapped)
    else if c.kind = 'x' then ([], digitsOf 16 c wrapped)
    else if c.kind = 'X' then ([], (digitsOf 16 c wrapped).map Char.toUpper)
    else if c.kind = 'u' then ([], digitsOf 10 c wrapped)
    else (signed, digitsOf 10 c n.natAbs)
  if c.zeros && !c.left && c.precision.isNone then
    sign ++ List.replicate (c.width - sign.length - digits.length) '0' ++ digits
  else fillTo c ' ' (sign ++ digits)

def convert (c : Conversion) (argument : String) : Bytes × Bool :=
  let cut (cs : List Char) : List Char := (c.precision.elim cs cs.take)
  if c.kind = 's' then (encode (fillTo c ' ' (cut argument.toList)), false)
  else if c.kind = 'b' then ((Echo.unescape false argument.toList.length argument.toList).1, false)
  else if c.kind = 'c' then (encode (fillTo c ' ' (argument.toList.take 1)), false)
  else
    match number? argument with
    | some n => (encode (numberText c n), false)
    | none => (encode (numberText c 0), true)

def fill (arguments : List String) : List Piece → Bytes × List String × List String
  | [] => ([], [], arguments)
  | .bytes bs :: rest =>
    let (written, wrong, left) := fill arguments rest
    (bs ++ written, wrong, left)
  | .conversion c :: rest =>
    let argument := arguments.headD ""
    let (bs, isWrong) := convert c argument
    let (written, wrong, left) := fill arguments.tail rest
    (bs ++ written, (if isWrong then [argument] else []) ++ wrong, left)

def fillAll (ps : List Piece) : (fuel : Nat) → List String → Bytes × List String
  | 0, _ => ([], [])
  | fuel + 1, arguments =>
    let (written, wrong, left) := fill arguments ps
    if left.isEmpty || left.length = arguments.length then (written, wrong)
    else
      let (more, moreWrong) := fillAll ps fuel left
      (written ++ more, wrong ++ moreWrong)

def write (pattern : String) (arguments : List String) : Bytes × List String :=
  fillAll (pieces (pattern.length + 1) pattern.toList) (arguments.length + 1) arguments

end PddlAssist.Tool.Printf
