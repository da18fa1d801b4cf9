namespace PddlAssist.Text

abbrev Bytes := List UInt8

def encode (cs : List Char) : Bytes := cs.flatMap String.utf8EncodeChar

def isTail (b : UInt8) : Bool := 0x80 ≤ b && b ≤ 0xBF

def mayFollow (first second : UInt8) : Bool :=
  if first = 0xE0 then 0xA0 ≤ second && second ≤ 0xBF
  else if first = 0xED then 0x80 ≤ second && second ≤ 0x9F
  else if first = 0xF0 then 0x90 ≤ second && second ≤ 0xBF
  else if first = 0xF4 then 0x80 ≤ second && second ≤ 0x8F
  else isTail second

def low6 (b : UInt8) : Nat := b.toNat % 64

def decodeParts : Bytes → List (Option Char)
  | [] => []
  | a :: rest =>
    if a < 0x80 then some (Char.ofNat a.toNat) :: decodeParts rest
    else if 0xC2 ≤ a && a ≤ 0xDF then
      match rest with
      | b :: rest =>
        if isTail b then some (Char.ofNat (a.toNat % 32 * 64 + low6 b)) :: decodeParts rest
        else none :: decodeParts (b :: rest)
      | [] => [none]
    else if 0xE0 ≤ a && a ≤ 0xEF then
      match rest with
      | b :: c :: rest =>
        if !mayFollow a b then none :: decodeParts (b :: c :: rest)
        else if !isTail c then none :: decodeParts (c :: rest)
        else some (Char.ofNat ((a.toNat % 16 * 64 + low6 b) * 64 + low6 c)) :: decodeParts rest
      | [b] => if mayFollow a b then [none] else none :: decodeParts [b]
      | [] => [none]
    else if 0xF0 ≤ a && a ≤ 0xF4 then
      match rest with
      | b :: c :: d :: rest =>
        if !mayFollow a b then none :: decodeParts (b :: c :: d :: rest)
        else if !isTail c then none :: decodeParts (c :: d :: rest)
        else if !isTail d then none :: decodeParts (d :: rest)
        else
          some (Char.ofNat (((a.toNat % 8 * 64 + low6 b) * 64 + low6 c) * 64 + low6 d)) ::
            decodeParts rest
      | [b, c] =>
        if !mayFollow a b then none :: decodeParts [b, c]
        else if !isTail c then none :: decodeParts [c]
        else [none]
      | [b] => if mayFollow a b then [none] else none :: decodeParts [b]
      | [] => [none]
    else none :: decodeParts rest
termination_by bs => bs.length

/-- Text in which a replacement character stands for what is no text. -/
def decodeLossy (bs : Bytes) : List Char := (decodeParts bs).map (·.getD '\uFFFD')

def decode? (bs : Bytes) : Option (List Char) := (decodeParts bs).mapM id

end PddlAssist.Text
