import PddlAssist.Json
import PddlAssist.Text.Utf8

namespace PddlAssist.Percent

open Text

def hexUpper (n : Nat) : Char := if n < 10 then Char.ofNat (48 + n) else Char.ofNat (55 + n)

def encodeByte (b : UInt8) : List Char := ['%', hexUpper (b.toNat / 16), hexUpper (b.toNat % 16)]

def encode (reserved : List Char) (cs : List Char) : List Char :=
  cs.flatMap fun c =>
    if c.toNat < 0x20 || 0x7F ≤ c.toNat || reserved.contains c then (Text.encode [c]).flatMap encodeByte
    else [c]

def fragmentReserved : List Char := [' ', '"', '<', '>', '\x60']

def pathReserved : List Char := fragmentReserved ++ ['#', '?', '\x7b', '\x7d']

def userReserved : List Char :=
  pathReserved ++ ['/', ':', ';', '=', '@', '[', '\\', ']', '^', '|']

def queryReserved : List Char := [' ', '"', '#', '<', '>']

def fileNameReserved : List Char := pathReserved ++ ['%', '\\']

def decode : List Char → Bytes
  | '%' :: a :: b :: rest =>
    match Json.hexDigit? a, Json.hexDigit? b with
    | some x, some y => UInt8.ofNat (x * 16 + y) :: decode rest
    | _, _ => Text.encode ['%'] ++ decode (a :: b :: rest)
  | c :: rest => Text.encode [c] ++ decode rest
  | [] => []
termination_by cs => cs.length

end PddlAssist.Percent
