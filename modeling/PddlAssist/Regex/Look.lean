import PddlAssist.Text.WordChar

namespace PddlAssist.Regex

open Text

inductive Look where
  | textStart
  | textEnd
  /-- With `crlf` lines also end at carriage returns, and never between one and a newline. -/
  | lineStart (crlf : Bool)
  | lineEnd (crlf : Bool)
  | wordEdge (unicode : Bool)
  | noWordEdge (unicode : Bool)
  | wordStart (unicode : Bool)
  | wordEnd (unicode : Bool)
  | noWordBefore (unicode : Bool)
  | noWordAfter (unicode : Bool)
  deriving DecidableEq, Repr, Inhabited

namespace Look

def inWord (unicode : Bool) (c : Option Char) : Bool :=
  c.any (if unicode then isUnicodeWordChar else isAsciiWordChar)

def holds (before after : Option Char) : Look → Bool
  | textStart => before.isNone
  | textEnd => after.isNone
  | lineStart false => before.isNone || before == some '\n'
  | lineStart true =>
    before.isNone || before == some '\n' || (before == some '\r' && after != some '\n')
  | lineEnd false => after.isNone || after == some '\n'
  | lineEnd true =>
    after.isNone || after == some '\r' || (after == some '\n' && before != some '\r')
  | wordEdge u => inWord u before != inWord u after
  | noWordEdge u => inWord u before == inWord u after
  | wordStart u => !inWord u before && inWord u after
  | wordEnd u => inWord u before && !inWord u after
  | noWordBefore u => !inWord u before
  | noWordAfter u => !inWord u after

end Look
end PddlAssist.Regex
