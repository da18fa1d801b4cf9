import PddlAssist.Unicode.Property

namespace PddlAssist.Text

def isAsciiWordChar (c : Char) : Bool := c.isAlphanum || c == '_'

def wordChars : CharSet := Unicode.Property.word

def isUnicodeWordChar (c : Char) : Bool :=
  if c.toNat < 0x80 then isAsciiWordChar c else wordChars.contains c

end PddlAssist.Text
