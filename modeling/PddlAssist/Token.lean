import PddlAssist.Text.Blank
import PddlAssist.Text.Bytes
import PddlAssist.Document

namespace PddlAssist

open Text

inductive TokenKind where
  | openBracket
  | closeBracket
  | blank
  | comment
  | keyword
  | parameter
  | dash
  | word
  deriving DecidableEq, Repr, Inhabited

structure Token where
  kind : TokenKind
  text : String
  start : Nat
  deriving DecidableEq, Repr, Inhabited

namespace Token

def stop (t : Token) : Nat := t.start + width t.text.toList

def span (t : Token) : Span := ⟨t.start, t.stop⟩

def isWordChar (c : Char) : Bool := !isAsciiBlank c && c != '(' && c != ')' && c != ';'

def wordKind : List Char → TokenKind
  | ['-'] => .dash
  | ':' :: _ => .keyword
  | '?' :: _ => .parameter
  | _ => .word

/-- The kind of the token that begins with `c`, when `rest` follows, and the characters of it that
come from `rest`. -/
def lexeme (c : Char) (rest : List Char) : TokenKind × List Char :=
  if c = '(' then (.openBracket, [])
  else if c = ')' then (.closeBracket, [])
  else if c = ';' then (.comment, Document.dropReturn (rest.takeWhile (· != '\n')))
  else if isAsciiBlank c then (.blank, rest.takeWhile isAsciiBlank)
  else
    let word := rest.takeWhile isWordChar
    (wordKind (c :: word), word)

def scanFrom (start : Nat) : List Char → List Token
  | [] => []
  | c :: rest =>
    let lex := lexeme c rest
    let chars := c :: lex.2
    ⟨lex.1, String.ofList chars, start⟩ ::
      scanFrom (start + width chars) (rest.drop lex.2.length)
termination_by cs => cs.length
decreasing_by simp only [List.length_cons, List.length_drop]; omega

def scan (cs : List Char) : List Token := scanFrom 0 cs

end Token
end PddlAssist
