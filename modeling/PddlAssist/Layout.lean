import PddlAssist.Token

namespace PddlAssist.Layout

open Text

def indent (level : Nat) : List Char := List.replicate (4 * level) ' '

def leadingCloses : List Token → Nat
  | [] => 0
  | token :: rest =>
    match token.kind with
    | .closeBracket => leadingCloses rest + 1
    | .blank | .comment => leadingCloses rest
    | _ => 0

def opens (token : Token) : Int :=
  match token.kind with
  | .openBracket => 1
  | .closeBracket => -1
  | _ => 0

def levelAfter (level : Nat) (tokens : List Token) : Nat :=
  (tokens.foldl (fun depth token => depth + opens token) (level : Int)).toNat

def formatLines (level : Nat) : List (List Char) → List (List Char)
  | [] => []
  | line :: rest =>
    let content := trim line
    if content.isEmpty then [] :: formatLines level rest
    else
      let tokens := Token.scan content
      (indent (level - leadingCloses tokens) ++ content) ::
        formatLines (levelAfter level tokens) rest

/-- Lines with a line break after each. What follows the last line break is a line only if it is not
empty. -/
def joinLines : List (List Char) → List Char
  | [] => []
  | [last] => if last.isEmpty then [] else last ++ ['\n']
  | line :: rest => line ++ '\n' :: joinLines rest

/-- Four spaces for each open bracket. Only blanks at the two ends of a line change. -/
def format (cs : List Char) : List Char := joinLines (formatLines 0 (Document.splitLines cs))

end PddlAssist.Layout
