import TagQuery.ComplexLiteral
import TagQuery.Text.Blank
import TagQuery.Token.Basic

/-! Tokens without placeholders. The text is read as a sequence of atoms: characters, and
complex literals, which are never taken apart. Parentheses and blanks end a word, unless
they are inside such an atom; a word with an atom of that kind in it is no keyword. -/

namespace TagQuery

inductive Atom where
  | char (value : Char)
  | complex (literal : Text)
  deriving DecidableEq

def Atom.text : Atom → Text
  | char value => [value]
  | complex literal => literal

def Segment.atoms : Segment → List Atom
  | plain text => text.map .char
  | complex literal => [.complex literal]

namespace Direct

def keyword? (word : List Atom) : Option Operator :=
  [Operator.and, .or, .not].find? fun op => word = op.keyword.toList.map .char

/-- The token of a word that has come to its end. There is none between two separators. -/
def close : List Atom → List Token
  | [] => []
  | word =>
    match keyword? word with
    | some op => [.operator op]
    | none => [.literal (String.ofList (word.flatMap Atom.text))]

/-- Reads on, `word` being what has been read of a word. -/
def scan (word : List Atom) : List Atom → List Token
  | [] => close word
  | .complex literal :: later => scan (word ++ [.complex literal]) later
  | .char char :: later =>
    if char = '(' then close word ++ .opening :: scan [] later
    else if char = ')' then close word ++ .closing :: scan [] later
    else if Text.isBlank char then close word ++ scan [] later
    else scan (word ++ [.char char]) later

def tokens (input : String) : List Token :=
  scan [] ((Segment.ofText input.toList).flatMap Segment.atoms)

end Direct

end TagQuery
