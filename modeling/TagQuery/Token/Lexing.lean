import TagQuery.Placeholder.Masking
import TagQuery.Text.Blank
import TagQuery.Token.Basic

/-! From text to tokens. The complex literals are masked, so that their parentheses and
commas are out of the way; the masked text is split at blanks, each parenthesis left in it
being a word of its own; and literals are put back into the words as they become tokens. -/

namespace TagQuery

/-- Sets parentheses off from the words around them. -/
def Text.spaced (text : Text) : Text :=
  text.flatMap fun char => if char = '(' ∨ char = ')' then [' ', char, ' '] else [char]

theorem Text.spaced_append (first second : Text) : spaced (first ++ second) = spaced first ++ spaced second :=
  List.flatMap_append

theorem Text.spaced_of_plain {text : Text} (plain : ∀ char ∈ text, char ≠ '(' ∧ char ≠ ')') : spaced text = text := by
  induction text with
  | nil => rfl
  | cons char rest ih =>
    have apart := plain char (by simp)
    have later := ih fun other member => plain other (by simp [member])
    simp only [spaced, List.flatMap_cons, apart.1, apart.2, or_self, if_false] at later ⊢
    rw [later, List.singleton_append]

/-- Between its blanks, a parenthesis is a word of its own. -/
theorem Text.words_append_spaced {char : Char} (parenthesis : char = '(' ∨ char = ')') (before after : Text) :
    words (before ++ (spaced [char] ++ after)) = words before ++ [char] :: words after := by
  have set : spaced [char] = [' ', char, ' '] := by simp [spaced, parenthesis]
  have alone : words [char] = [[char]] := by
    apply words_of_unbroken (List.cons_ne_nil _ _)
    intro other member
    cases List.mem_singleton.mp member
    cases parenthesis with
    | inl opening => exact opening ▸ by decide
    | inr closing => exact closing ▸ by decide
  have split : before ++ (spaced [char] ++ after) = before ++ ' ' :: ([char] ++ ' ' :: after) := by rw [set]; rfl
  rw [split, words_append_blank before _ (by decide), words_append_blank [char] _ (by decide), alone]
  rfl

/-- Reads one word of a masked text. -/
def Token.ofWord (restore : Text → Text) (word : Text) : Token :=
  if word = ['('] then opening
  else if word = [')'] then closing
  else
    match Operator.ofKeyword? (String.ofList word) with
    | some keyword => operator keyword
    | none => literal (String.ofList (restore word))

/-- The tokens of a masked text, literals being put back in the given order. -/
def Masking.tokensIn (order : List (Text × Text)) (masking : Masking) : List Token :=
  masking.text.spaced.words.map (Token.ofWord (masking.table.restoreIn order))

structure Lexing where
  masking : Masking
  tokens : List Token

namespace Lexing

def ofString (input : String) : Lexing :=
  let masking := Masking.ofText input.toList
  { masking, tokens := masking.tokensIn masking.table.literals }

def events (input : String) (lexing : Lexing) : List Event :=
  lexing.masking.events ++ [.tokenised input lexing.tokens.length lexing.masking.table.size]

end Lexing

def tokenize (input : String) : List Token := (Lexing.ofString input).tokens

end TagQuery
