import TagQuery.Text.Word
import TagQuery.Text.Basic

/-! Complex literals, `name(arg,arg)`: a run of word characters and, in parentheses, a run
of word characters and commas, neither of them empty. A text is cut into segments, each
of them a complex literal or plain. The cut goes from the left, takes a run of word
characters as a whole, and goes on behind a complex literal once it has found one. -/

namespace TagQuery

inductive Segment where
  | plain (text : Text)
  | complex (text : Text)
  deriving DecidableEq

namespace Segment

def text : Segment → Text
  | plain text => text
  | complex text => text

def isArgument (char : Char) : Bool := Text.isWord char || char = ','

/-- The arguments in their parentheses, if `text` begins with such. -/
def arguments? : Text → Option Text
  | '(' :: inside =>
    let arguments := inside.takeWhile isArgument
    match inside.dropWhile isArgument with
    | ')' :: _ => if arguments.isEmpty then none else some ('(' :: arguments ++ [')'])
    | _ => none
  | _ => none

/-- The segment that begins with `char`, and the number of characters of `rest` in it. A
run of word characters without arguments behind it is plain from end to end: none of its
later characters can begin a complex literal, for the same text follows them. -/
def cut (char : Char) (rest : Text) : Segment × Nat :=
  if Text.isWord char then
    let name := rest.takeWhile Text.isWord
    match arguments? (rest.dropWhile Text.isWord) with
    | some arguments => (complex (char :: name ++ arguments), name.length + arguments.length)
    | none => (plain (char :: name), name.length)
  else (plain [char], 0)

def ofText (text : Text) : List Segment := Text.pieces cut text

def literal? : Segment → Option Text
  | plain _ => none
  | complex text => some text

/-- The complex literals of a text, each of them once, in the order of their first places. -/
def distinctLiterals (text : Text) : List Text := ((ofText text).filterMap literal?).eraseDups

/-- Where the complex literals among the segments stand in a text in which the segments begin
at `start`. -/
def spans (start : Nat) : List Segment → List Text.Span
  | [] => []
  | .plain text :: later => spans (start + text.length) later
  | .complex text :: later => ⟨start, start + text.length⟩ :: spans (start + text.length) later

/-- Whether the character at this place of `text` belongs to a complex literal. -/
def InComplex (text : Text) (place : Nat) : Prop := ∃ span ∈ spans 0 (ofText text), span.Covers place

instance (text : Text) (place : Nat) : Decidable (InComplex text place) :=
  inferInstanceAs (Decidable (∃ span ∈ spans 0 (ofText text), span.Covers place))

theorem append_of_arguments? {text arguments : Text} (found : arguments? text = some arguments) :
    ∃ rest, text = arguments ++ rest := by
  unfold arguments? at found
  split at found
  next inside =>
    have whole : inside.takeWhile isArgument ++ inside.dropWhile isArgument = inside :=
      List.takeWhile_append_dropWhile
    dsimp only at found
    split at found
    next rest closed =>
      split at found
      next => cases found
      next =>
        cases found
        rw [closed] at whole
        exact ⟨rest, by simpa using whole.symm⟩
    next => cases found
  next => cases found

theorem text_cut (char : Char) (rest : Text) :
    (cut char rest).1.text = char :: rest.take (cut char rest).2 := by
  have whole : rest.takeWhile Text.isWord ++ rest.dropWhile Text.isWord = rest :=
    List.takeWhile_append_dropWhile
  unfold cut
  split
  · dsimp only
    split
    next arguments found =>
      obtain ⟨after, follows⟩ := append_of_arguments? found
      rw [follows, ← List.append_assoc] at whole
      have taken := congrArg (List.take (rest.takeWhile Text.isWord ++ arguments).length) whole
      rw [List.take_left] at taken
      rw [← List.length_append, ← taken, text, List.cons_append]
    next =>
      have taken := congrArg (List.take (rest.takeWhile Text.isWord).length) whole
      rw [List.take_left] at taken
      rw [← taken, text]
  · simp [text]

/-- Put together again, the segments are the text. -/
theorem flatMap_ofText (text : Text) : (ofText text).flatMap Segment.text = text :=
  Text.flatMap_pieces text_cut text

end Segment

end TagQuery
