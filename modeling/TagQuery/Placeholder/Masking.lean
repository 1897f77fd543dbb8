import TagQuery.ComplexLiteral
import TagQuery.Journal
import TagQuery.Placeholder.Table

/-! Masking: every complex literal of a text is replaced by its placeholder, equal ones by
the same. The first meeting with each of them is noted in the journal. -/

namespace TagQuery

/-- A text under way: the masked segments, last one first, the table so far, and what was
noted. -/
structure Masking where
  table : Placeholder.Table
  done : List Text := []
  events : List Event := []

namespace Masking

/-- Only the first meeting with a literal is noted. -/
def step (masking : Masking) : Segment → Masking
  | .plain text => { masking with done := text :: masking.done }
  | .complex literal =>
    match masking.table.assign literal with
    | (placeholder, table) =>
      { table
        done := placeholder :: masking.done
        events :=
          if (masking.table.placeholder? literal).isSome then masking.events
          else masking.events ++ [.masked (String.ofList literal) (String.ofList placeholder)] }

def ofText (text : Text) : Masking :=
  (Segment.ofText text).foldl step { table := .forText text }

def text (masking : Masking) : Text := masking.done.reverse.flatten

/-- The stretches of the masked text that further segments add as placeholders, each with the
literal it was put there for. -/
def insertions (masking : Masking) : List Segment → List (Text.Span × Text)
  | [] => []
  | .plain text :: later => insertions (masking.step (.plain text)) later
  | .complex literal :: later =>
    (⟨masking.text.length, (masking.step (.complex literal)).text.length⟩, literal) ::
      insertions (masking.step (.complex literal)) later

def inserted (text : Text) : List (Text.Span × Text) := insertions { table := .forText text } (Segment.ofText text)

end Masking

end TagQuery
