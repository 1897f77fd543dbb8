import TagQuery.Placeholder.Table

/-! Putting all literals back at once, in the stretches of the text where placeholders stand. If
these are apart, it is enough to go through the text from the left: a placeholder is replaced
where one begins, and what was put in is not looked at again. -/

namespace TagQuery.Placeholder.Table

/-- In this stretch of the text stands the placeholder of this literal. -/
def StandsAt (table : Table) (text : Text) (span : Text.Span) (literal : Text) : Prop :=
  ∃ placeholder, (placeholder, literal) ∈ table.literals ∧ placeholder.OccursAt text span

/-- No two placeholders in the text have a place in common. -/
def Separated (table : Table) (text : Text) : Prop :=
  ∀ ⦃first second literal literal'⦄, table.StandsAt text first literal → table.StandsAt text second literal' →
    first ≠ second → first.Apart second

/-- The result is the text with literals in the stretches where their placeholders stand. -/
def Replaced (table : Table) (text result : Text) : Prop :=
  ∃ found : List (Text.Span × Text), (∀ span literal, (span, literal) ∈ found ↔ table.StandsAt text span literal) ∧
    found.Pairwise (fun first second => first.1.stop ≤ second.1.start) ∧ result = text.replaceSpans 0 found

/-- The entry of a placeholder that `text` begins with. -/
def entryAt? (table : Table) (text : Text) : Option (Text × Text) :=
  table.literals.find? fun entry => entry.1.isPrefixOf text

def substitute (table : Table) (text : Text) : Text :=
  (Text.pieces (fun char rest =>
    match table.entryAt? (char :: rest) with
    | some (placeholder, literal) => (literal, placeholder.length - 1)
    | none => ([char], 0)) text).flatten

end TagQuery.Placeholder.Table
