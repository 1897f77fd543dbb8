import TagQuery.Placeholder.Marker
import TagQuery.Text.Occurrence

/-! The complex literals of one text and their placeholders, which are made of word
characters only. Two indexes lead from literal to placeholder and back; both list their
entries in the order in which the literals were met, and are numbered from zero. -/

namespace TagQuery.Placeholder

def form (marker : Text) (number : Nat) : Text :=
  "__".toList ++ marker ++ '_' :: numeral number ++ "__".toList

structure Table where
  marker : Text
  placeholders : List (Text × Text) := []
  literals : List (Text × Text) := []

namespace Table

/-- No placeholder of the table can occur in `text`. -/
def forText (text : Text) : Table := { marker := ((freeSalt? text).map Placeholder.marker).getD [] }

def size (table : Table) : Nat := table.literals.length

def placeholder? (table : Table) (literal : Text) : Option Text := table.placeholders.lookup literal

/-- The placeholder that the next new literal gets. -/
def next (table : Table) : Text := form table.marker table.placeholders.length

def add (table : Table) (literal : Text) : Table :=
  { table with
    placeholders := table.placeholders ++ [(literal, table.next)]
    literals := table.literals ++ [(table.next, literal)] }

/-- The placeholder of `literal`, which is added to the table unless it is there. -/
def assign (table : Table) (literal : Text) : Text × Table :=
  match table.placeholder? literal with
  | some placeholder => (placeholder, table)
  | none => (table.next, table.add literal)

/-- Assigns the literals one after the other, and lists the placeholders that were given to them. -/
def assignAll (table : Table) : List Text → List Text × Table
  | [] => ([], table)
  | literal :: later =>
    match table.assign literal with
    | (placeholder, table) =>
      match table.assignAll later with
      | (given, table) => (placeholder :: given, table)

theorem assignAll_cons (table : Table) (literal : Text) (later : List Text) :
    table.assignAll (literal :: later) =
      ((table.assign literal).1 :: ((table.assign literal).2.assignAll later).1,
        ((table.assign literal).2.assignAll later).2) := rfl

/-- Puts the literals back into `word`, entry by entry in the given order. A word that is
itself a placeholder is looked up, and one without the marker is left alone. -/
def restoreIn (order : List (Text × Text)) (table : Table) (word : Text) : Text :=
  match table.literals.lookup word with
  | some literal => literal
  | none =>
    if table.literals.isEmpty || !table.marker.occursIn word then word
    else order.foldl (fun text entry => text.replaceAll entry.1 entry.2) word

def restore (table : Table) (word : Text) : Text := table.restoreIn table.literals word

end Table

end TagQuery.Placeholder
