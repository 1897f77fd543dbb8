import TagQuery.Query.Literals

/-! Putting a query in the place of one literal of another. -/

namespace TagQuery.Query

/-- Literals are numbered from the left, starting at zero. Beyond the last one there is
nothing to replace. -/
def replaceLeaf : Query → Nat → Query → Query
  | literal value, index, replacement => if index = 0 then replacement else literal value
  | and left right, index, replacement =>
    if index < left.leaves.length then and (left.replaceLeaf index replacement) right
    else and left (right.replaceLeaf (index - left.leaves.length) replacement)
  | or left right, index, replacement =>
    if index < left.leaves.length then or (left.replaceLeaf index replacement) right
    else or left (right.replaceLeaf (index - left.leaves.length) replacement)
  | not inner, index, replacement => not (inner.replaceLeaf index replacement)

end TagQuery.Query
