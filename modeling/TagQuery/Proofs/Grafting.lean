import TagQuery.Proofs.TokenConservation
import TagQuery.Query.Substitution

/-! A group in parentheses in the place of a literal. An accepted text never takes off what
waited before it, so between parentheses it writes what it writes alone, and whatever comes
after it goes on as after the literal. In postorder one query has thus been put in the
place of a leaf, and this is what replacing the leaf does to the nodes of the whole. -/

namespace TagQuery

open Yard (Entry)

namespace Query

private theorem split_operands {left right before after : List Item} {value : String} {op : Operator}
    (split : left ++ right ++ [Item.operator op] = before ++ Item.literal value :: after) :
    (∃ rest, left = before ++ Item.literal value :: rest ∧ after = rest ++ right ++ [Item.operator op]) ∨
      ∃ front rest, before = left ++ front ∧ right = front ++ Item.literal value :: rest ∧
        after = rest ++ [Item.operator op] := by
  rcases split_append split with ⟨middle, inside, rfl⟩ | ⟨front, _, last⟩
  · rcases split_append inside with ⟨rest, first, rfl⟩ | ⟨front, first, second⟩
    · exact .inl ⟨rest, first, rfl⟩
    · exact .inr ⟨front, middle, first, second, rfl⟩
  · cases front <;> simp at last

private theorem length_lt_leaves {query : Query} {before after : List Item} {value : String}
    (split : query.items = before ++ Item.literal value :: after) :
    (before.filterMap Item.value?).length < query.leaves.length := by
  rw [← query.filterMap_items, split]
  simp [Item.value?]

private theorem length_values_append (query : Query) (items : List Item) :
    ((query.items ++ items).filterMap Item.value?).length =
      query.leaves.length + (items.filterMap Item.value?).length := by
  rw [List.filterMap_append, query.filterMap_items, List.length_append]

/-- The leaf behind as many literals as stand in `before`. -/
theorem items_replaceLeaf {query : Query} {before after : List Item} {value : String} (inner : Query)
    (split : query.items = before ++ Item.literal value :: after) :
    (query.replaceLeaf (before.filterMap Item.value?).length inner).items = before ++ inner.items ++ after := by
  induction query generalizing before after with
  | literal other =>
    cases before with
    | nil =>
      cases split
      simp [replaceLeaf]
    | cons item before => simp [items] at split
  | and left right ihLeft ihRight =>
    rcases split_operands split with ⟨rest, first, rfl⟩ | ⟨front, rest, rfl, second, rfl⟩
    · rw [replaceLeaf, if_pos (length_lt_leaves first), items, ihLeft first]
      simp
    · rw [length_values_append, replaceLeaf, if_neg (by omega), Nat.add_sub_cancel_left, items, ihRight second]
      simp
  | or left right ihLeft ihRight =>
    rcases split_operands split with ⟨rest, first, rfl⟩ | ⟨front, rest, rfl, second, rfl⟩
    · rw [replaceLeaf, if_pos (length_lt_leaves first), items, ihLeft first]
      simp
    · rw [length_values_append, replaceLeaf, if_neg (by omega), Nat.add_sub_cancel_left, items, ihRight second]
      simp
  | not operand ih =>
    rcases split_append split with ⟨rest, first, rfl⟩ | ⟨front, _, last⟩
    · rw [replaceLeaf, items, ih first]
      simp
    · cases front <;> simp at last

end Query

namespace Conversion

variable {operators below : List Entry} {token : Token} {tokens : List Token} {items : List Item}

private theorem Step.above (step : Step operators token items below) (base : List Entry) :
    Step (operators ++ Entry.opening :: base) token items (below ++ Entry.opening :: base) := by
  cases step with
  | @operator next waiting below split precede stops =>
    have stopsAbove : ∀ op, (below ++ Entry.opening :: base).head? = some (.operator op) → ¬ op.precedes next := by
      intro op first
      cases below with
      | nil => cases first -- the parenthesis itself is on top
      | cons entry below => exact stops op first
    have whole : operators ++ Entry.opening :: base = waiting.map Entry.operator ++ (below ++ Entry.opening :: base) := by
      rw [split, List.append_assoc]
    exact .operator whole precede stopsAbove
  | opening => exact .opening
  | closing split => exact .closing (by simp [split])
  | literal value => exact .literal value

theorem Reads.above (read : Reads operators tokens items below) (base : List Entry) :
    Reads (operators ++ Entry.opening :: base) tokens items (below ++ Entry.opening :: base) := by
  induction read with
  | nil operators => exact .nil _
  | cons step _ ih => exact .cons (step.above base) ih

/-- A group leaves the stack as it was, and writes what its tokens write without parentheses. -/
theorem Reads.grouped {waiting : List Operator} (read : Reads [] tokens items (waiting.map .operator))
    (base : List Entry) :
    Reads base (.opening :: (tokens ++ [Token.closing])) (items ++ waiting.map Item.operator) base := by
  have closed : Reads (waiting.map Entry.operator ++ Entry.opening :: base) [.closing]
      (waiting.map Item.operator ++ []) base := .cons (.closing rfl) (.nil base)
  rw [List.append_nil] at closed
  change Reads base (.opening :: (tokens ++ [Token.closing])) ([] ++ (items ++ waiting.map Item.operator)) base
  exact .cons .opening ((read.above base).append closed)

private theorem Reads.split_literal {front back : List Token} {value : String}
    (read : Reads operators (front ++ Token.literal value :: back) items below) :
    ∃ first middle others, items = first ++ Item.literal value :: others ∧ Reads operators front first middle ∧
      Reads middle back others below := by
  obtain ⟨first, middle, second, rfl, before, behind⟩ := read.split
  cases behind with
  | cons step after =>
    cases step with
    | literal => exact ⟨first, middle, _, rfl, before, after⟩

end Conversion

/-- An accepted text in parentheses may stand wherever a literal stands in another one, and
its query then stands in the place of the leaf. -/
theorem parse_of_grafted {whole part grafted : String} {query inner : Query} {before after : List Token}
    {value : String} (accepted : Query.parse whole = .ok query) (alone : Query.parse part = .ok inner)
    (place : tokenize whole = before ++ Token.literal value :: after)
    (replaced : tokenize grafted = before ++ Token.opening :: (tokenize part ++ Token.closing :: after)) :
    Query.parse grafted = .ok (query.replaceLeaf (before.filterMap Token.value?).length inner) := by
  obtain ⟨items, waiting, read, written⟩ := Query.parse_eq_ok_iff.mp accepted
  obtain ⟨group, settled, readPart, writtenPart⟩ := Query.parse_eq_ok_iff.mp alone
  rw [place] at read
  obtain ⟨first, middle, others, rfl, readBefore, readAfter⟩ := read.split_literal
  have split : query.items = first ++ Item.literal value :: (others ++ waiting.map Item.operator) := by
    rw [← written, List.append_assoc]
    rfl
  have regrouped : tokenize grafted = before ++ (Token.opening :: (tokenize part ++ [Token.closing]) ++ after) := by
    rw [replaced]
    simp
  -- what was written before and after the literal does not change
  have readGrafted := readBefore.append ((readPart.grouped middle).append readAfter)
  rw [← regrouped] at readGrafted
  refine Query.parse_eq_ok_iff.mpr ⟨_, waiting, readGrafted, ?_⟩
  rw [← readBefore.values, Query.items_replaceLeaf inner split, ← writtenPart]
  simp

theorem parse_of_grafted_ill_ordered :
    Query.parse "x (y and) or z" = .ok (.or (.and (.literal "x") (.literal "y")) (.literal "z")) ∧
      Query.parse "a b(c) and not" = .ok (.and (.literal "a") (.not (.literal "b(c)"))) ∧
      Query.parse "x ((a b(c) and not) and) or z" =
        .ok (.or (.and (.literal "x") (.and (.literal "a") (.not (.literal "b(c)")))) (.literal "z")) := by
  have accepted : Query.parse "x (y and) or z" = .ok (.or (.and (.literal "x") (.literal "y")) (.literal "z")) := by
    decide +kernel
  have alone : Query.parse "a b(c) and not" = .ok (.and (.literal "a") (.not (.literal "b(c)"))) := by
    decide +kernel
  have place : tokenize "x (y and) or z" = [Token.literal "x", Token.opening] ++
      Token.literal "y" :: [Token.operator .and, Token.closing, Token.operator .or, Token.literal "z"] := by
    decide +kernel
  have replaced : tokenize "x ((a b(c) and not) and) or z" = [Token.literal "x", Token.opening] ++
      Token.opening :: (tokenize "a b(c) and not" ++
        Token.closing :: [Token.operator .and, Token.closing, Token.operator .or, Token.literal "z"]) := by
    decide +kernel
  exact ⟨accepted, alone, parse_of_grafted accepted alone place replaced⟩

end TagQuery
