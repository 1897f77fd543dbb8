import TagQuery.Proofs.PostorderBuild

/-! Runs of the first pass. A token makes it write something and leaves it a stack of
operators, except for a closing parenthesis that finds nothing to close; what is true of
one token is then carried over to all that can be read. -/

namespace TagQuery

open Yard (Entry)

namespace Conversion

variable {operators middle below : List Entry} {token : Token} {tokens front back : List Token}
  {items first second : List Item} {waiting : List Operator}

private theorem preceding_append {next : Operator}
    (precede : ∀ op ∈ waiting, op.precedes next) (stops : ∀ op, below.head? = some (.operator op) → ¬ op.precedes next) :
    preceding next (waiting.map Entry.operator ++ below) = (waiting.map .operator, below) := by
  induction waiting with
  | nil =>
    cases below with
    | nil => rfl
    | cons entry below =>
      cases entry with
      | opening => rfl
      | operator op =>
        have stop := stops op rfl
        simp only [List.map_nil, List.nil_append, preceding, stop, Bool.false_eq_true, if_false]
  | cons op waiting ih =>
    have first := precede op (by simp)
    have others := ih fun other member => precede other (by simp [member])
    simp only [List.map_cons, List.cons_append, preceding, first, if_true, others]

private theorem group_append (waiting : List Operator) (below : List Entry) :
    group (waiting.map Entry.operator ++ Entry.opening :: below) = (waiting.map .operator, some below) := by
  induction waiting with
  | nil => rfl
  | cons op waiting ih => simp only [List.map_cons, List.cons_append, group, ih]

private theorem group_of_operators (waiting : List Operator) :
    group (waiting.map .operator) = (waiting.map .operator, none) := by
  induction waiting with
  | nil => rfl
  | cons op waiting ih => simp only [List.map_cons, group, ih]

theorem drain_of_operators (waiting : List Operator) :
    drain (waiting.map .operator) = { items := waiting.map .operator, halted := none } := by
  induction waiting with
  | nil => rfl
  | cons op waiting ih =>
    rw [List.map_cons, drain, ih]
    rfl

private theorem drain_append_opening (waiting : List Operator) (below : List Entry) :
    drain (waiting.map Entry.operator ++ Entry.opening :: below) =
      { items := waiting.map .operator, halted := some .unmatchedOpening } := by
  induction waiting with
  | nil => rfl
  | cons op waiting ih =>
    rw [List.map_cons, List.cons_append, drain, ih]
    rfl

private theorem prepend_prepend (first second : List Item) (conversion : Conversion) :
    (conversion.prepend second).prepend first = conversion.prepend (first ++ second) := by
  simp [prepend]

/-- What a token makes the first pass write, and the stack it leaves. -/
inductive Step (operators : List Entry) : Token → List Item → List Entry → Prop where
  | operator {next : Operator} {waiting : List Operator} {below : List Entry}
      (split : operators = waiting.map Entry.operator ++ below)
      (precede : ∀ op ∈ waiting, op.precedes next)
      (stops : ∀ op, below.head? = some (.operator op) → ¬ op.precedes next) :
      Step operators (.operator next) (waiting.map .operator) (.operator next :: below)
  | opening : Step operators .opening [] (.opening :: operators)
  | closing {waiting : List Operator} {below : List Entry}
      (split : operators = waiting.map Entry.operator ++ Entry.opening :: below) :
      Step operators .closing (waiting.map .operator) below
  | literal (value : String) : Step operators (.literal value) [.literal value] operators

theorem exists_step (operators : List Entry) (token : Token) :
    (∃ items below, Step operators token items below) ∨
      token = .closing ∧ ∃ waiting : List Operator, operators = waiting.map .operator := by
  cases token with
  | operator next =>
    obtain ⟨waiting, below, split, precede, stops⟩ := Yard.exists_preceding next operators
    exact .inl ⟨_, _, .operator split precede stops⟩
  | opening => exact .inl ⟨_, _, .opening⟩
  | closing =>
    rcases Yard.exists_group operators with ⟨waiting, split⟩ | ⟨waiting, below, split⟩
    · exact .inr ⟨rfl, waiting, split⟩
    · exact .inl ⟨_, _, .closing split⟩
  | literal value => exact .inl ⟨_, _, .literal value⟩

theorem Step.ofTokens (step : Step operators token items below) (later : List Token) :
    Conversion.ofTokens operators (token :: later) = (Conversion.ofTokens below later).prepend items := by
  cases step with
  | operator split precede stops => rw [Conversion.ofTokens, split, preceding_append precede stops]
  | opening => rfl
  | closing split => rw [Conversion.ofTokens, split, group_append]
  | literal value => rfl

/-- The yard does the same with its operators, and builds queries of what would be written. -/
theorem Step.accept (step : Step operators token items below) (queries : List Query) :
    Yard.accept { operators, queries } token =
      build queries items >>= fun built => .ok { operators := below, queries := built } := by
  cases step with
  | operator split precede stops =>
    rw [build_operators, Yard.accept, split, Yard.push_append precede]
    exact congrArg (Yard.settle _ queries >>= ·) (funext (Yard.push_of_stops stops))
  | opening => rfl
  | closing split =>
    rw [build_operators, Yard.accept, split, Yard.close_append]
    rfl
  | literal value => rfl

inductive Reads : List Entry → List Token → List Item → List Entry → Prop where
  | nil (operators : List Entry) : Reads operators [] [] operators
  | cons {operators middle below : List Entry} {token : Token} {tokens : List Token} {first others : List Item}
      (step : Step operators token first middle) (later : Reads middle tokens others below) :
      Reads operators (token :: tokens) (first ++ others) below

theorem Reads.append (before : Reads operators front first middle) (after : Reads middle back second below) :
    Reads operators (front ++ back) (first ++ second) below := by
  induction before with
  | nil => exact after
  | cons step _ ih =>
    rw [List.append_assoc]
    exact .cons step (ih after)

theorem Reads.split (read : Reads operators (front ++ back) items below) :
    ∃ first middle second, items = first ++ second ∧ Reads operators front first middle ∧
      Reads middle back second below := by
  induction front generalizing operators items with
  | nil => exact ⟨[], operators, items, rfl, .nil operators, read⟩
  | cons token front ih =>
    cases read with
    | cons step later =>
      obtain ⟨first, middle, second, rfl, before, after⟩ := ih later
      exact ⟨_, middle, second, (List.append_assoc ..).symm, .cons step before, after⟩

private theorem exists_reads (operators : List Entry) (tokens : List Token) :
    (∃ items below, Reads operators tokens items below) ∨
      ∃ front later items, ∃ waiting : List Operator,
        tokens = front ++ Token.closing :: later ∧ Reads operators front items (waiting.map .operator) := by
  induction tokens generalizing operators with
  | nil => exact .inl ⟨[], operators, .nil operators⟩
  | cons token tokens ih =>
    rcases exists_step operators token with ⟨first, middle, step⟩ | ⟨rfl, waiting, rfl⟩
    · rcases ih middle with ⟨others, below, read⟩ | ⟨front, later, others, waiting, rfl, read⟩
      · exact .inl ⟨_, below, .cons step read⟩
      · exact .inr ⟨token :: front, later, _, waiting, rfl, .cons step read⟩
    · exact .inr ⟨[], tokens, [], waiting, rfl, .nil _⟩

theorem Reads.ofTokens (read : Reads operators tokens items below) (later : List Token) :
    Conversion.ofTokens operators (tokens ++ later) = (Conversion.ofTokens below later).prepend items := by
  induction read with
  | nil operators => rfl
  | cons step _ ih => rw [List.cons_append, step.ofTokens, ih, prepend_prepend]

theorem Reads.feed (read : Reads operators tokens items below) (queries : List Query) :
    Yard.feed { operators, queries } tokens =
      build queries items >>= fun built => .ok { operators := below, queries := built } := by
  induction read generalizing queries with
  | nil operators => rfl
  | cons step _ ih =>
    rw [Yard.feed_cons, step.accept, build_append, bind_assoc, bind_assoc]
    exact congrArg (build queries _ >>= ·) (funext ih)

theorem Reads.complete (read : Reads [] tokens items (waiting.map .operator)) :
    Conversion.ofTokens [] tokens = { items := items ++ waiting.map Item.operator, halted := none } := by
  have written := read.ofTokens []
  rw [List.append_nil] at written
  rw [written, Conversion.ofTokens, drain_of_operators]
  rfl

/-- How the first pass comes to an end: with all tokens read and no parenthesis left open,
with one left open, or at a closing parenthesis. Operators that wait are written last. -/
inductive Ends (tokens : List Token) : Conversion → Prop where
  | complete {items : List Item} {waiting : List Operator} (read : Reads [] tokens items (waiting.map .operator)) :
      Ends tokens { items := items ++ waiting.map Item.operator, halted := none }
  | unclosed {items : List Item} {waiting : List Operator} {below : List Entry}
      (read : Reads [] tokens items (waiting.map Entry.operator ++ Entry.opening :: below)) :
      Ends tokens { items := items ++ waiting.map Item.operator, halted := some .unmatchedOpening }
  | unopened {front later : List Token} {items : List Item} {waiting : List Operator}
      (split : tokens = front ++ Token.closing :: later) (read : Reads [] front items (waiting.map .operator)) :
      Ends tokens { items := items ++ waiting.map Item.operator, halted := some .unmatchedClosing }

private theorem ends_ofTokens (tokens : List Token) : Ends tokens (ofTokens [] tokens) := by
  rcases exists_reads [] tokens with ⟨items, below, read⟩ | ⟨front, later, items, waiting, split, read⟩
  · rcases Yard.exists_group below with ⟨waiting, rfl⟩ | ⟨waiting, below, rfl⟩
    · rw [read.complete]
      exact .complete read
    · rw [← List.append_nil tokens, read.ofTokens, ofTokens, drain_append_opening, List.append_nil]
      exact .unclosed read
  · rw [split, read.ofTokens, ofTokens, group_of_operators, ← split]
    exact .unopened split read

theorem ends_ofString (input : String) : Ends (tokenize input) (ofString input) := ends_ofTokens (tokenize input)

end Conversion

end TagQuery
