import TagQuery.Proofs.ConversionRuns

/-! Reading is the two passes one after the other. The yard builds queries while it settles
operators, the first pass only writes the operators down, and both come to a halt at the
same parenthesis; so an operator without operands, which was written before the halt, is
reported in preference to it. -/

namespace TagQuery

open Yard (Entry)

namespace Yard

private theorem result_of_operators (waiting : List Operator) (queries : List Query) :
    result { operators := waiting.map .operator, queries } =
      settle waiting queries >>= fun settled => result { queries := settled } := by
  rw [result, drain_of_operators]
  rfl

private theorem result_of_opening (waiting : List Operator) (below : List Entry) (queries : List Query) :
    result { operators := waiting.map Entry.operator ++ Entry.opening :: below, queries } =
      settle waiting queries >>= fun _ => .error .unmatchedOpening := by
  rw [result, drain_append, bind_assoc]
  rfl

private theorem feed_of_unopened (waiting : List Operator) (queries : List Query) (later : List Token) :
    feed { operators := waiting.map .operator, queries } (.closing :: later) =
      settle waiting queries >>= fun _ => .error .unmatchedClosing := by
  rw [feed_cons, accept, close_of_operators, bind_assoc]
  rfl

end Yard

namespace Conversion

private theorem Reads.bind_feed {tokens : List Token} {items : List Item} {below : List Entry}
    (read : Reads [] tokens items below) {waiting : List Operator} {next : List Query → Except ParseError Query}
    {finish : Yard → Except ParseError Query}
    (same : ∀ built, Yard.settle waiting built >>= next = finish { operators := below, queries := built }) :
    build [] (items ++ waiting.map Item.operator) >>= next = Yard.feed {} tokens >>= finish := by
  rw [build_append, read.feed, bind_assoc, bind_assoc]
  congr 1
  funext built
  rw [build_operators]
  exact same built

/-- The two passes come to what the yard comes to. -/
theorem Ends.outcome {tokens : List Token} {conversion : Conversion} (ends : Ends tokens conversion) :
    conversion.outcome = Yard.feed {} tokens >>= Yard.result := by
  cases ends with
  | @complete items waiting read =>
    rw [outcome_ended]
    exact read.bind_feed fun built => (Yard.result_of_operators waiting built).symm
  | @unclosed items waiting below read =>
    rw [outcome_halted]
    exact read.bind_feed fun built => (Yard.result_of_opening waiting below built).symm
  | @unopened front later items waiting split read =>
    rw [outcome_halted, split, Yard.feed_append, bind_assoc]
    apply read.bind_feed
    intro built
    rw [Yard.feed_of_unopened, bind_assoc]
    rfl

private theorem Ends.halted_ne {tokens : List Token} {conversion : Conversion} (ends : Ends tokens conversion)
    (op : Operator) :
    conversion.halted ≠ some (.missingOperand op) := by
  cases ends <;> simp

theorem Ends.outcome_eq_missingOperand_iff {tokens : List Token} {conversion : Conversion}
    (ends : Ends tokens conversion) {op : Operator} :
    conversion.outcome = .error (.missingOperand op) ↔ build [] conversion.items = .error (.missingOperand op) := by
  constructor
  · intro missing
    unfold Conversion.outcome at missing
    split at missing
    next failed =>
      cases missing
      exact failed
    next halted =>
      cases missing
      exact absurd halted (ends.halted_ne op)
    all_goals cases missing
  · intro failed
    rw [Conversion.outcome, failed]

end Conversion

theorem Query.parse_eq_conversion (input : String) : parse input = (Conversion.ofString input).outcome := by
  rw [parse_eq_feed, (Conversion.ends_ofString input).outcome]

/-- A text is accepted when it can be read to its end, and as the query whose postorder is
written then. -/
theorem Query.parse_eq_ok_iff {input : String} {query : Query} :
    parse input = .ok query ↔
      ∃ items, ∃ waiting : List Operator, Conversion.Reads [] (tokenize input) items (waiting.map .operator) ∧
        items ++ waiting.map Item.operator = query.items := by
  rw [parse_eq_conversion]
  constructor
  · intro accepted
    obtain ⟨halted, written⟩ := Conversion.items_of_outcome accepted
    have ends := Conversion.ends_ofString input
    generalize Conversion.ofString input = conversion at ends halted written
    cases ends with
    | complete read => exact ⟨_, _, read, written⟩
    | unclosed => cases halted
    | unopened => cases halted
  · rintro ⟨items, waiting, read, written⟩
    have rebuilt : Conversion.build [] query.items = .ok [query] := by
      rw [← List.append_nil query.items, Conversion.build_items]
      rfl
    rw [Conversion.ofString, read.complete, written, Conversion.outcome_ended, rebuilt]
    rfl

/-- The first operator in postorder that lacks an operand is reported before a halt of the
first pass, and a halt before the number of queries that are left. What is accepted has
been written in postorder. -/
theorem parse_eq_outcome (input : String) :
    Query.parse input = (Conversion.ofString input).outcome ∧
      (∀ op, Query.parse input = .error (.missingOperand op) ↔
        ∃ front later built, (Conversion.ofString input).items = front ++ Item.operator op :: later ∧
          Conversion.build [] front = .ok built ∧ op.combine? built = none) ∧
      ∀ query, Query.parse input = .ok query → (Conversion.ofString input).items = query.items := by
  rw [Query.parse_eq_conversion]
  refine ⟨rfl, ?_, fun query accepted => (Conversion.items_of_outcome accepted).2⟩
  intro op
  rw [(Conversion.ends_ofString input).outcome_eq_missingOperand_iff, Conversion.build_eq_error_iff]
  constructor
  · rintro ⟨front, op, later, built, split, done, lacking, same⟩
    cases same
    exact ⟨front, later, built, split, done, lacking⟩
  · rintro ⟨front, later, built, split, done, lacking⟩
    exact ⟨front, op, later, built, split, done, lacking, rfl⟩

theorem parse_eq_outcome_crossing :
    Query.parse "a (b and) not" = .ok (.not (.and (.literal "a") (.literal "b"))) ∧
      (Conversion.ofString "a (b and) not").items =
        (Query.not (.and (.literal "a") (.literal "b"))).items := by
  have accepted : Query.parse "a (b and) not" = .ok (.not (.and (.literal "a") (.literal "b"))) := by
    decide +kernel
  exact ⟨accepted, (parse_eq_outcome _).2.2 _ accepted⟩

end TagQuery
