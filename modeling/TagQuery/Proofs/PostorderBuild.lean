import Mathlib.Data.List.Basic
import TagQuery.Proofs.YardRuns
import TagQuery.Query.Conversion
import TagQuery.Query.Literals

/-! Building queries from postorder. A query is built from its own nodes wherever they
stand, and whatever is built has the nodes that were read, in their order: so its literals
and its operators can be counted without looking at the stack. -/

namespace TagQuery

namespace Query

theorem filterMap_items (query : Query) : query.items.filterMap Item.value? = query.leaves := by
  induction query with
  | literal value => rfl
  | and left right ihLeft ihRight => simp [items, leaves, ihLeft, ihRight, Item.value?]
  | or left right ihLeft ihRight => simp [items, leaves, ihLeft, ihRight, Item.value?]
  | not inner ih => simp [items, leaves, ih, Item.value?]

/-- A binary operator makes one query of two, so there is one leaf more than there are of them. -/
theorem length_leaves (query : Query) :
    query.leaves.length = query.items.count (.operator .and) + query.items.count (.operator .or) + 1 := by
  induction query with
  | literal value => rfl
  | and left right ihLeft ihRight =>
    simp only [items, leaves, List.length_append, List.count_append, ihLeft, ihRight]
    simp
    omega
  | or left right ihLeft ihRight =>
    simp only [items, leaves, List.length_append, List.count_append, ihLeft, ihRight]
    simp
    omega
  | not inner ih => simp [items, leaves, ih]

end Query

namespace Conversion

theorem build_append (stack : List Query) (first second : List Item) :
    build stack (first ++ second) = build stack first >>= fun built => build built second := by
  induction first generalizing stack with
  | nil => rfl
  | cons item first ih =>
    cases item with
    | literal value => exact ih (.literal value :: stack)
    | operator op =>
      rw [List.cons_append, build, build]
      cases op.combine? stack with
      | some combined => exact ih combined
      | none => rfl

theorem build_operators (waiting : List Operator) (stack : List Query) :
    build stack (waiting.map .operator) = Yard.settle waiting stack := by
  induction waiting generalizing stack with
  | nil => rfl
  | cons op waiting ih =>
    rw [List.map_cons, build, Yard.settle, Yard.combine]
    cases op.combine? stack with
    | some combined => exact ih combined
    | none => rfl

theorem build_items (query : Query) (stack : List Query) (later : List Item) :
    build stack (query.items ++ later) = build (query :: stack) later := by
  induction query generalizing stack later with
  | literal value => rfl
  | and left right ihLeft ihRight =>
    rw [Query.items, List.append_assoc, List.append_assoc, ihLeft, ihRight]
    rfl
  | or left right ihLeft ihRight =>
    rw [Query.items, List.append_assoc, List.append_assoc, ihLeft, ihRight]
    rfl
  | not inner ih =>
    rw [Query.items, List.append_assoc, ih]
    rfl

def listing (queries : List Query) : List Item := queries.reverse.flatMap Query.items

theorem listing_cons (query : Query) (queries : List Query) :
    listing (query :: queries) = listing queries ++ query.items := by
  simp [listing]

private theorem listing_combine {op : Operator} {queries combined : List Query}
    (found : op.combine? queries = some combined) :
    listing combined = listing queries ++ [.operator op] := by
  unfold Operator.combine? at found
  split at found <;> cases found <;> simp [listing_cons, Query.items]

/-- No node is lost, whether its operands were built here or had been on the stack. -/
private theorem listing_build {stack built : List Query} {items : List Item} (done : build stack items = .ok built) :
    listing built = listing stack ++ items := by
  induction items generalizing stack with
  | nil =>
    cases done
    simp
  | cons item items ih =>
    cases item with
    | literal value =>
      rw [ih done, listing_cons, List.append_assoc]
      rfl
    | operator op =>
      rw [build] at done
      cases found : op.combine? stack with
      | some combined =>
        rw [found] at done
        rw [ih done, listing_combine found, List.append_assoc]
        rfl
      | none =>
        rw [found] at done
        cases done

theorem listing_of_build {built : List Query} {items : List Item} (done : build [] items = .ok built) :
    listing built = items := by
  simpa [listing] using listing_build done

theorem build_eq_error_iff {stack : List Query} {items : List Item} {error : ParseError} :
    build stack items = .error error ↔
      ∃ front op later built, items = front ++ Item.operator op :: later ∧ build stack front = .ok built ∧
        op.combine? built = none ∧ error = .missingOperand op := by
  constructor
  · intro failed
    induction items generalizing stack with
    | nil => cases failed
    | cons item items ih =>
      cases item with
      | literal value =>
        obtain ⟨front, op, later, built, rfl, done, lacking, same⟩ := ih failed
        exact ⟨.literal value :: front, op, later, built, rfl, done, lacking, same⟩
      | operator first =>
        rw [build] at failed
        cases found : first.combine? stack with
        | some combined =>
          rw [found] at failed
          obtain ⟨front, op, later, built, rfl, done, lacking, same⟩ := ih failed
          refine ⟨.operator first :: front, op, later, built, rfl, ?_, lacking, same⟩
          rw [build, found]
          exact done
        | none =>
          rw [found] at failed
          cases failed
          exact ⟨[], first, items, stack, rfl, rfl, found, rfl⟩
  · rintro ⟨front, op, later, built, rfl, done, lacking, rfl⟩
    rw [build_append, done]
    change build built (.operator op :: later) = _
    rw [build, lacking]

theorem outcome_halted (items : List Item) (error : ParseError) :
    outcome { items, halted := some error } = build [] items >>= fun _ => .error error := by
  unfold outcome
  cases build [] items <;> rfl

theorem outcome_ended (items : List Item) :
    outcome { items, halted := none } = build [] items >>= fun built => Yard.result { queries := built } := by
  unfold outcome
  cases build [] items with
  | ok built =>
    rcases built with _ | ⟨query, _ | ⟨second, others⟩⟩ <;> rfl
  | error error => rfl

theorem items_of_outcome {conversion : Conversion} {query : Query} (done : conversion.outcome = .ok query) :
    conversion.halted = none ∧ conversion.items = query.items := by
  obtain ⟨items, halted⟩ := conversion
  cases halted with
  | some error =>
    rw [outcome_halted] at done
    cases built : build [] items <;> rw [built] at done <;> cases done
  | none =>
    refine ⟨rfl, ?_⟩
    rw [outcome_ended] at done
    cases built : build [] items with
    | error error =>
      rw [built] at done
      cases done
    | ok queries =>
      rw [built] at done
      rcases queries with _ | ⟨first, _ | ⟨second, others⟩⟩ <;> cases done
      simpa [listing] using (listing_of_build built).symm

end Conversion

end TagQuery
