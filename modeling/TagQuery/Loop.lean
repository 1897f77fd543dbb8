/-! Loops, seen from one round to the next. A round leads on to another state or ends with
a result. A loop that keeps a value from round to round and lowers a weight ends with
that value, and it takes no more rounds than the weight was at first. -/

namespace TagQuery

universe u v

/-- What one round comes to. -/
inductive Round (State : Type u) (Result : Type v) where
  | next (state : State)
  | last (result : Result)

namespace Round

variable {State : Type u} {Result : Type v}

/-- The states that a loop passes through. -/
inductive Reaches (round : State → Round State Result) (start : State) : State → Prop where
  | start : Reaches round start start
  | next {state later : State} (reached : Reaches round start state) (leads : round state = .next later) :
      Reaches round start later

/-- The loop ends with the result. Only rounds that lead on to another one are counted. -/
inductive Finishes (round : State → Round State Result) (result : Result) : State → Nat → Prop where
  | last {state : State} (ends : round state = .last result) : Finishes round result state 0
  | next {state later : State} {rounds : Nat} (leads : round state = .next later)
      (finishes : Finishes round result later rounds) : Finishes round result state (rounds + 1)

/-- What the loop will end with can be told from every state, and no round changes it. -/
structure Computes (round : State → Round State Result) (value : State → Result) (weight : State → Nat) : Prop where
  next : ∀ {state later}, round state = .next later → value later = value state ∧ weight later < weight state
  last : ∀ {state result}, round state = .last result → value state = result

variable {round : State → Round State Result} {value : State → Result} {weight : State → Nat} {result : Result}

theorem Computes.value_of_reaches (computes : Computes round value weight) {start state : State}
    (found : value start = result) (reached : Reaches round start state) : value state = result := by
  induction reached with
  | start => exact found
  | next _ leads ih => exact (computes.next leads).1.trans ih

theorem Computes.finishes (computes : Computes round value weight) (state : State) (found : value state = result) :
    ∃ rounds ≤ weight state, Finishes round result state rounds := by
  induction bound : weight state using Nat.strongRecOn generalizing state with
  | ind bound ih =>
    subst bound
    cases outcome : round state with
    | last final =>
      obtain rfl : final = result := (computes.last outcome).symm.trans found
      exact ⟨0, Nat.zero_le _, .last outcome⟩
    | next later =>
      obtain ⟨same, lower⟩ := computes.next outcome
      obtain ⟨rounds, enough, finishes⟩ := ih _ lower later (same.trans found) rfl
      exact ⟨rounds + 1, Nat.lt_of_le_of_lt enough lower, .next outcome finishes⟩

end Round

end TagQuery
