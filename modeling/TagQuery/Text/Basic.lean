/-! Texts are lists of characters while they are cut and put together; strings appear only
in what goes in and out. A text is cut by a rule that looks at a character and at what
follows it, and says which piece begins there and how far it reaches. -/

namespace TagQuery

abbrev Text := List Char

/-- Something in two lists one after the other lies in one of them. -/
theorem split_append {first second before after : List α} {item : α}
    (split : first ++ second = before ++ item :: after) :
    (∃ rest, first = before ++ item :: rest ∧ after = rest ++ second) ∨
      ∃ front, before = first ++ front ∧ second = front ++ item :: after := by
  rcases List.append_eq_append_iff.mp split with ⟨front, same, later⟩ | ⟨rest, same, later⟩
  · exact .inr ⟨front, same, later⟩
  · cases rest with
    | nil => exact .inr ⟨[], by simpa using same.symm, later.symm⟩
    | cons _ rest =>
      cases later
      exact .inl ⟨rest, same, rfl⟩

namespace Text

/-- Cuts a list into pieces, from the left. The rule is shown the next item and the items
behind it; it gives the piece and the number of items behind the first that belong to it. -/
def pieces (cut : α → List α → β × Nat) (items : List α) : List β :=
  go items []
where
  go : List α → List β → List β
    | [], done => done.reverse
    | item :: rest, done =>
      match cut item rest with
      | (piece, more) => go (rest.drop more) (piece :: done)
  termination_by items => items.length

theorem pieces_go (cut : α → List α → β × Nat) (items : List α) (done : List β) :
    pieces.go cut items done = done.reverse ++ pieces cut items := by
  unfold pieces
  induction len : items.length using Nat.strongRecOn generalizing items done with
  | ind len ih =>
    subst len
    cases items with
    | nil => simp [pieces.go]
    | cons item rest =>
      have shorter : (rest.drop (cut item rest).2).length < (item :: rest).length := by
        rw [List.length_drop, List.length_cons]
        omega
      simp only [pieces.go]
      rw [ih _ shorter _ ((cut item rest).1 :: done) rfl, ih _ shorter _ [(cut item rest).1] rfl]
      simp

@[simp] theorem pieces_nil (cut : α → List α → β × Nat) : pieces cut [] = [] := by
  simp [pieces, pieces.go]

theorem pieces_cons (cut : α → List α → β × Nat) (item : α) (rest : List α) :
    pieces cut (item :: rest) = (cut item rest).1 :: pieces cut (rest.drop (cut item rest).2) := by
  simp only [pieces, pieces.go]
  simp [pieces_go]

/-- If every piece stands for what was cut off, nothing is lost. -/
theorem flatMap_pieces {cut : α → List α → β × Nat} {content : β → List α}
    (whole : ∀ item rest, content (cut item rest).1 = item :: rest.take (cut item rest).2) (items : List α) :
    (pieces cut items).flatMap content = items := by
  induction len : items.length using Nat.strongRecOn generalizing items with
  | ind len ih =>
    subst len
    cases items with
    | nil => simp
    | cons item rest =>
      have shorter : (rest.drop (cut item rest).2).length < (item :: rest).length := by
        rw [List.length_drop, List.length_cons]
        omega
      rw [pieces_cons, List.flatMap_cons, ih _ shorter _ rfl, whole, List.cons_append, List.take_append_drop]

/-- A stretch of a text: the place of its first character, and the place behind its last one. -/
structure Span where
  start : Nat
  stop : Nat
  deriving DecidableEq

def Span.Covers (span : Span) (place : Nat) : Prop := span.start ≤ place ∧ place < span.stop

instance (span : Span) (place : Nat) : Decidable (span.Covers place) :=
  inferInstanceAs (Decidable (span.start ≤ place ∧ place < span.stop))

/-- The stretches have no place in common; they may touch. -/
def Span.Apart (first second : Span) : Prop := first.stop ≤ second.start ∨ second.stop ≤ first.start

def Span.Within (inner outer : Span) : Prop := outer.start ≤ inner.start ∧ inner.stop ≤ outer.stop

/-- The characters in a stretch of the text. -/
def within (text : Text) (span : Span) : Text := (text.take span.stop).drop span.start

theorem within_append (before middle after : Text) :
    within (before ++ (middle ++ after)) ⟨before.length, before.length + middle.length⟩ = middle := by
  rw [within, ← List.append_assoc, ← List.length_append, List.take_left, List.drop_left]

/-- The text from `place` on, with new texts for stretches of it, which are given in order. -/
def replaceSpans (text : Text) (place : Nat) : List (Span × Text) → Text
  | [] => text.drop place
  | (span, new) :: later => text.within ⟨place, span.start⟩ ++ new ++ text.replaceSpans span.stop later

end Text

end TagQuery
