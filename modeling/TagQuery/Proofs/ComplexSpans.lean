import TagQuery.Proofs.Atoms

/-! Where complex literals stand. A place of a text either lies in the span of a complex
literal or holds an atom that is a character. So whatever lies outside all spans divides
the atoms, and each side of it has the atoms that it has when it stands alone. -/

namespace TagQuery

namespace Atom

private theorem split_behind (head tail : List Atom) (char : Char) (front : Text) :
    (∃ first last, head ++ tail = first ++ .char char :: last ∧ first.flatMap text = head.flatMap text ++ front) ↔
      ∃ first last, tail = first ++ .char char :: last ∧ first.flatMap text = front := by
  constructor
  · rintro ⟨first, last, split, place⟩
    rcases split_append split with ⟨rest, within, _⟩ | ⟨middle, rfl, behind⟩
    · have lengths := congrArg List.length place
      rw [within] at lengths
      simp [text] at lengths
    · refine ⟨middle, last, behind, ?_⟩
      rwa [List.flatMap_append, List.append_cancel_left_eq] at place
  · rintro ⟨first, last, rfl, rfl⟩
    exact ⟨head ++ first, last, by simp, List.flatMap_append⟩

end Atom

namespace Segment

theorem le_start_of_mem_spans {start : Nat} {segments : List Segment} :
    ∀ span ∈ spans start segments, start ≤ span.start := by
  induction segments generalizing start with
  | nil => simp [spans]
  | cons segment segments ih =>
    cases segment with
    | plain text =>
      intro span member
      have := ih span member
      omega
    | complex text =>
      intro span member
      cases List.mem_cons.mp member with
      | inl first => simp [first]
      | inr later =>
        have := ih span later
        omega

def Reached (start : Nat) (segments : List Segment) (place : Nat) : Prop :=
  ∃ span ∈ spans start segments, span.Covers place

private theorem reached_behind (start : Nat) (segment : Segment) (later : List Segment) (beyond : Nat) :
    Reached start (segment :: later) (start + (segment.text.length + beyond)) ↔
      Reached (start + segment.text.length) later (start + segment.text.length + beyond) := by
  rw [← Nat.add_assoc]
  cases segment with
  | plain text => rfl
  | complex text =>
    have passed : ¬ Text.Span.Covers ⟨start, start + text.length⟩ (start + text.length + beyond) := by
      simp [Text.Span.Covers]
    simp [Reached, spans, Segment.text, passed]

private theorem reached_within (start : Nat) (segment : Segment) (later : List Segment) {place : Nat}
    (inside : place < segment.text.length) :
    Reached start (segment :: later) (start + place) ↔ ∃ literal, segment = .complex literal := by
  have beyond : ¬ Reached (start + segment.text.length) later (start + place) := by
    rintro ⟨span, member, begun, _⟩
    have := le_start_of_mem_spans span member
    omega
  cases segment with
  | plain text => simpa [Reached, spans, Segment.text] using beyond
  | complex text =>
    have covered : Text.Span.Covers ⟨start, start + text.length⟩ (start + place) :=
      ⟨Nat.le_add_right .., Nat.add_lt_add_left inside start⟩
    simp [Reached, spans, covered]

/-- No complex literal reaches over a place exactly if the atom there is its character. -/
private theorem not_reached_iff (start : Nat) {segments : List Segment} {before after : Text} {char : Char}
    (whole : segments.flatMap Segment.text = before ++ char :: after) :
    ¬ Reached start segments (start + before.length) ↔
      ∃ first last, segments.flatMap atoms = first ++ .char char :: last ∧ first.flatMap Atom.text = before := by
  induction segments generalizing start before with
  | nil => simp at whole
  | cons segment later ih =>
    rw [List.flatMap_cons] at whole
    rcases split_append whole with ⟨rest, own, rfl⟩ | ⟨front, rfl, behind⟩
    · -- The character is one of this segment, whose kind decides on both sides.
      have inside : before.length < segment.text.length := by simp [own]
      rw [reached_within start segment later inside]
      cases segment with
      | plain text =>
        have shown : (before.map Atom.char).flatMap Atom.text = before := Atom.flatMap_map_char (fun _ => rfl) before
        refine iff_of_true (by simp) ⟨before.map .char, rest.map .char ++ later.flatMap atoms, ?_, shown⟩
        simp [atoms, show text = before ++ char :: rest from own]
      | complex literal =>
        refine iff_of_false (by simp) ?_
        rintro ⟨first, last, split, place⟩
        cases first with
        | nil => cases split
        | cons atom first =>
          obtain rfl : Atom.complex literal = atom := (List.cons.inj split).1
          have lengths := congrArg List.length place
          rw [List.flatMap_cons, Atom.text, show literal = before ++ char :: rest from own] at lengths
          simp at lengths
    · -- On both sides the segment is passed over.
      rw [List.length_append, reached_behind, ih _ behind, List.flatMap_cons, ← Atom.flatMap_text_atoms, Atom.split_behind]

end Segment

theorem Segment.not_inComplex_iff (before after : Text) (char : Char) :
    ¬ InComplex (before ++ char :: after) before.length ↔
      ∃ first last, Atom.ofText (before ++ char :: after) = first ++ .char char :: last ∧ first.flatMap Atom.text = before := by
  have reached := not_reached_iff 0 (flatMap_ofText (before ++ char :: after))
  rwa [Nat.zero_add] at reached

/-- A character outside the complex literals divides the atoms as it divides the text. -/
theorem Atom.ofText_of_outside {before after : Text} {char : Char}
    (outside : ¬ Segment.InComplex (before ++ char :: after) before.length) :
    ofText (before ++ char :: after) = ofText before ++ .char char :: ofText after ∧
      ofText (before ++ [char]) = ofText before ++ [.char char] ∧ ofText (char :: after) = .char char :: ofText after := by
  obtain ⟨first, last, split, rfl⟩ := (Segment.not_inComplex_iff ..).mp outside
  have exact := exact_ofText (first.flatMap text ++ char :: after)
  have whole := flatMap_ofText (first.flatMap text ++ char :: after)
  rw [split] at exact whole
  obtain rfl : last.flatMap text = after := by
    rw [List.flatMap_append, List.append_cancel_left_eq] at whole
    exact (List.cons.inj whole).2
  have back : Exact (.char char :: last) := exact.right
  have front : Exact (first ++ [.char char]) := by
    rw [← List.singleton_append, ← List.append_assoc] at exact
    exact exact.left
  have alone : Exact last := ((exact_char_cons ..).mp back).2
  have spelledFront : (first ++ [Atom.char char]).flatMap text = first.flatMap text ++ [char] := by simp [text]
  have spelledBack : (Atom.char char :: last).flatMap text = char :: last.flatMap text := rfl
  rw [split, front.ofText_eq spelledFront, back.ofText_eq spelledBack, exact.left.ofText_eq rfl, alone.ofText_eq rfl]
  exact ⟨rfl, rfl, rfl⟩

end TagQuery
