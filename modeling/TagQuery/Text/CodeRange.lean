/-! Inclusive ranges of code points. A property of characters is given by a list of
ranges in ascending order, so a search ends at the first range beyond the code sought.
In such a list the search finds every code that lies in one of the ranges. -/

namespace TagQuery.Text

structure CodeRange where
  first : Nat
  last : Nat

namespace CodeRange

/-- None of the ranges behind one that begins beyond `code` is looked at. -/
def cover (code : Nat) : List CodeRange → Bool
  | [] => false
  | range :: later => if code < range.first then false else code ≤ range.last || cover code later

/-- Whether the ranges, none of them empty, follow one another from `start` on. -/
def ascend (start : Nat) : List CodeRange → Bool
  | [] => true
  | range :: later => start ≤ range.first && range.first ≤ range.last && ascend (range.last + 1) later

theorem le_first_of_ascend {start : Nat} {ranges : List CodeRange} (ascending : ascend start ranges = true) :
    ∀ range ∈ ranges, start ≤ range.first := by
  induction ranges generalizing start with
  | nil => simp
  | cons head later ih =>
    simp only [ascend, Bool.and_eq_true, decide_eq_true_eq] at ascending
    obtain ⟨⟨begins, proper⟩, rest⟩ := ascending
    intro range member
    cases List.mem_cons.mp member with
    | inl same => exact same ▸ begins
    | inr behind =>
      have := ih rest range behind
      omega

theorem cover_iff {start code : Nat} {ranges : List CodeRange} (ascending : ascend start ranges = true) :
    cover code ranges = true ↔ ∃ range ∈ ranges, range.first ≤ code ∧ code ≤ range.last := by
  induction ranges generalizing start with
  | nil => simp [cover]
  | cons head later ih =>
    have outside := le_first_of_ascend ascending
    simp only [ascend, Bool.and_eq_true, decide_eq_true_eq] at ascending
    obtain ⟨⟨_, proper⟩, rest⟩ := ascending
    have beyond := le_first_of_ascend rest
    simp only [cover, List.mem_cons, exists_eq_or_imp]
    split
    next before =>
      simp only [Bool.false_eq_true, false_iff, not_or, not_exists, not_and]
      refine ⟨by omega, fun range member _ => ?_⟩
      have := beyond range member
      omega
    next reached =>
      rw [Bool.or_eq_true, decide_eq_true_eq, ih rest]
      constructor
      · intro found
        cases found with
        | inl inside => exact .inl ⟨by omega, inside⟩
        | inr behind => exact .inr behind
      · intro found
        cases found with
        | inl inside => exact .inl inside.2
        | inr behind => exact .inr behind

end CodeRange

end TagQuery.Text
