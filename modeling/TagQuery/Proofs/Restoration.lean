import TagQuery.Proofs.MaskingInvariant

/-! Restoring a masked text. The entries of a table are put back one after the other, in
whatever order: each replacement finds its own placeholders and nothing else, so all that
matters in between is which literals still have their number. -/

namespace TagQuery

open Placeholder

namespace Restoration

variable {salt : Nat} {number? : Text → Option Nat} {atoms : List Atom}

private theorem flatMap_masked_of_shown
    (shown : ∀ literal number, .complex literal ∈ atoms → number? literal ≠ some number) :
    atoms.flatMap (Atom.masked (marker salt) number?) = atoms.flatMap Atom.text := by
  apply List.flatMap_congr
  intro atom member
  rcases Masked.shown_or_hidden salt number? atom with shown' | ⟨literal, number, rfl, given, _⟩
  · exact shown'
  · exact absurd given (shown literal number member)

/-- Behind the replacements, the literals that were put back have no number any more. -/
theorem foldl_replaceAll (fresh : ¬ marker salt <:+: atoms.flatMap Atom.text) (order : List (Text × Text))
    (own : ∀ entry ∈ order, ∃ number, entry.1 = form (marker salt) number ∧
      ∀ other number', number? other = some number' → (number' = number ↔ other = entry.2)) :
    order.foldl (fun (text : Text) entry => text.replaceAll entry.1 entry.2)
        (atoms.flatMap (Atom.masked (marker salt) number?)) =
      atoms.flatMap (Atom.masked (marker salt) fun other =>
        if other ∈ order.map Prod.snd then none else number? other) := by
  induction order generalizing number? with
  | nil => simp
  | cons entry order ih =>
    obtain ⟨number, same, only⟩ := own entry (by simp)
    rw [List.foldl_cons, same, Masked.replaceAll_masked fresh only, ih]
    · congr 2
      funext other
      by_cases here : other = entry.2
      · simp [here]
      · simp only [Function.update_of_ne here, List.map_cons, List.mem_cons, here, false_or]
    · intro later member
      obtain ⟨number', same', only'⟩ := own later (by simp [member])
      refine ⟨number', same', ?_⟩
      intro other number'' given
      apply only'
      by_cases here : other = entry.2
      · simp [here] at given
      · simpa [Function.update_of_ne here] using given

private theorem flatMap_text_eq_nil (empty : atoms.flatMap (Atom.masked (marker salt) number?) = []) :
    atoms.flatMap Atom.text = [] := by
  rw [List.flatMap_eq_nil_iff] at empty ⊢
  intro atom member
  rcases Masked.shown_or_hidden salt number? atom with shown | ⟨_, number, _, _, hidden⟩
  · exact shown ▸ empty atom member
  · have nothing := hidden.symm.trans (empty atom member)
    simp [form_eq] at nothing

private theorem not_some_of_absent (absent : ¬ marker salt <:+: atoms.flatMap (Atom.masked (marker salt) number?)) :
    ∀ literal number, .complex literal ∈ atoms → number? literal ≠ some number := by
  intro literal number member given
  obtain ⟨before, after, rfl⟩ := List.append_of_mem member
  apply absent
  refine ⟨before.flatMap (Atom.masked (marker salt) number?) ++ ['_', '_'],
    '_' :: (numeral number ++ '_' :: '_' :: after.flatMap (Atom.masked (marker salt) number?)), ?_⟩
  simp [Atom.masked, given, form_eq]

section Table

variable {table : Table} {order : List (Text × Text)}

private theorem flatMap_text_of_lookup (numbered : table.Numbered) (marked : table.marker = marker salt)
    (fresh : ¬ marker salt <:+: atoms.flatMap Atom.text) {literal : Text}
    (found : table.literals.lookup (atoms.flatMap table.mask) = some literal) : atoms.flatMap Atom.text = literal := by
  obtain ⟨number, given, same⟩ := (Table.lookup_literals_eq_some_iff numbered ..).mp found
  have alone : atoms.flatMap (Atom.masked (marker salt) table.number?) = [] ++ form (marker salt) number ++ [] := by
    simpa [Table.mask, marked] using same
  obtain ⟨before, other, after, rfl, given', nothing, nothing'⟩ := Masked.placeholder_occurrence fresh alone
  cases (Table.number?_eq_iff numbered given' given).mp rfl
  simp [flatMap_text_eq_nil nothing.symm, flatMap_text_eq_nil nothing'.symm, Atom.text]

private theorem flatMap_mask_of_absent (marked : table.marker = marker salt)
    (absent : ¬ Text.occursIn table.marker (atoms.flatMap table.mask)) :
    atoms.flatMap table.mask = atoms.flatMap Atom.text := by
  rw [Text.occursIn_iff, Table.mask, marked] at absent
  rw [Table.mask, marked]
  exact flatMap_masked_of_shown (not_some_of_absent absent)

/-- The replacements of all entries together put all literals back. -/
theorem foldl_mask (numbered : table.Numbered) (marked : table.marker = marker salt)
    (fresh : ¬ marker salt <:+: atoms.flatMap Atom.text) (shuffled : order.Perm table.literals) :
    order.foldl (fun (text : Text) entry => text.replaceAll entry.1 entry.2) (atoms.flatMap table.mask) =
      atoms.flatMap Atom.text := by
  have entry (placeholder literal : Text) := Table.mem_literals_iff numbered placeholder literal
  have own : ∀ pair ∈ order, ∃ number, pair.1 = form (marker salt) number ∧
      ∀ other number', table.number? other = some number' → (number' = number ↔ other = pair.2) := by
    intro pair member
    obtain ⟨number, given, same⟩ := (entry pair.1 pair.2).mp (shuffled.mem_iff.mp member)
    exact ⟨number, marked ▸ same, fun other number' found => Table.number?_eq_iff numbered found given⟩
  rw [Table.mask, marked, foldl_replaceAll fresh order own]
  apply flatMap_masked_of_shown
  intro literal number _ given
  split at given
  next => cases given
  next unknown =>
    have listed := shuffled.mem_iff.mpr ((entry ..).mpr ⟨number, given, rfl⟩)
    exact unknown (List.mem_map.mpr ⟨_, listed, rfl⟩)

end Table

end Restoration

/-- Restoring undoes masking, in whatever order the entries are put back, and however the
text was cut. -/
theorem restoreIn_mask {table : Table} (numbered : table.Numbered) {salt : Nat} (marked : table.marker = marker salt)
    {atoms : List Atom} (fresh : ¬ marker salt <:+: atoms.flatMap Atom.text) {order : List (Text × Text)}
    (shuffled : order.Perm table.literals) :
    table.restoreIn order (atoms.flatMap table.mask) = atoms.flatMap Atom.text := by
  have whole := Restoration.foldl_mask numbered marked fresh shuffled
  unfold Table.restoreIn
  split
  next literal found => exact (Restoration.flatMap_text_of_lookup numbered marked fresh found).symm
  next =>
    split
    next untouched =>
      rcases Bool.or_eq_true_iff.mp untouched with empty | absent
      · -- Without entries there is nothing to replace.
        rw [List.isEmpty_iff.mp empty] at shuffled
        simpa [shuffled.eq_nil] using whole
      · exact Restoration.flatMap_mask_of_absent marked (by simpa using absent)
    next => exact whole

/-- Nothing is lost in masking: put back in any order, the literals make up the text. -/
theorem restore_masked (text : Text) (order : List (Text × Text))
    (shuffled : order.Perm (Masking.ofText text).table.literals) :
    (Masking.ofText text).table.restoreIn order (Masking.ofText text).text = text := by
  obtain ⟨covers, salt, marked, absent⟩ := Masking.covers_ofText text
  rw [covers.text, restoreIn_mask covers.numbered marked _ shuffled, Atom.flatMap_ofText]
  rwa [Atom.flatMap_ofText]

theorem restore_masked_swapped :
    [("__tagexpr1_1__".toList, "c(d)".toList), ("__tagexpr1_0__".toList, "a(b)".toList)].Perm
        (Masking.ofText "a(b)c(d)_0 or __tagexpr0_0__ a(b)__".toList).table.literals ∧
      (Masking.ofText "a(b)c(d)_0 or __tagexpr0_0__ a(b)__".toList).table.restoreIn
          [("__tagexpr1_1__".toList, "c(d)".toList), ("__tagexpr1_0__".toList, "a(b)".toList)]
          (Masking.ofText "a(b)c(d)_0 or __tagexpr0_0__ a(b)__".toList).text =
        "a(b)c(d)_0 or __tagexpr0_0__ a(b)__".toList := by
  have shuffled : [("__tagexpr1_1__".toList, "c(d)".toList), ("__tagexpr1_0__".toList, "a(b)".toList)].Perm
      (Masking.ofText "a(b)c(d)_0 or __tagexpr0_0__ a(b)__".toList).table.literals := by
    decide +kernel
  exact ⟨shuffled, restore_masked _ _ shuffled⟩

end TagQuery
