import TagQuery.Placeholder.Masking
import TagQuery.Proofs.MaskedText

/-! What masking leaves behind: the masked text is that of its atoms, each complex literal
standing as the placeholder that the table has for it. -/

namespace TagQuery

open Placeholder

def Placeholder.Table.mask (table : Table) : Atom → Text := Atom.masked table.marker table.number?

namespace Masking

structure Covers (masking : Masking) (atoms : List Atom) : Prop where
  numbered : masking.table.Numbered
  listed : ∀ literal, .complex literal ∈ atoms → ∃ number, masking.table.number? literal = some number
  text : masking.text = atoms.flatMap masking.table.mask

theorem Covers.step {masking : Masking} {atoms : List Atom} (covers : masking.Covers atoms) (segment : Segment) :
    (masking.step segment).Covers (atoms ++ segment.atoms) ∧
      (masking.step segment).table.marker = masking.table.marker := by
  cases segment with
  | plain text =>
    refine ⟨⟨covers.numbered, ?_, ?_⟩, rfl⟩
    · intro literal member
      exact covers.listed literal (by simpa [Segment.atoms] using member)
    · have plain : (text.map Atom.char).flatMap masking.table.mask = text := Atom.flatMap_map_char (fun _ => rfl) text
      have before : masking.done.reverse.flatten = atoms.flatMap masking.table.mask := covers.text
      simp [Masking.text, Masking.step, Segment.atoms, before, plain]
  | complex literal =>
    obtain ⟨numbered, marker, grown, number, found, given⟩ := Table.assign_numbered covers.numbered literal
    have kept {other : Text} {number' : Nat} (found : masking.table.number? other = some number') :
        (masking.table.assign literal).2.number? other = some number' :=
      Table.number?_of_known covers.numbered numbered grown found
    refine ⟨⟨numbered, ?_, ?_⟩, marker⟩
    · intro other member
      rcases List.mem_append.mp member with old | new
      · obtain ⟨number', found'⟩ := covers.listed other old
        exact ⟨number', kept found'⟩
      · obtain rfl : other = literal := by simpa [Segment.atoms] using new
        exact ⟨number, found⟩
    · have before : masking.done.reverse.flatten = atoms.flatMap (masking.table.assign literal).2.mask := by
        rw [show masking.done.reverse.flatten = _ from covers.text]
        apply List.flatMap_congr
        intro atom member
        cases atom with
        | char value => rfl
        | complex other =>
          obtain ⟨number', found'⟩ := covers.listed other member
          simp [Table.mask, Atom.masked, marker, found', kept found']
      simp [Masking.text, Masking.step, Segment.atoms, before, given, Table.mask, Atom.masked, marker, found]

theorem foldl_covers {masking : Masking} {atoms : List Atom} (covers : masking.Covers atoms) (segments : List Segment) :
    (segments.foldl step masking).Covers (atoms ++ segments.flatMap Segment.atoms) ∧
      (segments.foldl step masking).table.marker = masking.table.marker := by
  induction segments generalizing masking atoms with
  | nil => simpa using covers
  | cons segment segments ih =>
    obtain ⟨after, marker⟩ := covers.step segment
    rw [List.flatMap_cons, ← List.append_assoc]
    exact ⟨(ih after).1, (ih after).2.trans marker⟩

/-- The whole text is covered, and the marker of the table does not occur in it. -/
theorem covers_ofText (text : Text) :
    (ofText text).Covers (Atom.ofText text) ∧
      ∃ salt, (ofText text).table.marker = marker salt ∧ ¬ marker salt <:+: text := by
  have none : Covers { table := Table.forText text } [] :=
    ⟨Table.numbered_forText text, by simp, by simp [Masking.text]⟩
  obtain ⟨covers, same⟩ := foldl_covers none (Segment.ofText text)
  obtain ⟨salt, chosen, absent⟩ := marker_forText text
  exact ⟨covers, salt, same.trans chosen, absent⟩

end Masking

end TagQuery
