import TagQuery.Proofs.CanonicalForm
import TagQuery.Proofs.ComplexSpans

/-! Which queries are read from their canonical text, if they were put together by hand. A
value must be read as a literal where it stands alone; that nothing in it ends a word is
said here of its characters and of the spans of its complex literals, without a scan. -/

namespace TagQuery

/-- Every parenthesis of the text belongs to a complex literal. -/
def Segment.Enclosed (text : Text) : Prop :=
  ∀ before char after, text = before ++ char :: after → char = '(' ∨ char = ')' → InComplex text before.length

/-- A value that can be written into a query. -/
structure Writable (value : String) : Prop where
  some : value ≠ ""
  noBlank : ∀ char ∈ value.toList, ¬ Text.isBlank char
  noKeyword : ∀ op : Operator, value ≠ op.keyword
  enclosed : Segment.Enclosed value.toList

namespace Direct

private theorem Unbroken.not_isBlank {text : Text} (unbroken : Unbroken (Atom.ofText text)) {char : Char}
    (member : char ∈ text) :
    ¬ Text.isBlank char := by
  intro blank
  rw [← Atom.flatMap_ofText text] at member
  obtain ⟨atom, inside, member⟩ := List.mem_flatMap.mp member
  cases atom with
  | char other =>
    obtain rfl : char = other := List.mem_singleton.mp member
    exact ((ending?_eq_none_iff char).mp (unbroken char inside)).2.2 blank
  | complex literal => exact Segment.blank_not_mem (Atom.formed_of_mem_ofText inside) blank member

private theorem Unbroken.enclosed {text : Text} (unbroken : Unbroken (Atom.ofText text)) : Segment.Enclosed text := by
  rintro before char after rfl parenthesis
  by_contra outside
  rw [(Atom.ofText_of_outside outside).1] at unbroken
  obtain ⟨noOpening, noClosing, _⟩ := (ending?_eq_none_iff char).mp (unbroken char (by simp))
  cases parenthesis with
  | inl opening => exact noOpening opening
  | inr closing => exact noClosing closing

/-- What can be said of the characters is enough: an atom that ends a word is one of them,
and stands outside the complex literals. -/
private theorem unbroken_ofText {text : Text} (noBlank : ∀ char ∈ text, ¬ Text.isBlank char)
    (enclosed : Segment.Enclosed text) :
    Unbroken (Atom.ofText text) := by
  intro char member
  obtain ⟨first, last, split⟩ := List.append_of_mem member
  have spelled : text = first.flatMap Atom.text ++ char :: last.flatMap Atom.text := by
    rw [← Atom.flatMap_ofText text, split, List.flatMap_append, List.flatMap_cons, Atom.text, List.singleton_append]
  have outside : ¬ Segment.InComplex text (first.flatMap Atom.text).length := by
    rw [spelled, Segment.not_inComplex_iff, ← spelled]
    exact ⟨first, last, split, rfl⟩
  have noParenthesis := mt (enclosed _ char _ spelled) outside
  rw [not_or] at noParenthesis
  have inside : char ∈ text := by simp [spelled]
  exact (ending?_eq_none_iff char).mpr ⟨noParenthesis.1, noParenthesis.2, noBlank char inside⟩

private theorem keyword?_ofText_eq_none_iff (value : String) :
    keyword? (Atom.ofText value.toList) = none ↔ ∀ op : Operator, value ≠ op.keyword := by
  have spelled (op : Operator) : Atom.ofText op.keyword.toList = op.keyword.toList.map .char := by
    cases op <;> decide +kernel
  rw [Option.eq_none_iff_forall_ne_some]
  refine forall_congr' fun op => not_congr ?_
  rw [keyword?_eq_some_iff]
  constructor
  · intro same
    have whole := Atom.flatMap_ofText value.toList
    rw [same, Atom.flatMap_map_char fun _ => rfl] at whole
    exact (String.toList_inj.mp whole).symm
  · rintro rfl
    exact spelled op

theorem selfContained_iff (value : String) : SelfContained value ↔ Writable value := by
  constructor
  · intro selfContained
    refine ⟨?_, fun char => selfContained.unbroken.not_isBlank, ?_, selfContained.unbroken.enclosed⟩
    · rintro rfl
      exact selfContained.some Atom.ofText_nil
    · exact (keyword?_ofText_eq_none_iff value).mp selfContained.noKeyword
  · intro writable
    refine ⟨?_, unbroken_ofText writable.noBlank writable.enclosed, ?_⟩
    · intro none
      have whole := Atom.flatMap_ofText value.toList
      rw [none] at whole
      exact writable.some (String.toList_inj.mp whole.symm)
    · exact (keyword?_ofText_eq_none_iff value).mpr writable.noKeyword

end Direct

/-- A query is read from its canonical text exactly if all its values can be written. With
any other value that text may be the text of a query, but not of this one. -/
theorem parse_render_iff (query : Query) :
    Query.parse query.render = .ok query ↔ ∀ value ∈ query.leaves, Writable value := by
  simp only [← Direct.selfContained_iff]
  rw [Query.render_eq_canonical]
  exact ⟨Query.legible_of_parse, Query.parse_canonical⟩

example : Query.parse (Query.and (.literal "a and b") (.literal "c")).render =
    .ok (.and (.and (.literal "a") (.literal "b")) (.literal "c")) := by
  decide +kernel

end TagQuery
