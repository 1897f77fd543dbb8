import Mathlib.Data.List.Pairwise
import Mathlib.Logic.ExistsUnique
import TagQuery.Placeholder.Substitution
import TagQuery.Proofs.MaskingInvariant

/-! Where placeholders stand in a masked text. Shown as atoms, a text has its complex literals at
places that are apart; where the table hides the atoms, every marker that can be found is that of
one of these literals, and so is every placeholder. Masking puts them there one by one. -/

namespace TagQuery

open Placeholder

namespace Atom

/-- Where the complex literals stand when the atoms are shown one after the other from `start` on. -/
def places (shown : Atom → Text) (start : Nat) : List Atom → List (Text.Span × Text)
  | [] => []
  | .char value :: later => places shown (start + (shown (.char value)).length) later
  | .complex literal :: later =>
    (⟨start, start + (shown (.complex literal)).length⟩, literal) ::
      places shown (start + (shown (.complex literal)).length) later

variable {shown : Atom → Text}

theorem places_append (start : Nat) (first second : List Atom) :
    places shown start (first ++ second) =
      places shown start first ++ places shown (start + (first.flatMap shown).length) second := by
  induction first generalizing start with
  | nil => rfl
  | cons atom first ih =>
    cases atom <;>
      simp only [List.cons_append, places, ih, List.flatMap_cons, List.length_append, Nat.add_assoc]

private theorem places_map_char (start : Nat) (text : Text) : places shown start (text.map .char) = [] := by
  induction text generalizing start with
  | nil => rfl
  | cons value text ih => exact ih _

theorem mem_places_iff {start : Nat} {atoms : List Atom} {span : Text.Span} {literal : Text} :
    (span, literal) ∈ places shown start atoms ↔
      ∃ first last, atoms = first ++ .complex literal :: last ∧
        span = ⟨start + (first.flatMap shown).length,
          start + (first.flatMap shown).length + (shown (.complex literal)).length⟩ := by
  constructor
  · intro member
    induction atoms generalizing start with
    | nil => cases member
    | cons atom atoms ih =>
      have onward (later : (span, literal) ∈ places shown (start + (shown atom).length) atoms) :
          ∃ first last, atom :: atoms = first ++ .complex literal :: last ∧
            span = ⟨start + (first.flatMap shown).length,
              start + (first.flatMap shown).length + (shown (.complex literal)).length⟩ := by
        obtain ⟨first, last, rfl, rfl⟩ := ih later
        refine ⟨atom :: first, last, rfl, ?_⟩
        simp only [List.flatMap_cons, List.length_append, Nat.add_assoc]
      cases atom with
      | char value => exact onward member
      | complex other =>
        rcases List.mem_cons.mp member with here | later
        · cases here
          exact ⟨[], atoms, rfl, rfl⟩
        · exact onward later
  · rintro ⟨first, last, rfl, rfl⟩
    rw [places_append]
    exact List.mem_append_right _ List.mem_cons_self

theorem places_pairwise (start : Nat) (atoms : List Atom) :
    (places shown start atoms).Pairwise fun first second => first.1.stop ≤ second.1.start := by
  induction atoms generalizing start with
  | nil => exact .nil
  | cons atom atoms ih =>
    cases atom with
    | char value => exact ih _
    | complex literal =>
      refine .cons ?_ (ih _)
      intro ⟨span, other⟩ later
      obtain ⟨first, last, _, rfl⟩ := mem_places_iff.mp later
      exact Nat.le_add_right _ _

private theorem apart_of_mem_places {start : Nat} {atoms : List Atom} {first second : Text.Span × Text}
    (here : first ∈ places shown start atoms) (here' : second ∈ places shown start atoms) (different : first ≠ second) :
    first.1.Apart second.1 := by
  have symmetric : Std.Symm fun first second : Text.Span × Text => first.1.Apart second.1 := ⟨fun _ _ => Or.symm⟩
  have apart : (places shown start atoms).Pairwise fun first second => first.1.Apart second.1 :=
    (places_pairwise start atoms).imp Or.inl
  exact apart.forall here here' different

end Atom

namespace Placeholder.Table

theorem mask_complex {table : Table} {literal : Text} {number : Nat} (found : table.number? literal = some number) :
    table.mask (.complex literal) = form table.marker number := by
  simp [mask, Atom.masked, found]

theorem standsAt_of_mem_places {table : Table} (numbered : table.Numbered) {atoms : List Atom}
    (listed : ∀ literal, .complex literal ∈ atoms → ∃ number, table.number? literal = some number) {span : Text.Span}
    {literal : Text} (member : (span, literal) ∈ Atom.places table.mask 0 atoms) :
    table.StandsAt (atoms.flatMap table.mask) span literal := by
  obtain ⟨first, last, rfl, rfl⟩ := Atom.mem_places_iff.mp member
  obtain ⟨number, found⟩ := listed literal (by simp)
  refine ⟨form table.marker number, (mem_literals_iff numbered ..).mpr ⟨number, found, rfl⟩,
    first.flatMap table.mask, last.flatMap table.mask, ?_, ?_⟩
  · simp [mask_complex found]
  · simp [mask_complex found]

/-- Every complex literal among the atoms has a placeholder in the table, and the marker of the table
does not occur in their text. -/
structure Hides (table : Table) (atoms : List Atom) : Prop where
  numbered : table.Numbered
  marked : ∃ salt, table.marker = Placeholder.marker salt
  listed : ∀ literal, .complex literal ∈ atoms → ∃ number, table.number? literal = some number
  fresh : ¬ table.marker <:+: atoms.flatMap Atom.text

variable {table : Table} {atoms : List Atom}

theorem Hides.part {part : List Atom} (hides : table.Hides atoms) (inside : part <:+: atoms) : table.Hides part := by
  refine ⟨hides.numbered, hides.marked, fun literal member => hides.listed literal (inside.subset member), ?_⟩
  intro occurring
  obtain ⟨before, after, rfl⟩ := inside
  apply hides.fresh
  exact occurring.trans ⟨before.flatMap Atom.text, after.flatMap Atom.text, by simp⟩

/-- The marker of the table stands in the placeholders, behind their first two characters. -/
theorem Hides.marker_occursAt_iff (hides : table.Hides atoms) (span : Text.Span) :
    table.marker.OccursAt (atoms.flatMap table.mask) span ↔
      ∃ entry ∈ Atom.places table.mask 0 atoms,
        span = ⟨entry.1.start + 2, entry.1.start + 2 + table.marker.length⟩ := by
  obtain ⟨salt, marked⟩ := hides.marked
  constructor
  · rintro ⟨before, after, found, rfl⟩
    have fresh := hides.fresh
    rw [marked] at fresh
    have inside : atoms.flatMap (Atom.masked (Placeholder.marker salt) table.number?) = before ++ Placeholder.marker salt ++ after := by
      simpa [mask, marked] using found
    obtain ⟨first, literal, number, last, split, given, rfl, _⟩ := Masked.marker_occurrence fresh inside
    refine ⟨_, Atom.mem_places_iff.mpr ⟨first, last, split, rfl⟩, ?_⟩
    simp [mask, marked]
  · rintro ⟨⟨span, literal⟩, member, rfl⟩
    obtain ⟨first, last, rfl, rfl⟩ := Atom.mem_places_iff.mp member
    obtain ⟨number, found⟩ := hides.listed literal (by simp)
    refine ⟨first.flatMap table.mask ++ ['_', '_'],
      '_' :: (numeral number ++ ['_', '_']) ++ last.flatMap table.mask, ?_, ?_⟩
    · simp [mask_complex found, form_eq]
    · simp

private theorem Hides.marker_within (hides : table.Hides atoms) {entry : Text.Span × Text}
    (member : entry ∈ Atom.places table.mask 0 atoms) :
    Text.Span.Within ⟨entry.1.start + 2, entry.1.start + 2 + table.marker.length⟩ entry.1 := by
  obtain ⟨span, literal⟩ := entry
  obtain ⟨first, last, rfl, rfl⟩ := Atom.mem_places_iff.mp member
  obtain ⟨number, found⟩ := hides.listed literal (by simp)
  simp only [Text.Span.Within, mask_complex found, form_eq, List.length_cons, List.length_append]
  omega

private theorem Hides.eq_of_marker_within (hides : table.Hides atoms) {entry other : Text.Span × Text}
    (member : entry ∈ Atom.places table.mask 0 atoms) (member' : other ∈ Atom.places table.mask 0 atoms)
    (inside : Text.Span.Within ⟨entry.1.start + 2, entry.1.start + 2 + table.marker.length⟩ other.1) :
    entry = other := by
  by_contra different
  have apart := Atom.apart_of_mem_places member member' different
  have own := hides.marker_within member
  obtain ⟨salt, marked⟩ := hides.marked
  have some := length_marker salt
  rw [← marked] at some
  simp only [Text.Span.Within, Text.Span.Apart] at apart own inside
  omega

theorem Hides.standsAt_iff (hides : table.Hides atoms) (span : Text.Span) (literal : Text) :
    table.StandsAt (atoms.flatMap table.mask) span literal ↔ (span, literal) ∈ Atom.places table.mask 0 atoms := by
  refine ⟨?_, standsAt_of_mem_places hides.numbered hides.listed⟩
  rintro ⟨placeholder, entry, before, after, found, rfl⟩
  obtain ⟨number, given, rfl⟩ := (mem_literals_iff hides.numbered ..).mp entry
  obtain ⟨salt, marked⟩ := hides.marked
  have fresh := hides.fresh
  rw [marked] at fresh
  have inside : atoms.flatMap (Atom.masked (Placeholder.marker salt) table.number?) =
      before ++ form (Placeholder.marker salt) number ++ after := by
    simpa [mask, marked] using found
  obtain ⟨first, other, last, split, given', rfl, _⟩ := Masked.placeholder_occurrence fresh inside
  obtain rfl := (number?_eq_iff hides.numbered given' given).mp rfl
  refine Atom.mem_places_iff.mpr ⟨first, last, split, ?_⟩
  rw [mask_complex given]
  simp [mask, marked]

theorem Hides.separated (hides : table.Hides atoms) : table.Separated (atoms.flatMap table.mask) := by
  intro first second literal literal' here here' different
  rw [hides.standsAt_iff] at here here'
  exact Atom.apart_of_mem_places here here' fun same => different (congrArg Prod.fst same)

end Placeholder.Table

namespace Masking

private theorem map_insertions (masking : Masking) (segments : List Segment) :
    (masking.insertions segments).map Prod.snd = segments.filterMap Segment.literal? := by
  induction segments generalizing masking with
  | nil => rfl
  | cons segment segments ih =>
    cases segment with
    | plain text => exact ih _
    | complex literal => exact congrArg (literal :: ·) (ih _)

variable {masking : Masking} {atoms : List Atom}

private theorem Covers.kept (covers : masking.Covers atoms) {literal : Text} {number : Nat}
    (found : masking.table.number? literal = some number) (segments : List Segment) :
    (segments.foldl Masking.step masking).table.number? literal = some number := by
  induction segments generalizing masking atoms with
  | nil => exact found
  | cons segment segments ih =>
    apply ih (covers.step segment).1
    cases segment with
    | plain text => exact found
    | complex other =>
      obtain ⟨numbered, _, grown, _⟩ := Table.assign_numbered covers.numbered other
      exact Table.number?_of_known covers.numbered numbered grown found

/-- What masking inserts is where the complex literals stand in the text that it ends with. -/
theorem Covers.insertions_eq (covers : masking.Covers atoms) (segments : List Segment) :
    masking.insertions segments =
      Atom.places (segments.foldl Masking.step masking).table.mask masking.text.length (segments.flatMap Segment.atoms) := by
  induction segments generalizing masking atoms with
  | nil => rfl
  | cons segment segments ih =>
    obtain ⟨after, marked⟩ := covers.step segment
    have onward := ih after
    have marked' := (foldl_covers after segments).2
    rw [List.flatMap_cons, Atom.places_append, List.foldl_cons]
    cases segment with
    | plain text =>
      have shown : (text.map Atom.char).flatMap (segments.foldl Masking.step (masking.step (.plain text))).table.mask = text :=
        Atom.flatMap_map_char (fun _ => rfl) text
      have length : (masking.step (.plain text)).text.length = masking.text.length + text.length := by
        simp [Masking.text, Masking.step]
      rw [insertions, onward, Segment.atoms, Atom.places_map_char, shown, length, List.nil_append]
    | complex literal =>
      obtain ⟨_, _, _, number, found, given⟩ := Table.assign_numbered covers.numbered literal
      have kept : (segments.foldl Masking.step (masking.step (.complex literal))).table.number? literal = some number :=
        after.kept found segments
      have length : (masking.step (.complex literal)).text.length =
          masking.text.length + (form masking.table.marker number).length := by
        simp [Masking.text, Masking.step, given]
      rw [insertions, onward, Segment.atoms, Atom.places, List.flatMap_singleton, Table.mask_complex kept, marked',
        marked, length]
      rfl

theorem inserted_eq (text : Text) : inserted text = Atom.places (ofText text).table.mask 0 (Atom.ofText text) := by
  have none : Covers { table := Table.forText text } [] :=
    ⟨Table.numbered_forText text, by simp, by simp [Masking.text]⟩
  exact none.insertions_eq (Segment.ofText text)

theorem hides_ofText (text : Text) : (ofText text).table.Hides (Atom.ofText text) := by
  obtain ⟨covers, salt, marked, absent⟩ := covers_ofText text
  refine ⟨covers.numbered, ⟨salt, marked⟩, covers.listed, ?_⟩
  rwa [marked, Atom.flatMap_ofText]

end Masking

/-- Masking puts one placeholder for each complex literal, and these are apart. The marker occurs once
in each of them and nowhere else, and no placeholder of the table occurs but those that were put
there, each for its own literal. -/
theorem placeholders_where_inserted (text : Text) :
    (∃ salt, (Masking.ofText text).table.marker = marker salt) ∧
      (Masking.inserted text).map Prod.snd = (Segment.ofText text).filterMap Segment.literal? ∧
      (∀ span, (Masking.ofText text).table.marker.OccursAt (Masking.ofText text).text span →
        ∃! entry, entry ∈ Masking.inserted text ∧ span.Within entry.1) ∧
      (∀ entry ∈ Masking.inserted text,
        ∃! span, (Masking.ofText text).table.marker.OccursAt (Masking.ofText text).text span ∧ span.Within entry.1) ∧
      (∀ span literal, (Masking.ofText text).table.StandsAt (Masking.ofText text).text span literal ↔
        (span, literal) ∈ Masking.inserted text) ∧
      (Masking.inserted text).Pairwise (fun first second => first.1.stop ≤ second.1.start) ∧
      (Masking.ofText text).table.Separated (Masking.ofText text).text := by
  have hides := Masking.hides_ofText text
  have literals := Masking.map_insertions { table := .forText text } (Segment.ofText text)
  rw [← Masking.inserted] at literals
  rw [Masking.inserted_eq] at literals ⊢
  rw [(Masking.covers_ofText text).1.text]
  refine ⟨hides.marked, literals, ?_, ?_, hides.standsAt_iff, Atom.places_pairwise 0 _, hides.separated⟩
  · intro span occurs
    obtain ⟨entry, member, rfl⟩ := (hides.marker_occursAt_iff span).mp occurs
    refine ⟨entry, ⟨member, hides.marker_within member⟩, ?_⟩
    rintro other ⟨member', inside⟩
    exact (hides.eq_of_marker_within member member' inside).symm
  · intro entry member
    refine ⟨⟨entry.1.start + 2, entry.1.start + 2 + (Masking.ofText text).table.marker.length⟩, ?_, ?_⟩
    · exact ⟨(hides.marker_occursAt_iff _).mpr ⟨entry, member, rfl⟩, hides.marker_within member⟩
    · rintro span ⟨occurs, inside⟩
      obtain ⟨other, member', rfl⟩ := (hides.marker_occursAt_iff span).mp occurs
      rw [hides.eq_of_marker_within member' member inside]

theorem placeholders_where_inserted_touching :
    (Masking.ofText "a(b)c(d)".toList).table.marker.OccursAt (Masking.ofText "a(b)c(d)".toList).text ⟨16, 24⟩ ∧
      (∃! entry, entry ∈ Masking.inserted "a(b)c(d)".toList ∧ Text.Span.Within ⟨16, 24⟩ entry.1) ∧
      (⟨0, 14⟩, "a(b)".toList) ∈ Masking.inserted "a(b)c(d)".toList ∧
      ∃! span, (Masking.ofText "a(b)c(d)".toList).table.marker.OccursAt (Masking.ofText "a(b)c(d)".toList).text span ∧
        span.Within ⟨0, 14⟩ := by
  have occurs :
      (Masking.ofText "a(b)c(d)".toList).table.marker.OccursAt (Masking.ofText "a(b)c(d)".toList).text ⟨16, 24⟩ :=
    ⟨"__tagexpr0_0____".toList, "_1__".toList, by decide +kernel, by decide +kernel⟩
  have member : (⟨0, 14⟩, "a(b)".toList) ∈ Masking.inserted "a(b)c(d)".toList := by decide +kernel
  obtain ⟨_, _, inside, single, _⟩ := placeholders_where_inserted "a(b)c(d)".toList
  exact ⟨occurs, inside _ occurs, member, single _ member⟩

end TagQuery
