import Mathlib.Data.List.Pairwise
import Mathlib.Logic.Pairwise
import TagQuery.Proofs.ComplexSpans
import TagQuery.Proofs.MaskingInvariant

/-! Which stretches of a text are complex literals, said of all stretches at once and without
a scan: those that are formed like one, and whose name does not begin further to the left.
None of them begins inside another, so the scan, which goes on behind each one it has found,
misses none. Masking replaces these stretches, and nothing else. -/

namespace TagQuery

namespace Segment

/-- A complex literal stands in this stretch of the text. -/
def ComplexAt (text : Text) (span : Text.Span) : Prop :=
  ∃ before literal after, text = before ++ (literal ++ after) ∧ Formed literal ∧
    (∀ char ∈ before.getLast?, ¬ Text.isWord char) ∧ span = ⟨before.length, before.length + literal.length⟩

private theorem Formed.cons {literal : Text} (formed : Formed literal) {char : Char} (word : Text.isWord char) :
    Formed (char :: literal) := by
  obtain ⟨name, arguments, rfl, _, some, words, argument⟩ := formed
  refine ⟨char :: name, arguments, rfl, List.cons_ne_nil _ _, some, ?_, argument⟩
  intro other member
  cases List.mem_cons.mp member with
  | inl first => exact first ▸ word
  | inr later => exact words other later

private theorem Formed.getLast? {literal : Text} (formed : Formed literal) : literal.getLast? = some ')' := by
  obtain ⟨name, arguments, rfl, _⟩ := formed
  exact List.getLast?_concat

theorem Formed.ne_nil {literal : Text} (formed : Formed literal) : literal ≠ [] := by
  rintro rfl
  cases formed.getLast?

/-- Behind a part of a complex literal that does not end like a name, no other one begins
before the end. -/
private theorem Formed.not_within {before behind literal rest : Text} (outer : Formed (before ++ behind))
    (some : before ≠ []) (some' : behind ≠ [])
    (stops : ∀ char ∈ before.getLast?, ¬ Text.isWord char) (formed : Formed literal) :
    ¬ literal <+: behind ++ rest := by
  rintro ⟨more, begins⟩
  obtain ⟨name, arguments, whole, _, _, words, argument⟩ := outer
  obtain ⟨name', arguments', rfl, _, _, words', _⟩ := formed
  rw [List.append_assoc, List.cons_append] at whole
  rcases split_append whole with ⟨front, rfl, inside⟩ | ⟨gap, rfl, _⟩
  · rcases split_append inside.symm with ⟨gap, _, nothing⟩ | ⟨inner, rfl, rfl⟩
    · exact some' (List.append_eq_nil_iff.mp nothing.symm).2
    · have noClosing : ')' ∉ name' ++ ['('] := by
        intro member
        rcases List.mem_append.mp member with inName | opening
        · exact absurd (words' _ inName) (by decide)
        · exact absurd opening (by decide)
      have reaches : name' ++ ['('] <+: inner ++ ')' :: rest := ⟨arguments' ++ ')' :: more, by simpa using begins⟩
      have inside := Text.prefix_of_not_mem noClosing reaches
      have opening : '(' ∈ front ++ inner := List.mem_append_right _ (inside.subset (by simp))
      exact absurd (argument '(' opening) (by decide)
  · have last := List.getLast?_eq_some_getLast some
    exact stops _ last (words _ (List.mem_append_left _ (List.getLast_mem some)))

end Segment

namespace Atom

open Segment (Formed)

private theorem Exact.stops {first last : List Atom} {literal : Text}
    (exact : Exact (first ++ .complex literal :: last)) :
    ∀ char ∈ (first.flatMap text).getLast?, ¬ Text.isWord char := by
  intro char ends word
  rcases List.eq_nil_or_concat' first with rfl | ⟨front, atom, rfl⟩
  · cases ends
  · rw [List.flatMap_append, List.flatMap_singleton] at ends
    rw [List.append_assoc, List.singleton_append] at exact
    have back := exact.right
    cases atom with
    | char value =>
      obtain rfl : value = char := by simpa [text] using ends
      obtain ⟨absent, behind⟩ := (exact_char_cons ..).mp back
      have longer := ((exact_complex_cons ..).mp behind).1.cons word
      have found := (Segment.complex?_eq_some_iff _ _).mpr ⟨longer, List.prefix_append _ (last.flatMap text)⟩
      rw [List.flatMap_cons, text] at absent
      cases absent.symm.trans found
    | complex other =>
      have closes := ((exact_complex_cons ..).mp back).1.getLast?
      rw [text, List.getLast?_append, closes] at ends
      obtain rfl : ')' = char := Option.some.inj ends
      exact absurd word (by decide)

private theorem Exact.complex_cons {atoms : List Atom} (exact : Exact atoms) {literal after : Text}
    (spelled : atoms.flatMap text = literal ++ after) (formed : Formed literal) :
    atoms = .complex literal :: ofText after := by
  rw [← exact.ofText_eq spelled, ofText_formed formed]

private theorem Exact.passes {atom : Atom} {atoms : List Atom} (exact : Exact (atom :: atoms))
    {before literal after : Text}
    (spelled : (atom :: atoms).flatMap text = before ++ (literal ++ after)) (some : before ≠ []) (formed : Formed literal)
    (stops : ∀ char ∈ before.getLast?, ¬ Text.isWord char) :
    ∃ back, before = atom.text ++ back ∧ atoms.flatMap text = back ++ (literal ++ after) := by
  rw [List.flatMap_cons] at spelled
  rcases List.append_eq_append_iff.mp spelled with passed | ⟨gap, split, behind⟩
  · exact passed
  · by_cases none : gap = []
    · subst gap
      exact ⟨[], by simpa using split.symm, behind.symm⟩
    · cases atom with
      | char value =>
        have lengths := congrArg List.length split
        have short := List.length_pos_iff.mpr some
        have long := List.length_pos_iff.mpr none
        simp [text] at lengths
        omega
      | complex other =>
        obtain ⟨outer, _⟩ := (exact_complex_cons ..).mp exact
        rw [show other = before ++ gap from split] at outer
        exact absurd ⟨after, behind⟩ (outer.not_within some none stops formed)

/-- Whatever has the form of a complex literal is one, unless a name goes on from before it. -/
theorem Exact.exists_complex {atoms : List Atom} (exact : Exact atoms) {before literal after : Text}
    (spelled : atoms.flatMap text = before ++ (literal ++ after)) (formed : Formed literal)
    (stops : ∀ char ∈ before.getLast?, ¬ Text.isWord char) :
    ∃ first last, atoms = first ++ .complex literal :: last ∧ first.flatMap text = before := by
  induction atoms generalizing before with
  | nil =>
    have nothing := (List.append_eq_nil_iff.mp spelled.symm).2
    exact absurd (List.append_eq_nil_iff.mp nothing).1 formed.ne_nil
  | cons atom atoms ih =>
    by_cases here : before = []
    · subst before
      exact ⟨[], ofText after, exact.complex_cons spelled formed, rfl⟩
    · obtain ⟨back, split, behind⟩ := exact.passes spelled here formed stops
      have stops' : ∀ char ∈ back.getLast?, ¬ Text.isWord char := by
        intro char ends
        apply stops
        rw [split, List.getLast?_append, Option.mem_def.mp ends]
        rfl
      have rest : Exact ([atom] ++ atoms) := exact
      obtain ⟨first, last, rfl, rfl⟩ := ih rest.right behind stops'
      exact ⟨atom :: first, last, rfl, split.symm⟩

/-- The complex literals among the atoms are those stretches of the text that have the form
of one and are not the end of a longer name with its arguments. -/
theorem ofText_complex_iff (before literal whole : Text) :
    (∃ first last, ofText whole = first ++ .complex literal :: last ∧ first.flatMap text = before) ↔
      ∃ after, whole = before ++ (literal ++ after) ∧ Formed literal ∧ ∀ char ∈ before.getLast?, ¬ Text.isWord char := by
  constructor
  · rintro ⟨first, last, split, rfl⟩
    have exact := exact_ofText whole
    rw [split] at exact
    refine ⟨last.flatMap text, ?_, ((exact_complex_cons ..).mp exact.right).1, exact.stops⟩
    rw [← flatMap_ofText whole, split, List.flatMap_append, List.flatMap_cons, text]
  · rintro ⟨after, rfl, formed, stops⟩
    exact (exact_ofText _).exists_complex (flatMap_ofText _) formed stops

end Atom

namespace Segment

private theorem mem_spans_iff {start : Nat} {segments : List Segment} {span : Text.Span} :
    span ∈ spans start segments ↔
      ∃ first literal last, segments.flatMap atoms = first ++ .complex literal :: last ∧
        span = ⟨start + (first.flatMap Atom.text).length, start + (first.flatMap Atom.text).length + literal.length⟩ := by
  induction segments generalizing start with
  | nil => simp [spans]
  | cons segment later ih =>
    cases segment with
    | plain text =>
      have shown : (text.map Atom.char).flatMap Atom.text = text := Atom.flatMap_map_char (fun _ => rfl) text
      rw [spans, ih, List.flatMap_cons, atoms]
      constructor
      · rintro ⟨first, literal, last, split, rfl⟩
        refine ⟨text.map .char ++ first, literal, last, by rw [split, List.append_assoc], ?_⟩
        rw [List.flatMap_append, List.length_append, shown, Nat.add_assoc]
      · rintro ⟨first, literal, last, split, rfl⟩
        rcases split_append split with ⟨rest, inside, _⟩ | ⟨front, rfl, behind⟩
        · have member : Atom.complex literal ∈ text.map .char := by simp [inside]
          simp at member
        · refine ⟨front, literal, last, behind, ?_⟩
          simp only [List.flatMap_append, List.length_append, shown, Nat.add_assoc]
    | complex text =>
      rw [spans, List.mem_cons, ih, List.flatMap_cons, atoms, List.singleton_append]
      constructor
      · rintro (rfl | ⟨first, literal, last, split, rfl⟩)
        · exact ⟨[], text, later.flatMap atoms, rfl, rfl⟩
        · refine ⟨.complex text :: first, literal, last, by rw [split, List.cons_append], ?_⟩
          rw [List.flatMap_cons, List.length_append, Atom.text, Nat.add_assoc]
      · rintro ⟨first, literal, last, split, rfl⟩
        cases first with
        | nil =>
          cases split
          exact .inl rfl
        | cons atom first =>
          obtain ⟨rfl, behind⟩ := List.cons.inj split
          refine .inr ⟨first, literal, last, behind, ?_⟩
          simp only [List.flatMap_cons, List.length_append, Atom.text, Nat.add_assoc]

theorem spans_pairwise (start : Nat) (segments : List Segment) :
    (spans start segments).Pairwise fun first second => first.stop ≤ second.start := by
  induction segments generalizing start with
  | nil => exact .nil
  | cons segment later ih =>
    cases segment with
    | plain text => exact ih _
    | complex text => exact .cons le_start_of_mem_spans (ih _)

private theorem replaceSpans_spans {shown : Atom → Text} (plain : ∀ value, shown (.char value) = [value])
    {whole front pending : Text} {segments : List Segment}
    (spelled : whole = front ++ (pending ++ segments.flatMap Segment.text)) :
    whole.replaceSpans front.length ((spans (front.length + pending.length) segments).map fun span =>
        (span, shown (.complex (whole.within span)))) =
      pending ++ (segments.flatMap atoms).flatMap shown := by
  -- Plain text is written together with the next stretch, so until then it is pending.
  induction segments generalizing front pending with
  | nil =>
    rw [List.flatMap_nil, List.append_nil] at spelled
    rw [spans, List.map_nil, Text.replaceSpans, spelled, List.drop_left]
    simp
  | cons segment later ih =>
    rw [List.flatMap_cons] at spelled
    rw [List.flatMap_cons, List.flatMap_append]
    cases segment with
    | plain text =>
      rw [Segment.text] at spelled
      have onward := @ih front (pending ++ text) (by simpa using spelled)
      rw [List.length_append, ← Nat.add_assoc, List.append_assoc] at onward
      rw [spans, onward, atoms, Atom.flatMap_map_char plain]
    | complex literal =>
      rw [Segment.text] at spelled
      have gap := Text.within_append front pending (literal ++ later.flatMap Segment.text)
      have found := Text.within_append (front ++ pending) literal (later.flatMap Segment.text)
      rw [List.append_assoc, ← spelled, List.length_append] at found
      rw [← spelled] at gap
      have onward := @ih (front ++ (pending ++ literal)) [] (by simpa using spelled)
      rw [List.length_nil, Nat.add_zero, List.length_append, List.length_append, ← Nat.add_assoc, List.nil_append] at onward
      rw [spans, List.map_cons, Text.replaceSpans, gap, found, onward, atoms, List.flatMap_singleton, List.append_assoc]

theorem complexAt_iff (text : Text) (span : Text.Span) : ComplexAt text span ↔ span ∈ spans 0 (ofText text) := by
  rw [mem_spans_iff]
  simp only [Nat.zero_add]
  constructor
  · rintro ⟨before, literal, after, whole, formed, stops, rfl⟩
    obtain ⟨first, last, split, rfl⟩ := (Atom.ofText_complex_iff before literal text).mpr ⟨after, whole, formed, stops⟩
    exact ⟨first, literal, last, split, rfl⟩
  · rintro ⟨first, literal, last, split, rfl⟩
    obtain ⟨after, whole, formed, stops⟩ := (Atom.ofText_complex_iff _ literal text).mp ⟨first, last, split, rfl⟩
    exact ⟨first.flatMap Atom.text, literal, after, whole, formed, stops, rfl⟩

private theorem within_spans {whole front : Text} {segments : List Segment}
    (spelled : whole = front ++ segments.flatMap Segment.text) :
    (spans front.length segments).map whole.within = segments.filterMap literal? := by
  induction segments generalizing front with
  | nil => rfl
  | cons segment later ih =>
    have onward := @ih (front ++ segment.text) (by simpa using spelled)
    rw [List.length_append] at onward
    cases segment with
    | plain text => exact onward
    | complex text =>
      have found : whole.within ⟨front.length, front.length + text.length⟩ = text := spelled ▸ Text.within_append ..
      rw [spans, List.map_cons, found]
      exact congrArg (text :: ·) onward

/-- The distinct literals of a text are what stands in the stretches that have the form of one, from
left to right, each at the first of its places. -/
theorem distinctLiterals_complexAt (text : Text) :
    ∃ places : List Text.Span, (∀ span, span ∈ places ↔ ComplexAt text span) ∧
      places.Pairwise (fun first second => first.stop ≤ second.start) ∧
      distinctLiterals text = (places.map text.within).eraseDups := by
  have literals := within_spans (show text = [] ++ (ofText text).flatMap Segment.text from (flatMap_ofText text).symm)
  refine ⟨spans 0 (ofText text), fun span => (complexAt_iff text span).symm, spans_pairwise 0 (ofText text), ?_⟩
  rw [distinctLiterals, ← literals]
  rfl

theorem pairwise_complexAt (text : Text) : {span | ComplexAt text span}.Pairwise Text.Span.Apart := by
  have symmetric : Std.Symm Text.Span.Apart := ⟨fun _ _ => Or.symm⟩
  have apart : (spans 0 (ofText text)).Pairwise Text.Span.Apart := (spans_pairwise 0 (ofText text)).imp Or.inl
  intro first here second here' different
  exact apart.forall ((complexAt_iff text first).mp here) ((complexAt_iff text second).mp here') different

end Segment

private theorem Masking.placeholder?_of_complexAt {text : Text} {span : Text.Span}
    (here : Segment.ComplexAt text span) :
    (ofText text).table.placeholder? (text.within span) = some ((ofText text).table.mask (.complex (text.within span))) := by
  obtain ⟨covers, _⟩ := covers_ofText text
  obtain ⟨before, literal, after, whole, formed, stops, rfl⟩ := here
  obtain ⟨first, last, split, _⟩ := (Atom.ofText_complex_iff before literal text).mpr ⟨after, whole, formed, stops⟩
  obtain ⟨number, found⟩ := covers.listed literal (by simp [split])
  have same : text.within ⟨before.length, before.length + literal.length⟩ = literal := whole ▸ Text.within_append ..
  simp [same, Placeholder.Table.placeholder?_eq covers.numbered, Placeholder.Table.mask, Atom.masked, found]

/-- The stretches that have the form of a complex literal are apart, the scan finds all of them
and no others, and masking puts the placeholder of each in its place. -/
theorem masked_where_complexAt (text : Text) :
    (∀ span, span ∈ Segment.spans 0 (Segment.ofText text) ↔ Segment.ComplexAt text span) ∧
      (Segment.spans 0 (Segment.ofText text)).Pairwise (fun first second => first.stop ≤ second.start) ∧
      {span | Segment.ComplexAt text span}.Pairwise Text.Span.Apart ∧
      ∃ placeholders,
        (Segment.spans 0 (Segment.ofText text)).map
            (fun span => (Masking.ofText text).table.placeholder? (text.within span)) = placeholders.map some ∧
          (Masking.ofText text).text = text.replaceSpans 0 ((Segment.spans 0 (Segment.ofText text)).zip placeholders) := by
  have found (span : Text.Span) := (Segment.complexAt_iff text span).symm
  refine ⟨found, Segment.spans_pairwise 0 (Segment.ofText text), Segment.pairwise_complexAt text, ?_⟩
  let shown (span : Text.Span) := (Masking.ofText text).table.mask (.complex (text.within span))
  refine ⟨(Segment.spans 0 (Segment.ofText text)).map shown, ?_, ?_⟩
  · rw [List.map_map]
    apply List.map_congr_left
    intro span member
    exact Masking.placeholder?_of_complexAt ((found span).mp member)
  · have spelled : text = [] ++ ([] ++ (Segment.ofText text).flatMap Segment.text) := (Segment.flatMap_ofText text).symm
    have plain (value : Char) : (Masking.ofText text).table.mask (.char value) = [value] := rfl
    have replaced := Segment.replaceSpans_spans plain spelled
    obtain ⟨covers, _⟩ := Masking.covers_ofText text
    rw [← List.map_prod_left_eq_zip]
    exact covers.text.trans replaced.symm

example : Segment.spans 0 (Segment.ofText "f((x))a(b(c)d(e,f)".toList) = [⟨8, 12⟩, ⟨12, 18⟩] := by decide +kernel

end TagQuery
