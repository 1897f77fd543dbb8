import TagQuery.Proofs.PlaceholderPlaces

/-! Reading a text without its placeholders. From the left, a placeholder is taken for its literal and
other characters for themselves. Where placeholders are apart, all of them are found in this way, so
the atoms together have the text that replacing them at once makes. -/

namespace TagQuery

open Placeholder

private theorem Atom.replaceSpans_places {shown : Atom → Text} (plain : ∀ value, shown (.char value) = [value])
    {whole front pending : Text} {atoms : List Atom} (spelled : whole = front ++ (pending ++ atoms.flatMap shown)) :
    whole.replaceSpans front.length (places shown (front.length + pending.length) atoms) =
      pending ++ atoms.flatMap Atom.text := by
  -- Characters are written together with the next literal, so until then they are pending.
  induction atoms generalizing front pending with
  | nil =>
    rw [List.flatMap_nil, List.append_nil] at spelled
    rw [places, Text.replaceSpans, spelled, List.drop_left, List.flatMap_nil, List.append_nil]
  | cons atom atoms ih =>
    rw [List.flatMap_cons] at spelled
    rw [List.flatMap_cons]
    cases atom with
    | char value =>
      rw [plain] at spelled
      have onward := @ih front (pending ++ [value]) (by simpa using spelled)
      rw [List.length_append, ← Nat.add_assoc, List.append_assoc] at onward
      rw [places, plain, onward, Atom.text]
    | complex literal =>
      have gap := Text.within_append front pending (shown (.complex literal) ++ atoms.flatMap shown)
      rw [← spelled] at gap
      have onward := @ih (front ++ (pending ++ shown (.complex literal))) [] (by simpa using spelled)
      rw [List.length_nil, Nat.add_zero, List.length_append, List.length_append, ← Nat.add_assoc, List.nil_append] at onward
      rw [places, Text.replaceSpans, gap, onward, Atom.text, List.append_assoc]

namespace Placeholder.Table

variable {table : Table} {text word : Text} {atoms : List Atom}

/-- A text begins with one placeholder at most, since no placeholder begins another one. -/
private theorem Numbered.entry_unique (numbered : table.Numbered) {placeholder placeholder' literal literal' : Text}
    (member : (placeholder, literal) ∈ table.literals) (member' : (placeholder', literal') ∈ table.literals)
    (begins : placeholder <+: text) (begins' : placeholder' <+: text) : placeholder = placeholder' ∧ literal = literal' := by
  obtain ⟨number, found, rfl⟩ := (mem_literals_iff numbered ..).mp member
  obtain ⟨number', found', rfl⟩ := (mem_literals_iff numbered ..).mp member'
  obtain ⟨rest, whole⟩ := begins
  obtain ⟨rest', rfl⟩ := begins'
  have same : numeral number ++ '_' :: ('_' :: rest) = numeral number' ++ '_' :: ('_' :: rest') := by
    simpa [form_eq] using whole
  obtain ⟨rfl, _⟩ := Masked.numeral_before_underscore same
  exact ⟨rfl, (number?_eq_iff numbered found found').mp rfl⟩

theorem Numbered.ne_nil (numbered : table.Numbered) {placeholder literal : Text}
    (member : (placeholder, literal) ∈ table.literals) : placeholder ≠ [] := by
  obtain ⟨number, _, rfl⟩ := (mem_literals_iff numbered ..).mp member
  simp [form_eq]

private theorem mem_of_entryAt? {entry : Text × Text} (found : table.entryAt? text = some entry) :
    entry ∈ table.literals ∧ entry.1 <+: text := by
  unfold entryAt? at found
  have begins := List.find?_some found
  exact ⟨List.mem_of_find?_eq_some found, List.isPrefixOf_iff_prefix.mp begins⟩

private theorem entryAt?_of_mem (numbered : table.Numbered) {placeholder literal : Text}
    (member : (placeholder, literal) ∈ table.literals) (begins : placeholder <+: text) :
    table.entryAt? text = some (placeholder, literal) := by
  cases found : table.entryAt? text with
  | none => simpa [begins] using List.find?_eq_none.mp found _ member
  | some entry =>
    obtain ⟨member', begins'⟩ := mem_of_entryAt? found
    obtain ⟨rfl, rfl⟩ := numbered.entry_unique member' member begins' begins
    rfl

private theorem substitute_append (numbered : table.Numbered) {placeholder literal : Text}
    (member : (placeholder, literal) ∈ table.literals) (rest : Text) :
    table.substitute (placeholder ++ rest) = literal ++ table.substitute rest := by
  have begins := entryAt?_of_mem numbered member (List.prefix_append placeholder rest)
  have some := numbered.ne_nil member
  cases placeholder with
  | nil => exact absurd rfl some
  | cons char placeholder =>
    rw [List.cons_append] at begins
    simp [substitute, Text.pieces_cons, begins]

private theorem substitute_cons {char : Char} (absent : table.entryAt? (char :: text) = none) :
    table.substitute (char :: text) = char :: table.substitute text := by
  simp [substitute, Text.pieces_cons, absent]

/-- The text is read from the left as these atoms: a placeholder as its literal, and a character as
itself where no placeholder begins. -/
inductive Unmasks (table : Table) : Text → List Atom → Prop where
  | nil : Unmasks table [] []
  | placeholder {placeholder literal rest : Text} {atoms : List Atom} (member : (placeholder, literal) ∈ table.literals)
      (later : Unmasks table rest atoms) : Unmasks table (placeholder ++ rest) (.complex literal :: atoms)
  | char {value : Char} {rest : Text} {atoms : List Atom} (absent : table.entryAt? (value :: rest) = none)
      (later : Unmasks table rest atoms) : Unmasks table (value :: rest) (.char value :: atoms)

theorem exists_unmasks (numbered : table.Numbered) (text : Text) : ∃ atoms, table.Unmasks text atoms := by
  induction size : text.length using Nat.strongRecOn generalizing text with
  | ind size ih =>
    subst size
    cases text with
    | nil => exact ⟨[], .nil⟩
    | cons char rest =>
      cases found : table.entryAt? (char :: rest) with
      | none =>
        obtain ⟨atoms, later⟩ := ih rest.length (by simp) rest rfl
        exact ⟨_, .char found later⟩
      | some entry =>
        obtain ⟨member, behind, whole⟩ := mem_of_entryAt? found
        have some := List.length_pos_iff.mpr (numbered.ne_nil member)
        have lengths := congrArg List.length whole
        rw [List.length_append] at lengths
        obtain ⟨atoms, later⟩ := ih behind.length (by omega) behind rfl
        rw [← whole]
        exact ⟨_, .placeholder member later⟩

theorem Unmasks.substitute (unmasks : table.Unmasks text atoms) (numbered : table.Numbered) :
    table.substitute text = atoms.flatMap Atom.text := by
  induction unmasks with
  | nil => simp [Table.substitute]
  | placeholder member _ ih => rw [substitute_append numbered member, ih, List.flatMap_cons, Atom.text]
  | char absent _ ih => rw [substitute_cons absent, ih, List.flatMap_cons, Atom.text, List.singleton_append]

theorem Unmasks.mask (unmasks : table.Unmasks text atoms) (numbered : table.Numbered) :
    atoms.flatMap table.mask = text := by
  induction unmasks with
  | nil => rfl
  | placeholder member _ ih =>
    obtain ⟨number, found, rfl⟩ := (mem_literals_iff numbered ..).mp member
    rw [List.flatMap_cons, mask_complex found, ih]
  | char _ _ ih => rw [List.flatMap_cons, ih]; rfl

theorem Unmasks.listed (unmasks : table.Unmasks text atoms) (numbered : table.Numbered) :
    ∀ literal, .complex literal ∈ atoms → ∃ number, table.number? literal = some number := by
  induction unmasks with
  | nil => simp
  | placeholder member _ ih =>
    intro literal inside
    rcases List.mem_cons.mp inside with here | later
    · cases here
      obtain ⟨number, found, _⟩ := (mem_literals_iff numbered ..).mp member
      exact ⟨number, found⟩
    · exact ih literal later
  | char _ _ ih =>
    intro literal inside
    rcases List.mem_cons.mp inside with here | later
    · cases here
    · exact ih literal later

theorem Hides.unmasks (hides : table.Hides atoms) : table.Unmasks (atoms.flatMap table.mask) atoms := by
  induction atoms with
  | nil => exact .nil
  | cons atom atoms ih =>
    have later := ih (hides.part (List.suffix_cons atom atoms).isInfix)
    cases atom with
    | complex literal =>
      obtain ⟨number, found⟩ := hides.listed literal List.mem_cons_self
      rw [List.flatMap_cons, mask_complex found]
      exact .placeholder ((mem_literals_iff hides.numbered ..).mpr ⟨number, found, rfl⟩) later
    | char value =>
      refine .char (Option.eq_none_iff_forall_ne_some.mpr ?_) later
      intro ⟨placeholder, other⟩ found
      obtain ⟨member, after, whole⟩ := mem_of_entryAt? found
      have stands : table.StandsAt ((.char value :: atoms).flatMap table.mask) ⟨0, 0 + placeholder.length⟩ other :=
        ⟨placeholder, member, [], after, whole.symm, rfl⟩
      obtain ⟨first, last, split, same⟩ := Atom.mem_places_iff.mp ((hides.standsAt_iff ..).mp stands)
      cases first with
      | nil => cases split
      | cons atom first =>
        cases split
        have start := congrArg Text.Span.start same
        simp [mask, Atom.masked] at start

private theorem StandsAt.shift {span : Text.Span} {literal : Text} (stands : table.StandsAt text span literal)
    (front : Text) :
    table.StandsAt (front ++ text) ⟨front.length + span.start, front.length + span.stop⟩ literal := by
  obtain ⟨placeholder, member, before, after, rfl, rfl⟩ := stands
  exact ⟨placeholder, member, front ++ before, after, by simp, by simp [Nat.add_assoc]⟩

theorem Separated.behind {front : Text} (separated : table.Separated (front ++ text)) : table.Separated text := by
  intro first second literal literal' here here' different
  have apart := separated (here.shift front) (here'.shift front)
  simp only [ne_eq, Text.Span.mk.injEq, Nat.add_right_inj, Text.Span.Apart, Nat.add_le_add_iff_left] at apart
  apply apart
  rintro ⟨start, stop⟩
  exact different (by cases first; cases second; simp_all)

/-- Where placeholders are apart, none of them is missed. -/
theorem Unmasks.exists_complex (unmasks : table.Unmasks text atoms) (numbered : table.Numbered)
    (separated : table.Separated text) {before after placeholder literal : Text}
    (member : (placeholder, literal) ∈ table.literals) (found : text = before ++ (placeholder ++ after)) :
    ∃ first last, atoms = first ++ .complex literal :: last ∧ first.flatMap table.mask = before := by
  induction unmasks generalizing before with
  | nil =>
    have nothing := (List.append_eq_nil_iff.mp found.symm).2
    exact absurd (List.append_eq_nil_iff.mp nothing).1 (numbered.ne_nil member)
  | @placeholder placeholder' literal' rest atoms member' later ih =>
    by_cases here : before = []
    · subst before
      obtain ⟨_, rfl⟩ := numbered.entry_unique member member' ⟨after, found.symm⟩ (List.prefix_append placeholder' rest)
      exact ⟨[], atoms, rfl, rfl⟩
    · have some := List.length_pos_iff.mpr here
      have leading : table.StandsAt (placeholder' ++ rest) ⟨0, 0 + placeholder'.length⟩ literal' :=
        ⟨placeholder', member', [], rest, rfl, rfl⟩
      have further : table.StandsAt (placeholder' ++ rest) ⟨before.length, before.length + placeholder.length⟩ literal :=
        ⟨placeholder, member, before, after, found, rfl⟩
      have apart := separated leading further (by simp only [ne_eq, Text.Span.mk.injEq]; omega)
      simp only [Text.Span.Apart] at apart
      obtain ⟨gap, rfl⟩ := List.prefix_of_prefix_length_le (List.prefix_append placeholder' rest)
        (found ▸ List.prefix_append before _) (by omega)
      rw [List.append_assoc] at found
      obtain ⟨first, last, rfl, rfl⟩ := ih separated.behind (List.append_cancel_left found)
      obtain ⟨number, known, rfl⟩ := (mem_literals_iff numbered ..).mp member'
      refine ⟨.complex literal' :: first, last, rfl, ?_⟩
      rw [List.flatMap_cons, mask_complex known]
  | @char value rest atoms absent later ih =>
    cases before with
    | nil =>
      have begins : table.entryAt? (value :: rest) = some (placeholder, literal) :=
        entryAt?_of_mem numbered member ⟨after, found.symm⟩
      cases absent.symm.trans begins
    | cons char before =>
      obtain ⟨rfl, behind⟩ := List.cons.inj found
      have onward : table.Separated ([value] ++ rest) := separated
      obtain ⟨first, last, rfl, rfl⟩ := ih onward.behind behind
      exact ⟨.char value :: first, last, rfl, rfl⟩

theorem Unmasks.standsAt_iff (unmasks : table.Unmasks text atoms) (numbered : table.Numbered)
    (separated : table.Separated text) (span : Text.Span) (literal : Text) :
    (span, literal) ∈ Atom.places table.mask 0 atoms ↔ table.StandsAt text span literal := by
  constructor
  · intro member
    have stands := standsAt_of_mem_places numbered (unmasks.listed numbered) member
    rwa [unmasks.mask numbered] at stands
  · rintro ⟨placeholder, member, before, after, found, rfl⟩
    obtain ⟨first, last, rfl, rfl⟩ := unmasks.exists_complex numbered separated member found
    obtain ⟨number, known, rfl⟩ := (mem_literals_iff numbered ..).mp member
    exact Atom.mem_places_iff.mpr ⟨first, last, rfl, by simp [mask_complex known]⟩

theorem Unmasks.replaced (unmasks : table.Unmasks text atoms) (numbered : table.Numbered)
    (separated : table.Separated text) : table.Replaced text (table.substitute text) := by
  refine ⟨Atom.places table.mask 0 atoms, unmasks.standsAt_iff numbered separated, Atom.places_pairwise 0 atoms, ?_⟩
  have spelled : text = [] ++ ([] ++ atoms.flatMap table.mask) := (unmasks.mask numbered).symm
  rw [unmasks.substitute numbered]
  exact (Atom.replaceSpans_places (fun _ => rfl) spelled).symm

/-- There is one text with the literals in the stretches where their placeholders stand. -/
theorem Numbered.replaced_unique (numbered : table.Numbered) {result result' : Text} (replaced : table.Replaced text result)
    (replaced' : table.Replaced text result') : result = result' := by
  obtain ⟨found, stands, ordered, rfl⟩ := replaced
  obtain ⟨found', stands', ordered', rfl⟩ := replaced'
  have spread {span : Text.Span} {literal : Text} (here : table.StandsAt text span literal) : span.start < span.stop := by
    obtain ⟨placeholder, member, before, after, _, rfl⟩ := here
    exact Nat.lt_add_of_pos_right (List.length_pos_iff.mpr (numbered.ne_nil member))
  have nodup {found : List (Text.Span × Text)} (stands : ∀ span literal, (span, literal) ∈ found ↔ table.StandsAt text span literal)
      (ordered : found.Pairwise fun first second => first.1.stop ≤ second.1.start) : found.Nodup := by
    apply ordered.imp_of_mem
    rintro first second member _ before rfl
    have := spread ((stands ..).mp member)
    omega
  have same : found.Perm found' := by
    rw [List.perm_ext_iff_of_nodup (nodup stands ordered) (nodup stands' ordered')]
    intro (span, literal)
    rw [stands, stands']
  have order := same.eq_of_pairwise (fun first second member member' before behind => ?_) ordered ordered'
  · rw [order]
  · have := spread ((stands ..).mp member)
    have := spread ((stands' ..).mp member')
    omega

end Placeholder.Table

end TagQuery
