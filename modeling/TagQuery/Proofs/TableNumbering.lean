import TagQuery.Proofs.FreshMarker

/-! The numbers of a table. A literal keeps the number under which it was met first, and the
two indexes of the table agree on the placeholder that has this number. -/

namespace TagQuery

namespace Placeholder

theorem form_eq (marker : Text) (number : Nat) :
    form marker number = '_' :: '_' :: (marker ++ '_' :: (numeral number ++ ['_', '_'])) := by
  change ['_', '_'] ++ marker ++ '_' :: numeral number ++ ['_', '_'] = _
  simp

theorem form_marker (salt number : Nat) :
    String.ofList (form (marker salt) number) = s!"__tagexpr{salt}_{number}__" := by
  apply String.toList_inj.mp
  simp [form_eq, marker_eq, numeral]
  rfl

theorem form_injective {marker : Text} {first second : Nat} (same : form marker first = form marker second) :
    first = second := by
  simp only [form_eq, List.cons.injEq, true_and, List.append_cancel_left_eq, List.append_cancel_right_eq] at same
  exact numeral_injective same

namespace Table

def known (table : Table) : List Text := table.placeholders.map Prod.fst

def number? (table : Table) (literal : Text) : Option Nat := table.known.idxOf? literal

/-- Each literal is known once, and both indexes pair it with the placeholder of its number. -/
structure Numbered (table : Table) : Prop where
  distinct : table.known.Nodup
  placeholders : table.placeholders = table.known.mapIdx fun number literal => (literal, form table.marker number)
  literals : table.literals = table.known.mapIdx fun number literal => (form table.marker number, literal)

theorem numbered_forText (text : Text) : (forText text).Numbered := ⟨by simp [known, forText], rfl, rfl⟩

theorem number?_eq_some_iff {table : Table} (numbered : table.Numbered) (literal : Text) (number : Nat) :
    table.number? literal = some number ↔ table.known[number]? = some literal := by
  rw [number?, List.idxOf?_eq_some_iff, List.getElem?_eq_some_iff]
  constructor
  · intro ⟨inside, here, _⟩
    exact ⟨inside, here⟩
  · intro ⟨inside, here⟩
    refine ⟨inside, here, ?_⟩
    intro earlier before same
    have := (numbered.distinct.getElem_inj_iff).mp (same.trans here.symm)
    omega

theorem number?_eq_iff {table : Table} (numbered : table.Numbered) {first second : Text} {number number' : Nat}
    (found : table.number? first = some number) (found' : table.number? second = some number') :
    number = number' ↔ first = second := by
  constructor
  · intro same
    rw [number?_eq_some_iff numbered] at found found'
    exact Option.some.inj (found.symm.trans (same ▸ found'))
  · intro same
    exact Option.some.inj (found.symm.trans (same ▸ found'))

theorem mem_literals_iff {table : Table} (numbered : table.Numbered) (placeholder literal : Text) :
    (placeholder, literal) ∈ table.literals ↔
      ∃ number, table.number? literal = some number ∧ placeholder = form table.marker number := by
  rw [numbered.literals, List.mem_mapIdx]
  simp only [number?_eq_some_iff numbered, List.getElem?_eq_some_iff, Prod.mk.injEq]
  constructor
  · intro ⟨number, inside, given, same⟩
    exact ⟨number, ⟨inside, same⟩, given.symm⟩
  · intro ⟨number, ⟨inside, same⟩, given⟩
    exact ⟨number, inside, given.symm, same⟩

private theorem mem_of_lookup {entries : List (Text × Text)} {key value : Text}
    (found : entries.lookup key = some value) : (key, value) ∈ entries := by
  obtain ⟨before, after, rfl, _⟩ := List.lookup_eq_some_iff.mp found
  simp

private theorem lookup_of_mem {entries : List (Text × Text)} {key value : Text} (member : (key, value) ∈ entries)
    (single : ∀ other, (key, other) ∈ entries → other = value) : entries.lookup key = some value := by
  cases found : entries.lookup key with
  | some other => rw [single other (mem_of_lookup found)]
  | none => simpa using List.lookup_eq_none_iff.mp found _ member

theorem lookup_literals_eq_some_iff {table : Table} (numbered : table.Numbered) (placeholder literal : Text) :
    table.literals.lookup placeholder = some literal ↔
      ∃ number, table.number? literal = some number ∧ placeholder = form table.marker number := by
  rw [← mem_literals_iff numbered]
  refine ⟨mem_of_lookup, fun member => lookup_of_mem member ?_⟩
  intro other present
  obtain ⟨number, found, rfl⟩ := (mem_literals_iff numbered ..).mp member
  obtain ⟨number', found', same⟩ := (mem_literals_iff numbered ..).mp present
  exact (number?_eq_iff numbered found' found).mp (form_injective same).symm

private theorem mem_placeholders_iff {table : Table} (numbered : table.Numbered) (placeholder literal : Text) :
    (literal, placeholder) ∈ table.placeholders ↔ (placeholder, literal) ∈ table.literals := by
  rw [numbered.placeholders, numbered.literals]
  simp only [List.mem_mapIdx, Prod.mk.injEq, and_comm]

theorem placeholder?_eq {table : Table} (numbered : table.Numbered) (literal : Text) :
    table.placeholder? literal = (table.number? literal).map (form table.marker) := by
  cases found : table.number? literal with
  | some number =>
    have member := (mem_literals_iff numbered ..).mpr ⟨number, found, rfl⟩
    apply lookup_of_mem ((mem_placeholders_iff numbered ..).mpr member)
    intro other present
    obtain ⟨number', found', rfl⟩ := (mem_literals_iff numbered ..).mp ((mem_placeholders_iff numbered ..).mp present)
    rw [Option.some.inj (found'.symm.trans found)]
  | none =>
    apply List.lookup_eq_none_iff.mpr
    intro ⟨key, value⟩ member
    obtain ⟨number, found', _⟩ := (mem_literals_iff numbered ..).mp ((mem_placeholders_iff numbered ..).mp member)
    rw [bne_iff_ne]
    intro same
    subst literal
    cases found.symm.trans found'

theorem known_add (table : Table) (literal : Text) : (table.add literal).known = table.known ++ [literal] := by
  simp [known, add]

theorem Numbered.add {table : Table} (numbered : table.Numbered) {literal : Text} (new : literal ∉ table.known) :
    (table.add literal).Numbered := by
  have length : table.placeholders.length = table.known.length := by simp [Table.known]
  refine ⟨?_, ?_, ?_⟩
  · rw [known_add, List.nodup_append]
    refine ⟨numbered.distinct, by simp, ?_⟩
    intro other member _ single same
    exact new (List.mem_singleton.mp single ▸ same ▸ member)
  · rw [known_add, List.mapIdx_concat]
    simp [Table.add, Table.next, ← numbered.placeholders, length]
  · rw [known_add, List.mapIdx_concat]
    simp [Table.add, Table.next, ← numbered.literals, length]

theorem number?_eq_none_iff (table : Table) (literal : Text) : table.number? literal = none ↔ literal ∉ table.known :=
  List.idxOf?_eq_none_iff

theorem number?_of_known {before after : Table} (numbered : before.Numbered) (numbered' : after.Numbered)
    (grown : before.known <+: after.known) {literal : Text} {number : Nat} (found : before.number? literal = some number) :
    after.number? literal = some number := by
  rw [number?_eq_some_iff numbered, List.getElem?_eq_some_iff] at found
  obtain ⟨inside, rfl⟩ := found
  rw [number?_eq_some_iff numbered', List.getElem?_eq_some_iff]
  exact ⟨Nat.lt_of_lt_of_le inside grown.length_le, grown.getElem inside |>.symm⟩

theorem assign_of_number {table : Table} (numbered : table.Numbered) {literal : Text} {number : Nat}
    (found : table.number? literal = some number) : table.assign literal = (form table.marker number, table) := by
  simp [assign, placeholder?_eq numbered, found]

theorem assign_of_unknown {table : Table} (numbered : table.Numbered) {literal : Text} (new : literal ∉ table.known) :
    table.assign literal = (table.next, table.add literal) := by
  simp [assign, placeholder?_eq numbered, (number?_eq_none_iff ..).mpr new]

private theorem eraseDups_concat (items : List Text) (item : Text) :
    (items ++ [item]).eraseDups = if item ∈ items then items.eraseDups else items.eraseDups ++ [item] := by
  rw [List.eraseDups_append]
  split
  next old => simp [List.removeAll, old]
  next new => simp [List.removeAll, new, List.eraseDups_cons]

/-- The literals of a table are those that were assigned, each at its first assignment. -/
theorem known_assign {table : Table} (numbered : table.Numbered) {assigned : List Text}
    (met : table.known = assigned.eraseDups) (literal : Text) :
    (table.assign literal).2.known = (assigned ++ [literal]).eraseDups := by
  have member : literal ∈ table.known ↔ literal ∈ assigned := by rw [met, List.mem_eraseDups]
  rw [eraseDups_concat]
  cases found : table.number? literal with
  | some number =>
    have old : literal ∈ table.known := by
      by_contra new
      cases ((number?_eq_none_iff ..).mpr new).symm.trans found
    rw [assign_of_number numbered found, if_pos (member.mp old), met]
  | none =>
    have new := (number?_eq_none_iff ..).mp found
    rw [assign_of_unknown numbered new, if_neg (mt member.mpr new), known_add, met]

/-- What an assignment leaves: the literal has the number whose placeholder it was given. -/
theorem assign_numbered {table : Table} (numbered : table.Numbered) (literal : Text) :
    (table.assign literal).2.Numbered ∧ (table.assign literal).2.marker = table.marker ∧
      table.known <+: (table.assign literal).2.known ∧
      ∃ number, (table.assign literal).2.number? literal = some number ∧
        (table.assign literal).1 = form table.marker number := by
  cases found : table.number? literal with
  | some number =>
    rw [assign_of_number numbered found]
    exact ⟨numbered, rfl, List.prefix_rfl, number, found, rfl⟩
  | none =>
    have new := (number?_eq_none_iff ..).mp found
    have added := numbered.add new
    rw [assign_of_unknown numbered new]
    refine ⟨added, rfl, known_add .. ▸ List.prefix_append .., table.known.length, ?_, ?_⟩
    · rw [number?_eq_some_iff added, known_add, List.getElem?_concat_length]
    · simp [next, known]

end Table

end Placeholder

end TagQuery
