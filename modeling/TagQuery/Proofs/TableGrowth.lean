import Mathlib.Data.List.Nodup
import Mathlib.Data.List.Range
import TagQuery.Proofs.MaskedText

/-! How a table grows. Whatever literals are assigned, in whatever order and however often, the table
lists each of them once, numbered by its first assignment, and keeps what it has. So its two indexes
are inverse to each other, and no placeholder in them is part of another one. -/

namespace TagQuery.Placeholder

/-- The marker occurs once in a placeholder, and the number stands between it and an underscore. -/
theorem eq_of_infix_form {salt first second : Nat} (inside : form (marker salt) first <:+: form (marker salt) second) :
    first = second := by
  obtain ⟨start, rest, whole⟩ := inside
  have found : form (marker salt) second ++ [] =
      (start ++ ['_', '_']) ++ marker salt ++ '_' :: (numeral first ++ '_' :: '_' :: rest) := by
    simpa [form_eq (marker salt) first] using whole.symm
  rcases Masked.marker_in_form found with ⟨_, same⟩ | ⟨gap, _, beyond⟩
  · exact (Masked.numeral_before_underscore (List.cons.inj same).2).1
  · simp [marker_eq] at beyond

namespace Table

structure Grows (before after : Table) : Prop where
  marker : after.marker = before.marker
  known : before.known <+: after.known

theorem Grows.refl (table : Table) : table.Grows table := ⟨rfl, List.prefix_rfl⟩

theorem Grows.trans {first middle last : Table} (former : first.Grows middle) (latter : middle.Grows last) :
    first.Grows last :=
  ⟨latter.marker.trans former.marker, former.known.trans latter.known⟩

theorem Grows.placeholder? {before after : Table} (grows : before.Grows after) (numbered : before.Numbered)
    (numbered' : after.Numbered) {literal placeholder : Text} (found : before.placeholder? literal = some placeholder) :
    after.placeholder? literal = some placeholder := by
  rw [placeholder?_eq numbered, Option.map_eq_some_iff] at found
  obtain ⟨number, found, rfl⟩ := found
  rw [placeholder?_eq numbered', number?_of_known numbered numbered' grows.known found, grows.marker]
  rfl

structure Lists (table : Table) (assigned : List Text) : Prop where
  numbered : table.Numbered
  known : table.known = assigned.eraseDups

theorem lists_forText (text : Text) : (forText text).Lists [] := ⟨numbered_forText text, rfl⟩

theorem Lists.assign {table : Table} {assigned : List Text} (lists : table.Lists assigned) (literal : Text) :
    (table.assign literal).2.Lists (assigned ++ [literal]) ∧ table.Grows (table.assign literal).2 ∧
      (table.assign literal).2.placeholder? literal = some (table.assign literal).1 := by
  obtain ⟨numbered, marker, grown, number, found, given⟩ := assign_numbered lists.numbered literal
  refine ⟨⟨numbered, known_assign lists.numbered lists.known literal⟩, ⟨marker, grown⟩, ?_⟩
  rw [placeholder?_eq numbered, found, given, marker]
  rfl

/-- In a row of assignments, each literal is given what the table has for it in the end. -/
theorem Lists.assignAll {table : Table} {assigned : List Text} (lists : table.Lists assigned) (literals : List Text) :
    (table.assignAll literals).2.Lists (assigned ++ literals) ∧ table.Grows (table.assignAll literals).2 ∧
      (table.assignAll literals).1.map some = literals.map (table.assignAll literals).2.placeholder? := by
  induction literals generalizing table assigned with
  | nil => exact ⟨(List.append_nil assigned).symm ▸ lists, .refl table, rfl⟩
  | cons literal later ih =>
    obtain ⟨next, grows, given⟩ := lists.assign literal
    obtain ⟨last, grows', given'⟩ := ih next
    -- The later assignments keep the placeholder that the first one gave.
    have kept := grows'.placeholder? next.numbered last.numbered given
    rw [assignAll_cons, List.map_cons, List.map_cons, kept, given']
    refine ⟨?_, grows.trans grows', rfl⟩
    simpa using last

section Indexes

variable {table : Table} {assigned : List Text}

private theorem placeholder?_eq_some_iff (numbered : table.Numbered) (literal placeholder : Text) :
    table.placeholder? literal = some placeholder ↔
      ∃ number, table.number? literal = some number ∧ placeholder = form table.marker number := by
  rw [placeholder?_eq numbered, Option.map_eq_some_iff]
  simp only [eq_comm]

theorem placeholder?_eq_some_iff_lookup (numbered : table.Numbered) (literal placeholder : Text) :
    table.placeholder? literal = some placeholder ↔ table.literals.lookup placeholder = some literal := by
  rw [placeholder?_eq_some_iff numbered, lookup_literals_eq_some_iff numbered]

private theorem length_placeholders (numbered : table.Numbered) : table.placeholders.length = table.size := by
  rw [size, numbered.placeholders, numbered.literals, List.length_mapIdx, List.length_mapIdx]

theorem Lists.size (lists : table.Lists assigned) : table.size = assigned.eraseDups.length := by
  rw [Table.size, lists.numbered.literals, List.length_mapIdx, lists.known]

theorem keys_literals (numbered : table.Numbered) :
    table.literals.map Prod.fst = (List.range table.size).map (form table.marker) := by
  apply List.ext_getElem
  · simp [size]
  · intro number _ _
    simp [numbered.literals]

private theorem nodup_keys_literals (numbered : table.Numbered) : (table.literals.map Prod.fst).Nodup := by
  rw [keys_literals numbered]
  exact List.nodup_range.map fun _ _ => form_injective

theorem Lists.placeholder?_eq_form_iff (lists : table.Lists assigned) (literal : Text) (number : Nat) :
    table.placeholder? literal = some (form table.marker number) ↔ assigned.eraseDups[number]? = some literal := by
  rw [placeholder?_eq_some_iff lists.numbered, ← lists.known, ← number?_eq_some_iff lists.numbered]
  constructor
  · intro ⟨number', found, same⟩
    exact form_injective same ▸ found
  · intro found
    exact ⟨number, found, rfl⟩

theorem Lists.exists_placeholder?_iff (lists : table.Lists assigned) (literal : Text) :
    (∃ placeholder, table.placeholder? literal = some placeholder) ↔ literal ∈ assigned := by
  have missing : table.number? literal = none ↔ literal ∉ assigned := by
    rw [number?_eq_none_iff, lists.known, List.mem_eraseDups]
  rw [placeholder?_eq lists.numbered]
  cases found : table.number? literal with
  | none => simp [missing.mp found]
  | some number =>
    have member : literal ∈ assigned := by
      by_contra new
      cases found.symm.trans (missing.mpr new)
    simp [member]

theorem assign_of_placeholder? {literal placeholder : Text} (found : table.placeholder? literal = some placeholder) :
    table.assign literal = (placeholder, table) := by
  simp [assign, found]

end Indexes

end Table

/-- Whatever literals are assigned, the two indexes of a table are maps, inverse to each other and of
one size: they hold the literals assigned, numbered in the order in which these came first. Each
assignment gives what the indexes hold in the end, and one made again gives what the first one gave and
leaves the table as it is. No placeholder is part of another one. -/
theorem numbered_bijection (text : Text) (assigned : List Text) {given : List Text} {table : Table}
    (run : (Table.forText text).assignAll assigned = (given, table)) :
    ∃ salt, (¬ marker salt <:+: text ∧ ∀ smaller < salt, marker smaller <:+: text) ∧
      ((table.placeholders.map Prod.fst).Nodup ∧ (table.literals.map Prod.fst).Nodup) ∧
      (∀ literal placeholder,
        table.placeholder? literal = some placeholder ↔ table.literals.lookup placeholder = some literal) ∧
      (table.placeholders.length = assigned.eraseDups.length ∧ table.size = assigned.eraseDups.length) ∧
      (∀ literal, (∃ placeholder, table.literals.lookup placeholder = some literal) ↔ literal ∈ assigned) ∧
      (∀ (number : Nat) literal, assigned.eraseDups[number]? = some literal ↔
        table.placeholder? literal = some s!"__tagexpr{salt}_{number}__".toList) ∧
      given.map some = assigned.map table.placeholder? ∧
      (∀ literal ∈ assigned, ∃ placeholder,
        given[assigned.idxOf literal]? = some placeholder ∧ table.assign literal = (placeholder, table)) ∧
      ∀ first ∈ table.literals.map Prod.fst, ∀ second ∈ table.literals.map Prod.fst,
        first ≠ second → ¬ first <:+: second := by
  obtain ⟨salt, free⟩ := exists_freeSalt? text
  obtain ⟨lists, grows, handed⟩ := (Table.lists_forText text).assignAll assigned
  rw [List.nil_append] at lists
  rw [run] at lists grows handed
  have numbered := lists.numbered
  have marked : table.marker = marker salt := grows.marker.trans (marker_of_freeSalt? free)
  have inverse := Table.placeholder?_eq_some_iff_lookup numbered
  refine ⟨salt, (freeSalt?_eq_some_iff ..).mp free, ⟨numbered.distinct, Table.nodup_keys_literals numbered⟩, inverse,
    ⟨(Table.length_placeholders numbered).trans lists.size, lists.size⟩, ?_, ?_, handed, ?_, ?_⟩
  · intro literal
    simp only [← inverse, lists.exists_placeholder?_iff]
  · intro number literal
    rw [← lists.placeholder?_eq_form_iff, marked, ← form_marker, String.toList_ofList]
  · intro literal member
    obtain ⟨placeholder, found⟩ := (lists.exists_placeholder?_iff literal).mpr member
    have first : (given.map some)[assigned.idxOf literal]? = some (some placeholder) := by
      rw [handed, List.getElem?_map, List.getElem?_idxOf member, Option.map_some, found]
    exact ⟨placeholder, by simpa using first, Table.assign_of_placeholder? found⟩
  · intro first member second member' different inside
    rw [Table.keys_literals numbered, marked] at member member'
    obtain ⟨number, _, rfl⟩ := List.mem_map.mp member
    obtain ⟨number', _, rfl⟩ := List.mem_map.mp member'
    exact different (congrArg _ (eq_of_infix_form inside))

theorem numbered_bijection_beyond_ten :
    ∃ given table,
      (Table.forText "tagexpr0".toList).assignAll
          ("__tagexpr1_0__".toList :: ((List.range 11).map numeral ++ [[], "2".toList])) = (given, table) ∧
      given[3]? = some "__tagexpr1_3__".toList ∧ given[13]? = given[3]? ∧
      table.assign "2".toList = ("__tagexpr1_3__".toList, table) ∧
      "__tagexpr1_1__".toList ∈ table.literals.map Prod.fst ∧
      "__tagexpr1_11__".toList ∈ table.literals.map Prod.fst ∧
      ¬ "__tagexpr1_1__".toList <:+: "__tagexpr1_11__".toList := by
  refine ⟨_, _, Prod.mk.eta.symm, ?_⟩
  obtain ⟨_, _, _, _, _, _, _, _, again, apart⟩ := numbered_bijection "tagexpr0".toList
    ("__tagexpr1_0__".toList :: ((List.range 11).map numeral ++ [[], "2".toList])) Prod.mk.eta.symm
  obtain ⟨placeholder, first, same⟩ := again "2".toList (by decide +kernel)
  have third : some placeholder = some "__tagexpr1_3__".toList := first.symm.trans (by decide +kernel)
  obtain rfl := Option.some.inj third
  refine ⟨by decide +kernel, by decide +kernel, same, ?short, ?long, apart _ ?short _ ?long (by decide)⟩
  case short => decide +kernel
  case long => decide +kernel

end TagQuery.Placeholder
