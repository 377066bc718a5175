import AsmNotebook.SortedMap
import Mathlib.Data.List.Sort

namespace AsmNotebook

theorem mem_of_mem_foldl_insertEntry {α : Type} {entry : String × α}
    (entries : List (String × α)) {sorted : List (String × α)}
    (member : entry ∈ entries.foldl (fun sorted entry => insertEntry entry.1 entry.2 sorted) sorted) :
    entry ∈ entries ∨ entry ∈ sorted := by
  induction entries generalizing sorted with
  | nil => exact Or.inr member
  | cons first rest inductionHypothesis =>
    rcases inductionHypothesis member with later | earlier
    · exact Or.inl (List.mem_cons_of_mem _ later)
    · rcases mem_insertEntry earlier with rfl | old
      · exact Or.inl List.mem_cons_self
      · exact Or.inr old

/-- Sorting makes no entries. -/
theorem mem_of_mem_sortEntries {α : Type} {entry : String × α} {entries : List (String × α)}
    (member : entry ∈ sortEntries entries) : entry ∈ entries :=
  (mem_of_mem_foldl_insertEntry entries member).resolve_right List.not_mem_nil

namespace SortedMap

/-!
# What is found in a map

A map is known by what is found in it.  In the map of a list of entries that
is the last entry of each name, so the order of a list matters only among
entries of one name, and not at all where names are different.
-/

variable {α β : Type} {map other : SortedMap α} {entries entries' : List (String × α)}
variable {name : String} {value : α}

theorem ascending_names (map : SortedMap α) :
    (map.entries.map Prod.fst).Pairwise (· < ·) :=
  List.pairwise_map.2 map.ascending

theorem distinct_names (map : SortedMap α) : (map.entries.map Prod.fst).Nodup := by
  apply map.ascending_names.imp
  rintro name _ ascends rfl
  exact String.lt_irrefl name ascends

/-- Under a name that no other entry has, the entry of the name is found. -/
theorem find?_eq_some_iff_of_distinct (distinct : (entries.map Prod.fst).Nodup) :
    (entries.find? fun entry => entry.1 == name).map Prod.snd = some value ↔
      (name, value) ∈ entries := by
  constructor
  · intro found
    rcases Option.map_eq_some_iff.1 found with ⟨⟨name', _⟩, first, rfl⟩
    have same : name' = name := by simpa using List.find?_some first
    exact same ▸ List.mem_of_find?_eq_some first
  · intro member
    cases first : entries.find? fun entry => entry.1 == name with
    | none =>
      have absent := List.find?_eq_none.1 first _ member
      simp at absent
    | some entry =>
      have named : entry.1 = name := by simpa using List.find?_some first
      have same := List.inj_on_of_nodup_map distinct (List.mem_of_find?_eq_some first) member named
      rw [same]
      rfl

theorem find?_eq_some_iff : map.find? name = some value ↔ (name, value) ∈ map.entries :=
  find?_eq_some_iff_of_distinct map.distinct_names

/-- Maps in which the same is found are the same. -/
theorem ext_find? (same : ∀ name, map.find? name = other.find? name) : map = other := by
  have irrefl : Std.Irrefl fun first second : String × α => first.1 < second.1 :=
    ⟨fun _ => String.lt_irrefl _⟩
  have antisymm : Std.Antisymm fun first second : String × α => first.1 < second.1 :=
    ⟨fun _ _ ahead behind => absurd (String.lt_trans ahead behind) (String.lt_irrefl _)⟩
  have entries : map.entries = other.entries := by
    apply List.Pairwise.eq_of_mem_iff map.ascending other.ascending
    rintro ⟨name, value⟩
    rw [← find?_eq_some_iff, ← find?_eq_some_iff, same]
  cases map
  cases other
  cases entries
  rfl

/-! ## Maps of lists -/

theorem find?_ofList (name : String) (entries : List (String × α)) :
    (ofList entries).find? name =
      (entries.reverse.find? fun entry => entry.1 == name).map Prod.snd :=
  find?_sortEntries name entries

/-- A name is found exactly if an entry has it. -/
theorem isSome_find?_ofList :
    ((ofList entries).find? name).isSome = true ↔ ∃ value, (name, value) ∈ entries := by
  simp [find?_ofList]

/-- Of the entries with a name, the last one is found. -/
theorem find?_ofList_eq_some_iff :
    (ofList entries).find? name = some value ↔
      ∃ before after, entries = before ++ (name, value) :: after ∧
        ∀ value', (name, value') ∉ after := by
  rw [find?_ofList]
  constructor
  · intro found
    rcases Option.map_eq_some_iff.1 found with ⟨⟨name', _⟩, first, rfl⟩
    rcases List.find?_eq_some_iff_append.1 first with ⟨named, after, before, split, others⟩
    have same : name' = name := by simpa using named
    refine ⟨before.reverse, after.reverse, ?_, fun value' later => ?_⟩
    · have whole := congrArg List.reverse split
      rw [List.reverse_reverse, same] at whole
      rw [whole]
      simp
    · have other := others _ (List.mem_reverse.1 later)
      simp at other
  · rintro ⟨before, after, rfl, others⟩
    have absent : after.reverse.find? (fun entry => entry.1 == name) = none := by
      apply List.find?_eq_none.2
      rintro ⟨name', value'⟩ later named
      have same : name' = name := by simpa using named
      exact others value' (same ▸ List.mem_reverse.1 later)
    simp [List.find?_append, absent]

theorem find?_ofList_of_distinct (distinct : (entries.map Prod.fst).Nodup) :
    (ofList entries).find? name = some value ↔ (name, value) ∈ entries := by
  rw [find?_ofList, find?_eq_some_iff_of_distinct, List.mem_reverse]
  rwa [List.map_reverse, List.nodup_reverse]

/-- Entries with different names make the same map in every order. -/
theorem ofList_perm (perm : entries.Perm entries') (distinct : (entries.map Prod.fst).Nodup) :
    ofList entries = ofList entries' := by
  have distinct' : (entries'.map Prod.fst).Nodup := (perm.map Prod.fst).nodup_iff.1 distinct
  apply ext_find?
  intro name
  apply Option.ext
  intro value
  rw [find?_ofList_of_distinct distinct, find?_ofList_of_distinct distinct', perm.mem_iff]

/-- A map is the one of its entries. -/
theorem ofList_entries (map : SortedMap α) : ofList map.entries = map := by
  apply ext_find?
  intro name
  apply Option.ext
  intro value
  rw [find?_ofList_of_distinct map.distinct_names, find?_eq_some_iff]

/-- Of the items that give an entry with a name, the last one gives what is found. -/
theorem find?_ofList_filterMap_eq_some_iff {items : List β} {pair? : β → Option (String × α)} :
    (ofList (items.filterMap pair?)).find? name = some value ↔
      ∃ before item after, items = before ++ item :: after ∧ pair? item = some (name, value) ∧
        ∀ later ∈ after, ∀ value', pair? later ≠ some (name, value') := by
  rw [find?_ofList_eq_some_iff]
  constructor
  · rintro ⟨before, after, split, others⟩
    rcases List.filterMap_eq_append_iff.1 split with ⟨first, rest, rfl, _, second⟩
    rcases List.filterMap_eq_cons_iff.1 second with ⟨silent, item, last, rfl, _, gives, rfl⟩
    refine ⟨first ++ silent, item, last, ?_, gives, fun later member value' again => ?_⟩
    · rw [List.append_assoc]
    · exact others value' (List.mem_filterMap.2 ⟨later, member, again⟩)
  · rintro ⟨before, item, after, rfl, gives, others⟩
    refine ⟨before.filterMap pair?, after.filterMap pair?, ?_, fun value' member => ?_⟩
    · rw [List.filterMap_append, List.filterMap_cons_some gives]
    · rcases List.mem_filterMap.1 member with ⟨later, there, again⟩
      exact others later there value' again

/-! ## Maps of some of the values -/

/-- The map of the values that are something under a function. -/
def filterMap (f : α → Option β) (map : SortedMap α) : SortedMap β where
  entries := map.entries.filterMap fun entry => (f entry.2).map fun value => (entry.1, value)
  ascending := by
    apply List.Pairwise.filterMap _ _ map.ascending
    rintro ⟨name, _⟩ ⟨name', _⟩ ascends _ kept _ kept'
    rcases Option.map_eq_some_iff.1 kept with ⟨_, _, rfl⟩
    rcases Option.map_eq_some_iff.1 kept' with ⟨_, _, rfl⟩
    exact ascends

theorem find?_filterMap (f : α → Option β) (map : SortedMap α) (name : String) :
    (map.filterMap f).find? name = (map.find? name).bind f := by
  apply Option.ext
  intro value
  rw [find?_eq_some_iff, Option.bind_eq_some_iff]
  constructor
  · intro member
    rcases List.mem_filterMap.1 member with ⟨⟨name', before⟩, there, kept⟩
    rcases Option.map_eq_some_iff.1 kept with ⟨_, value, same⟩
    cases same
    exact ⟨before, find?_eq_some_iff.2 there, value⟩
  · rintro ⟨before, found, kept⟩
    exact List.mem_filterMap.2 ⟨(name, before), find?_eq_some_iff.1 found, by rw [kept]; rfl⟩

end SortedMap
end AsmNotebook
