namespace AsmNotebook

/-!
Finite maps from names to values, kept in the order of their names.  There is
one representation of every map, so equal maps are equal values.

Main statements: `ascending_insertEntry`, an insertion keeps the order,
`find?_insert`, what a map holds after an insertion, and `find?_sortEntries`,
what is found in a list of entries once they are sorted.
-/

/-- Put an entry into a list in key order, in the place of an entry with the same key. -/
def insertEntry {α : Type} (key : String) (value : α) : List (String × α) → List (String × α)
  | [] => [(key, value)]
  | entry :: rest =>
    if key < entry.1 then (key, value) :: entry :: rest
    else if key = entry.1 then (key, value) :: rest
    else entry :: insertEntry key value rest

/-- Entries in key order; of entries with the same key the last one stays. -/
def sortEntries {α : Type} (entries : List (String × α)) : List (String × α) :=
  entries.foldl (fun sorted entry => insertEntry entry.1 entry.2 sorted) []

/-- Entries in strictly ascending key order. -/
def Ascending {α : Type} (entries : List (String × α)) : Prop :=
  entries.Pairwise fun a b => a.1 < b.1

theorem mem_insertEntry {α : Type} {key : String} {value : α} {entry : String × α} :
    {entries : List (String × α)} → entry ∈ insertEntry key value entries →
      entry = (key, value) ∨ entry ∈ entries
  | [], h => by
    simp only [insertEntry, List.mem_singleton] at h
    exact Or.inl h
  | first :: rest, h => by
    unfold insertEntry at h
    split at h
    · simpa only [List.mem_cons] using h
    · split at h
      · rcases List.mem_cons.1 h with h | h
        · exact Or.inl h
        · exact Or.inr (List.mem_cons_of_mem _ h)
      · rcases List.mem_cons.1 h with h | h
        · exact Or.inr (h ▸ List.mem_cons_self)
        · exact (mem_insertEntry h).imp_right (List.mem_cons_of_mem _)

theorem ascending_insertEntry {α : Type} {key : String} {value : α} :
    {entries : List (String × α)} → Ascending entries → Ascending (insertEntry key value entries)
  | [], _ => List.pairwise_singleton _ _
  | first :: rest, h => by
    have hrest : ∀ entry ∈ rest, first.1 < entry.1 := (List.pairwise_cons.1 h).1
    have htail : Ascending rest := (List.pairwise_cons.1 h).2
    unfold insertEntry
    split
    · rename_i hlt
      refine List.pairwise_cons.2 ⟨?_, h⟩
      intro entry hentry
      rcases List.mem_cons.1 hentry with rfl | hentry
      · exact hlt
      · exact String.lt_trans hlt (hrest entry hentry)
    · split
      · rename_i heq
        refine List.pairwise_cons.2 ⟨?_, htail⟩
        intro entry hentry
        exact heq ▸ hrest entry hentry
      · rename_i hlt hne
        refine List.pairwise_cons.2 ⟨?_, ascending_insertEntry htail⟩
        intro entry hentry
        rcases mem_insertEntry hentry with rfl | hentry
        · exact Decidable.byContradiction fun hge =>
            hne (String.le_antisymm (String.not_lt.1 hge) (String.not_lt.1 hlt))
        · exact hrest entry hentry

theorem ascending_foldl_insertEntry {α : Type} (entries : List (String × α)) :
    {sorted : List (String × α)} → Ascending sorted →
      Ascending (entries.foldl (fun sorted entry => insertEntry entry.1 entry.2 sorted) sorted) := by
  induction entries with
  | nil => exact fun h => h
  | cons entry rest ih => exact fun h => ih (ascending_insertEntry h)

theorem ascending_sortEntries {α : Type} (entries : List (String × α)) :
    Ascending (sortEntries entries) :=
  ascending_foldl_insertEntry entries List.Pairwise.nil

theorem find?_insertEntry {α : Type} (key name : String) (value : α) :
    (entries : List (String × α)) →
      ((insertEntry key value entries).find? fun entry => entry.1 == name).map Prod.snd =
        if key = name then some value
        else (entries.find? fun entry => entry.1 == name).map Prod.snd
  | [] => by
    by_cases h : key = name <;> simp [insertEntry, h]
  | first :: rest => by
    have ih := find?_insertEntry key name value rest
    unfold insertEntry
    by_cases h : key = name
    · subst h
      split
      · simp
      · split
        · simp
        · rename_i hne
          have hfirst : (first.1 == key) = false := beq_eq_false_iff_ne.2 fun heq => hne heq.symm
          simpa [List.find?_cons, hfirst] using ih
    · split
      · simp [List.find?_cons, h]
      · split
        · rename_i heq
          have hfirst : first.1 ≠ name := heq ▸ h
          simp [h, hfirst]
        · by_cases hfirst : first.1 = name
          · simp [hfirst]
          · simpa [List.find?_cons, hfirst, h] using ih

theorem find?_foldl_insertEntry {α : Type} (name : String) (entries sorted : List (String × α)) :
    ((entries.foldl (fun sorted entry => insertEntry entry.1 entry.2 sorted) sorted).find?
        fun entry => entry.1 == name).map Prod.snd =
      ((entries.reverse ++ sorted).find? fun entry => entry.1 == name).map Prod.snd := by
  induction entries generalizing sorted with
  | nil => rfl
  | cons entry rest ih =>
    rw [List.foldl_cons, ih, List.reverse_cons, List.append_assoc, List.singleton_append,
      List.find?_append, List.find?_append, Option.map_or, Option.map_or, find?_insertEntry]
    by_cases h : entry.1 = name <;> simp [h]

/-- Of the entries with a name, the last one is found. -/
theorem find?_sortEntries {α : Type} (name : String) (entries : List (String × α)) :
    ((sortEntries entries).find? fun entry => entry.1 == name).map Prod.snd =
      (entries.reverse.find? fun entry => entry.1 == name).map Prod.snd := by
  rw [sortEntries, find?_foldl_insertEntry, List.append_nil]

/-- A map from names to values in name order. -/
structure SortedMap (α : Type) where
  entries : List (String × α)
  ascending : Ascending entries
deriving DecidableEq

namespace SortedMap

variable {α : Type}

def empty : SortedMap α where
  entries := []
  ascending := List.Pairwise.nil

instance : Inhabited (SortedMap α) := ⟨empty⟩

/-- The map with one more entry, or another value for a name it has. -/
def insert (key : String) (value : α) (map : SortedMap α) : SortedMap α where
  entries := insertEntry key value map.entries
  ascending := ascending_insertEntry map.ascending

/-- The map of a list of entries; of entries with the same name the last one stays. -/
def ofList (entries : List (String × α)) : SortedMap α where
  entries := sortEntries entries
  ascending := ascending_sortEntries entries

/-- The value of a name. -/
def find? (key : String) (map : SortedMap α) : Option α :=
  (map.entries.find? fun entry => entry.1 == key).map Prod.snd

theorem find?_insert (key name : String) (value : α) (map : SortedMap α) :
    (map.insert key value).find? name = if key = name then some value else map.find? name :=
  find?_insertEntry key name value map.entries

def size (map : SortedMap α) : Nat :=
  map.entries.length

end SortedMap

end AsmNotebook
