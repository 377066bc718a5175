import AsmNotebook.Json.Basic

namespace AsmNotebook
namespace Json

/-!
# Members of canonical trees

The canonical tree of a document has the members of every object in another
order, and of members with the same name only the last one, which is what is
found under the name.  Where names are different, nothing is lost: every member
is found under its name, in canonical form, and texts are their own canonical
form.
-/

variable {name : String} {document : Json} {members : List (String × Json)}

theorem canonicalItems_eq_map (items : List Json) :
    canonicalItems items = items.map canonical := by
  induction items with
  | nil => rfl
  | cons item items inductionHypothesis =>
    rw [canonicalItems, inductionHypothesis, List.map_cons]

theorem canonicalMembers_eq_map (members : List (String × Json)) :
    canonicalMembers members = members.map fun member => (member.1, member.2.canonical) := by
  induction members with
  | nil => rfl
  | cons member members inductionHypothesis =>
    rw [canonicalMembers, inductionHypothesis, List.map_cons]

theorem member?_canonicalMembers (name : String) (members : List (String × Json)) :
    member? name (canonicalMembers members) = (member? name members).map canonical := by
  induction members with
  | nil => rfl
  | cons member members inductionHypothesis =>
    rcases member with ⟨other, value⟩
    unfold member? at inductionHypothesis ⊢
    by_cases same : other = name
    · simp [canonicalMembers, same]
    · simpa [canonicalMembers, same] using inductionHypothesis

/-- Where names are different, it does not matter from which end a member is looked for. -/
theorem member?_reverse (distinct : (members.map Prod.fst).Nodup) :
    member? name members.reverse = member? name members := by
  induction members with
  | nil => rfl
  | cons member members inductionHypothesis =>
    rcases List.nodup_cons.1 distinct with ⟨new, distinct⟩
    have others := inductionHypothesis distinct
    unfold member? at others ⊢
    rw [List.reverse_cons, List.find?_append, Option.map_or, others]
    by_cases same : member.1 = name
    · have absent : members.find? (fun m => m.1 == name) = none := by
        apply List.find?_eq_none.2
        intro other later named
        apply new
        rw [same, ← beq_iff_eq.1 named]
        exact List.mem_map_of_mem later
      simp [same, absent]
    · simp [same]

theorem canonicalMembers_reverse (members : List (String × Json)) :
    canonicalMembers members.reverse = (canonicalMembers members).reverse := by
  rw [canonicalMembers_eq_map, canonicalMembers_eq_map, List.map_reverse]

/-- Of the members of a name, the last one is found in the canonical tree, in canonical form. -/
theorem get?_canonical_last (name : String) (members : List (String × Json)) :
    (Json.object members).canonical.get? name =
      (member? name members.reverse).map canonical := by
  have sorted := find?_sortEntries name (canonicalMembers members)
  calc
    (Json.object members).canonical.get? name =
        member? name (canonicalMembers members).reverse := sorted
    _ = member? name (canonicalMembers members.reverse) := by rw [canonicalMembers_reverse]
    _ = (member? name members.reverse).map canonical := member?_canonicalMembers name _

/-- A member of an object with different names is found in the canonical tree, in canonical form. -/
theorem get?_canonical (distinct : (members.map Prod.fst).Nodup) (name : String) :
    (Json.object members).canonical.get? name = (member? name members).map canonical := by
  rw [get?_canonical_last, member?_reverse distinct]

theorem text?_canonical (document : Json) : document.canonical.text? = document.text? := by
  cases document <;> rfl

/-- Texts in an object with different names are found in the canonical tree. -/
theorem textAt?_canonical (distinct : (members.map Prod.fst).Nodup) (name : String) :
    (Json.object members).canonical.textAt? name = (Json.object members).textAt? name := by
  have same : text? ∘ canonical = text? := by
    funext document
    exact text?_canonical document
  rw [textAt?, get?_canonical distinct, textAt?, get?, Option.bind_map, same]

end Json
end AsmNotebook
