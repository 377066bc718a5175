import AsmNotebook.Text.Blank
import Mathlib.Data.List.DropRight

namespace AsmNotebook
namespace Text

/-!
# Trimmed texts

Trimming finds the part of a text that begins and ends with something else
than white space.  What stands around this part does not matter, and the part
itself is not trimmed any further.  A trimmed text may be cut at white space
inside of it: the piece behind the cut is trimmed at its end already.
-/

variable {cs front back : List Char}

/-- Nothing but white space. -/
def AllBlank (cs : List Char) : Prop :=
  ∀ c ∈ cs, isBlank c = true

/-- No white space at either end. -/
def Trimmed (cs : List Char) : Prop :=
  trimChars cs = cs

/-- Nothing is left of a text exactly if it is white space. -/
theorem isEmpty_trim_iff {text : String} : (trim text).isEmpty = true ↔ AllBlank text.toList := by
  rw [trim, String.isEmpty_iff, String.ofList_eq_empty_iff, trimChars]
  change (trimStartChars text.toList).rdropWhile isBlank = [] ↔ _
  rw [List.rdropWhile_eq_nil_iff]
  constructor
  · intro blank c member
    have whole := @List.takeWhile_append_dropWhile _ isBlank text.toList
    rw [← whole] at member
    rcases List.mem_append.1 member with front | back
    · exact List.mem_takeWhile_imp front
    · exact blank c back
  · intro blank c member
    exact blank c ((List.dropWhile_sublist isBlank).subset member)

theorem trimStartChars_append (blank : AllBlank front) (cs : List Char) :
    trimStartChars (front ++ cs) = trimStartChars cs :=
  List.dropWhile_append_of_pos blank

theorem trimEndChars_append (blank : AllBlank back) (cs : List Char) :
    trimEndChars (cs ++ back) = trimEndChars cs := by
  have blank' : ∀ c ∈ back.reverse, isBlank c = true := by
    intro c member
    exact blank c (List.mem_reverse.1 member)
  unfold trimEndChars
  rw [List.reverse_append, List.dropWhile_append_of_pos blank']

/-- White space around a text does not matter. -/
theorem trimChars_append (blank : AllBlank front) (blank' : AllBlank back) (core : List Char) :
    trimChars (front ++ core ++ back) = trimChars core := by
  unfold trimChars
  rw [List.append_assoc, trimStartChars_append blank]
  cases left : trimStartChars core with
  | nil =>
    have none : trimStartChars back = [] := List.dropWhile_eq_nil_iff.2 blank'
    have all : AllBlank core := List.dropWhile_eq_nil_iff.1 left
    rw [trimStartChars_append all, none]
  | cons c rest =>
    have kept : trimStartChars (core ++ back) = trimStartChars core ++ back := by
      unfold trimStartChars at left ⊢
      rw [List.dropWhile_append, left]
      rfl
    rw [kept, left, trimEndChars_append blank']

/-- Nothing is trimmed from a start that is not white space. -/
theorem trimStartChars_eq_self_iff :
    trimStartChars cs = cs ↔ ∀ c ∈ cs.head?, isBlank c = false := by
  cases cs with
  | nil => simp [trimStartChars]
  | cons c rest =>
    unfold trimStartChars
    rw [List.dropWhile_eq_self_iff]
    simp

theorem trimEndChars_eq_self_iff :
    trimEndChars cs = cs ↔ ∀ filled : cs ≠ [], isBlank (cs.getLast filled) = false := by
  have same : trimEndChars cs = cs ↔ ∀ filled : cs ≠ [], ¬ isBlank (cs.getLast filled) = true :=
    List.rdropWhile_eq_self_iff
  simpa using same

/-- What is left of a start is not white space. -/
theorem trimStartChars_trimStartChars (cs : List Char) :
    trimStartChars (trimStartChars cs) = trimStartChars cs :=
  List.dropWhile_idempotent ..

/-- To trim the end takes nothing from the start. -/
theorem trimStartChars_trimEndChars (start : trimStartChars cs = cs) :
    trimStartChars (trimEndChars cs) = trimEndChars cs := by
  rw [trimStartChars_eq_self_iff] at start ⊢
  have fewer : trimEndChars cs <+: cs := List.rdropWhile_prefix ..
  rcases fewer with ⟨rest, whole⟩
  intro c first
  rw [Option.mem_def] at first
  apply start c
  rw [← whole, List.head?_append, first]
  rfl

theorem trimmed_trimChars (cs : List Char) : Trimmed (trimChars cs) := by
  have start := trimStartChars_trimEndChars (trimStartChars_trimStartChars cs)
  unfold Trimmed trimChars
  rw [start]
  exact List.rdropWhile_idempotent ..

theorem Trimmed.start (trimmed : Trimmed cs) : trimStartChars cs = cs := by
  have fewer : trimStartChars cs <:+ cs := List.dropWhile_suffix _
  have length : cs.length ≤ (trimStartChars cs).length := by
    calc
      cs.length = (trimEndChars (trimStartChars cs)).length := (congrArg List.length trimmed).symm
      _ ≤ (trimStartChars cs).length := (List.rdropWhile_prefix ..).length_le
  exact fewer.eq_of_length_le length

/-- To trim the end does not take the first letter behind leading white space. -/
theorem head?_trimChars (cs : List Char) : (trimChars cs).head? = (trimStartChars cs).head? := by
  have fewer : trimChars cs <+: trimStartChars cs := List.rdropWhile_prefix ..
  rcases fewer with ⟨back, whole⟩
  cases left : trimChars cs with
  | nil =>
    -- What is trimmed away as a whole is white space, and none is left at the start.
    have all : AllBlank (trimStartChars cs).reverse :=
      List.dropWhile_eq_nil_iff.1 (List.reverse_eq_nil_iff.1 left)
    have start := trimStartChars_eq_self_iff.1 (trimStartChars_trimStartChars cs)
    cases rest : trimStartChars cs with
    | nil => rfl
    | cons c rest' =>
      rw [rest] at all start
      have blank := all c (by simp)
      rw [start c rfl] at blank
      cases blank
  | cons c rest =>
    rw [left] at whole
    rw [← whole]
    rfl

theorem Trimmed.end (trimmed : Trimmed cs) : trimEndChars cs = cs := by
  have whole : trimEndChars (trimStartChars cs) = cs := trimmed
  rwa [trimmed.start] at whole

theorem trimmed_of_ends (start : trimStartChars cs = cs) (last : trimEndChars cs = cs) :
    Trimmed cs := by
  unfold Trimmed trimChars
  rw [start, last]

/-- A text that is trimmed at its end can be cut anywhere, and what is behind the cut is trimmed at
its end. -/
theorem trimEndChars_of_suffix (trimmed : trimEndChars cs = cs) (suffix : back <:+ cs) :
    trimEndChars back = back := by
  have last := trimEndChars_eq_self_iff.1 trimmed
  apply trimEndChars_eq_self_iff.2
  intro filled
  rw [suffix.getLast filled]
  exact last _

/-- Trimmed texts are those with no white space at either end. -/
theorem trimmed_iff :
    Trimmed cs ↔ (∀ c ∈ cs.head?, isBlank c = false) ∧ ∀ c ∈ cs.getLast?, isBlank c = false := by
  have last : trimEndChars cs = cs ↔ ∀ c ∈ cs.getLast?, isBlank c = false := by
    rw [trimEndChars_eq_self_iff]
    cases cs with
    | nil => simp
    | cons c rest => simp [List.getLast?_eq_some_getLast]
  rw [← trimStartChars_eq_self_iff, ← last]
  constructor
  · exact fun trimmed => ⟨trimmed.start, trimmed.end⟩
  · exact fun ends => trimmed_of_ends ends.1 ends.2

/-- A text is its core with white space around it, and the core has none at its ends. -/
structure TrimsTo (text core : List Char) : Prop where
  start : ∀ c ∈ core.head?, isBlank c = false
  last : ∀ c ∈ core.getLast?, isBlank c = false
  whole : ∃ front back, AllBlank front ∧ AllBlank back ∧ text = front ++ core ++ back

/-- A core is its own core. -/
theorem TrimsTo.self {text core : List Char} (trims : TrimsTo text core) : TrimsTo core core :=
  ⟨trims.start, trims.last, [], [], nofun, nofun, by simp⟩

theorem trimsTo_iff {text core : List Char} : TrimsTo text core ↔ trimChars text = core := by
  constructor
  · rintro ⟨start, last, front, back, blank, blank', rfl⟩
    exact (trimChars_append blank blank' core).trans (trimmed_iff.2 ⟨start, last⟩)
  · rintro rfl
    have ends := trimmed_iff.1 (trimmed_trimChars text)
    refine ⟨ends.1, ends.2, text.takeWhile isBlank,
      (trimStartChars text).rtakeWhile isBlank, ?_, ?_, ?_⟩
    · exact fun c member => List.mem_takeWhile_imp member
    · exact fun c member => List.mem_rtakeWhile_imp member
    · have kept : trimChars text ++ (trimStartChars text).rtakeWhile isBlank =
          trimStartChars text := List.rdropWhile_append_rtakeWhile ..
      rw [List.append_assoc, kept]
      exact List.takeWhile_append_dropWhile.symm

end Text
end AsmNotebook
