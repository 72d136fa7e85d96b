import Mathlib

/-!
# Environments

An environment is a list of strings. In each of them a mark separates the name of a variable from its
value, and a variable is looked up by the first string that begins with its name and the mark.
-/

namespace Environ

variable {α : Type*} {mark : α} {name other value : List α}
  {assignments : List (List α × List α)}

def entry (mark : α) (assignment : List α × List α) : List α :=
  assignment.1 ++ mark :: assignment.2

theorem drop_entry : (entry mark (name, value)).drop (name.length + 1) = value := by
  rw [entry, ← List.drop_drop, List.drop_left, List.drop_one, List.tail_cons]

variable [DecidableEq α]

def get (mark : α) (name : List α) (environ : List (List α)) : Option (List α) :=
  (environ.find? (name ++ [mark]).isPrefixOf).map (List.drop (name.length + 1))

theorem takeWhile_entry (hname : mark ∉ name) :
    (entry mark (name, value)).takeWhile (· ≠ mark) = name := by
  have hall : ∀ char ∈ name, decide (char ≠ mark) = true := fun char hmem =>
    decide_eq_true fun heq => hname (heq ▸ hmem)
  rw [entry, List.takeWhile_append_of_pos hall, List.takeWhile_cons_of_neg (by simp),
    List.append_nil]

/-- Names without the mark are told apart by it. -/
theorem isPrefixOf_entry (hname : mark ∉ name) (hother : mark ∉ other) :
    (name ++ [mark]).isPrefixOf (entry mark (other, value)) = decide (name = other) := by
  rw [Bool.eq_iff_iff, decide_eq_true_eq, List.isPrefixOf_iff_prefix]
  constructor
  · rintro ⟨rest, hrest⟩
    have hsame : entry mark (name, rest) = entry mark (other, value) := by
      rw [← hrest, entry, List.append_assoc, List.singleton_append]
    rw [← takeWhile_entry hname, hsame, takeWhile_entry hother]
  · rintro rfl
    exact ⟨value, by rw [entry, List.append_assoc, List.singleton_append]⟩

/-- **What is looked up is what the variable was given.** -/
theorem get_map_entry (hname : mark ∉ name) (hnames : ∀ given ∈ assignments, mark ∉ given.1) :
    get mark name (assignments.map (entry mark)) = assignments.lookup name := by
  induction assignments with
  | nil => rfl
  | cons given rest ih =>
      obtain ⟨other, value⟩ := given
      have hother : mark ∉ other := hnames _ List.mem_cons_self
      have hrest := ih fun given hmem => hnames given (List.mem_cons_of_mem _ hmem)
      rw [List.map_cons, get, List.find?_cons, isPrefixOf_entry hname hother, List.lookup_cons]
      by_cases hsame : name = other
      · rw [decide_eq_true hsame, ← hsame, beq_self_eq_true]
        exact congrArg some drop_entry
      · rw [decide_eq_false hsame, beq_false_of_ne hsame]
        exact hrest

end Environ
