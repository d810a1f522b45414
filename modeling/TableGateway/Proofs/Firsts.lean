import Mathlib

/-!
# The first of a list

The first element of a list for which something holds. There is at most one (`IsFirst.unique`).
-/
namespace TableGateway

/-- The first of a list for which something holds. -/
def IsFirst {α : Type} (holds : α → Prop) (xs : List α) (x : α) : Prop :=
  holds x ∧ ∃ before after, xs = before ++ x :: after ∧ ∀ earlier ∈ before, ¬ holds earlier

variable {α : Type} {p q : α → Prop} {xs : List α} {x y : α}

theorem IsFirst.mem (first : IsFirst p xs x) : x ∈ xs := by
  obtain ⟨-, before, after, rfl, -⟩ := first
  simp

theorem IsFirst.congr (first : IsFirst p xs x) (same : ∀ y ∈ xs, p y ↔ q y) : IsFirst q xs x := by
  obtain ⟨holds, before, after, rfl, none_earlier⟩ := first
  refine ⟨(same x (by simp)).mp holds, before, after, rfl, fun earlier member => ?_⟩
  rw [← same earlier (List.mem_append_left _ member)]
  exact none_earlier earlier member

theorem IsFirst.unique (first : IsFirst p xs x) (first' : IsFirst p xs y) : x = y := by
  classical
  have found {z : α} (first : IsFirst p xs z) : xs.find? (fun z => decide (p z)) = some z :=
    List.find?_eq_some_iff_append.mpr (by simpa [IsFirst] using first)
  exact Option.some.inj ((found first).symm.trans (found first'))

end TableGateway
