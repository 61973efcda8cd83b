import Mathlib.Data.List.Basic
/-!
# First and last items with a property

Where several items of a list have a property, one of them counts: the first or the last.

Main statements: `find?_eq_some_iff_isFirst`, `find?_reverse_eq_some_iff`, how each is found;
`isLast_concat`, what one more item does to the last one.
-/

namespace Tombola

variable {α : Type} {P : α → Prop} {xs : List α} {x y : α}

/-- **The first item with a property.** -/
def IsFirst (P : α → Prop) (xs : List α) (x : α) : Prop :=
  ∃ before after, xs = before ++ x :: after ∧ P x ∧ ∀ y ∈ before, ¬ P y

/-- **The last item with a property.** -/
def IsLast (P : α → Prop) (xs : List α) (x : α) : Prop :=
  ∃ before after, xs = before ++ x :: after ∧ P x ∧ ∀ y ∈ after, ¬ P y

theorem find?_eq_some_iff_isFirst [DecidablePred P] : xs.find? (P ·) = some x ↔ IsFirst P xs x := by
  simp only [List.find?_eq_some_iff_append, decide_eq_true_eq, Bool.not_eq_true',
    decide_eq_false_iff_not]
  constructor
  · rintro ⟨hx, before, after, heq, hbefore⟩
    exact ⟨before, after, heq, hx, hbefore⟩
  · rintro ⟨before, after, heq, hx, hbefore⟩
    exact ⟨hx, before, after, heq, hbefore⟩

theorem isFirst_reverse : IsFirst P xs.reverse x ↔ IsLast P xs x := by
  constructor
  · rintro ⟨after, before, heq, hx, hafter⟩
    refine ⟨before.reverse, after.reverse, ?_, hx, fun y hy => hafter y (List.mem_reverse.mp hy)⟩
    rw [← List.reverse_reverse xs, heq, List.reverse_append, List.reverse_cons, List.append_assoc,
      List.singleton_append]
  · rintro ⟨before, after, rfl, hx, hafter⟩
    refine ⟨after.reverse, before.reverse, ?_, hx, fun y hy => hafter y (List.mem_reverse.mp hy)⟩
    rw [List.reverse_append, List.reverse_cons, List.append_assoc, List.singleton_append]

theorem find?_reverse_eq_some_iff [DecidablePred P] :
    xs.reverse.find? (P ·) = some x ↔ IsLast P xs x := by
  rw [find?_eq_some_iff_isFirst, isFirst_reverse]

theorem IsLast.mem (h : IsLast P xs x) : x ∈ xs := by
  obtain ⟨before, after, rfl, -, -⟩ := h
  exact List.mem_append_right before List.mem_cons_self

theorem not_isLast_nil : ¬ IsLast P [] x := fun h => List.not_mem_nil h.mem

/-- **One more item** is the last one if it has the property, and changes nothing if not. -/
theorem isLast_concat : IsLast P (xs ++ [y]) x ↔ P y ∧ x = y ∨ ¬ P y ∧ IsLast P xs x := by
  constructor
  · rintro ⟨before, after, heq, hx, hafter⟩
    rcases List.eq_nil_or_concat' after with rfl | ⟨after, z, rfl⟩
    · obtain ⟨-, rfl⟩ := List.append_singleton_inj.mp heq
      exact .inl ⟨hx, rfl⟩
    · rw [← List.cons_append, ← List.append_assoc] at heq
      obtain ⟨rfl, rfl⟩ := List.append_singleton_inj.mp heq
      refine .inr ⟨hafter y (by simp), before, after, rfl, hx, ?_⟩
      exact fun z hz => hafter z (List.mem_append_left [y] hz)
  · rintro (⟨hy, rfl⟩ | ⟨hy, before, after, rfl, hx, hafter⟩)
    · exact ⟨xs, [], rfl, hy, by simp⟩
    · refine ⟨before, after ++ [y], by simp, hx, ?_⟩
      intro z hz
      rcases List.mem_append.mp hz with hz | hz
      · exact hafter z hz
      · exact List.mem_singleton.mp hz ▸ hy

end Tombola
