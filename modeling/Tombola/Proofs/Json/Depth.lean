import Tombola.Json.Reader
/-!
# How deep a text may be nested

A reader may be told how deep arrays and objects may be nested in one another.  The limit only
matters where it is met: a reader that does not stop for the depth comes to the same with any
greater limit.  So a text is a JSON text or not, and stands for one value, whatever the limit; and
a reader with a limit decides it for all texts that do not stop it.

Main statements:

* `steady`: a reader with more room comes to the same, if it was not stopped;
* `IsJson.unique`: a text stands for one value;
* `readWithin_eq_ok_iff`: what a reader with a limit accepts.
-/

namespace Tombola.Json

/-! ## 1. More room -/

/-- Whether a reader stopped for the depth. -/
def Stopped {α : Type} (r : Except Fault α) : Prop := ∃ nest, r = .error (.depth nest)

/-- Whether readers with some fuel come to the same with more room, if they are not stopped. -/
structure Steady (fuel room room' : Nat) : Prop where
  value : ∀ t, ¬ Stopped (value fuel room t) → value fuel room' t = value fuel room t
  elements : ∀ acc t, ¬ Stopped (elements fuel room acc t) →
    elements fuel room' acc t = elements fuel room acc t
  members : ∀ acc t, ¬ Stopped (members fuel room acc t) →
    members fuel room' acc t = members fuel room acc t

variable {fuel room room' : Nat}

theorem value_steady (ih : ∀ room room', room ≤ room' → Steady fuel room room')
    (hle : room ≤ room') (t : Text) (h : ¬ Stopped (value (fuel + 1) room t)) :
    value (fuel + 1) room' t = value (fuel + 1) room t := by
  unfold value at h ⊢
  split
  · rfl
  · cases room with
    | zero => exact absurd ⟨.object, rfl⟩ h
    | succ room =>
      obtain ⟨room', rfl⟩ : ∃ k, room' = k + 1 := ⟨room' - 1, by omega⟩
      simp only at h ⊢
      split
      · rfl
      · exact (ih room room' (by omega)).members [] _ (by simpa only using h)
  · cases room with
    | zero => exact absurd ⟨.array, rfl⟩ h
    | succ room =>
      obtain ⟨room', rfl⟩ : ∃ k, room' = k + 1 := ⟨room' - 1, by omega⟩
      simp only at h ⊢
      split
      · rfl
      · exact (ih room room' (by omega)).elements [] _ (by simpa only using h)
  all_goals rfl

/-- Items are read one after the other with the same room. -/
theorem elements_steady (h : Steady fuel room room') (acc : List Value) (t : Text)
    (hs : ¬ Stopped (elements (fuel + 1) room acc t)) :
    elements (fuel + 1) room' acc t = elements (fuel + 1) room acc t := by
  have hvalue : ¬ Stopped (value fuel room t) := by
    rintro ⟨nest, hv⟩
    exact hs ⟨nest, by simp only [elements, hv]⟩
  simp only [elements, h.value t hvalue] at hs ⊢
  cases hv : value fuel room t with
  | error e => rfl
  | ok p =>
    obtain ⟨v, rest⟩ := p
    simp only [hv] at hs ⊢
    split
    · rfl
    · rename_i hcomma
      exact h.elements _ _ (by simpa only [hcomma] using hs)
    · rfl

theorem members_steady (h : Steady fuel room room') (acc : Fields) (t : Text)
    (hs : ¬ Stopped (members (fuel + 1) room acc t)) :
    members (fuel + 1) room' acc t = members (fuel + 1) room acc t := by
  unfold members at hs ⊢
  split
  · simp only at hs
    split
    · rfl
    · rename_i k rest hk
      simp only [hk] at hs
      split
      · rename_i r hcolon
        simp only [hcolon] at hs
        have hvalue : ¬ Stopped (value fuel room (skip r)) := by
          rintro ⟨nest, hv⟩
          exact hs ⟨nest, by simp only [hv]⟩
        simp only [h.value _ hvalue]
        cases hv : value fuel room (skip r) with
        | error e => rfl
        | ok p =>
          obtain ⟨v, after⟩ := p
          simp only [hv] at hs ⊢
          split
          · rfl
          · rename_i hcomma
            exact h.members _ _ (by simpa only [hcomma] using hs)
          · rfl
      · rfl
  · rfl

/-- **A reader with more room comes to the same,** if it was not stopped.  The induction is on the
fuel and goes through values, items and fields together, since each of the three calls the others.
-/
theorem steady (fuel : Nat) : ∀ room room', room ≤ room' → Steady fuel room room' := by
  induction fuel with
  | zero =>
    intro room room' _
    exact ⟨fun t _ => rfl, fun acc t _ => rfl, fun acc t _ => rfl⟩
  | succ fuel ih =>
    intro room room' hle
    have h := ih room room' hle
    exact ⟨value_steady ih hle, elements_steady h, members_steady h⟩

/-! ## 2. Texts -/

variable {depth depth' : Nat} {t : Text} {v v' : Value}

theorem readWithin_steady (hle : depth ≤ depth') (h : ¬ Stopped (readWithin depth t)) :
    readWithin depth' t = readWithin depth t := by
  unfold readWithin at h ⊢
  split
  · rfl
  · simp only at h
    have hvalue : ¬ Stopped (value (2 * t.length + 2) depth (skip t)) := by
      rintro ⟨nest, hv⟩
      exact h ⟨nest, by simp only [hv]⟩
    rw [(steady _ depth depth' hle).value _ hvalue]

/-- Whether a text is a JSON text that stands for a value, however deep it is nested. -/
def IsJson (t : Text) (v : Value) : Prop := ∃ depth, readWithin depth t = .ok v

/-- **What a reader with a limit accepts,** if it was not stopped: the JSON texts.  So the limit
decides only about texts that are nested too deep, and never about what a text stands for. -/
theorem readWithin_eq_ok_iff (h : ¬ Stopped (readWithin depth t)) :
    readWithin depth t = .ok v ↔ IsJson t v := by
  constructor
  · intro hv
    exact ⟨depth, hv⟩
  · rintro ⟨depth', hv⟩
    have hv' : ¬ Stopped (readWithin depth' t) := by
      rintro ⟨nest, hnest⟩
      rw [hv] at hnest
      cases hnest
    rcases Nat.le_total depth depth' with hle | hle
    · rw [← readWithin_steady hle h, hv]
    · rw [readWithin_steady hle hv', hv]

theorem IsJson.unique (h : IsJson t v) (h' : IsJson t v') : v = v' := by
  obtain ⟨depth, hv⟩ := h
  have hstopped : ¬ Stopped (readWithin depth t) := by
    rintro ⟨nest, hnest⟩
    rw [hv] at hnest
    cases hnest
  rw [(readWithin_eq_ok_iff hstopped).mpr h'] at hv
  exact (Except.ok.inj hv).symm

end Tombola.Json
