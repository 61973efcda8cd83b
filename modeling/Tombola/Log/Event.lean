import Tombola.Json.Value
/-!
# Log events

An event is a list of named values.  Some names stand for secrets; their values are masked
before anything is written.

Main statements: `get?_redact_of_sensitive`, `get?_redact`, what a masked event holds.
-/

namespace Tombola.Log

open Json

/-- A log event. -/
abbrev Event := Fields

/-- The names whose values are never written. -/
def sensitiveNames : List Text :=
  ["token", "slack_token", "vault_token", "secret"].map Text.ofString

/-- What stands in place of a secret. -/
def mask : Value := .ofString "[redacted]"

/-- The event with secrets masked. -/
def redact (e : Event) : Event :=
  e.map fun f => if sensitiveNames.contains f.1 then (f.1, mask) else f

/-- **Masking changes the values under sensitive names and no others.** -/
theorem get?_redact (k : Text) (e : Event) :
    Fields.get? k (redact e) =
      if sensitiveNames.contains k then (Fields.get? k e).map fun _ => mask
      else Fields.get? k e := by
  induction e with
  | nil => simp [redact, Fields.get?]
  | cons f e ih =>
    obtain ⟨k', v⟩ := f
    unfold redact at ih ⊢
    rw [List.map_cons]
    by_cases hs : sensitiveNames.contains k' = true
    · rw [if_pos hs]
      by_cases h : k' = k
      · subst h
        simp only [Fields.get?, if_true, if_pos hs, Option.map_some]
      · simp only [Fields.get?, if_neg h, ih]
    · rw [if_neg hs]
      by_cases h : k' = k
      · subst h
        simp only [Fields.get?, if_true, if_neg hs]
      · simp only [Fields.get?, if_neg h, ih]

/-- Under a sensitive name nothing but the mask is found. -/
theorem get?_redact_of_sensitive {k : Text} (e : Event) {v : Value}
    (hk : sensitiveNames.contains k = true) (hv : Fields.get? k (redact e) = some v) :
    v = mask := by
  rw [get?_redact, if_pos hk] at hv
  obtain ⟨_, _, rfl⟩ := Option.map_eq_some_iff.mp hv
  rfl

end Tombola.Log
