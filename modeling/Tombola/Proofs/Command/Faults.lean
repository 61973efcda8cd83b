import Tombola.Proofs.Command.Calls
/-!
# Faults of the store stay where they are

A call on the store may fail at any time and with anything.  A command makes its calls under
guard: whatever fails becomes an error of this program, which says what the command was doing
and what went wrong, unless it is such an error already.  The calls before it have only read,
so nothing has changed.  And a call that is given up ends the command without any result.

Against a store that can do anything, a command comes to nothing but a reply, a refusal of its
words, the error of a call that failed, or no result at all; the numbers in a refusal are not
too long to be written out.

Main statements:

* `Guarded.runWith`: a guarded dialogue against a store some of whose calls fail;
* `run_eq_none_iff`, `Guarded.run_error`: how a dialogue ends against any store;
* `faults_contained`: what this means for commands.
-/

namespace Tombola.Groups

/-! ## 1. Calls that only read -/

section Reading

variable {p : String} {c : Call} {s : Backend.Contents} {r : c.Reply}

theorem Backend.onTable_of_reading {place : Location} (hc : c.isReading = true)
    (h : (Backend.onTable place p c s).1 = .replied (.ok r)) :
    (Backend.onTable place p c s).2 = s := by
  cases place with
  | shared =>
    cases c with
    | list => rfl
    | get g => rfl
    | put g options => cases hc
    | delete g => cases hc
  | fresh => rfl
  | closed f left => cases h

/-- **A call that only reads changes nothing** when it is answered. -/
theorem Backend.store_of_reading {b : Backend} {late : Bool} (hc : c.isReading = true)
    (h : (b.store late p c s).1 = .replied (.ok r)) : (b.store late p c s).2 = s := by
  cases b with
  | memory =>
    cases c with
    | list => rfl
    | get g => rfl
    | put g options => cases hc
    | delete g => cases hc
  | table path =>
    cases late with
    | true => cases h
    | false => exact Backend.onTable_of_reading hc h

end Reading

namespace Dialogue

variable {α σ : Type} {may : Action → Call → Prop} {own : DrawError → Prop} {d : Drawing α}
  {store : Store σ}

/-! ## 2. Some calls fail -/

theorem Guarded.run_around (hd : d.Guarded may own)
    (hread : ∀ c s r, c.isReading = true → (store c s).1 = .replied (.ok r) → (store c s).2 = s)
    (faults : Faults) (n : Nat) (s : σ) :
    (∃ m, d.run (faults.around store) (n, s) = ((d.run store s).1, (m, (d.run store s).2))) ∨
      ∃ k a c f m, faults k c = some f ∧ may a c ∧
        d.run (faults.around store) (n, s) = (some (.error (a.error f)), (m, s)) := by
  induction d generalizing n with
  | done r => exact .inl ⟨n, rfl⟩
  | ask c k ih =>
    obtain ⟨a, ha, hfail, hk, hlast⟩ := hd
    cases hf : faults n c with
    | some f =>
      refine .inr ⟨n, a, c, f, n + 1, hf, ha, ?_⟩
      simp only [run, Faults.around_of_some hf, hfail]
    | none =>
      simp only [run, Faults.around_of_none hf]
      rcases hs : store c s with ⟨(f | r) | _, s'⟩
      · exact .inl ⟨n + 1, by simp only [hfail, run]⟩
      · rcases hlast with hreading | hdone
        · obtain rfl : s' = s := by
            have := hread c s r hreading (by rw [hs])
            rwa [hs] at this
          exact ih (.ok r) (hk r) (n + 1)
        · obtain ⟨x, hx⟩ := hdone r
          exact .inl ⟨n + 1, by simp only [hx, run]⟩
      · exact .inl ⟨n + 1, rfl⟩

/-- **A guarded dialogue against a store some of whose calls fail.**  It comes to what it would
come to without the failures, or ends with the error of a call that failed and leaves all as it
was. -/
theorem Guarded.runWith (hd : d.Guarded may own)
    (hread : ∀ c s r, c.isReading = true → (store c s).1 = .replied (.ok r) → (store c s).2 = s)
    (faults : Faults) (s : σ) :
    d.runWith faults store s = d.run store s ∨
      ∃ n a c f, faults n c = some f ∧ may a c ∧
        d.runWith faults store s = (some (.error (a.error f)), s) := by
  unfold Dialogue.runWith
  rcases hd.run_around hread faults 0 s with ⟨m, hm⟩ | ⟨n, a, c, f, m, hf, ha, hm⟩
  · exact .inl (by rw [hm])
  · exact .inr ⟨n, a, c, f, hf, ha, by rw [hm]⟩

/-! ## 3. How a dialogue ends -/

/-- The calls that a dialogue makes, each with its answer.  A call that is given up is the last
one. -/
def exchanges (store : Store σ) : Dialogue α → σ → List ((c : Call) × Answer c)
  | .done _, _ => []
  | .ask c k, s =>
    match store c s with
    | (.replied r, s') => ⟨c, .replied r⟩ :: (k r).exchanges store s'
    | (.abandoned, _) => [⟨c, .abandoned⟩]

/-- **There is no result exactly when a call was given up.** -/
theorem run_eq_none_iff (d : Dialogue α) (store : Store σ) (s : σ) :
    (d.run store s).1 = none ↔ ∃ c, ⟨c, .abandoned⟩ ∈ d.exchanges store s := by
  induction d generalizing s with
  | done a => simp [run, exchanges]
  | ask c k ih =>
    unfold run exchanges
    rcases store c s with ⟨r | _, s'⟩
    · simp only [ih, List.mem_cons]
      constructor
      · rintro ⟨c', hc'⟩
        exact ⟨c', .inr hc'⟩
      · rintro ⟨c', hc' | hc'⟩
        · cases hc'
        · exact ⟨c', hc'⟩
    · simp only [true_iff]
      exact ⟨c, List.mem_singleton.mpr rfl⟩

/-- **An error is one of the dialogue's own, or that of a call that failed.**  The second kind is
found among the exchanges of the run, and it is what the action makes of the failure. -/
theorem Guarded.run_error (hd : d.Guarded may own) {s : σ} {e : DrawError}
    (h : (d.run store s).1 = some (.error e)) :
    own e ∨ ∃ a c f, may a c ∧ ⟨c, .replied (.error f)⟩ ∈ d.exchanges store s ∧
      e = a.error f := by
  induction d generalizing s with
  | done r => exact .inl (hd e (Option.some.inj h))
  | ask c k ih =>
    obtain ⟨a, ha, hfail, hk, -⟩ := hd
    unfold run at h
    unfold exchanges
    generalize store c s = out at h ⊢
    rcases out with ⟨(f | r) | _, s'⟩
    · simp only [hfail, run] at h
      exact .inr ⟨a, c, f, ha, List.mem_cons_self .., by simpa using h.symm⟩
    · rcases ih (.ok r) (hk r) h with hown | ⟨a', c', f, ha', hmem, he⟩
      · exact .inl hown
      · exact .inr ⟨a', c', f, ha', List.mem_cons_of_mem _ hmem, he⟩
    · cases h

end Dialogue

end Tombola.Groups

namespace Tombola.Command

open Groups Dialogue

/-! ## 4. Commands -/

/-- **Faults of the store stay in the command.**  For all words, on every backend and from every
state, let any calls of the command fail in any way.  Either it comes to what it would come to
without this, or to the error of an action of the command whose call fails: a store error that
names the action and gives the text of the failure, or the failure itself if it is an error of
this program; and the stores are as they were.

Against any store, a command has no result exactly when one of its calls was given up; and its
error is a refusal, with no number that is too long to be written out, or that of a call that
failed. -/
theorem faults_contained (name : String) (shuffle : Shuffle) (words : List String) :
    let d := perform name shuffle words
    (∀ (b : Backend) (late : Bool) (p : String) (faults : Faults) (s : Backend.Contents),
      d.runWith faults (b.store late p) s = d.run (b.store late p) s ∨
      ∃ n a c f e, faults n c = some f ∧ Performs words a c ∧
        d.runWith faults (b.store late p) s = (some (.error e), s) ∧
        (f.isOurs = false → e = .store (a.text ++ ": " ++ f.text) ∧
          e.cause = a.text ++ ": " ++ f.text ∧
          e.help = "Whoops, I had trouble getting to your saved groups. Please try again.") ∧
        ∀ e', f = .ours e' → e = e') ∧
    ∀ (σ : Type) (store : Store σ) (s : σ),
      ((d.run store s).1 = none ↔ ∃ c, ⟨c, .abandoned⟩ ∈ d.exchanges store s) ∧
      ∀ e, (d.run store s).1 = some (.error e) → e.IsRefusal ∨
        ∃ a c f, Performs words a c ∧ ⟨c, .replied (.error f)⟩ ∈ d.exchanges store s ∧
          e = a.error f := by
  intro d
  have hd : d.Guarded (Performs words) DrawError.IsRefusal := guarded_perform name shuffle words
  refine ⟨fun b late p faults s => ?_, fun σ store s => ⟨run_eq_none_iff d store s, ?_⟩⟩
  · rcases hd.runWith (fun _ _ _ => Backend.store_of_reading) faults s with h | h
    · exact .inl h
    · obtain ⟨n, a, c, f, hf, ha, h⟩ := h
      refine .inr ⟨n, a, c, f, a.error f, hf, ha, h, fun hours => ?_, ?_⟩
      · have he : a.error f = .store (a.text ++ ": " ++ f.text) := by
          cases f <;> first | rfl | cases hours
        rw [he]
        exact ⟨rfl, rfl, rfl⟩
      · rintro e' rfl
        rfl
  · exact fun e he => hd.run_error he

end Tombola.Command
