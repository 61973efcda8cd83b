import Mathlib
import Tombola.Token.Cache
/-!
# A served token is the one fetched last, and in its time

The history of a run tells which fetch succeeded last and when.  The cache does not look at
the history: it keeps one lease, and writes it at one place.  The invariant says that this is
enough.  The lease is always that of the last successful fetch, and every token that was ever
served was, at that moment, the token of the last successful fetch, before its time was over.

Only a call that gets an answer from its fetch writes to the lease, and it reads the clock
after the answer has come; a fetch that fails or is dropped does not.  The one fact about
instants that is needed is that a time to live moves every instant forward.  Exact fractions
have it.  Floating-point numbers do not, where the time to live is too small beside the clock.

Main statements:

* `Reach.fresh`: the invariant holds of all that is reached from the start;
* `lease_of_last_fetch`: the lease and all served tokens, when clocks count in fractions.
-/

namespace Tombola.Token

/-! ## 1. Tokens that were served in time -/

namespace History

variable {τ : Type} [Add τ] [LT τ]

/-- Every token that was served was that of the fetch that had succeeded last, and its time
was not over. -/
def ServedInTime (ttl : τ) (h : History τ) : Prop :=
  ∀ before t token now, before ++ [.ended t (.served token) now] <+: h →
    ∃ start, lastFetch before = some (token, start) ∧ now < start + ttl

theorem servedInTime_nil (ttl : τ) : ServedInTime ttl ([] : History τ) := by
  intro before t token now hp
  exact absurd (List.prefix_nil.mp hp) (by simp)

/-- One more note matters only if a token is served. -/
theorem ServedInTime.snoc {ttl : τ} {h : History τ} (hs : h.ServedInTime ttl) {n : Note τ}
    (hn : ∀ t token now, n = .ended t (.served token) now →
      ∃ start, h.lastFetch = some (token, start) ∧ now < start + ttl) :
    ServedInTime ttl (h ++ [n]) := by
  intro before t token now hp
  rcases List.prefix_concat_iff.mp hp with heq | hp
  · obtain ⟨rfl, hlast⟩ := List.append_inj' heq rfl
    exact hn t token now (List.cons.inj hlast).1.symm
  · exact hs before t token now hp

/-- A note that no token was served with changes nothing about those that were. -/
theorem ServedInTime.snoc_other {ttl : τ} {h : History τ} (hs : h.ServedInTime ttl) {n : Note τ}
    (hn : ∀ t token now, n ≠ .ended t (.served token) now) : ServedInTime ttl (h ++ [n]) :=
  hs.snoc fun t token now e => absurd e (hn t token now)

theorem ServedInTime.endAll {ttl : τ} {h : History τ} (hs : h.ServedInTime ttl) {o : Outcome}
    (ho : ∀ token, o ≠ .served token) (ts : List Ticket) (now : τ) :
    ServedInTime ttl (h ++ ts.map (.ended · o now)) := by
  induction ts generalizing h with
  | nil => simpa using hs
  | cons t ts ih =>
    have hone : ServedInTime ttl (h ++ [.ended t o now]) := by
      refine hs.snoc_other fun t' token now' e => ?_
      cases e
      exact ho token rfl
    simpa using ih hone

omit [Add τ] [LT τ] in
theorem lastFetch_endAll (h : History τ) (ts : List Ticket) (o : Outcome) (now : τ) :
    lastFetch (h ++ ts.map (.ended · o now)) = lastFetch h := by
  induction ts generalizing h with
  | nil => simp
  | cons t ts ih =>
    have := ih (h ++ [.ended t o now])
    simpa [fetch?] using this

end History

namespace Cache

variable {τ : Type} [Add τ] [LT τ]

/-! ## 2. The invariant -/

/-- The lease, and what was served from it, agree with the history. -/
structure Fresh (ttl : τ) (c : Cache τ) : Prop where
  ttl_eq : c.ttl = ttl
  /-- The lease is that of the fetch that succeeded last. -/
  lease_eq : c.lease = c.log.lastFetch.map fun f => .start ttl f.2 f.1
  served : c.log.ServedInTime ttl

namespace Fresh

variable {ttl : τ} {c : Cache τ}

/-- A valid lease is that of the fetch that succeeded last, and its time is not over. -/
theorem of_valid [DecidableLT τ] (h : c.Fresh ttl) {token : Text}
    (hv : Lease.valid? c.now c.lease = some token) :
    ∃ start, c.log.lastFetch = some (token, start) ∧ c.now < start + ttl := by
  obtain ⟨l, hl, hlt, rfl⟩ := Lease.valid?_eq_some_iff.mp hv
  rw [h.lease_eq] at hl
  obtain ⟨⟨token, start⟩, hf, rfl⟩ := Option.map_eq_some_iff.mp hl
  exact ⟨start, hf, hlt⟩

/-- Neither a call that is made nor one that starts a fetch touches the lease. -/
theorem of_note (h : c.Fresh ttl) {c' : Cache τ} {n : Note τ} (hl : c'.log = c.log ++ [n])
    (hf : History.fetch? n = none) (hn : ∀ t token now, n ≠ .ended t (.served token) now)
    (httl : c'.ttl = c.ttl) (hlease : c'.lease = c.lease) : c'.Fresh ttl where
  ttl_eq := httl.trans h.ttl_eq
  lease_eq := by rw [hlease, hl, History.lastFetch_snoc, hf]; exact h.lease_eq
  served := by rw [hl]; exact h.served.snoc_other hn

/-- What leaves history, lease and time to live as they are keeps the invariant. -/
theorem of_frame (h : c.Fresh ttl) {c' : Cache τ} (hl : c'.log = c.log)
    (httl : c'.ttl = c.ttl) (hlease : c'.lease = c.lease) : c'.Fresh ttl where
  ttl_eq := httl.trans h.ttl_eq
  lease_eq := by rw [hlease, hl]; exact h.lease_eq
  served := by rw [hl]; exact h.served

/-! ## 3. Events -/

theorem arrive (h : c.Fresh ttl) (w : Waiter) : (c.arrive w).Fresh ttl := by
  unfold Cache.arrive
  simp only
  split
  · exact h.of_note rfl rfl (by simp) rfl rfl
  · exact h.of_note rfl rfl (by simp) rfl rfl

theorem leave (h : c.Fresh ttl) (who : Ticket → Bool) {o : Outcome}
    (ho : ∀ token, o ≠ .served token) : (c.leave who o).Fresh ttl where
  ttl_eq := h.ttl_eq
  lease_eq := by
    rw [Cache.leave, History.lastFetch_endAll]
    exact h.lease_eq
  served := h.served.endAll ho _ _

/-- **Every event restores the invariant.** -/
theorem happen (h : c.Fresh ttl) (e : Event τ) : (c.happen e).Fresh ttl := by
  cases e with
  | call ws =>
    simp only [Cache.happen]
    induction ws generalizing c with
    | nil => exact h
    | cons w ws ih => exact ih (h.arrive w)
  | advance d => exact h.of_frame rfl rfl rfl
  | release token => exact h.of_frame rfl rfl rfl
  | fail f => exact h.of_frame rfl rfl rfl
  | cancel id =>
    simp only [Cache.happen]
    exact h.leave _ (by simp)
  | expire id =>
    simp only [Cache.happen]
    exact h.leave _ (by simp)
  | mode instant => exact h.of_frame rfl rfl rfl
  | newLoop =>
    have hall : (c.leave (fun _ => true) .cancelled).Fresh ttl := h.leave _ (by simp)
    exact hall.of_note (n := .looped) rfl rfl (by simp) rfl rfl

/-! ## 4. Moves -/

/-- A call may come out with a token only if the last fetch gave it, and in time. -/
theorem exit_served (h : c.Fresh ttl) (others : List (Ticket × Stage)) (t : Ticket)
    {token : Text} {start : τ} (hf : c.log.lastFetch = some (token, start))
    (hlt : c.now < start + ttl) : (c.exit others t (.served token)).Fresh ttl where
  ttl_eq := h.ttl_eq
  lease_eq := by
    rw [Cache.exit, note, History.lastFetch_snoc]
    exact h.lease_eq
  served := by
    refine h.served.snoc fun t' token' now' e => ?_
    cases e
    exact ⟨start, hf, hlt⟩

/-- A fetch that succeeds is the last one from then on. -/
theorem keep (h : c.Fresh ttl) (t : Ticket) (token : Text) : (c.keep t token).Fresh ttl where
  ttl_eq := h.ttl_eq
  lease_eq := by
    rw [Cache.keep, note, History.lastFetch_snoc, ← h.ttl_eq]
    rfl
  served := h.served.snoc_other (by simp)

variable [DecidableLT τ]

theorem turn (h : c.Fresh ttl) (hpos : ∀ x : τ, x < x + ttl) {pre post : List (Ticket × Stage)}
    {t : Ticket} {s : Stage} : (c.turn pre t s post).Fresh ttl := by
  cases s with
  | entered =>
    simp only [Cache.turn]
    split
    · rename_i token hv
      obtain ⟨start, hf, hlt⟩ := h.of_valid hv
      exact h.exit_served _ t hf hlt
    · exact h.of_note rfl rfl (by simp) rfl rfl
  | fetching => exact h
  | answered r =>
    cases r with
    | ok token =>
      -- the call that fetched is served at the instant at which its lease begins
      have hf : (c.keep t token).log.lastFetch = some (token, c.now) := by
        rw [Cache.keep, note, History.lastFetch_snoc]
        rfl
      exact (h.keep t token).exit_served _ t hf (hpos c.now)
    | error f => exact h.of_note rfl rfl (by simp) rfl rfl

/-- **Every move restores the invariant.** -/
theorem move (h : c.Fresh ttl) (hpos : ∀ x : τ, x < x + ttl) {c' : Cache τ}
    (hm : c.move? = some c') : c'.Fresh ttl := by
  rcases move?_cases hm with ⟨pre, t, s, post, -, -, rfl⟩ | hl
  · exact h.turn hpos
  · unfold letIn? at hl
    split at hl
    · cases hl
      exact h.of_frame rfl rfl rfl
    · cases hl

end Fresh

theorem init_fresh (ttl now : τ) (instant : Option (Nat → Except Failure Text)) :
    (init ttl now instant).Fresh ttl :=
  ⟨rfl, rfl, History.servedInTime_nil ttl⟩

/-! ## 5. What is reached -/

variable [DecidableLT τ]

theorem Reach.fresh {start c : Cache τ} {ttl : τ} (hpos : ∀ x : τ, x < x + ttl)
    (h : Reach start c) (hs : start.Fresh ttl) : c.Fresh ttl := by
  induction h with
  | start => exact hs
  | event e _ ih => exact ih.happen e
  | move _ hm ih => exact ih.move hpos hm

omit [Add τ] [LT τ] [DecidableLT τ] in
/-- **The lease is that of the last successful fetch, and no token is served but that one, in
its time.**  Clocks count in fractions.  In every state that is reached from the start by
events and moves in any order: there is a lease exactly if a fetch has succeeded, it holds the
token of the last one and ends a time to live after that one succeeded; and whenever a call
was served a token, the last fetch that had succeeded by then gave this token, and its time to
live was not over. -/
theorem lease_of_last_fetch {ttl now : ℚ} {instant : Option (Nat → Except Failure Text)}
    {c : Cache ℚ} (hpos : 0 < ttl) (h : Reach (init ttl now instant) c) :
    (c.lease = none ↔ ∀ t token start, .fetched t token start ∉ c.log) ∧
    (∀ l, c.lease = some l → ∃ start, c.log.lastFetch = some (l.token, start) ∧
      l.expiry = start + ttl) ∧
    ∀ before t token now, before ++ [.ended t (.served token) now] <+: c.log →
      ∃ start, History.lastFetch before = some (token, start) ∧ now < start + ttl := by
  have hlt : ∀ x : ℚ, x < x + ttl := fun x => lt_add_of_pos_right x hpos
  have hf := h.fresh hlt (init_fresh ttl now instant)
  refine ⟨?_, ?_, hf.served⟩
  · rw [hf.lease_eq, Option.map_eq_none_iff, History.lastFetch_eq_none_iff]
  · intro l hl
    rw [hf.lease_eq] at hl
    obtain ⟨⟨token, start⟩, hlast, rfl⟩ := Option.map_eq_some_iff.mp hl
    exact ⟨start, hlast, rfl⟩

/-- A second fetch takes the place of the first one when its time is over. -/
theorem lease_of_last_fetch_renewed :
    let c : Cache ℚ := (init 60 1000 none).run
      [.call [⟨"a", false⟩], .release (Text.ofString "x"), .advance 60,
        .call [⟨"b", false⟩, ⟨"c", false⟩], .fail (.plain .any ""), .release (Text.ofString "y")]
    (0 : ℚ) < 60 ∧ Reach (init 60 1000 none) c ∧
      ∃ l, c.lease = some l ∧ l.token = Text.ofString "y" ∧ l.expiry = 1120 ∧
        ∃ start, c.log.lastFetch = some (l.token, start) ∧ l.expiry = start + 60 := by
  intro c
  have hpos : (0 : ℚ) < 60 := by norm_num
  have hr : Reach (init 60 1000 none) c := Reach.start.run _
  have hlease : c.lease = some ⟨Text.ofString "y", 1120⟩ := by
    subst c
    cbv
  exact ⟨hpos, hr, _, hlease, rfl, rfl, (lease_of_last_fetch hpos hr).2.1 _ hlease⟩

end Cache

end Tombola.Token
