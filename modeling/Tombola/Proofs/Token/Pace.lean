import Mathlib.Algebra.Order.Field.Rat
import Mathlib.Data.List.Chain
import Mathlib.Tactic.Linarith
import Mathlib.Tactic.NormNum
import Tombola.Proofs.Token.Freshness
import Tombola.Proofs.Token.Onward
import Tombola.Proofs.Token.Settling
/-!
# How often a token is fetched

However many calls want the token, it is fetched once in a time to live.  When a fetch has
succeeded, the calls that wait take its token one after the other, and none of them fetches.
After that nobody does until the lease is over; so the next fetch that succeeds is at least a
time to live later, whatever fetches fail or are dropped in between.  How many fetches succeed
is bounded by the time that passes and not by the load.

Main statements:

* `settle_answered`: what follows when a fetch has succeeded;
* `Onward.noFetchSince`: nobody starts a fetch while the lease is valid;
* `Onward.spaced`: fetches that succeed are a time to live apart;
* `fetches_paced`: all of this, and how many fetches succeed, when clocks count in fractions.
-/

namespace Tombola.Token

/-! ## 1. Fetches in a history -/

/-- Whether something that happened is about a fetch. -/
def Note.isOfFetch {τ : Type} : Note τ → Bool
  | .asked _ => true
  | .fetched .. => true
  | _ => false

namespace History

variable {τ : Type}

/-- The instants at which fetches succeeded, in order. -/
def fetchTimes (h : History τ) : List τ := (h.filterMap fetch?).map (·.2)

@[simp] theorem fetchTimes_append (h h' : History τ) :
    fetchTimes (h ++ h') = fetchTimes h ++ fetchTimes h' := by
  simp [fetchTimes]

@[simp] theorem started_append (h h' : History τ) :
    started (h ++ h') = started h + started h' := by
  simp [started]

theorem fetchTimes_eq_nil {h : History τ} (hn : ∀ n ∈ h, n.isOfFetch = false) :
    fetchTimes h = [] := by
  have hnone : ∀ n ∈ h, fetch? n = none := by
    intro n hm
    have := hn n hm
    cases n <;> simp_all [fetch?, Note.isOfFetch]
  rw [fetchTimes, List.filterMap_eq_nil_iff.mpr hnone, List.map_nil]

theorem started_eq_zero {h : History τ} (hn : ∀ n ∈ h, n.isOfFetch = false) : started h = 0 := by
  refine List.countP_eq_zero.mpr fun n hm => ?_
  have := hn n hm
  cases n <;> simp_all [Note.isOfFetch]

/-- The last of the instants is that of the fetch that succeeded last. -/
theorem getLast?_fetchTimes (h : History τ) :
    (fetchTimes h).getLast? = (lastFetch h).map (·.2) := by
  rw [fetchTimes, lastFetch, List.getLast?_map, ← List.head?_filterMap, List.filterMap_reverse,
    List.head?_reverse]

end History

namespace Cache

variable {τ : Type}

/-! ## 2. What events and moves note -/

/-- The lease is the same, and what was noted since is not about fetches. -/
def NoFetchSince (c c' : Cache τ) : Prop :=
  c'.lease = c.lease ∧ ∃ notes, c'.log = c.log ++ notes ∧ ∀ n ∈ notes, n.isOfFetch = false

namespace NoFetchSince

variable {c c' c'' : Cache τ}

theorem of_log_eq (hlease : c'.lease = c.lease) (hlog : c'.log = c.log) : c.NoFetchSince c' :=
  ⟨hlease, [], by rw [hlog, List.append_nil], fun _ h => absurd h List.not_mem_nil⟩

theorem of_note {n : Note τ} (hlease : c'.lease = c.lease) (hlog : c'.log = c.log ++ [n])
    (hn : n.isOfFetch = false) : c.NoFetchSince c' :=
  ⟨hlease, [n], hlog, fun m hm => by rw [List.mem_singleton.mp hm]; exact hn⟩

theorem trans (h : c.NoFetchSince c') (h' : c'.NoFetchSince c'') : c.NoFetchSince c'' := by
  obtain ⟨hlease, ns, hlog, hn⟩ := h
  obtain ⟨hlease', ns', hlog', hn'⟩ := h'
  refine ⟨hlease'.trans hlease, ns ++ ns', by rw [hlog', hlog, List.append_assoc], ?_⟩
  intro n hm
  rcases List.mem_append.mp hm with hm | hm
  · exact hn n hm
  · exact hn' n hm

theorem fetchTimes_eq (h : c.NoFetchSince c') : c'.log.fetchTimes = c.log.fetchTimes := by
  obtain ⟨-, ns, hlog, hn⟩ := h
  rw [hlog, History.fetchTimes_append, History.fetchTimes_eq_nil hn, List.append_nil]

theorem started_eq (h : c.NoFetchSince c') : c'.started = c.started := by
  obtain ⟨-, ns, hlog, hn⟩ := h
  rw [started, started, hlog, History.started_append, History.started_eq_zero hn, Nat.add_zero]

theorem arrive (c : Cache τ) (w : Waiter) : c.NoFetchSince (c.arrive w) := by
  unfold Cache.arrive
  simp only
  split
  · exact of_note rfl rfl rfl
  · exact of_note rfl rfl rfl

theorem leave (c : Cache τ) (who : Ticket → Bool) (o : Outcome) :
    c.NoFetchSince (c.leave who o) := by
  refine ⟨rfl, _, rfl, fun n hn => ?_⟩
  obtain ⟨t, -, rfl⟩ := List.mem_map.mp hn
  rfl

/-- **No event is about a fetch.**  A fetch that has ended is noted when its call goes on. -/
theorem happen [Add τ] (c : Cache τ) (e : Event τ) : c.NoFetchSince (c.happen e) := by
  cases e with
  | call ws =>
    simp only [Cache.happen]
    induction ws generalizing c with
    | nil => exact of_log_eq rfl rfl
    | cons w ws ih => exact (arrive c w).trans (ih _)
  | advance d => exact of_log_eq rfl rfl
  | release token => exact of_log_eq rfl rfl
  | fail f => exact of_log_eq rfl rfl
  | cancel id => exact leave c _ _
  | expire id => exact leave c _ _
  | mode instant => exact of_log_eq rfl rfl
  | newLoop => exact (leave c (fun _ => true) .cancelled).trans (of_note rfl rfl rfl)

theorem exit (others : List (Ticket × Stage)) (t : Ticket) (o : Outcome) (c : Cache τ) :
    c.NoFetchSince (c.exit others t o) := of_note rfl rfl rfl

theorem letIn (h : c.letIn? = some c') : c.NoFetchSince c' := by
  obtain ⟨t, l, rfl⟩ := letIn?_eq_some h
  exact of_log_eq rfl rfl

end NoFetchSince

section Moves

variable [Add τ] [LT τ] [DecidableLT τ] {c c' : Cache τ}

/-- **A fetch succeeds at the instant of the move** in which its call goes on. -/
theorem fetchTimes_move (h : c.move? = some c') :
    c'.log.fetchTimes = c.log.fetchTimes ∨
      (∃ x ∈ c.inside, x.2.hasAsked = true) ∧
        c'.log.fetchTimes = c.log.fetchTimes ++ [c.now] := by
  rcases move?_cases h with ⟨pre, t, s, post, hi, -, rfl⟩ | h
  · have ht : (t, s) ∈ c.inside := by
      rw [hi]
      exact List.mem_append_right _ (List.mem_cons_self ..)
    cases s with
    | entered =>
      simp only [turn]
      split
      · exact .inl (NoFetchSince.exit ..).fetchTimes_eq
      · left
        simp [note, History.fetchTimes, History.fetch?]
    | fetching => exact .inl rfl
    | answered r =>
      cases r with
      | ok token =>
        refine .inr ⟨⟨_, ht, rfl⟩, ?_⟩
        simp [turn, exit, keep, note, History.fetchTimes, History.fetch?]
      | error f => exact .inl (NoFetchSince.exit ..).fetchTimes_eq
  · exact .inl (NoFetchSince.letIn h).fetchTimes_eq

/-- **No move is about a fetch where a token may be served**, since nobody inside has asked. -/
theorem NoFetchSince.move {token : Text} (hv : Lease.valid? c.now c.lease = some token)
    (hin : ∀ x ∈ c.inside, x.2.hasAsked = false) (h : c.move? = some c') :
    c.NoFetchSince c' := by
  rcases move?_cases h with ⟨pre, t, s, post, hi, -, rfl⟩ | h
  · have hs : s.hasAsked = false := hin (t, s) (by simp [hi])
    cases s with
    | entered =>
      simp only [turn, hv]
      exact exit ..
    | fetching => cases hs
    | answered r => cases hs
  · exact letIn h

end Moves

/-! ## 3. After a fetch that succeeded -/

section Answered

variable [Add τ] [LT τ] [DecidableLT τ] {c : Cache τ} {t : Ticket} {token : Text}

/-- **All that wait are served the token of a fetch that has succeeded**, in their order, and
nobody starts a fetch. -/
theorem settle_answered (ho : c.Ordered) (hpos : c.now < c.now + c.ttl)
    (ht : (t, .answered (.ok token)) ∈ c.inside) :
    c.settle.log = c.log ++ .fetched t token c.now ::
      c.log.pending.map (.ended · (.served token) c.now) := by
  obtain ⟨pre, post, hi⟩ := List.append_of_mem ht
  obtain ⟨rfl, rfl, -⟩ := ho.alone hi
  have hp : c.log.pending = t :: c.line := by
    rw [ho.pending_eq, queue, hi]
    rfl
  have hv : Lease.valid? c.now (some (Lease.start c.ttl c.now token)) = some token :=
    if_pos hpos
  rw [settle_of_some (move?_of_inside hi rfl)]
  simp only [turn, List.append_nil]
  rw [settle_served (c := (c.keep t token).exit [] t (.served token)) rfl (held_exit ..) hv,
    line_exit, hp]
  simp [exit, keep, note, line]

/-- So it is when the fetch that is running gives a token. -/
theorem step_release (ho : c.Ordered) (hpos : c.now < c.now + c.ttl) (ht : t ∈ c.fetches) :
    (c.step (.release token)).log = c.log ++ .fetched t token c.now ::
      c.log.pending.map (.ended · (.served token) c.now) := by
  obtain ⟨⟨u, s⟩, hx, rfl⟩ := List.mem_map.mp ht
  obtain ⟨hmem, hs⟩ := List.mem_filter.mp hx
  obtain ⟨pre, post, hi⟩ := List.append_of_mem hmem
  obtain ⟨rfl, rfl, -⟩ := ho.alone hi
  have hstage : s = .fetching := by
    cases s with
    | fetching => rfl
    | entered => cases hs
    | answered r => cases hs
  subst hstage
  have hin : (u, Stage.answered (.ok token)) ∈ (c.answer (.ok token)).inside := by
    simp [answer, hi, answerFirst]
  exact settle_answered (ho.answer (.ok token)) hpos hin

end Answered

section Onward

variable [Add τ] [Preorder τ] [DecidableLT τ] {c c' : Cache τ}

/-- **While the lease is valid nobody starts a fetch**, whatever happens.  Events are calls, ends of
fetches and the like; a fetch is only started by a move, and a move looks at the lease first. -/
theorem Onward.noFetchSince (ho : c.Ordered) (hd : c.Due) {l : Lease τ} (hl : c.lease = some l)
    (h : Onward c c') (hlt : c'.now < l.expiry) : c.NoFetchSince c' := by
  induction h with
  | start => exact .of_log_eq rfl rfl
  | event e _ hle ih => exact (ih (lt_of_le_of_lt hle hlt)).trans (.happen _ e)
  | move hc hm ih =>
    rename_i c₁ c₂
    rw [now_move? hm] at hlt
    have hsince := ih hlt
    have hv : Lease.valid? c₁.now c₁.lease = some l.token :=
      Lease.valid?_eq_some_iff.mpr ⟨l, hsince.1.trans hl, hlt, rfl⟩
    -- Who had asked would have found no valid lease.
    have hin : ∀ x ∈ c₁.inside, x.2.hasAsked = false := by
      intro x hx
      rw [← Bool.not_eq_true]
      intro ha
      have hnone := hc.due ho hd x hx ha
      rw [hv] at hnone
      cases hnone
    exact hsince.trans (.move hv hin hm)

/-- Fetches succeed between the instants at which a run begins and ends. -/
theorem Onward.fetchTimes (h : Onward c c') :
    ∃ times, c'.log.fetchTimes = c.log.fetchTimes ++ times ∧
      ∀ s ∈ times, c.now ≤ s ∧ s ≤ c'.now := by
  induction h with
  | start => exact ⟨[], (List.append_nil _).symm, fun _ h => absurd h List.not_mem_nil⟩
  | event e _ hle ih =>
    obtain ⟨times, heq, hin⟩ := ih
    exact ⟨times, (NoFetchSince.happen _ e).fetchTimes_eq.trans heq,
      fun s hs => ⟨(hin s hs).1, le_trans (hin s hs).2 hle⟩⟩
  | move hc hm ih =>
    obtain ⟨times, heq, hin⟩ := ih
    rw [now_move? hm]
    rcases fetchTimes_move hm with hsame | ⟨-, hmore⟩
    · exact ⟨times, hsame.trans heq, hin⟩
    · refine ⟨times ++ [_], by rw [hmore, heq, List.append_assoc], fun s hs => ?_⟩
      rcases List.mem_append.mp hs with hs | hs
      · exact hin s hs
      · rw [List.mem_singleton.mp hs]
        exact ⟨hc.now_le, le_refl _⟩

/-- **Fetches that succeed are a time to live apart.**  Each one makes a lease, and none is started
before the lease is over; those that fail make no lease, and may follow at once. -/
theorem Onward.spaced {ttl now : τ} {instant : Option (Nat → Except Failure Text)}
    (hpos : ∀ x : τ, x < x + ttl) (h : Onward (init ttl now instant) c) :
    c.log.fetchTimes.IsChain fun s s' => ¬ s' < s + ttl := by
  induction h with
  | start => exact .nil
  | event e _ _ ih =>
    rw [(NoFetchSince.happen _ e).fetchTimes_eq]
    exact ih
  | move hc hm ih =>
    rename_i c₁ c₂
    rcases fetchTimes_move hm with hsame | ⟨⟨x, hx, ha⟩, hmore⟩
    · rw [hsame]
      exact ih
    · rw [hmore]
      refine ih.append (.singleton _) fun s hs s' hs' => ?_
      obtain rfl : c₁.now = s' := by simpa using hs'
      -- The lease that was over for the call that asked is that of the fetch before.
      rw [History.getLast?_fetchTimes] at hs
      obtain ⟨⟨token, start⟩, hlast, rfl⟩ := Option.map_eq_some_iff.mp hs
      have hf := hc.reach.fresh hpos (init_fresh ttl now instant)
      have hlease : c₁.lease = some (.start ttl start token) := by rw [hf.lease_eq, hlast]; rfl
      have hd := hc.due (init_ordered ttl now instant) (due_of_nobody rfl) x hx ha
      exact Lease.valid?_eq_none_iff.mp hd _ hlease

end Onward

/-! ## 4. Clocks that count in fractions -/

theorem length_mul_le_of_isChain {gap last s : ℚ} {times : List ℚ}
    (h : (s :: times).IsChain fun s s' => s + gap ≤ s') (hlast : ∀ s' ∈ s :: times, s' ≤ last) :
    times.length * gap ≤ last - s := by
  induction times generalizing s with
  | nil =>
    have := hlast s (List.mem_cons_self ..)
    simp only [List.length_nil, Nat.cast_zero, zero_mul]
    linarith
  | cons s' times ih =>
    obtain ⟨hgap, hrest⟩ := List.isChain_cons_cons.mp h
    have hih := ih hrest fun x hx => hlast x (List.mem_cons_of_mem _ hx)
    simp only [List.length_cons, Nat.cast_succ]
    linarith

/-- How many instants with gaps between them there is room for. -/
theorem length_le_of_isChain {gap first last : ℚ} (hpos : 0 < gap) (hle : first ≤ last)
    {times : List ℚ} (h : times.IsChain fun s s' => s + gap ≤ s')
    (hin : ∀ s ∈ times, first ≤ s ∧ s ≤ last) :
    (times.length : ℚ) ≤ (last - first) / gap + 1 := by
  cases times with
  | nil =>
    have hnonneg : 0 ≤ (last - first) / gap := div_nonneg (sub_nonneg.mpr hle) hpos.le
    simp only [List.length_nil, Nat.cast_zero]
    linarith
  | cons s times =>
    have hmul := length_mul_le_of_isChain h fun x hx => (hin x hx).2
    have hfirst := (hin s (List.mem_cons_self ..)).1
    have hdiv : (times.length : ℚ) ≤ (last - first) / gap :=
      (le_div_iff₀ hpos).mpr (by linarith)
    simp only [List.length_cons, Nat.cast_succ]
    linarith

/-- **A token is fetched once in a time to live, whatever the load.**  Clocks count in fractions
and do not go back.  In every state that is reached from the start by events and moves in any
order: when the fetch that is running gives a token, all calls that wait are served it, in
their order, and nobody starts a fetch; so it is too when a fetch has ended at once.  While the
lease is valid nobody starts a fetch, whatever happens.  Fetches that succeed one after the
other are a time to live apart, and in any part of a run as many succeed at most as there are
times to live in it, and one more. -/
theorem fetches_paced {ttl now : ℚ} {instant : Option (Nat → Except Failure Text)}
    {c : Cache ℚ} (hpos : 0 < ttl) (h : Onward (init ttl now instant) c) :
    (∀ t token, t ∈ c.fetches →
      (c.step (.release token)).log = c.log ++ .fetched t token c.now ::
        c.log.pending.map (.ended · (.served token) c.now)) ∧
    (∀ t token, (t, Stage.answered (.ok token)) ∈ c.inside →
      c.settle.log = c.log ++ .fetched t token c.now ::
        c.log.pending.map (.ended · (.served token) c.now)) ∧
    (∀ l c', c.lease = some l → Onward c c' → c'.now < l.expiry → c'.started = c.started) ∧
    (c.log.fetchTimes.IsChain fun s s' => s + ttl ≤ s') ∧
    ∀ c', Onward c c' → ∃ times, c'.log.fetchTimes = c.log.fetchTimes ++ times ∧
      (times.length : ℚ) ≤ (c'.now - c.now) / ttl + 1 := by
  have hlt : ∀ x : ℚ, x < x + ttl := fun x => lt_add_of_pos_right x hpos
  have ho : c.Ordered := h.reach.ordered (init_ordered ttl now instant)
  have hd : c.Due := h.due (init_ordered ttl now instant) (due_of_nobody rfl)
  have httl : c.ttl = ttl := (h.reach.fresh hlt (init_fresh ttl now instant)).ttl_eq
  have hnow : c.now < c.now + c.ttl := httl.symm ▸ hlt c.now
  have hspaced : ∀ {c'}, Onward (init ttl now instant) c' →
      c'.log.fetchTimes.IsChain fun s s' => s + ttl ≤ s' :=
    fun h' => (h'.spaced hlt).imp fun _ _ => not_lt.mp
  refine ⟨fun _ _ ht => step_release ho hnow ht, fun _ _ ht => settle_answered ho hnow ht,
    fun l c' hl hc hexp => (hc.noFetchSince ho hd hl hexp).started_eq, hspaced h, ?_⟩
  intro c' hc
  obtain ⟨times, heq, hin⟩ := hc.fetchTimes
  have hchain := hspaced (h.trans hc)
  rw [heq] at hchain
  exact ⟨times, heq, length_le_of_isChain hpos hc.now_le hchain.right_of_append hin⟩

/-- Three calls share one fetch.  A time to live later one that fails does not count. -/
theorem fetches_paced_burst :
    let c : Cache ℚ := (init 60 1000 none).run
      [.call [⟨"a", false⟩, ⟨"b", true⟩, ⟨"c", false⟩]]
    let c' := c.run [.release (Text.ofString "x"), .advance 60,
      .call [⟨"d", false⟩, ⟨"e", false⟩], .fail (.plain .any ""), .release (Text.ofString "y")]
    (0 : ℚ) < 60 ∧ Onward (init 60 1000 none) c ∧ ⟨⟨"a", false⟩, 0⟩ ∈ c.fetches ∧
      (c.step (.release (Text.ofString "x"))).log = c.log ++
        [.fetched ⟨⟨"a", false⟩, 0⟩ (Text.ofString "x") c.now,
          .ended ⟨⟨"a", false⟩, 0⟩ (.served (Text.ofString "x")) c.now,
          .ended ⟨⟨"b", true⟩, 1⟩ (.served (Text.ofString "x")) c.now,
          .ended ⟨⟨"c", false⟩, 2⟩ (.served (Text.ofString "x")) c.now] ∧
      Onward c c' ∧ ∃ times, c'.log.fetchTimes = c.log.fetchTimes ++ times ∧
        (times.length : ℚ) ≤ (c'.now - c.now) / 60 + 1 := by
  intro c c'
  have hpos : (0 : ℚ) < 60 := by norm_num
  have hc : Onward (init 60 1000 none) c := Onward.start.run (by simp)
  have hc' : Onward c c' := Onward.start.run (by simp)
  have hf : ⟨⟨"a", false⟩, 0⟩ ∈ c.fetches := by decide +kernel
  have hp : c.log.pending = [⟨⟨"a", false⟩, 0⟩, ⟨⟨"b", true⟩, 1⟩, ⟨⟨"c", false⟩, 2⟩] := by
    decide +kernel
  obtain ⟨hserved, -, -, -, hbound⟩ := fetches_paced hpos hc
  refine ⟨hpos, hc, hf, ?_, hc', hbound c' hc'⟩
  rw [hserved _ _ hf, hp]
  rfl

end Cache

end Tombola.Token
