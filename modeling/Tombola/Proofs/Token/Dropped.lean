import Mathlib.Data.List.Nodup
import Tombola.Proofs.Token.Onward
import Tombola.Proofs.Token.Settling
/-!
# A call that ends without a token ends alone

A fetch may fail, and a call may be cancelled or run out of time, in the line or while its
fetch is running.  Whatever of this happens, it is meant for one call, and that call is the
only one that ends.  Nothing is written to the lease.  If the call was fetching, the lock goes
to the first of the line, and what that call does next depends on the lease: since the call
before it has found none to serve, and the clock has not gone back, there is none now, and it
starts a fetch of its own.

Main statement: `hit_ends_alone`.
-/

namespace Tombola.Token.Cache

/-! ## 1. What may happen to one call -/

/-- **An event that is meant for one of the calls that wait**, and what the call ends with: its
fetch fails, it is cancelled, or its time runs out.  A call is told by its name; only calls
with a time limit run out of time. -/
inductive Hits {τ : Type} (c : Cache τ) : Event τ → Ticket → Outcome → Prop
  | fail {t : Ticket} (f : Failure) (ht : c.fetches = [t]) : Hits c (.fail f) t (.failed f)
  | cancel {t : Ticket} (ht : t ∈ c.log.pending)
      (hname : ∀ u ∈ c.log.pending, u.id = t.id → u = t) : Hits c (.cancel t.id) t .cancelled
  | expire {t : Ticket} (ht : t ∈ c.log.pending) (hlimit : t.bounded = true)
      (hname : ∀ u ∈ c.log.pending, u.id = t.id → u.bounded = true → u = t) :
      Hits c (.expire t.id) t .timedOut

section Inside

variable {τ : Type} {c : Cache τ} {t : Ticket}

/-- The call that fetches is inside, alone, and the others stand in the line. -/
theorem Ordered.inside_of_fetches (h : c.Ordered) (hf : c.fetches = [t]) :
    c.inside = [(t, .fetching)] ∧ c.held = true ∧ c.log.pending = t :: c.line := by
  cases hh : c.held with
  | false => simp [fetches, h.inside_of_not_held hh] at hf
  | true =>
    obtain ⟨⟨u, s⟩, hi⟩ := h.inside_of_held hh
    cases s with
    | fetching =>
      obtain rfl : u = t := by simpa [fetches, hi, Stage.isFetching] using hf
      exact ⟨hi, rfl, by rw [h.pending_eq, queue, hi]; rfl⟩
    | entered => simp [fetches, hi, Stage.isFetching] at hf
    | answered r => simp [fetches, hi, Stage.isFetching] at hf

theorem Ordered.nodup_pending (h : c.Ordered) : c.log.pending.Nodup := by
  rw [h.pending_eq]
  exact h.increasing.imp fun hlt e => absurd (e ▸ hlt) (Nat.lt_irrefl _)

/-- An event that is meant for a call ends its fetch with a failure, or gives up that call. -/
theorem Hits.happen_eq [Add τ] {e : Event τ} {u : Ticket} {o : Outcome} (h : c.Hits e u o) :
    (∃ f, e = .fail f ∧ o = .failed f ∧ c.fetches = [u]) ∨
      ∃ who : Ticket → Bool, c.happen e = c.leave who o ∧ u ∈ c.log.pending ∧
        ∀ v ∈ c.log.pending, who v = true ↔ v = u := by
  cases h with
  | fail f ht => exact .inl ⟨f, rfl, rfl, ht⟩
  | cancel ht hname =>
    refine .inr ⟨fun v => v.id = u.id, rfl, ht, fun v hv => ?_⟩
    rw [decide_eq_true_iff]
    exact ⟨hname v hv, fun e => e ▸ rfl⟩
  | expire ht hlimit hname =>
    refine .inr ⟨fun v => v.id = u.id && v.bounded, rfl, ht, fun v hv => ?_⟩
    rw [Bool.and_eq_true, decide_eq_true_iff]
    refine ⟨fun e => hname v hv e.1 e.2, ?_⟩
    rintro rfl
    exact ⟨rfl, hlimit⟩

theorem Ordered.log_leave (h : c.Ordered) {who : Ticket → Bool} {u : Ticket}
    (hu : u ∈ c.log.pending) (hw : ∀ v ∈ c.log.pending, who v = true ↔ v = u) (o : Outcome) :
    (c.leave who o).log = c.log ++ [.ended u o c.now] := by
  have hone : c.log.pending.filter who = [u] := by
    have hcongr : c.log.pending.filter who = c.log.pending.filter (· == u) :=
      List.filter_congr fun v hv => by rw [Bool.eq_iff_iff, hw v hv, beq_iff_eq]
    rw [hcongr, List.filter_beq, List.count_eq_one_of_mem h.nodup_pending hu]
    rfl
  rw [Cache.leave, ← h.pending_eq, hone]
  rfl

end Inside

/-! ## 2. The call that fetches -/

/-- The cache when the call that was fetching has ended and nobody has been let in yet. -/
structure Vacated {τ : Type} (c : Cache τ) (t : Ticket) (o : Outcome) (c' : Cache τ) : Prop where
  inside_eq : c'.inside = []
  held_eq : c'.held = false
  line_eq : c'.line = c.line
  log_eq : c'.log = c.log ++ [.ended t o c.now]
  lease_eq : c'.lease = c.lease
  now_eq : c'.now = c.now
  instant_eq : c'.instant = c.instant

section Vacated

variable {τ : Type} {c : Cache τ} {t : Ticket}

theorem Ordered.vacated_leave (h : c.Ordered) (hf : c.fetches = [t]) {who : Ticket → Bool}
    (hw : ∀ v ∈ c.log.pending, who v = true ↔ v = t) (o : Outcome) :
    c.Vacated t o (c.leave who o) := by
  obtain ⟨hi, hh, hp⟩ := h.inside_of_fetches hf
  have ht : t ∈ c.log.pending := by rw [hp]; exact List.mem_cons_self ..
  have hwt : who t = true := (hw t ht).mpr rfl
  have hin : (c.leave who o).inside = [] := by simp [Cache.leave, hi, hwt]
  have hrest : c.line.filter (! who ·) = c.line := by
    refine List.filter_eq_self.mpr fun v hv => ?_
    have hne : v ≠ t := fun e => h.not_mem_line hi (e ▸ hv)
    have hv' : v ∈ c.log.pending := by rw [hp]; exact List.mem_cons_of_mem _ hv
    simpa using mt (hw v hv').mp hne
  refine ⟨hin, (h.leave who o).not_held_of_inside hin, ?_, h.log_leave ht hw o, rfl, rfl, rfl⟩
  have hq := queue_leave c who o
  rw [queue, hin, queue, hi] at hq
  simpa [hwt, hrest] using hq

variable [Add τ] [LT τ] [DecidableLT τ]

/-- A fetch that fails ends its call in one move. -/
theorem Ordered.vacated_fail (h : c.Ordered) (hf : c.fetches = [t]) (f : Failure) :
    ∃ c', (c.happen (.fail f)).settle = c'.settle ∧ c.Vacated t (.failed f) c' := by
  obtain ⟨hi, -, -⟩ := h.inside_of_fetches hf
  have hin : (c.happen (.fail f)).inside = [(t, .answered (.error f))] := by
    simp [Cache.happen, Cache.answer, hi, answerFirst]
  refine ⟨_, settle_of_some (move?_of_inside hin rfl), rfl, held_exit .., ?_, rfl, rfl, rfl, rfl⟩
  exact line_exit ..

/-- The call that was next fetches in its place. -/
theorem Vacated.settle {o : Outcome} {c' : Cache τ} (h : c.Vacated t o c')
    (hv : Lease.valid? c.now c.lease = none) (hlong : c.instant = none) :
    c'.settle.log = c.log ++ .ended t o c.now :: (c.line.head?.map .asked).toList ∧
      c'.settle.lease = c.lease ∧ c'.settle.fetches = c.line.take 1 := by
  have hv' : Lease.valid? c'.now c'.lease = none := by rw [h.now_eq, h.lease_eq]; exact hv
  obtain ⟨h1, h2, h3⟩ :=
    settle_handedOver h.inside_eq h.held_eq hv' (h.instant_eq.trans hlong)
  rw [h.line_eq] at h1 h3
  refine ⟨?_, h2.trans h.lease_eq, h3⟩
  rw [h1, h.log_eq, List.append_assoc]
  rfl

end Vacated

/-! ## 3. All calls -/

section Step

variable {τ : Type} [Add τ] [LT τ] [DecidableLT τ] {c : Cache τ} {t u : Ticket} {e : Event τ}
  {o : Outcome}

/-- The call that fetches ends by its fetch, or because it is given up. -/
theorem Hits.vacated (hu : c.Hits e t o) (h : c.Ordered) (hf : c.fetches = [t]) :
    ∃ c', c.step e = c'.settle ∧ c.Vacated t o c' := by
  rcases hu.happen_eq with ⟨f, rfl, rfl, -⟩ | ⟨who, hhap, -, hw⟩
  · exact h.vacated_fail hf f
  · exact ⟨c.leave who o, by rw [step, hhap], h.vacated_leave hf hw o⟩

/-- Who gives up in the line goes, and nothing else happens. -/
theorem Hits.step_other (hu : c.Hits e u o) (h : c.Ordered) (hf : c.fetches = [t])
    (hne : u ≠ t) :
    (c.step e).lease = c.lease ∧ (c.step e).log = c.log ++ [.ended u o c.now] ∧
      (c.step e).fetches = [t] := by
  obtain ⟨hi, -, hp⟩ := h.inside_of_fetches hf
  rcases hu.happen_eq with ⟨f, -, -, hfu⟩ | ⟨who, hhap, hmem, hw⟩
  · rw [hf] at hfu
    exact absurd (List.cons.inj hfu).1.symm hne
  · have hwt : who t = false := by
      rw [← Bool.not_eq_true, hw t (hp ▸ List.mem_cons_self ..)]
      exact hne.symm
    have hfetches : (c.leave who o).fetches = [t] := by
      simp [fetches, Cache.leave, hi, hwt, Stage.isFetching]
    obtain ⟨hi', hheld, -⟩ := (h.leave who o).inside_of_fetches hfetches
    have hstep : c.step e = c.leave who o := by
      rw [step, hhap, settle_of_none (quiet_of_fetching hi' hheld)]
    rw [hstep]
    exact ⟨rfl, h.log_leave hmem hw o, hfetches⟩

end Step

/-- A call that ends and another that asks: one waits less. -/
theorem pending_ended_asked {τ : Type} (h : History τ) (t : Ticket) (o : Outcome)
    (now : τ) (next : Option Ticket) :
    History.pending (h ++ .ended t o now :: (next.map .asked).toList) =
      (History.pending h).filter (· ≠ t) := by
  rw [List.append_cons]
  cases next with
  | none => rw [Option.map_none, Option.toList_none, List.append_nil, History.pending_ended]
  | some u => exact (History.pending_asked _ u).trans (History.pending_ended ..)

variable {τ : Type} [Add τ] [Preorder τ] [DecidableLT τ]

/-- **A call that fails, is cancelled or runs out of time ends alone.**  In every state that is
reached by events and moves while the clock does not go back, and in which the first of the
calls that wait is fetching, let something happen that is meant for one of them, while fetches
take time.  The lease stays as it is, and so do the other calls and their order.  If it was the
call that fetched, the next one starts a fetch, and nobody else does; if it was another,
nothing more happens. -/
theorem hit_ends_alone {ttl now : τ} {instant : Option (Nat → Except Failure Text)} {c : Cache τ}
    (h : Onward (init ttl now instant) c) (hlong : c.instant = none) {t : Ticket}
    {rest : List Ticket} (hp : c.log.pending = t :: rest) (hf : c.fetches = [t]) {e : Event τ}
    {u : Ticket} {o : Outcome} (hu : c.Hits e u o) :
    (c.step e).lease = c.lease ∧
    (c.step e).log.pending = (t :: rest).filter (· ≠ u) ∧
    (u = t → (c.step e).log = c.log ++ .ended t o c.now :: (rest.head?.map .asked).toList ∧
      (c.step e).fetches = rest.take 1) ∧
    (u ≠ t → (c.step e).log = c.log ++ [.ended u o c.now] ∧ (c.step e).fetches = [t]) := by
  have ho : c.Ordered := h.reach.ordered (init_ordered ttl now instant)
  have hd : c.Due := h.due (init_ordered ttl now instant) (due_of_nobody rfl)
  obtain ⟨hi, -, hline⟩ := ho.inside_of_fetches hf
  obtain rfl : c.line = rest := (List.cons.inj (hline.symm.trans hp)).2
  by_cases hut : u = t
  · subst hut
    have hv : Lease.valid? c.now c.lease = none := hd (u, .fetching) (by simp [hi]) rfl
    obtain ⟨c', hstep, hc'⟩ := hu.vacated ho hf
    obtain ⟨hlog, hlease, hfetches⟩ := hc'.settle hv hlong
    rw [hstep]
    refine ⟨hlease, ?_, fun _ => ⟨hlog, hfetches⟩, fun hne => absurd rfl hne⟩
    rw [hlog, pending_ended_asked, hp]
  · obtain ⟨hlease, hlog, hfetches⟩ := hu.step_other ho hf hut
    refine ⟨hlease, ?_, fun e => absurd e hut, fun _ => ⟨hlog, hfetches⟩⟩
    rw [hlog, History.pending_ended, hp]

/-- When the lease is over, the call that fetches is cancelled, and the next one fetches. -/
theorem hit_ends_alone_cancelled :
    let c : Cache Nat := (init 60 1000 none).run
      [.call [⟨"a", false⟩], .release (Text.ofString "x"), .advance 60,
        .call [⟨"b", false⟩, ⟨"c", true⟩, ⟨"d", false⟩]]
    Onward (init 60 1000 none) c ∧ c.instant = none ∧
      c.log.pending = [⟨⟨"b", false⟩, 1⟩, ⟨⟨"c", true⟩, 2⟩, ⟨⟨"d", false⟩, 3⟩] ∧
      c.fetches = [⟨⟨"b", false⟩, 1⟩] ∧ c.Hits (.cancel "b") ⟨⟨"b", false⟩, 1⟩ .cancelled ∧
      (c.step (.cancel "b")).log.pending = [⟨⟨"c", true⟩, 2⟩, ⟨⟨"d", false⟩, 3⟩] ∧
      (c.step (.cancel "b")).fetches = [⟨⟨"c", true⟩, 2⟩] := by
  intro c
  have hr : Onward (init 60 1000 none) c := Onward.start.run fun d _ x => Nat.le_add_right x d
  have hlong : c.instant = none := by decide +kernel
  have hp : c.log.pending = [⟨⟨"b", false⟩, 1⟩, ⟨⟨"c", true⟩, 2⟩, ⟨⟨"d", false⟩, 3⟩] := by
    decide +kernel
  have hf : c.fetches = [⟨⟨"b", false⟩, 1⟩] := by decide +kernel
  have hh : c.Hits (.cancel "b") ⟨⟨"b", false⟩, 1⟩ .cancelled := by
    refine .cancel (hp ▸ List.mem_cons_self ..) ?_
    rw [hp]
    decide
  obtain ⟨-, hpending, hnext, -⟩ := hit_ends_alone hr hlong hp hf hh
  exact ⟨hr, hlong, hp, hf, hh, hpending, (hnext rfl).2⟩

end Tombola.Token.Cache
