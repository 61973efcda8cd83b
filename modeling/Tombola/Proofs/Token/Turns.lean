import Mathlib.Data.List.TakeWhile
import Tombola.Token.Cache
/-!
# Calls take turns

The machine keeps a lock, a line in front of it, and the calls that were let in, and nothing
in the type of its states ties these together.  What ties them together is an invariant: the
lock is held exactly while a call is inside, at most one call is, the calls that wait
according to the history are the one inside and behind it those of the line, and they stand
in the order in which they were made.  Every event and every move restores it, so it holds
wherever events and moves lead, in whatever order they come.

Where nothing can move by itself, the call inside can only be one whose fetch is running, and
without a call inside nobody can be left in the line.

Main statements:

* `Reach.ordered`: the invariant holds of all that is reached from the start;
* `oldest_call_fetches`: while calls wait, exactly one fetch is running, and it is the
  oldest call's; when none waits, the lock is free.
-/

namespace Tombola.Token

/-! ## 1. Who waits, in terms of the history -/

namespace History

variable {τ : Type}

theorem pending_endAll (h : History τ) (ts : List Ticket) (o : Outcome) (now : τ) :
    pending (h ++ ts.map (.ended · o now)) = (pending h).filter (· ∉ ts) := by
  induction ts generalizing h with
  | nil =>
    have hall : (pending h).filter (· ∉ ([] : List Ticket)) = pending h :=
      List.filter_eq_self.mpr fun _ _ => decide_eq_true List.not_mem_nil
    rw [hall, List.map_nil, List.append_nil]
  | cons t ts ih =>
    have hcons : h ++ (t :: ts).map (Note.ended · o now)
        = (h ++ [.ended t o now]) ++ ts.map (.ended · o now) := by simp
    rw [hcons, ih, pending_ended, List.filter_filter]
    refine List.filter_congr fun u _ => ?_
    simp only [List.mem_cons, not_or, Bool.decide_and]
    exact Bool.and_comm _ _

end History

namespace Cache

variable {τ : Type}

/-! ## 2. The invariant -/

/-- The lock, the calls inside, the line and the history fit together. -/
structure Ordered (c : Cache τ) : Prop where
  /-- The lock is held exactly while a call is inside, and then one call is. -/
  inside_length : c.inside.length = if c.held then 1 else 0
  /-- Nobody waits for a lock of another loop, and nobody holds it. -/
  stale_free : ∀ l, c.lock = some l → l.loop ≠ c.loop → l.isFree = true
  /-- The history and the state agree about who waits. -/
  pending_eq : c.log.pending = c.queue
  /-- The calls that wait stand in the order in which they were made. -/
  increasing : c.queue.Pairwise (·.number < ·.number)
  /-- Their numbers have been given out. -/
  below : ∀ t ∈ c.queue, t.number < c.calls

theorem init_ordered (ttl now : τ) (instant : Option (Nat → Except Failure Text)) :
    (init ttl now instant).Ordered where
  inside_length := rfl
  stale_free := by simp [init]
  pending_eq := rfl
  increasing := List.Pairwise.nil
  below := by simp [init, queue, line]

/-- Who leaves is gone from the line and from inside, and nobody else is. -/
theorem queue_leave (c : Cache τ) (who : Ticket → Bool) (o : Outcome) :
    (c.leave who o).queue = c.queue.filter (! who ·) := by
  cases hl : c.lock with
  | none => simp [Cache.leave, queue, line, hl, List.filter_map, Function.comp_def]
  | some l =>
    by_cases ha : c.inside.any (who ·.1) = true <;>
      simp [Cache.leave, queue, line, hl, ha, Lock.withdraw, Lock.giveBack, List.filter_map,
        Function.comp_def]

theorem answerFirst_map_fst (r : Except Failure Text) (xs : List (Ticket × Stage)) :
    (answerFirst r xs).map (·.1) = xs.map (·.1) := by
  fun_induction answerFirst r xs <;> simp_all

namespace Ordered

variable {c : Cache τ}

theorem inside_of_held (h : c.Ordered) (hh : c.held = true) : ∃ x, c.inside = [x] := by
  have := h.inside_length
  rw [if_pos hh] at this
  exact List.length_eq_one_iff.mp this

theorem inside_of_not_held (h : c.Ordered) (hh : c.held = false) : c.inside = [] := by
  have := h.inside_length
  rw [if_neg (by simp [hh])] at this
  exact List.length_eq_zero_iff.mp this

theorem not_held_of_inside (h : c.Ordered) (hi : c.inside = []) : c.held = false := by
  cases hh : c.held with
  | false => rfl
  | true =>
    obtain ⟨x, hx⟩ := h.inside_of_held hh
    rw [hi] at hx
    cases hx

/-- Who is inside is there alone, and holds the lock. -/
theorem alone (h : c.Ordered) {pre post : List (Ticket × Stage)} {x : Ticket × Stage}
    (hi : c.inside = pre ++ x :: post) : pre = [] ∧ post = [] ∧ c.held = true := by
  have hl := h.inside_length
  rw [hi, List.length_append, List.length_cons] at hl
  split at hl
  · rename_i hh
    exact ⟨List.length_eq_zero_iff.mp (by omega), List.length_eq_zero_iff.mp (by omega), hh⟩
  · omega

/-- The call inside does not stand in the line as well. -/
theorem not_mem_line (h : c.Ordered) {t : Ticket} {s : Stage} (hi : c.inside = [(t, s)]) :
    t ∉ c.line := by
  have hp := h.increasing
  rw [queue, hi] at hp
  intro ht
  exact absurd ((List.pairwise_cons.mp hp).1 t ht) (Nat.lt_irrefl _)

/-- The lock that a call of this loop asks for is the one that is held, with its line. -/
theorem loopLock_eq (h : c.Ordered) :
    c.loopLock.locked = c.held ∧ c.loopLock.line = c.line ∧ c.loopLock.loop = c.loop := by
  unfold loopLock held line
  cases hl : c.lock with
  | none => simp [Lock.fresh]
  | some l =>
    by_cases he : l.loop = c.loop
    · simp [he]
    · obtain ⟨h1, h2⟩ := Lock.isFree_iff.mp (h.stale_free l hl he)
      simp [he, h1, h2, Lock.fresh]

/-! ## 3. Events -/

theorem arrive (h : c.Ordered) (w : Waiter) : (c.arrive w).Ordered := by
  obtain ⟨hlock, hline, hloop⟩ := h.loopLock_eq
  have hinc : (c.queue ++ [(⟨w, c.calls⟩ : Ticket)]).Pairwise (·.number < ·.number) := by
    refine List.pairwise_append.mpr ⟨h.increasing, List.pairwise_singleton _ _, ?_⟩
    intro t ht u hu
    rw [List.mem_singleton.mp hu]
    exact h.below t ht
  have hbel : ∀ t ∈ c.queue ++ [(⟨w, c.calls⟩ : Ticket)], t.number < c.calls + 1 := by
    intro t ht
    rcases List.mem_append.mp ht with ht | ht
    · exact Nat.lt_succ_of_lt (h.below t ht)
    · rw [List.mem_singleton.mp ht]
      exact Nat.lt_succ_self _
  unfold Cache.arrive
  simp only
  split
  · rename_i hf
    obtain ⟨hf1, hf2⟩ := Lock.isFree_iff.mp hf
    have hin : c.inside = [] := h.inside_of_not_held (hlock ▸ hf1)
    have hq : c.queue = [] := by rw [queue, hin, ← hline, hf2]; rfl
    refine ⟨?_, ?_, ?_, ?_, ?_⟩
    · simp [hin, held, note, Lock.take]
    · simp [note, Lock.take, hloop]
    · rw [note, History.pending_called, h.pending_eq, hq]
      simp [queue, line, hin, Lock.take, hf2]
    · simp [note, queue, line, hin, Lock.take, hf2]
    · simp [note, queue, line, hin, Lock.take, hf2]
  · refine ⟨?_, ?_, ?_, ?_, ?_⟩
    · have hheld : c.held = c.loopLock.locked := hlock.symm
      have := h.inside_length
      rw [hheld] at this
      exact this
    · simp [note, Lock.join, hloop]
    · simp [note, queue, line, Lock.join, hline, h.pending_eq]
    · simpa [note, queue, line, Lock.join, hline] using hinc
    · simpa [note, queue, line, Lock.join, hline] using hbel

/-- Calls that leave take the lock with them only if they held it. -/
theorem leave (h : c.Ordered) (who : Ticket → Bool) (o : Outcome) :
    (c.leave who o).Ordered := by
  have hq := queue_leave c who o
  refine ⟨?_, ?_, ?_, ?_, ?_⟩
  · cases hh : c.held with
    | false =>
      have hin := h.inside_of_not_held hh
      cases hl : c.lock with
      | none => simp [Cache.leave, held, hin, hl]
      | some l =>
        have hll : l.locked = false := by simpa [held, hl] using hh
        simp [Cache.leave, held, hin, hl, Lock.withdraw, hll]
    | true =>
      obtain ⟨x, hin⟩ := h.inside_of_held hh
      cases hl : c.lock with
      | none => simp [held, hl] at hh
      | some l =>
        have hll : l.locked = true := by simpa [held, hl] using hh
        cases hw : who x.1 <;>
          simp [Cache.leave, held, hin, hl, hw, Lock.withdraw, Lock.giveBack, hll]
  · intro l hl hne
    obtain ⟨l₀, hl₀, rfl⟩ := Option.map_eq_some_iff.mp hl
    by_cases ha : c.inside.any (who ·.1) = true
    · simp only [if_pos ha] at hne ⊢
      exact Lock.giveBack_free (Lock.withdraw_free (h.stale_free l₀ hl₀ hne) who)
    · simp only [if_neg ha] at hne ⊢
      exact Lock.withdraw_free (h.stale_free l₀ hl₀ hne) who
  · rw [hq, Cache.leave, History.pending_endAll, h.pending_eq]
    refine List.filter_congr fun t ht => ?_
    simp [ht]
  · rw [hq]
    exact List.Pairwise.filter _ h.increasing
  · intro t ht
    rw [hq] at ht
    exact h.below t (List.mem_filter.mp ht).1

theorem answer (h : c.Ordered) (r : Except Failure Text) : (c.answer r).Ordered := by
  have hf := answerFirst_map_fst r c.inside
  have hlen : (answerFirst r c.inside).length = c.inside.length := by
    have := congrArg List.length hf
    simpa using this
  have hq : (c.answer r).queue = c.queue := by
    simp only [queue, Cache.answer, hf]
    rfl
  refine ⟨?_, h.stale_free, ?_, ?_, ?_⟩
  · exact hlen.trans h.inside_length
  · rw [hq]; exact h.pending_eq
  · rw [hq]; exact h.increasing
  · rw [hq]; exact h.below

/-- **Every event restores the invariant.** -/
theorem happen [Add τ] (h : c.Ordered) (e : Event τ) : (c.happen e).Ordered := by
  cases e with
  | call ws =>
    simp only [Cache.happen]
    induction ws generalizing c with
    | nil => exact h
    | cons w ws ih => exact ih (h.arrive w)
  | advance d => exact ⟨h.inside_length, h.stale_free, h.pending_eq, h.increasing, h.below⟩
  | release token => exact h.answer _
  | fail f => exact h.answer _
  | cancel id =>
    simp only [Cache.happen]
    exact h.leave _ _
  | expire id =>
    simp only [Cache.happen]
    exact h.leave _ _
  | mode instant => exact ⟨h.inside_length, h.stale_free, h.pending_eq, h.increasing, h.below⟩
  | newLoop =>
    have ho := h.leave (fun _ => true) .cancelled
    have hnil : (c.leave (fun _ => true) .cancelled).queue = [] := by simp [queue_leave]
    have hin : (c.leave (fun _ => true) .cancelled).inside = [] :=
      List.map_eq_nil_iff.mp (List.append_eq_nil_iff.mp hnil).1
    have hline := (List.append_eq_nil_iff.mp hnil).2
    have hheld := ho.not_held_of_inside hin
    refine ⟨ho.inside_length, ?_, ?_, ho.increasing, ho.below⟩
    · intro l hl _
      refine Lock.isFree_iff.mpr ⟨?_, ?_⟩
      · simpa [held, show (c.leave (fun _ => true) .cancelled).lock = some l from hl] using hheld
      · simpa [line, show (c.leave (fun _ => true) .cancelled).lock = some l from hl] using hline
    · exact (History.pending_looped _).trans hnil.symm

/-! ## 4. Moves -/

/-- Who comes out was the first of those that wait, and the lock is free then. -/
theorem exit (h : c.Ordered) {pre post : List (Ticket × Stage)} {t : Ticket} {s : Stage}
    (hi : c.inside = pre ++ (t, s) :: post) (o : Outcome) :
    (c.exit (pre ++ post) t o).Ordered := by
  obtain ⟨rfl, rfl, hh⟩ := h.alone hi
  have hi : c.inside = [(t, s)] := hi
  have hnm := h.not_mem_line hi
  have hqc : c.queue = t :: c.line := by rw [queue, hi]; rfl
  have hq : (c.exit [] t o).queue = c.line := by
    rw [queue, line_exit]
    rfl
  refine ⟨?_, ?_, ?_, ?_, ?_⟩
  · cases hl : c.lock <;> simp [Cache.exit, note, held, hl, Lock.giveBack]
  · intro l hl hne
    obtain ⟨l₀, hl₀, rfl⟩ := Option.map_eq_some_iff.mp hl
    exact Lock.giveBack_free (h.stale_free l₀ hl₀ hne)
  · rw [List.nil_append, hq, Cache.exit, note, History.pending_ended, h.pending_eq, hqc]
    have hne : ∀ u ∈ c.line, u ≠ t := fun u hu e => hnm (e ▸ hu)
    simp only [ne_eq, decide_not, List.filter_cons, decide_true, Bool.not_true,
      Bool.false_eq_true, if_false]
    exact List.filter_eq_self.mpr fun u hu => by simp [hne u hu]
  · rw [List.nil_append, hq]
    have hp := h.increasing
    rw [hqc] at hp
    exact (List.pairwise_cons.mp hp).2
  · rw [List.nil_append, hq]
    intro u hu
    exact h.below u (hqc ▸ List.mem_cons_of_mem _ hu)

theorem ask (h : c.Ordered) {pre post : List (Ticket × Stage)} {t : Ticket} {s : Stage}
    (hi : c.inside = pre ++ (t, s) :: post) (s' : Stage) :
    ({ c with inside := pre ++ (t, s') :: post }.note (.asked t)).Ordered := by
  have hq : ({ c with inside := pre ++ (t, s') :: post }.note (.asked t)).queue = c.queue := by
    simp [queue, note, line, hi]
  have hlen : (pre ++ (t, s') :: post).length = c.inside.length := by simp [hi]
  refine ⟨?_, h.stale_free, ?_, ?_, ?_⟩
  · exact hlen.trans h.inside_length
  · rw [hq, note, History.pending_asked]
    exact h.pending_eq
  · rw [hq]; exact h.increasing
  · rw [hq]; exact h.below

theorem keep [Add τ] (h : c.Ordered) (t : Ticket) (token : Text) : (c.keep t token).Ordered := by
  refine ⟨h.inside_length, h.stale_free, ?_, h.increasing, h.below⟩
  rw [Cache.keep, note, History.pending_fetched]
  exact h.pending_eq

/-- The first of the line is let in where nobody is. -/
theorem letIn (h : c.Ordered) {c' : Cache τ} (hm : c.letIn? = some c') : c'.Ordered := by
  unfold letIn? at hm
  split at hm
  · rename_i t l hb
    obtain ⟨l₀, hl₀, hn⟩ := Option.bind_eq_some_iff.mp hb
    obtain ⟨hfree, rest, hline, rfl⟩ := Lock.next?_eq_some.mp hn
    have hh : c.held = false := by simp [held, hl₀, hfree]
    have hin := h.inside_of_not_held hh
    have hloop : l₀.loop = c.loop := by
      by_cases hne : l₀.loop = c.loop
      · exact hne
      · have hnil := (Lock.isFree_iff.mp (h.stale_free l₀ hl₀ hne)).2
        rw [hline] at hnil
        cases hnil
    cases hm
    have hq : ({ c with
          lock := some { l₀ with locked := true, line := rest },
          inside := c.inside ++ [(t, .entered)] } : Cache τ).queue = c.queue := by
      simp [queue, line, hin, hl₀, hline]
    refine ⟨?_, ?_, ?_, ?_, ?_⟩
    · simp [held, hin]
    · intro l hl hne
      cases hl
      exact absurd hloop hne
    · rw [hq]; exact h.pending_eq
    · rw [hq]; exact h.increasing
    · rw [hq]; exact h.below
  · cases hm

variable [Add τ] [LT τ] [DecidableLT τ]

theorem turn (h : c.Ordered) {pre post : List (Ticket × Stage)} {t : Ticket} {s : Stage}
    (hi : c.inside = pre ++ (t, s) :: post) : (c.turn pre t s post).Ordered := by
  cases s with
  | entered =>
    simp only [Cache.turn]
    split
    · exact h.exit hi _
    · exact h.ask hi _
  | fetching => exact h
  | answered r =>
    cases r with
    | ok token => exact (h.keep t token).exit hi _
    | error f => exact h.exit hi _

/-- **Every move restores the invariant.** -/
theorem move (h : c.Ordered) {c' : Cache τ} (hm : c.move? = some c') : c'.Ordered := by
  rcases move?_cases hm with ⟨pre, t, s, post, hi, -, rfl⟩ | hl
  · exact h.turn hi
  · exact h.letIn hl

end Ordered

/-! ## 5. What is reached -/

variable [Add τ] [LT τ] [DecidableLT τ]

/-- What an event and a move both keep holds wherever they lead. -/
theorem Reach.ordered {start c : Cache τ} (h : Reach start c) (hs : start.Ordered) :
    c.Ordered := by
  induction h with
  | start => exact hs
  | event e _ ih => exact ih.happen e
  | move _ hm ih => exact ih.move hm

/-- **A state in which nothing can move by itself**: the call inside is fetching, or nobody
waits. -/
theorem Ordered.of_quiet {c : Cache τ} (h : c.Ordered) (hq : c.move? = none) :
    (∃ t, c.inside = [(t, .fetching)]) ∨ (c.inside = [] ∧ c.line = []) := by
  unfold move? at hq
  split at hq
  · cases hq
  · rename_i hd
    have hall := List.dropWhile_eq_nil_iff.mp hd
    cases hh : c.held with
    | true =>
      obtain ⟨⟨t, s⟩, hi⟩ := h.inside_of_held hh
      have hs : s.isFetching = true := hall (t, s) (by simp [hi])
      cases s with
      | fetching => exact .inl ⟨t, hi⟩
      | entered => cases hs
      | answered r => cases hs
    | false =>
      refine .inr ⟨h.inside_of_not_held hh, ?_⟩
      cases hl : c.lock with
      | none => simp [line, hl]
      | some l =>
        have hll : l.locked = false := by simpa [held, hl] using hh
        have hn : l.next? = none := by
          cases hn : l.next? with
          | none => rfl
          | some x => simp [letIn?, hl, hn] at hq
        rcases Lock.next?_eq_none.mp hn with hlk | hline
        · rw [hll] at hlk; cases hlk
        · simpa [line, hl] using hline

/-- **The oldest of the calls that wait fetches, and nobody else does.**  In every state that
is reached from the start by events and moves in any order, and in which nothing can move by
itself: at most one fetch is running; while calls of the loop wait, exactly one is, it is that
of the call that was made first, and the others stand in the line in the order in which they
were made; and when no call waits, the lock is free and the next call is let in at once. -/
theorem oldest_call_fetches {ttl now : τ} {instant : Option (Nat → Except Failure Text)}
    {c : Cache τ} (h : Reach (init ttl now instant) c) (hq : c.move? = none) :
    c.fetches.length ≤ 1 ∧
    (c.log.pending ≠ [] → ∃ t rest, c.log.pending = t :: rest ∧ c.fetches = [t] ∧
      c.line = rest ∧ (t :: rest).Pairwise (·.number < ·.number)) ∧
    (c.log.pending = [] → c.fetches = [] ∧ c.loopLock.isFree = true ∧
      ∀ w, (c.happen (.call [w])).inside = [(⟨w, c.calls⟩, .entered)]) := by
  have ho := h.ordered (init_ordered ttl now instant)
  rcases ho.of_quiet hq with ⟨t, hi⟩ | ⟨hi, hline⟩
  · have hf : c.fetches = [t] := by simp [fetches, hi, Stage.isFetching]
    have hp : c.log.pending = t :: c.line := by rw [ho.pending_eq, queue, hi]; rfl
    have hinc := ho.increasing
    rw [← ho.pending_eq, hp] at hinc
    refine ⟨by simp [hf], fun _ => ⟨t, c.line, hp, hf, rfl, hinc⟩, fun hn => ?_⟩
    rw [hp] at hn
    cases hn
  · have hf : c.fetches = [] := by simp [fetches, hi]
    have hp : c.log.pending = [] := by rw [ho.pending_eq, queue, hi, hline]; rfl
    have hheld := ho.not_held_of_inside hi
    obtain ⟨h1, h2, -⟩ := ho.loopLock_eq
    have hfree : c.loopLock.isFree = true :=
      Lock.isFree_iff.mpr ⟨h1.trans hheld, h2.trans hline⟩
    refine ⟨by simp [hf], fun hn => absurd hp hn, fun _ => ⟨hf, hfree, fun w => ?_⟩⟩
    simp [happen, arrive, hfree, hi, note]

/-- A call that is given up while it fetches makes room for the next one. -/
theorem oldest_call_fetches_given_up :
    let c : Cache Nat := (init 60 1000 none).run
      [.newLoop, .call [⟨"a", false⟩, ⟨"b", false⟩, ⟨"c", true⟩], .cancel "a", .expire "c",
        .call [⟨"d", false⟩]]
    Reach (init 60 1000 none) c ∧ c.move? = none ∧ c.fetches = [⟨⟨"b", false⟩, 1⟩] ∧
      c.line = [⟨⟨"d", false⟩, 3⟩] ∧ c.fetches.length ≤ 1 := by
  intro c
  have hr : Reach (init 60 1000 none) c := Reach.start.run _
  have hq : c.move? = none := run_quiet (init_quiet 60 1000 none) _
  exact ⟨hr, hq, by decide +kernel, by decide +kernel, (oldest_call_fetches hr hq).1⟩

end Cache

end Tombola.Token
