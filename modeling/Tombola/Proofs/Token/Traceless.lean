import Mathlib.Data.List.Pairwise
import Tombola.Proofs.Token.Onward
import Tombola.Proofs.Token.Without
/-!
# Who gives up in the line leaves no trace

A call that waits in the line may be cancelled there, or its time runs out.  The others then fare
as if it had never been made: they are served, fail and wait as they would, and start the same
fetches, and the lease is the same after every step.  Only the numbers of the calls that were made
after it are one less.

A step is an event and all the moves that follow it.  While the call stands in the line, no move
lets it in, and when it is gone, nobody knows its number; so in both cases a step comes to the
same with and without it.

Main statements:

* `without_step`: steps, while the call stands in the line, with the one that takes it out of it,
  and after that;
* `giving_up_leaves_no_trace`: whole runs.
-/

namespace Tombola.Token

variable {τ : Type}

/-! ## 1. What events and notes are about -/

/-- Whether an event gives up a call that waits: it is cancelled, its time runs out, or its loop
ends. -/
def Event.givesUp : Event τ → Ticket → Bool
  | .cancel id, t => t.id = id
  | .expire id, t => t.id = id && t.bounded
  | .newLoop, _ => true
  | _, _ => false

/-- Whether what is noted is about one of the calls with a number below a bound. -/
def Note.Below (bound : Nat) : Note τ → Prop
  | .called t => t.number < bound
  | .asked t => t.number < bound
  | .fetched t _ _ => t.number < bound
  | .ended t _ _ => t.number < bound
  | .looped => True

theorem Note.Below.mono {bound bound' : Nat} (hle : bound ≤ bound') {note : Note τ}
    (h : note.Below bound) : note.Below bound' := by
  cases note with
  | called t => exact Nat.lt_of_lt_of_le h hle
  | asked t => exact Nat.lt_of_lt_of_le h hle
  | fetched t token now => exact Nat.lt_of_lt_of_le h hle
  | ended t o now => exact Nat.lt_of_lt_of_le h hle
  | looped => trivial

/-- What is noted about earlier calls is noted without a later one. -/
theorem Note.Below.without? {bound : Nat} {note : Note τ} (h : note.Below bound) :
    note.without? bound = some note := by
  cases note with
  | called t => simp [Note.without?, Ticket.without?_of_lt h]
  | asked t => simp [Note.without?, Ticket.renumbered_of_lt h]
  | fetched t token now => simp [Note.without?, Ticket.renumbered_of_lt h]
  | ended t o now => simp [Note.without?, Ticket.without?_of_lt h]
  | looped => rfl

namespace Cache

variable {n : Nat} {c : Cache τ}

/-! ## 2. Whether the call waits -/

section Waits

/-- Whether the call number `n` stands in the line. -/
def Waits (n : Nat) (c : Cache τ) : Prop := ∃ t ∈ c.line, t.number = n

/-- Whether the call number `n` has ended. -/
def Gone (n : Nat) (c : Cache τ) : Prop := ∀ t ∈ c.queue, t.number ≠ n

theorem Gone.outside (h : c.Gone n) : c.Outside n :=
  fun _ hx => h _ (List.mem_append_left _ (List.mem_map_of_mem hx))

/-- Who stands in the line is not inside as well. -/
theorem Waits.outside (h : c.Waits n) (ho : c.Ordered) : c.Outside n := by
  obtain ⟨t, ht, rfl⟩ := h
  intro x hx
  have hlt := (List.pairwise_append.mp ho.increasing).2.2 x.1 (List.mem_map_of_mem hx) t ht
  exact Nat.ne_of_lt hlt

theorem mem_line_of_loopLock {t : Ticket} (h : t ∈ c.loopLock.line) : t ∈ c.line := by
  unfold loopLock at h
  split at h
  · rename_i l hl
    split at h
    · simpa [line, hl] using h
    · cases h
  · cases h

theorem line_leave (who : Ticket → Bool) (o : Outcome) (c : Cache τ) :
    (c.leave who o).line = c.line.filter (! who ·) := by
  cases hl : c.lock with
  | none => simp [Cache.leave, line, hl]
  | some l =>
    by_cases ha : c.inside.any (who ·.1) = true <;>
      simp [Cache.leave, line, hl, ha, Lock.withdraw, Lock.giveBack]

theorem Waits.of_leave {who : Ticket → Bool} {o : Outcome} (h : (c.leave who o).Waits n) :
    c.Waits n := by
  obtain ⟨t, ht, htn⟩ := h
  rw [line_leave] at ht
  exact ⟨t, (List.mem_filter.mp ht).1, htn⟩

theorem Gone.leave (h : c.Gone n) (who : Ticket → Bool) (o : Outcome) : (c.leave who o).Gone n := by
  intro t ht
  rw [queue_leave] at ht
  exact h t (List.mem_filter.mp ht).1

theorem Waits.of_arrive {w : Waiter} (hn : n < c.calls) (h : (c.arrive w).Waits n) :
    c.Waits n := by
  obtain ⟨t, ht, rfl⟩ := h
  unfold arrive at ht
  simp only at ht
  split at ht
  · exact ⟨t, mem_line_of_loopLock ht, rfl⟩
  · rcases List.mem_append.mp ht with ht | ht
    · exact ⟨t, mem_line_of_loopLock ht, rfl⟩
    · rw [List.mem_singleton.mp ht] at hn
      exact absurd hn (Nat.lt_irrefl _)

/-- A call that is made has a number of its own. -/
theorem Gone.arrive (hn : n < c.calls) (h : c.Gone n) (w : Waiter) : (c.arrive w).Gone n := by
  intro t ht htn
  rcases List.mem_append.mp ht with ht | ht
  · unfold Cache.arrive at ht
    simp only at ht
    split at ht
    · rw [note, List.map_append] at ht
      rcases List.mem_append.mp ht with ht | ht
      · exact h t (List.mem_append_left _ ht) htn
      · rw [List.mem_singleton.mp ht] at htn
        exact absurd htn (Nat.ne_of_gt hn)
    · exact h t (List.mem_append_left _ ht) htn
  · obtain ⟨u, hu, hun⟩ := Waits.of_arrive hn ⟨t, ht, htn⟩
    exact h u (List.mem_append_right _ hu) hun

theorem Gone.answer (h : c.Gone n) (r : Except Failure Text) : (c.answer r).Gone n := by
  have hq : (c.answer r).queue = c.queue := by
    simp only [queue, Cache.answer, answerFirst_map_fst]
    rfl
  rw [Gone, hq]
  exact h

theorem line_of_letIn? {c' : Cache τ} (h : c.letIn? = some c') :
    ∃ t, c.line = t :: c'.line ∧ c'.queue = c.queue := by
  unfold letIn? at h
  split at h
  · rename_i t l hb
    obtain ⟨l₀, hl₀, hnext⟩ := Option.bind_eq_some_iff.mp hb
    obtain ⟨-, rest, hline, rfl⟩ := Lock.next?_eq_some.mp hnext
    cases h
    exact ⟨t, by simp [line, hl₀, hline], by simp [queue, line, hl₀, hline]⟩
  · cases h

variable [Add τ] {e : Event τ}

/-- **Who stands in the line** did so before, unless it was made just now. -/
theorem Waits.of_happen (hn : n < c.calls) (h : (c.happen e).Waits n) : c.Waits n := by
  cases e with
  | call ws =>
    by_contra hc
    have hall := arriveAll_keeps (P := fun c => n < c.calls ∧ ¬ c.Waits n) (fun c w h =>
      ⟨h.1.trans_le (calls_le_arrive c w), fun hw => h.2 (hw.of_arrive h.1)⟩) ⟨hn, hc⟩ ws
    exact hall.2 h
  | advance d => exact h
  | release token => exact h
  | fail f => exact h
  | cancel id => exact Waits.of_leave h
  | expire id => exact Waits.of_leave h
  | mode instant => exact h
  | newLoop =>
    have hl : (c.leave (fun _ => true) .cancelled).Waits n := h
    exact hl.of_leave

/-- **Who has ended** does not come back. -/
theorem Gone.happen (hn : n < c.calls) (h : c.Gone n) (e : Event τ) : (c.happen e).Gone n := by
  cases e with
  | call ws =>
    have hall := arriveAll_keeps (P := fun c => n < c.calls ∧ c.Gone n) (fun c w h =>
      ⟨h.1.trans_le (calls_le_arrive c w), h.2.arrive h.1 w⟩) ⟨hn, h⟩ ws
    exact hall.2
  | advance d => exact h
  | release token => exact h.answer _
  | fail f => exact h.answer _
  | cancel id => exact h.leave _ _
  | expire id => exact h.leave _ _
  | mode instant => exact h
  | newLoop => exact h.leave (fun _ => true) .cancelled

variable [LT τ] [DecidableLT τ] {c' : Cache τ}

theorem line_turn (pre : List (Ticket × Stage)) (t : Ticket) (s : Stage)
    (post : List (Ticket × Stage)) (c : Cache τ) : (c.turn pre t s post).line = c.line := by
  cases s with
  | entered =>
    simp only [turn]
    split
    · exact line_exit ..
    · rfl
  | fetching => rfl
  | answered r =>
    cases r with
    | ok token => exact line_exit ..
    | error f => exact line_exit ..

theorem mem_queue_turn {pre post : List (Ticket × Stage)} {t u : Ticket} {s : Stage}
    (hi : c.inside = pre ++ (t, s) :: post) (hu : u ∈ (c.turn pre t s post).queue) :
    u ∈ c.queue := by
  have hout : u ∈ (pre ++ post).map (·.1) ++ c.line → u ∈ c.queue := by
    rw [queue, hi]
    simp only [List.map_append, List.map_cons, List.mem_append, List.mem_cons]
    rintro ((h | h) | h)
    · exact .inl (.inl h)
    · exact .inl (.inr (.inr h))
    · exact .inr h
  rw [queue, line_turn] at hu
  cases s with
  | entered =>
    simp only [turn] at hu
    split at hu
    · exact hout hu
    · rw [queue, hi]
      simpa [note] using hu
  | fetching => exact hu
  | answered r =>
    cases r with
    | ok token => exact hout hu
    | error f => exact hout hu

theorem Waits.of_move? (hm : c.move? = some c') (h : c'.Waits n) : c.Waits n := by
  rcases move?_cases hm with ⟨pre, t, s, post, -, -, rfl⟩ | hl
  · rw [Waits, line_turn] at h
    exact h
  · obtain ⟨t, ht, htn⟩ := h
    obtain ⟨u, hline, -⟩ := line_of_letIn? hl
    exact ⟨t, hline ▸ List.mem_cons_of_mem _ ht, htn⟩

theorem Gone.move? (h : c.Gone n) (hm : c.move? = some c') : c'.Gone n := by
  intro t ht
  rcases move?_cases hm with ⟨pre, u, s, post, hi, -, rfl⟩ | hl
  · exact h t (mem_queue_turn hi ht)
  · obtain ⟨-, -, hqueue⟩ := line_of_letIn? hl
    exact h t (hqueue ▸ ht)

theorem calls_turn (pre : List (Ticket × Stage)) (t : Ticket) (s : Stage)
    (post : List (Ticket × Stage)) (c : Cache τ) : (c.turn pre t s post).calls = c.calls := by
  cases s with
  | entered =>
    simp only [turn]
    split <;> rfl
  | fetching => rfl
  | answered r => cases r <;> rfl

theorem calls_move? (hm : c.move? = some c') : c'.calls = c.calls := by
  rcases move?_cases hm with ⟨pre, t, s, post, -, -, rfl⟩ | hl
  · exact calls_turn ..
  · obtain ⟨t, l, rfl⟩ := letIn?_eq_some hl
    rfl

/-- What every move keeps, all moves that follow keep. -/
theorem settle_keeps {P : Cache τ → Prop} (hmove : ∀ c c', c.move? = some c' → P c → P c')
    (h : P c) : P c.settle := by
  induction c using settle.induct with
  | case1 c c' hm ih =>
    rw [settle_of_some hm]
    exact ih (hmove c c' hm h)
  | case2 c hm => rwa [settle_of_none hm]

theorem calls_settle (c : Cache τ) : c.settle.calls = c.calls :=
  settle_keeps (P := fun c' => c'.calls = c.calls) (fun _ _ hm h => (calls_move? hm).trans h) rfl

theorem Waits.of_settle (h : c.settle.Waits n) : c.Waits n := by
  by_contra hc
  exact settle_keeps (P := fun c' => ¬ c'.Waits n) (fun _ _ hm h hw => h (hw.of_move? hm)) hc h

theorem Gone.settle (h : c.Gone n) : c.settle.Gone n :=
  settle_keeps (fun _ _ hm h => h.move? hm) h

end Waits

/-! ## 3. Steps -/

section Runs

variable [Add τ] [LT τ] [DecidableLT τ] {e : Event τ}

/-- Where nothing can move by itself, nobody waits for a lock that is free. -/
theorem Ordered.taken (h : c.Ordered) (hq : c.move? = none) : c.Taken := by
  obtain ⟨hlocked, hline, -⟩ := h.loopLock_eq
  rw [Taken, hlocked, hline]
  intro hne
  rcases h.of_quiet hq with ⟨t, hi⟩ | ⟨-, hnil⟩
  · by_contra hh
    rw [h.inside_of_not_held (Bool.not_eq_true _ ▸ hh)] at hi
    cases hi
  · exact absurd hnil hne

/-- **All moves that follow** come to the same with and without a call that still stands in the
line afterwards, or has ended before. -/
theorem without_settle (ho : c.Ordered) (h : c.settle.Waits n ∨ c.Gone n) :
    (c.without n).settle = c.settle.without n := by
  have hout : ∀ {c : Cache τ}, c.Ordered → c.Waits n ∨ c.Gone n → c.Outside n :=
    fun ho h => h.elim (·.outside ho) (·.outside)
  induction c using settle.induct with
  | case1 c c' hm ih =>
    rw [settle_of_some hm] at h
    have h' : c'.settle.Waits n ∨ c'.Gone n := h.imp_right (·.move? hm)
    have hwaits : c'.Waits n ∨ c'.Gone n := h'.imp_left (·.of_settle)
    have hmove : (c.without n).move? = some (c'.without n) := by
      rw [without_move?, hm]
      · rfl
      · exact hout ho (h.imp_left (·.of_settle.of_move? hm))
      · intro c'' hm'
        obtain rfl : c' = c'' := Option.some.inj (hm.symm.trans hm')
        exact hout (ho.move hm) hwaits
    rw [settle_of_some hm, settle_of_some hmove, ih (ho.move hm) h']
  | case2 c hm =>
    have hmove : (c.without n).move? = none := by
      rw [without_move?, hm]
      · rfl
      · rw [settle_of_none hm] at h
        exact hout ho h
      · intro c' hm'
        rw [hm] at hm'
        cases hm'
    rw [settle_of_none hm, settle_of_none hmove]

omit [LT τ] [DecidableLT τ] in
theorem calls_le_happen (c : Cache τ) (e : Event τ) : c.calls ≤ (c.happen e).calls := by
  cases e with
  | call ws =>
    exact arriveAll_keeps (P := fun c' => c.calls ≤ c'.calls)
      (fun c' w h => h.trans (calls_le_arrive c' w)) (Nat.le_refl _) ws
  | advance d => exact Nat.le_refl _
  | release token => exact Nat.le_refl _
  | fail f => exact Nat.le_refl _
  | cancel id => exact Nat.le_refl _
  | expire id => exact Nat.le_refl _
  | mode instant => exact Nat.le_refl _
  | newLoop => exact Nat.le_refl _

theorem calls_le_step (c : Cache τ) (e : Event τ) : c.calls ≤ (c.step e).calls := by
  rw [step, calls_settle]
  exact calls_le_happen c e

/-- **A step** comes to the same with and without a call that stands in the line and does so
afterwards, or is given up or has ended before. -/
theorem without_step (ho : c.Ordered) (hq : c.move? = none) (hn : n < c.calls)
    (hc : c.Waits n ∨ c.Gone n) (he : (c.step e).Waits n ∨ (c.happen e).Gone n) :
    (c.without n).step e = (c.step e).without n := by
  have hout : c.Outside n := hc.elim (·.outside ho) (·.outside)
  rw [step, without_happen hn hout (ho.taken hq), without_settle (ho.happen e) he, step]

theorem run_append (c : Cache τ) (es es' : List (Event τ)) :
    c.run (es ++ es') = (c.run es).run es' := List.foldl_append

theorem calls_le_run (c : Cache τ) (es : List (Event τ)) : c.calls ≤ (c.run es).calls := by
  induction es generalizing c with
  | nil => exact Nat.le_refl _
  | cons e es ih => exact (calls_le_step c e).trans (ih _)

theorem Waits.of_run {es : List (Event τ)} (hn : n < c.calls) (h : (c.run es).Waits n) :
    c.Waits n := by
  induction es generalizing c with
  | nil => exact h
  | cons e es ih =>
    exact (ih (Nat.lt_of_lt_of_le hn (calls_le_step c e)) h).of_settle.of_happen hn

/-- **A run** comes to the same with and without a call that stands in the line to its end, or
has ended before it. -/
theorem without_run {es : List (Event τ)} (ho : c.Ordered) (hq : c.move? = none)
    (hn : n < c.calls) (h : (c.run es).Waits n ∨ c.Gone n) :
    (c.without n).run es = (c.run es).without n := by
  induction es generalizing c with
  | nil => rfl
  | cons e es ih =>
    have hn' : n < (c.step e).calls := Nat.lt_of_lt_of_le hn (calls_le_step c e)
    have ho' : (c.step e).Ordered := (Reach.start.step e).ordered ho
    have hnow : c.Waits n ∨ c.Gone n := h.imp_left (Waits.of_run hn)
    have hnext : (c.step e).Waits n ∨ (c.happen e).Gone n :=
      h.imp (Waits.of_run hn') (·.happen hn e)
    have hstep : (c.without n).step e = (c.step e).without n := without_step ho hq hn hnow hnext
    have hrest := ih ho' (settle_quiet _) hn' (h.imp_right fun hg => (hg.happen hn e).settle)
    rw [run, List.foldl_cons, hstep]
    exact hrest

end Runs

/-! ## 4. The call is made -/

section Made

/-- Everything noted is about calls that were made. -/
def Recorded (c : Cache τ) : Prop := ∀ note ∈ c.log, note.Below c.calls

theorem Recorded.note (h : c.Recorded) {note : Note τ} (hnote : note.Below c.calls) :
    (c.note note).Recorded := by
  intro m hm
  rcases List.mem_append.mp hm with hm | hm
  · exact h m hm
  · rw [List.mem_singleton.mp hm]
    exact hnote

theorem Recorded.arrive (h : c.Recorded) (w : Waiter) : (c.arrive w).Recorded := by
  have hnoted : ({ c with calls := c.calls + 1 }.note (.called ⟨w, c.calls⟩)).Recorded :=
    Recorded.note (c := { c with calls := c.calls + 1 })
      (fun m hm => (h m hm).mono (Nat.le_succ _)) (Nat.lt_succ_self c.calls)
  unfold Cache.arrive
  simp only
  split
  · exact hnoted
  · exact hnoted

theorem Recorded.leave (h : c.Recorded) (ho : c.Ordered) (who : Ticket → Bool) (o : Outcome) :
    (c.leave who o).Recorded := by
  intro m hm
  rcases List.mem_append.mp hm with hm | hm
  · exact h m hm
  · obtain ⟨t, ht, rfl⟩ := List.mem_map.mp hm
    exact ho.below t (List.mem_filter.mp ht).1

theorem Recorded.happen [Add τ] (h : c.Recorded) (ho : c.Ordered) (e : Event τ) :
    (c.happen e).Recorded := by
  cases e with
  | call ws => exact arriveAll_keeps (fun _ w h => h.arrive w) h ws
  | advance d => exact h
  | release token => exact h
  | fail f => exact h
  | cancel id => exact h.leave ho _ _
  | expire id => exact h.leave ho _ _
  | mode instant => exact h
  | newLoop =>
    have hl := h.leave ho (fun _ => true) .cancelled
    exact Recorded.note (c := { c.leave (fun _ => true) .cancelled with loop := c.loop + 1 }) hl
      trivial

variable [Add τ] [LT τ] [DecidableLT τ]

theorem Recorded.turn (h : c.Recorded) {pre post : List (Ticket × Stage)} {t : Ticket} {s : Stage}
    (ht : t.number < c.calls) : (c.turn pre t s post).Recorded := by
  cases s with
  | entered =>
    simp only [Cache.turn]
    split
    · exact h.note (c := c) ht
    · exact h.note (c := c) ht
  | fetching => exact h
  | answered r =>
    cases r with
    | ok token =>
      have hkept : (c.keep t token).Recorded := h.note ht
      exact hkept.note ht
    | error f => exact h.note (c := c) ht

theorem Recorded.move? {c' : Cache τ} (h : c.Recorded) (ho : c.Ordered)
    (hm : c.move? = some c') : c'.Recorded := by
  rcases move?_cases hm with ⟨pre, t, s, post, hi, -, rfl⟩ | hl
  · have ht : t ∈ c.queue := by
      rw [queue, hi]
      simp
    exact h.turn (ho.below t ht)
  · obtain ⟨t, l, rfl⟩ := letIn?_eq_some hl
    exact h

/-- **What is noted is about calls that were made**, wherever events and moves lead. -/
theorem Reach.recorded {start : Cache τ} (h : Reach start c) (ho : start.Ordered)
    (hs : start.Recorded) : c.Recorded := by
  induction h with
  | start => exact hs
  | event e hr ih => exact ih.happen (hr.ordered ho) e
  | move hr hm ih => exact ih.move? (hr.ordered ho) hm

omit [Add τ] [LT τ] [DecidableLT τ] in
theorem lock_of_not_free (h : ¬ c.loopLock.isFree = true) : c.lock = some c.loopLock := by
  unfold loopLock at h ⊢
  split at h
  · rename_i l hl
    split at h
    · rename_i hloop
      simp [hl, hloop]
    · exact absurd rfl h
  · exact absurd rfl h

omit [Add τ] [LT τ] [DecidableLT τ] in
/-- Who gets the lock does not stand in the line. -/
theorem not_free_of_waits {w : Waiter} (h : (c.arrive w).Waits c.calls) :
    ¬ c.loopLock.isFree = true := by
  intro hfree
  obtain ⟨t, ht, -⟩ := h
  have hline : (c.arrive w).line = c.loopLock.line := by
    unfold arrive
    simp only [if_pos hfree]
    rfl
  rw [hline, (Lock.isFree_iff.mp hfree).2] at ht
  cases ht

omit [Add τ] [LT τ] [DecidableLT τ] in
/-- A call that goes to the end of the line changes nothing else. -/
theorem without_arrive_self {w : Waiter} (ho : c.Ordered) (hr : c.Recorded)
    (h : (c.arrive w).Waits c.calls) : (c.arrive w).without c.calls = c := by
  have hfree := not_free_of_waits h
  have hself : Ticket.without? c.calls ⟨w, c.calls⟩ = none := Ticket.without?_self rfl
  have hlog : History.without c.calls (c.log ++ [.called ⟨w, c.calls⟩]) = c.log := by
    have hold : c.log.without c.calls = c.log := by
      rw [History.without, List.filterMap_congr fun m hm => (hr m hm).without?,
        List.filterMap_some]
    rw [History.without_append, hold]
    simp [History.without, Note.without?, hself]
  have hin : (c.inside.map fun x => (x.1.renumbered c.calls, x.2)) = c.inside := by
    refine (List.map_congr_left fun x hx => ?_).trans (List.map_id _)
    have hx' : x.1 ∈ c.queue := List.mem_append_left _ (List.mem_map_of_mem hx)
    rw [Ticket.renumbered_of_lt (ho.below _ hx')]
    rfl
  have hline : (c.loopLock.join ⟨w, c.calls⟩).without c.calls = c.loopLock := by
    have hold : ∀ t ∈ c.loopLock.line, t.without? c.calls = some t := fun t ht =>
      Ticket.without?_of_lt (ho.below t (List.mem_append_right _ (mem_line_of_loopLock ht)))
    rw [Lock.without, Lock.join, List.filterMap_append, List.filterMap_congr hold,
      List.filterMap_some]
    simp [hself]
  unfold arrive
  simp only [if_neg hfree, without, note, Option.map_some, hline, hin, hlog, Nat.add_sub_cancel]
  rw [← lock_of_not_free hfree]

omit [LT τ] [DecidableLT τ] in
theorem calls_arriveAll (c : Cache τ) (ws : List Waiter) :
    (c.happen (.call ws)).calls = c.calls + ws.length := by
  simp only [happen]
  induction ws generalizing c with
  | nil => rfl
  | cons w ws ih =>
    rw [List.foldl_cons, ih, calls_arrive, List.length_cons]
    omega

omit [LT τ] [DecidableLT τ] in
theorem Taken.arriveAll (h : c.Taken) (ws : List Waiter) : (c.happen (.call ws)).Taken :=
  arriveAll_keeps (fun _ w h => h.arrive w) h ws

omit [LT τ] [DecidableLT τ] in
/-- **Calls are made, and one of them goes to the line:** without it, they are the others. -/
theorem without_batch {ws₁ ws₂ : List Waiter} {w : Waiter} (ho : c.Ordered) (hr : c.Recorded)
    (hc : c.Taken) (h : (c.happen (.call (ws₁ ++ w :: ws₂))).Waits (c.calls + ws₁.length)) :
    (c.happen (.call (ws₁ ++ w :: ws₂))).without (c.calls + ws₁.length) =
      c.happen (.call (ws₁ ++ ws₂)) := by
  have hmade : c.happen (.call (ws₁ ++ w :: ws₂)) =
      ((c.happen (.call ws₁)).arrive w).happen (.call ws₂) := by
    simp [happen]
  have hothers : c.happen (.call (ws₁ ++ ws₂)) = (c.happen (.call ws₁)).happen (.call ws₂) := by
    simp [happen]
  have ho₁ := ho.happen (.call ws₁)
  have hr₁ := hr.happen ho (.call ws₁)
  have hc₁ := hc.arriveAll ws₁
  rw [hmade, ← calls_arriveAll] at h ⊢
  rw [hothers]
  generalize c.happen (.call ws₁) = c₁ at *
  have hlt : c₁.calls < (c₁.arrive w).calls := by
    rw [calls_arrive]
    exact Nat.lt_succ_self _
  have hwaits : (c₁.arrive w).Waits c₁.calls := h.of_happen hlt
  rw [← without_happen hlt (hwaits.outside (ho₁.arrive w)) (hc₁.arrive w),
    without_arrive_self ho₁ hr₁ hwaits]

end Made

/-! ## 5. The call is given up -/

section GivenUp

/-- **The others fare the same** in a run (`c`) and in one in which the call number `n` was not made
(`c'`): the lease is the same, as many fetches were started, those of the same calls are running,
the same calls wait in the same order, and whoever has ended did so the same way at the same
instant. -/
structure SameBut (n : Nat) (c c' : Cache τ) : Prop where
  lease_eq : c'.lease = c.lease
  started_eq : c'.started = c.started
  fetches_eq : c'.fetches = c.fetches.map (Ticket.renumbered n)
  pending_eq : c'.log.pending = c.log.pending.filterMap (Ticket.without? n)
  outcome_eq : ∀ t : Ticket, t.number ≠ n →
    c'.log.outcome? (t.renumbered n) = c.log.outcome? t

theorem sameBut_without (n : Nat) (c : Cache τ) : SameBut n c (c.without n) where
  lease_eq := rfl
  started_eq := History.started_without n c.log
  fetches_eq := fetches_without n c
  pending_eq := History.pending_without n c.log
  outcome_eq := fun _ ht => History.outcome?_without ht c.log

theorem Ordered.eq_of_number (h : c.Ordered) {t u : Ticket} (ht : t ∈ c.queue) (hu : u ∈ c.queue)
    (he : u.number = t.number) : u = t := by
  by_contra hne
  have hdiff : c.queue.Pairwise (·.number ≠ ·.number) := h.increasing.imp Nat.ne_of_lt
  have hsymm : Std.Symm fun t u : Ticket => t.number ≠ u.number := ⟨fun _ _ => Ne.symm⟩
  exact hdiff.forall hu ht hne he

/-- Who is given up is gone. -/
theorem Ordered.gone_of_givesUp [Add τ] (h : c.Ordered) {t : Ticket} (ht : t ∈ c.queue)
    {e : Event τ} (he : e.givesUp t = true) : (c.happen e).Gone t.number := by
  have hleave : ∀ (who : Ticket → Bool) (o : Outcome), who t = true →
      (c.leave who o).Gone t.number := by
    intro who o hw u hu hun
    rw [queue_leave] at hu
    obtain ⟨hmem, hstays⟩ := List.mem_filter.mp hu
    rw [h.eq_of_number ht hmem hun, hw] at hstays
    cases hstays
  cases e with
  | cancel id => exact hleave _ _ he
  | expire id => exact hleave _ _ he
  | newLoop => exact hleave (fun _ => true) .cancelled rfl
  | call ws => cases he
  | advance d => cases he
  | release token => cases he
  | fail f => cases he
  | mode instant => cases he

theorem leave_of_nobody {who : Ticket → Bool} (h : ∀ t ∈ c.queue, who t = false) (o : Outcome) :
    c.leave who o = c := by
  have hin : ∀ x ∈ c.inside, who x.1 = false :=
    fun x hx => h _ (List.mem_append_left _ (List.mem_map_of_mem hx))
  have hinside : c.inside.filter (! who ·.1) = c.inside :=
    List.filter_eq_self.mpr fun x hx => by simp [hin x hx]
  have hany : c.inside.any (who ·.1) = false :=
    List.any_eq_false.mpr fun x hx => by simp [hin x hx]
  have hnone : c.queue.filter who = [] :=
    List.filter_eq_nil_iff.mpr fun t ht => by simp [h t ht]
  have hlock : (c.lock.map fun l => l.withdraw who) = c.lock := by
    cases hl : c.lock with
    | none => rfl
    | some l =>
      have hline : l.line.filter (! who ·) = l.line := by
        refine List.filter_eq_self.mpr fun t ht => ?_
        have ht' : t ∈ c.line := by simpa [line, hl] using ht
        simp [h t (List.mem_append_right _ ht')]
      simp [Lock.withdraw, hline]
  simp [leave, hinside, hany, hnone, hlock]

variable [Add τ] [LT τ] [DecidableLT τ]

/-- A step that gives up nobody, where nothing can move by itself, comes to nothing. -/
theorem step_of_nobody (hq : c.move? = none) {e : Event τ} {t : Ticket} (he : e.givesUp t = true)
    (hloop : e ≠ .newLoop) (h : ∀ u ∈ c.queue, e.givesUp u = false) : c.step e = c := by
  have hhappen : c.happen e = c := by
    cases e with
    | cancel id => exact leave_of_nobody h _
    | expire id => exact leave_of_nobody h _
    | newLoop => exact absurd rfl hloop
    | call ws => cases he
    | advance d => cases he
    | release token => cases he
    | fail f => cases he
    | mode instant => cases he
  rw [step, hhappen, settle_of_none hq]

/-- A call in the line is not the only one that waits, and a new loop ends them all. -/
theorem Ordered.not_newLoop (ho : c.Ordered) (hq : c.move? = none) {t : Ticket} (ht : t ∈ c.line)
    {e : Event τ} (h : ∀ u ∈ c.queue, e.givesUp u = true → u = t) : e ≠ .newLoop := by
  rintro rfl
  rcases ho.of_quiet hq with ⟨u, hi⟩ | ⟨-, hline⟩
  · have hu : u ∈ c.queue := by simp [queue, hi]
    obtain rfl := h u hu rfl
    exact ho.not_mem_line hi ht
  · rw [hline] at ht
    cases ht

/-- **The step that gives up the call in the line** comes to nothing without the call, if it gives
up no other. -/
theorem step_without_alone (ho : c.Ordered) (hq : c.move? = none) {t : Ticket} (ht : t ∈ c.line)
    {e : Event τ} (he : e.givesUp t = true) (h : ∀ u ∈ c.queue, e.givesUp u = true → u = t) :
    (c.without t.number).step e = c.without t.number := by
  have hout : c.Outside t.number := Waits.outside ⟨t, ht, rfl⟩ ho
  have hquiet : (c.without t.number).move? = none := by
    rw [without_move? hout fun c' hm => absurd (hq.symm.trans hm) nofun, hq]
    rfl
  refine step_of_nobody hquiet he (ho.not_newLoop hq ht h) fun u' hu' => ?_
  rw [queue_without hout] at hu'
  obtain ⟨u, hu, hwithout⟩ := List.mem_filterMap.mp hu'
  have hne : u.number ≠ t.number := by
    intro hun
    rw [Ticket.without?_self hun] at hwithout
    cases hwithout
  rw [Ticket.without?_of_ne hne] at hwithout
  obtain rfl := Option.some.inj hwithout
  have hstays : e.givesUp u ≠ true := fun hg => hne (congrArg _ (h u hu hg))
  have hname : e.givesUp (u.renumbered t.number) = e.givesUp u := by cases e <;> rfl
  rw [hname, Bool.eq_false_iff]
  exact hstays

/-- **After the step that gives up the call**, runs come to the same with and without it. -/
theorem run_without_givenUp (ho : c.Ordered) (hq : c.move? = none) {t : Ticket} (ht : t ∈ c.line)
    {e : Event τ} (he : e.givesUp t = true) (es : List (Event τ)) :
    (c.without t.number).run (e :: es) = (c.run (e :: es)).without t.number := by
  have hqueue : t ∈ c.queue := List.mem_append_right _ ht
  have hgone : (c.happen e).Gone t.number := ho.gone_of_givesUp hqueue he
  have hlt : t.number < c.calls := ho.below t hqueue
  have hstep : (c.without t.number).step e = (c.step e).without t.number :=
    without_step ho hq hlt (.inl ⟨t, ht, rfl⟩) (.inr hgone)
  have hrun : ((c.step e).without t.number).run es = ((c.step e).run es).without t.number :=
    without_run ((Reach.start.step e).ordered ho) (settle_quiet _)
      (Nat.lt_of_lt_of_le hlt (calls_le_step c e)) (.inr hgone.settle)
  rw [← hstep] at hrun
  exact hrun

/-- **The step in which the call is made** and goes to the line comes to the one in which the
others are. -/
theorem step_batch (ho : c.Ordered) (hr : c.Recorded) (hq : c.move? = none)
    {ws₁ ws₂ : List Waiter} {w : Waiter}
    (h : (c.step (.call (ws₁ ++ w :: ws₂))).Waits (c.calls + ws₁.length)) :
    c.step (.call (ws₁ ++ ws₂)) =
      (c.step (.call (ws₁ ++ w :: ws₂))).without (c.calls + ws₁.length) := by
  rw [step, ← without_batch ho hr (ho.taken hq) h.of_settle, without_settle (ho.happen _) (.inl h),
    step]

/-- A step in which no call is made comes to nothing. -/
theorem step_nobody_called (hq : c.move? = none) : c.step (.call []) = c := settle_of_none hq

/-- **Who gives up in the line leaves no trace.**  In a run of steps a call is made, alone or with
others, and stands in the line until an event gives it up.  In the run without this call, after
every step, the others have fared the same: before the call is given up, and after it.  If the
event gives up no other call, it may be left out as well. -/
theorem giving_up_leaves_no_trace {ttl now : τ} {instant : Option (Nat → Except Failure Text)}
    (before : List (Event τ)) (ws₁ ws₂ : List Waiter) (w : Waiter) (during : List (Event τ)) :
    let c := (init ttl now instant).run before
    let t : Ticket := ⟨w, c.calls + ws₁.length⟩
    let made := c.step (.call (ws₁ ++ w :: ws₂))
    let unmade := c.step (.call (ws₁ ++ ws₂))
    t ∈ (made.run during).line →
    (∀ es, es <+: during → SameBut t.number (made.run es) (unmade.run es)) ∧
    ∀ e : Event τ, e.givesUp t = true →
      (∀ es, SameBut t.number (made.run (during ++ e :: es)) (unmade.run (during ++ e :: es))) ∧
      ((∀ u ∈ (made.run during).log.pending, e.givesUp u = true → u = t) →
        ∀ es, SameBut t.number (made.run (during ++ e :: es)) (unmade.run (during ++ es))) := by
  intro c t made unmade ht
  have hreach : Reach (init ttl now instant) c := Reach.start.run before
  have ho : c.Ordered := hreach.ordered (init_ordered ttl now instant)
  have hr : c.Recorded := hreach.recorded (init_ordered ttl now instant) nofun
  have hq : c.move? = none := run_quiet (init_quiet ttl now instant) before
  have hlt : t.number < made.calls := by
    have hcalls : made.calls = c.calls + (ws₁ ++ w :: ws₂).length :=
      (calls_settle _).trans (calls_arriveAll ..)
    rw [hcalls, List.length_append, List.length_cons]
    simp only [t]
    omega
  have homade : made.Ordered := (Reach.start.step _).ordered ho
  have hqmade : made.move? = none := settle_quiet _
  -- The call stands in the line from its start until it is given up.
  have hend : (made.run during).Waits t.number := ⟨t, ht, rfl⟩
  have hunmade : unmade = made.without t.number := step_batch ho hr hq (hend.of_run hlt)
  have hduring : unmade.run during = (made.run during).without t.number := by
    rw [hunmade]
    exact without_run homade hqmade hlt (.inl hend)
  have hoend : (made.run during).Ordered := (Reach.start.run during).ordered homade
  have hqend : (made.run during).move? = none := run_quiet hqmade during
  refine ⟨fun es hes => ?_, fun e he => ?_⟩
  · obtain ⟨rest, rfl⟩ := hes
    rw [run_append] at hend
    have hwaits := hend.of_run (Nat.lt_of_lt_of_le hlt (calls_le_run made es))
    rw [hunmade, without_run homade hqmade hlt (.inl hwaits)]
    exact sameBut_without ..
  · have hafter := run_without_givenUp hoend hqend ht he
    refine ⟨fun es => ?_, fun halone es => ?_⟩
    · rw [run_append, run_append, hduring, hafter]
      exact sameBut_without ..
    · rw [hoend.pending_eq] at halone
      have hnothing := step_without_alone hoend hqend ht he halone
      have hskip : ((made.run during).without t.number).run (e :: es) =
          ((made.run during).without t.number).run es := by
        rw [run, List.foldl_cons, hnothing]
        rfl
      rw [run_append, run_append, hduring, ← hskip, hafter]
      exact sameBut_without ..

/-- Three calls wait while one fetches.  When that one is cancelled and the first of the three
fetches, the time of the second runs out; the fetch fails, and the third fetches. -/
theorem giving_up_leaves_no_trace_second :
    let c : Cache Nat := (init 60 1000 none).run [.call [⟨"a", false⟩]]
    let t : Ticket := ⟨⟨"w", true⟩, c.calls + 1⟩
    let made := c.step (.call [⟨"b", false⟩, ⟨"w", true⟩, ⟨"d", false⟩])
    let unmade := c.step (.call [⟨"b", false⟩, ⟨"d", false⟩])
    let after : List (Event Nat) := [.fail (.missingKey "value"), .release (Text.ofString "x")]
    t.number = 2 ∧ t ∈ (made.run [.cancel "a"]).line ∧
      SameBut t.number (made.run ([.cancel "a"] ++ .expire "w" :: after))
        (unmade.run ([.cancel "a"] ++ after)) ∧
      (unmade.run ([.cancel "a"] ++ after)).started = 3 ∧
      (unmade.run ([.cancel "a"] ++ after)).log.pending = [] := by
  intro c t made unmade after
  have hline : t ∈ (made.run [.cancel "a"]).line := by decide +kernel
  have halone : ∀ u ∈ (made.run [.cancel "a"]).log.pending,
      Event.givesUp (.expire "w" : Event Nat) u = true → u = t := by
    decide +kernel
  have htraceless := giving_up_leaves_no_trace
    [.call [⟨"a", false⟩]] [⟨"b", false⟩] [⟨"d", false⟩] ⟨"w", true⟩ [.cancel "a"] hline
  exact ⟨by decide +kernel, hline, (htraceless.2 (.expire "w") rfl).2 halone after,
    by decide +kernel, by decide +kernel⟩

end GivenUp

end Cache

end Tombola.Token
