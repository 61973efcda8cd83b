import Mathlib.Data.List.Basic
import Tombola.Proofs.Token.Turns
/-!
# The cache without one of its calls

A call that waits in the line has done nothing yet but take a place in it.  `Cache.without n` is
the cache without the call number `n`: the notes that this call was made and ended are left out,
and so is its place in the line, and the calls that were made after it have one number less.

While the call is outside, whatever happens comes to the same with and without it.  Only a call
that is made where this one waits for a lock that is free would be let in without it and has to
wait with it.  That does not last, since the first of the line moves next.

Main statements:

* `without_happen`: events, where nobody waits for a lock that is free;
* `without_move?`: moves that do not let the call in.
-/

namespace Tombola.Token

/-! ## 1. One call less -/

section Ticket

variable {n : Nat} {t u : Ticket}

/-- A ticket in a run without the call number `n`: the calls that were made after it have one
number less. -/
def Ticket.renumbered (n : Nat) (t : Ticket) : Ticket :=
  { t with number := if n < t.number then t.number - 1 else t.number }

/-- A ticket in a run without the call number `n`; none if it is the ticket of this call. -/
def Ticket.without? (n : Nat) (t : Ticket) : Option Ticket :=
  if t.number = n then none else some (t.renumbered n)

theorem Ticket.without?_self (h : t.number = n) : t.without? n = none := if_pos h

theorem Ticket.without?_of_ne (h : t.number ≠ n) : t.without? n = some (t.renumbered n) := if_neg h

theorem Ticket.renumbered_inj (ht : t.number ≠ n) (hu : u.number ≠ n) :
    t.renumbered n = u.renumbered n ↔ t = u := by
  refine ⟨fun h => ?_, congrArg _⟩
  obtain ⟨w, i⟩ := t
  obtain ⟨w', j⟩ := u
  obtain ⟨rfl, hnumber⟩ : w = w' ∧ (if n < i then i - 1 else i) = if n < j then j - 1 else j := by
    simpa [Ticket.renumbered] using h
  have hi : i ≠ n := ht
  have hj : j ≠ n := hu
  have hij : i = j := by
    split at hnumber <;> split at hnumber <;> omega
  rw [hij]

theorem Ticket.renumbered_of_lt (h : t.number < n) : t.renumbered n = t := by
  have hn : ¬ n < t.number := Nat.lt_asymm h
  simp only [Ticket.renumbered, if_neg hn]

theorem Ticket.without?_of_lt (h : t.number < n) : t.without? n = some t := by
  rw [Ticket.without?_of_ne (Nat.ne_of_lt h), Ticket.renumbered_of_lt h]

theorem filterMap_without_of_ne {ts : List Ticket} (h : ∀ u ∈ ts, u.number ≠ n) :
    ts.filterMap (Ticket.without? n) = ts.map (Ticket.renumbered n) := by
  rw [← List.filterMap_eq_map]
  exact List.filterMap_congr fun u hu => Ticket.without?_of_ne (h u hu)

/-- Whether a choice of calls goes by names and time limits alone. -/
def GoesByName (who : Ticket → Bool) : Prop := ∀ n t, who (Ticket.renumbered n t) = who t

theorem GoesByName.not {who : Ticket → Bool} (hw : GoesByName who) : GoesByName (! who ·) :=
  fun n t => congrArg _ (hw n t)

/-- Such a choice comes to the same without the call. -/
theorem GoesByName.filter {who : Ticket → Bool} (hw : GoesByName who) (ts : List Ticket) :
    (ts.filterMap (Ticket.without? n)).filter who =
      (ts.filter who).filterMap (Ticket.without? n) := by
  rw [List.filterMap_filter, List.filter_filterMap]
  refine List.filterMap_congr fun t _ => ?_
  unfold Ticket.without?
  split
  · simp
  · simp [Option.filter, hw n t]

/-- Who has left is gone without the call as well. -/
theorem without_filter_self (ht : t.number = n) (ts : List Ticket) :
    (ts.filter (· ≠ t)).filterMap (Ticket.without? n) = ts.filterMap (Ticket.without? n) := by
  rw [List.filterMap_filter]
  refine List.filterMap_congr fun u _ => ?_
  by_cases hu : u = t
  · simp [hu, Ticket.without?_self ht]
  · simp [hu]

theorem without_filter_ne (ht : t.number ≠ n) (ts : List Ticket) :
    (ts.filter (· ≠ t)).filterMap (Ticket.without? n) =
      (ts.filterMap (Ticket.without? n)).filter (· ≠ t.renumbered n) := by
  rw [List.filterMap_filter, List.filter_filterMap]
  refine List.filterMap_congr fun u _ => ?_
  by_cases hu : u.number = n
  · simp [Ticket.without?_self hu]
  · by_cases hut : u = t
    · simp [Ticket.without?_of_ne ht, hut, Option.filter]
    · have hne : u.renumbered n ≠ t.renumbered n := mt (Ticket.renumbered_inj hu ht).mp hut
      simp [Ticket.without?_of_ne hu, hut, hne, Option.filter]

end Ticket

section History

variable {τ : Type} {n : Nat} {h : History τ}

/-- What is noted in a run without the call number `n`: that it was made and that it ended is
not. -/
def Note.without? (n : Nat) : Note τ → Option (Note τ)
  | .called t => (t.without? n).map .called
  | .asked t => some (.asked (t.renumbered n))
  | .fetched t token now => some (.fetched (t.renumbered n) token now)
  | .ended t o now => (t.without? n).map (.ended · o now)
  | .looped => some .looped

/-- The history without the call number `n`. -/
def History.without (n : Nat) (h : History τ) : History τ := h.filterMap (Note.without? n)

@[simp] theorem History.without_append (h h' : History τ) :
    (h ++ h').without n = h.without n ++ h'.without n :=
  List.filterMap_append ..

theorem History.without_ended (n : Nat) (ts : List Ticket) (o : Outcome) (now : τ) :
    History.without n (ts.map (.ended · o now)) =
      (ts.filterMap (Ticket.without? n)).map (.ended · o now) := by
  rw [History.without, List.filterMap_map, List.map_filterMap]
  rfl

/-- How and when a call ended, if it did. -/
def History.outcome? (h : History τ) (t : Ticket) : Option (Outcome × τ) :=
  h.findSome? fun
    | .ended u o now => if u = t then some (o, now) else none
    | _ => none

theorem History.pending_without (n : Nat) (h : History τ) :
    (h.without n).pending = h.pending.filterMap (Ticket.without? n) := by
  suffices hfold : ∀ waiting : List Ticket,
      (h.without n).foldl pendingAfter (waiting.filterMap (Ticket.without? n)) =
        (h.foldl pendingAfter waiting).filterMap (Ticket.without? n) from hfold []
  induction h with
  | nil => exact fun _ => rfl
  | cons note h ih =>
    intro waiting
    have hnote : ((note.without? n).toList).foldl pendingAfter
        (waiting.filterMap (Ticket.without? n)) =
        (pendingAfter waiting note).filterMap (Ticket.without? n) := by
      cases note with
      | called t =>
        by_cases ht : t.number = n
        · simp [Note.without?, pendingAfter, Ticket.without?_self ht]
        · simp [Note.without?, pendingAfter, Ticket.without?_of_ne ht]
      | asked t => rfl
      | fetched t token now => rfl
      | ended t o now =>
        by_cases ht : t.number = n
        · rw [pendingAfter, without_filter_self ht]
          simp [Note.without?, Ticket.without?_self ht]
        · rw [pendingAfter, without_filter_ne ht]
          simp [Note.without?, pendingAfter, Ticket.without?_of_ne ht]
      | looped => rfl
    rw [List.foldl_cons, ← ih, ← hnote]
    cases hn : note.without? n <;> simp [History.without, hn]

theorem History.started_without (n : Nat) (h : History τ) : (h.without n).started = h.started := by
  rw [started, without, List.countP_filterMap, started]
  refine List.countP_congr fun note _ => ?_
  cases note with
  | called t => by_cases ht : t.number = n <;> simp [Note.without?, Ticket.without?, ht]
  | asked t => rfl
  | fetched t token now => rfl
  | ended t o now => by_cases ht : t.number = n <;> simp [Note.without?, Ticket.without?, ht]
  | looped => rfl

/-- The other calls ended the same way at the same instants. -/
theorem History.outcome?_without {u : Ticket} (hu : u.number ≠ n) (h : History τ) :
    (h.without n).outcome? (u.renumbered n) = h.outcome? u := by
  induction h with
  | nil => rfl
  | cons note h ih =>
    cases note with
    | ended t o now =>
      by_cases ht : t.number = n
      · have hne : t ≠ u := fun e => hu (e ▸ ht)
        simpa [without, outcome?, Note.without?, Ticket.without?_self ht, hne] using ih
      · by_cases htu : t = u
        · subst htu
          simp [without, outcome?, Note.without?, Ticket.without?_of_ne ht]
        · have hne : t.renumbered n ≠ u.renumbered n := mt (Ticket.renumbered_inj ht hu).mp htu
          simpa [without, outcome?, Note.without?, Ticket.without?_of_ne ht, htu, hne] using ih
    | called t =>
      by_cases ht : t.number = n
      · simpa [without, outcome?, Note.without?, Ticket.without?_self ht] using ih
      · simpa [without, outcome?, Note.without?, Ticket.without?_of_ne ht] using ih
    | asked t => exact ih
    | fetched t token now => exact ih
    | looped => exact ih

end History

/-- The lock without the call number `n` in its line. -/
def Lock.without (n : Nat) (l : Lock) : Lock :=
  { l with line := l.line.filterMap (Ticket.without? n) }

namespace Cache

variable {τ : Type} {n : Nat} {c : Cache τ}

/-- **The cache without the call number `n`**, which has not been let in. -/
def without (n : Nat) (c : Cache τ) : Cache τ :=
  { c with
    lock := c.lock.map (Lock.without n)
    inside := c.inside.map fun x => (x.1.renumbered n, x.2)
    calls := c.calls - 1
    log := c.log.without n }

theorem line_without (n : Nat) (c : Cache τ) :
    (c.without n).line = c.line.filterMap (Ticket.without? n) := by
  cases hl : c.lock <;> simp [line, without, Lock.without, hl]

theorem loopLock_without (n : Nat) (c : Cache τ) :
    (c.without n).loopLock = c.loopLock.without n := by
  cases hl : c.lock with
  | none => simp [loopLock, without, hl, Lock.without, Lock.fresh]
  | some l =>
    by_cases he : l.loop = c.loop
    · simp [loopLock, without, hl, Lock.without, he]
    · simp [loopLock, without, hl, Lock.without, he, Lock.fresh]

theorem fetches_without (n : Nat) (c : Cache τ) :
    (c.without n).fetches = c.fetches.map (Ticket.renumbered n) := by
  simp [fetches, without, List.filter_map, Function.comp_def]

/-- Whether the call number `n` is not inside. -/
def Outside (n : Nat) (c : Cache τ) : Prop := ∀ x ∈ c.inside, x.1.number ≠ n

theorem queue_without (h : c.Outside n) :
    (c.without n).queue = c.queue.filterMap (Ticket.without? n) := by
  have hin : (c.inside.map (·.1)).filterMap (Ticket.without? n) =
      (c.inside.map (·.1)).map (Ticket.renumbered n) := by
    refine filterMap_without_of_ne fun u hu => ?_
    obtain ⟨x, hx, rfl⟩ := List.mem_map.mp hu
    exact h x hx
  rw [queue, line_without, queue, List.filterMap_append, hin]
  simp [without]

/-! ## 2. Events -/

/-- Nobody waits for a lock that is free. -/
def Taken (c : Cache τ) : Prop := c.loopLock.line ≠ [] → c.loopLock.locked = true

/-- Then who asks for the lock gets it without the call if it does with it. -/
theorem isFree_without (h : c.Taken) : (c.loopLock.without n).isFree = c.loopLock.isFree := by
  cases hl : c.loopLock.locked with
  | true => simp [Lock.isFree, Lock.without, hl]
  | false =>
    have hline : c.loopLock.line = [] := by
      by_contra hne
      rw [h hne] at hl
      cases hl
    simp [Lock.isFree, Lock.without, hl, hline]

theorem calls_arrive (c : Cache τ) (w : Waiter) : (c.arrive w).calls = c.calls + 1 := by
  unfold arrive
  simp only
  split <;> rfl

theorem calls_le_arrive (c : Cache τ) (w : Waiter) : c.calls ≤ (c.arrive w).calls := by
  rw [calls_arrive]
  exact Nat.le_succ _

/-- The lock when a call was made: it took it, or stands at the end of the line. -/
theorem loopLock_arrive (c : Cache τ) (w : Waiter) :
    (c.arrive w).loopLock =
      if c.loopLock.isFree then c.loopLock.take else c.loopLock.join ⟨w, c.calls⟩ := by
  have hloop : c.loopLock.loop = c.loop := by
    unfold loopLock
    split
    · split
      · assumption
      · rfl
    · rfl
  unfold arrive
  simp only
  split
  · exact if_pos hloop
  · exact if_pos hloop

/-- Who does not get the lock waits behind a call that holds it. -/
theorem Taken.arrive (h : c.Taken) (w : Waiter) : (c.arrive w).Taken := by
  rw [Taken, loopLock_arrive]
  split
  · exact fun _ => rfl
  · rename_i hfree
    intro _
    by_contra hlocked
    have hunlocked : c.loopLock.locked = false := Bool.not_eq_true _ ▸ hlocked
    refine hfree (Lock.isFree_iff.mpr ⟨hunlocked, ?_⟩)
    by_contra hne
    exact hlocked (h hne)

/-- **A call is made:** it comes to the same if nobody waits for a lock that is free. -/
theorem without_arrive (hn : n < c.calls) (hc : c.Taken) (w : Waiter) :
    (c.without n).arrive w = (c.arrive w).without n := by
  have hnumber : c.calls - 1 + 1 = c.calls + 1 - 1 := by omega
  have hrenumbered : Ticket.renumbered n ⟨w, c.calls⟩ = ⟨w, c.calls - 1⟩ := by
    simp [Ticket.renumbered, hn]
  have hticket : Ticket.without? n ⟨w, c.calls⟩ = some ⟨w, c.calls - 1⟩ := by
    rw [Ticket.without?_of_ne (Nat.ne_of_gt hn), hrenumbered]
  unfold Cache.arrive
  simp only [loopLock_without, isFree_without hc]
  split
  · simp [without, note, Lock.take, Lock.without, Note.without?, History.without, hticket,
      hrenumbered, hnumber]
  · simp [without, note, Lock.join, Lock.without, Note.without?, History.without, hticket,
      hnumber]

/-- **Calls are given up:** it comes to the same if they are chosen by their names. -/
theorem without_leave {who : Ticket → Bool} (hw : GoesByName who) (h : c.Outside n) (o : Outcome) :
    (c.without n).leave who o = (c.leave who o).without n := by
  have hany : ((c.without n).inside.any (who ·.1)) = c.inside.any (who ·.1) := by
    simp [without, Function.comp_def, hw n]
  have hin : (c.without n).inside.filter (! who ·.1) =
      (c.inside.filter (! who ·.1)).map fun x => (x.1.renumbered n, x.2) := by
    simp [without, List.filter_map, Function.comp_def, hw n]
  have hlog : ((c.without n).queue.filter who).map (Note.ended · o c.now) =
      History.without n ((c.queue.filter who).map (.ended · o c.now)) := by
    rw [History.without_ended, queue_without h, hw.filter]
  have hwithdraw : ∀ l : Lock, (l.without n).withdraw who = (l.withdraw who).without n := by
    intro l
    rw [Lock.withdraw, Lock.without, hw.not.filter]
    rfl
  have hback : ∀ l : Lock, (l.without n).giveBack = l.giveBack.without n := fun _ => rfl
  unfold leave
  simp only [hany, hin]
  have hlog' := congrArg (c.log.without n ++ ·) hlog
  simp only [without, History.without_append, Cache.mk.injEq, true_and, Option.map_map,
    Function.comp_def, hwithdraw] at hlog' ⊢
  refine ⟨?_, hlog'⟩
  split
  · rfl
  · rfl

theorem map_answerFirst (n : Nat) (r : Except Failure Text) (xs : List (Ticket × Stage)) :
    answerFirst r (xs.map fun x => (x.1.renumbered n, x.2)) =
      (answerFirst r xs).map fun x => (x.1.renumbered n, x.2) := by
  fun_induction answerFirst r xs with
  | case1 => rfl
  | case2 t rest => rfl
  | case3 x rest hx ih =>
    obtain ⟨t, s⟩ := x
    cases s with
    | fetching => exact absurd rfl (hx t)
    | entered => simp [answerFirst, ih]
    | answered r' => simp [answerFirst, ih]

section Happen

variable [Add τ]

/-- What a call keeps that is made, all calls keep that are made together. -/
theorem arriveAll_keeps {P : Cache τ → Prop} (harrive : ∀ c w, P c → P (c.arrive w)) (h : P c)
    (ws : List Waiter) : P (c.happen (.call ws)) := by
  simp only [happen]
  induction ws generalizing c with
  | nil => exact h
  | cons w ws ih => exact ih (harrive c w h)

/-- **An event comes to the same with and without a call that is outside**, if nobody waits for
a lock that is free. -/
theorem without_happen (hn : n < c.calls) (h : c.Outside n) (hc : c.Taken) (e : Event τ) :
    (c.without n).happen e = (c.happen e).without n := by
  cases e with
  | call ws =>
    simp only [happen]
    clear h
    induction ws generalizing c with
    | nil => rfl
    | cons w ws ih =>
      have hn' : n < (c.arrive w).calls := hn.trans_le (calls_le_arrive c w)
      rw [List.foldl_cons, without_arrive hn hc, ih hn' (hc.arrive w), List.foldl_cons]
  | advance d => rfl
  | release token =>
    simp only [happen, answer, without, map_answerFirst]
  | fail f => simp only [happen, answer, without, map_answerFirst]
  | cancel id =>
    have hw : GoesByName fun t => t.id = id := fun _ _ => rfl
    exact without_leave hw h _
  | expire id =>
    have hw : GoesByName fun t => t.id = id && t.bounded := fun _ _ => rfl
    exact without_leave hw h _
  | mode instant => rfl
  | newLoop =>
    have hw : GoesByName fun _ => true := fun _ _ => rfl
    have hl := without_leave hw h .cancelled
    simp only [happen, hl]
    simp [without, note, Note.without?, History.without]

end Happen

/-! ## 3. Moves -/

section Moves

theorem without_letIn? (h' : ∀ c', c.letIn? = some c' → c'.Outside n) :
    (c.without n).letIn? = c.letIn?.map (without n) := by
  cases hl : c.lock with
  | none => simp [letIn?, without, hl]
  | some l =>
    cases hn : l.next? with
    | none =>
      have hn' : (l.without n).next? = none := by
        rcases Lock.next?_eq_none.mp hn with hlocked | hline
        · exact Lock.next?_eq_none.mpr (.inl hlocked)
        · exact Lock.next?_eq_none.mpr (.inr (by simp [Lock.without, hline]))
      simp [letIn?, without, hl, hn, hn']
    | some x =>
      obtain ⟨t, l'⟩ := x
      have hin : c.letIn? =
          some { c with lock := some l', inside := c.inside ++ [(t, .entered)] } := by
        simp [letIn?, hl, hn]
      have ht : t.number ≠ n := h' _ hin (t, .entered) (by simp)
      have hn' : (l.without n).next? = some (t.renumbered n, l'.without n) := by
        obtain ⟨hfree, rest, hline, rfl⟩ := Lock.next?_eq_some.mp hn
        refine Lock.next?_eq_some.mpr ⟨hfree, rest.filterMap (Ticket.without? n), ?_, rfl⟩
        simp [Lock.without, hline, Ticket.without?_of_ne ht]
      rw [hin]
      simp [letIn?, without, hl, hn']

theorem without_exit {t : Ticket} (ht : t.number ≠ n) (others : List (Ticket × Stage))
    (o : Outcome) (c : Cache τ) :
    (c.without n).exit (others.map fun x => (x.1.renumbered n, x.2)) (t.renumbered n) o =
      (c.exit others t o).without n := by
  have hback : ∀ l : Lock, (l.without n).giveBack = l.giveBack.without n := fun _ => rfl
  simp [exit, note, without, History.without, Note.without?, Ticket.without?_of_ne ht,
    Function.comp_def, hback]

variable [Add τ]

theorem without_keep (n : Nat) (t : Ticket) (token : Text) (c : Cache τ) :
    (c.without n).keep (t.renumbered n) token = (c.keep t token).without n := by
  simp [keep, note, without, History.without, Note.without?]

variable [LT τ] [DecidableLT τ] {c' : Cache τ}

/-- **Another call that is inside goes on.** -/
theorem without_turn {t : Ticket} (ht : t.number ≠ n) (pre : List (Ticket × Stage)) (s : Stage)
    (post : List (Ticket × Stage)) (c : Cache τ) :
    (c.without n).turn (pre.map fun x => (x.1.renumbered n, x.2)) (t.renumbered n) s
        (post.map fun x => (x.1.renumbered n, x.2)) =
      (c.turn pre t s post).without n := by
  cases s with
  | entered =>
    have hstarted : (c.without n).started = c.started := History.started_without n c.log
    cases hv : Lease.valid? c.now c.lease with
    | some token =>
      have hv' : Lease.valid? (c.without n).now (c.without n).lease = some token := hv
      simp only [turn, hv, hv', ← List.map_append]
      exact without_exit ht (pre ++ post) _ _
    | none =>
      have hv' : Lease.valid? (c.without n).now (c.without n).lease = none := hv
      have hstage : (c.without n).afterAsking (c.started + 1) = c.afterAsking (c.started + 1) := rfl
      simp only [turn, hv, hv', hstarted, hstage]
      simp [note, without, History.without, Note.without?]
  | fetching => rfl
  | answered r =>
    cases r with
    | ok token =>
      simp only [turn, without_keep, ← List.map_append]
      exact without_exit ht (pre ++ post) _ _
    | error f =>
      simp only [turn, ← List.map_append]
      exact without_exit ht (pre ++ post) _ _

/-- **A move comes to the same with and without a call that stays outside.**  Which call is let in,
and what it does inside, depends on the first of the line and on the one inside alone. -/
theorem without_move? (h : c.Outside n) (h' : ∀ c', c.move? = some c' → c'.Outside n) :
    (c.without n).move? = c.move?.map (without n) := by
  have hdrop : (c.without n).inside.dropWhile (·.2.isFetching) =
      (c.inside.dropWhile (·.2.isFetching)).map fun x => (x.1.renumbered n, x.2) :=
    List.dropWhile_map ..
  have htake : (c.without n).inside.takeWhile (·.2.isFetching) =
      (c.inside.takeWhile (·.2.isFetching)).map fun x => (x.1.renumbered n, x.2) :=
    List.takeWhile_map ..
  unfold move? at h' ⊢
  rw [hdrop, htake]
  cases hd : c.inside.dropWhile (·.2.isFetching) with
  | nil =>
    rw [hd] at h'
    exact without_letIn? h'
  | cons x post =>
    obtain ⟨t, s⟩ := x
    have hmem : (t, s) ∈ c.inside := (List.dropWhile_sublist _).subset (hd ▸ List.mem_cons_self ..)
    exact congrArg some (without_turn (h _ hmem) _ s post c)

end Moves

end Cache

end Tombola.Token
