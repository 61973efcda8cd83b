import Mathlib.Order.Defs.PartialOrder
import Tombola.Proofs.Token.Turns
/-!
# While the clock does not go back

A call that fetches has found no valid lease.  It does not look again until its fetch has
ended, and much may happen before that: calls come and go, and the clock moves on.  But nobody
else can fetch meanwhile, so the lease stays what it was, and a lease that is over stays over
while the clock does not go back.  So a fetch is running only while there is nothing to serve.

This is why a call that is let in after a fetch was dropped does not find the token that the
call before it has missed, and why two fetches that succeed are a time to live apart.

Main statements: `Onward.reach`, runs on which the clock does not go back are runs;
`Onward.due`, while a call inside has asked for a token, none may be served.
-/

namespace Tombola.Token

variable {τ : Type}

/-- **A lease that is over stays over.** -/
theorem Lease.valid?_eq_none_of_le [Preorder τ] [DecidableLT τ] {now later : τ}
    {lease : Option (Lease τ)} (hle : now ≤ later) (h : valid? now lease = none) :
    valid? later lease = none := by
  rw [valid?_eq_none_iff] at h ⊢
  intro l hl hlt
  exact h l hl (lt_of_le_of_lt hle hlt)

/-- Whether a call at this stage has started a fetch. -/
def Stage.hasAsked : Stage → Bool
  | entered => false
  | _ => true

namespace Cache

/-! ## 1. What events and moves do to the clock -/

/-- Who is let in stands behind the others, and nothing else that a fetch depends on changes. -/
theorem letIn?_eq_some {c c' : Cache τ} (h : c.letIn? = some c') :
    ∃ t l, c' = { c with lock := some l, inside := c.inside ++ [(t, .entered)] } := by
  unfold letIn? at h
  split at h
  · rename_i t l _
    exact ⟨t, l, (Option.some.inj h).symm⟩
  · cases h

section Clock

variable [Add τ] [LT τ] [DecidableLT τ]

theorem now_turn (pre : List (Ticket × Stage)) (t : Ticket) (s : Stage)
    (post : List (Ticket × Stage)) (c : Cache τ) : (c.turn pre t s post).now = c.now := by
  cases s with
  | entered =>
    simp only [turn]
    split <;> rfl
  | fetching => rfl
  | answered r => cases r <;> rfl

theorem now_move? {c c' : Cache τ} (h : c.move? = some c') : c'.now = c.now := by
  rcases move?_cases h with ⟨pre, t, s, post, -, -, rfl⟩ | h
  · exact now_turn ..
  · obtain ⟨t, l, rfl⟩ := letIn?_eq_some h
    rfl

omit [Add τ] [LT τ] [DecidableLT τ] in
theorem now_arriveAll (ws : List Waiter) (c : Cache τ) : (ws.foldl arrive c).now = c.now := by
  induction ws generalizing c with
  | nil => rfl
  | cons w ws ih =>
    rw [List.foldl_cons, ih]
    unfold arrive
    simp only
    split <;> rfl

omit [LT τ] [DecidableLT τ] in
theorem now_happen (c : Cache τ) (e : Event τ) :
    (c.happen e).now = c.now ∨ ∃ d, e = .advance d ∧ (c.happen e).now = c.now + d := by
  cases e with
  | call ws => exact .inl (now_arriveAll ws c)
  | advance d => exact .inr ⟨d, rfl, rfl⟩
  | release token => exact .inl rfl
  | fail f => exact .inl rfl
  | cancel id => exact .inl rfl
  | expire id => exact .inl rfl
  | mode instant => exact .inl rfl
  | newLoop => exact .inl rfl

end Clock

/-! ## 2. Runs -/

variable [Add τ] [Preorder τ] [DecidableLT τ]

/-- What events and moves, in any order, lead to while the clock does not go back. -/
inductive Onward (start : Cache τ) : Cache τ → Prop
  | start : Onward start start
  | event {c : Cache τ} (e : Event τ) :
    Onward start c → c.now ≤ (c.happen e).now → Onward start (c.happen e)
  | move {c c' : Cache τ} : Onward start c → c.move? = some c' → Onward start c'

section Runs

variable {start c : Cache τ}

theorem Onward.reach (h : Onward start c) : Reach start c := by
  induction h with
  | start => exact .start
  | event e _ _ ih => exact ih.event e
  | move _ hm ih => exact ih.move hm

theorem Onward.now_le (h : Onward start c) : start.now ≤ c.now := by
  induction h with
  | start => exact le_refl _
  | event e _ hle ih => exact le_trans ih hle
  | move _ hm ih => exact (now_move? hm).symm ▸ ih

theorem Onward.trans {c' : Cache τ} (h : Onward start c) (h' : Onward c c') :
    Onward start c' := by
  induction h' with
  | start => exact h
  | event e _ hle ih => exact ih.event e hle
  | move _ hm ih => exact ih.move hm

theorem Onward.settle (h : Onward start c) : Onward start c.settle := by
  induction c using settle.induct with
  | case1 c c' hm ih => rw [settle_of_some hm]; exact ih (h.move hm)
  | case2 c hm => rwa [settle_of_none hm]

/-- **Steps lead onward** if none of them puts the clock back. -/
theorem Onward.run (h : Onward start c) {es : List (Event τ)}
    (hes : ∀ d, .advance d ∈ es → ∀ x : τ, x ≤ x + d) : Onward start (c.run es) := by
  induction es generalizing c with
  | nil => exact h
  | cons e es ih =>
    have hle : c.now ≤ (c.happen e).now := by
      rcases now_happen c e with hn | ⟨d, rfl, hn⟩
      · exact hn.symm ▸ le_refl _
      · exact hn.symm ▸ hes d (List.mem_cons_self ..) c.now
    exact ih (h.event e hle).settle fun d hd => hes d (List.mem_cons_of_mem _ hd)

end Runs

/-! ## 3. A fetch is running only while there is nothing to serve -/

/-- Nothing may be served while a call inside has started a fetch. -/
def Due (c : Cache τ) : Prop :=
  ∀ x ∈ c.inside, x.2.hasAsked = true → Lease.valid? c.now c.lease = none

omit [Add τ] in
theorem due_of_nobody {c : Cache τ} (hi : c.inside = []) : c.Due := by
  intro x hx
  rw [hi] at hx
  cases hx

namespace Due

variable {c : Cache τ}

omit [Add τ] in
theorem arrive (h : c.Due) (w : Waiter) : (c.arrive w).Due := by
  unfold Cache.arrive
  simp only
  split
  · intro x hx ha
    rcases List.mem_append.mp hx with hx | hx
    · exact h x hx ha
    · rw [List.mem_singleton.mp hx] at ha
      cases ha
  · exact h

omit [Add τ] in
theorem leave (h : c.Due) (who : Ticket → Bool) (o : Outcome) : (c.leave who o).Due :=
  fun x hx ha => h x (List.mem_filter.mp hx).1 ha

theorem asked_of_answerFirst {r : Except Failure Text} {xs : List (Ticket × Stage)}
    {x : Ticket × Stage} (hx : x ∈ answerFirst r xs) (ha : x.2.hasAsked = true) :
    ∃ y ∈ xs, y.2.hasAsked = true := by
  fun_induction answerFirst r xs with
  | case1 => cases hx
  | case2 t rest => exact ⟨(t, .fetching), List.mem_cons_self .., rfl⟩
  | case3 y rest _ ih =>
    rcases List.mem_cons.mp hx with rfl | hx
    · exact ⟨x, List.mem_cons_self .., ha⟩
    · obtain ⟨z, hz, hza⟩ := ih hx
      exact ⟨z, List.mem_cons_of_mem _ hz, hza⟩

omit [Add τ] in
theorem answer (h : c.Due) (r : Except Failure Text) : (c.answer r).Due := by
  intro x hx ha
  obtain ⟨y, hy, hya⟩ := asked_of_answerFirst hx ha
  exact h y hy hya

/-- **Every event that does not put the clock back keeps it so.** -/
theorem happen (h : c.Due) (e : Event τ) (hle : c.now ≤ (c.happen e).now) :
    (c.happen e).Due := by
  cases e with
  | call ws =>
    clear hle
    simp only [Cache.happen]
    induction ws generalizing c with
    | nil => exact h
    | cons w ws ih => exact ih (h.arrive w)
  | advance d => exact fun x hx ha => Lease.valid?_eq_none_of_le hle (h x hx ha)
  | release token => exact h.answer _
  | fail f => exact h.answer _
  | cancel id => exact h.leave _ _
  | expire id => exact h.leave _ _
  | mode instant => exact h
  | newLoop => exact h.leave (fun _ => true) .cancelled

/-- Who goes on inside is there alone, so the lease is written when nobody fetches. -/
theorem turn (h : c.Due) (ho : c.Ordered) {pre post : List (Ticket × Stage)} {t : Ticket}
    {s : Stage} (hi : c.inside = pre ++ (t, s) :: post) : (c.turn pre t s post).Due := by
  obtain ⟨rfl, rfl, -⟩ := ho.alone hi
  cases s with
  | entered =>
    simp only [Cache.turn]
    split
    · exact due_of_nobody rfl
    · rename_i hv
      exact fun _ _ _ => hv
  | fetching => exact h
  | answered r =>
    cases r with
    | ok token => exact due_of_nobody rfl
    | error f => exact due_of_nobody rfl

theorem move (h : c.Due) (ho : c.Ordered) {c' : Cache τ} (hm : c.move? = some c') :
    c'.Due := by
  rcases move?_cases hm with ⟨pre, t, s, post, hi, -, rfl⟩ | hm
  · exact h.turn ho hi
  · obtain ⟨t, l, rfl⟩ := letIn?_eq_some hm
    intro x hx ha
    rcases List.mem_append.mp hx with hx | hx
    · exact h x hx ha
    · rw [List.mem_singleton.mp hx] at ha
      cases ha

end Due

/-- **While a call inside has asked for a token, none may be served**, wherever events and moves
lead while the clock does not go back. -/
theorem Onward.due {start c : Cache τ} (h : Onward start c) (ho : start.Ordered)
    (hs : start.Due) : c.Due := by
  induction h with
  | start => exact hs
  | event e _ hle ih => exact ih.happen e hle
  | move hc hm ih => exact ih.move (hc.reach.ordered ho) hm

end Cache

end Tombola.Token
