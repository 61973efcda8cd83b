import Tombola.Proofs.Token.Pace
import Tombola.Proofs.Token.Traceless
/-!
# Bursts of calls

A call that has fetched a token comes out at the instant at which its lease begins, and the calls
behind it are let in one after another at the same reading of the clock.  If the lease is valid at
once, all of them are served from it, and so are the calls that are made after that.  If the lease
is over at once, the next that is let in starts a fetch of its own; where fetches end at once, each
of the calls makes one.

Which of the two it is depends on one comparison: whether the clock reading is smaller than its sum
with the time to live.

Main statements:

* `Ordered.keeps`: what comes of calls where the sum is greater;
* `Ordered.loses`: what comes of them where it is not.
-/

namespace Tombola.Token

/-! ## 1. Calls that are made together -/

/-- Calls with the numbers they get when `n` were made before. -/
def numbered (n : Nat) : List Waiter → List Ticket
  | [] => []
  | w :: ws => ⟨w, n⟩ :: numbered (n + 1) ws

theorem length_numbered (n : Nat) (ws : List Waiter) : (numbered n ws).length = ws.length := by
  induction ws generalizing n with
  | nil => rfl
  | cons w ws ih => rw [numbered, List.length_cons, List.length_cons, ih]

namespace History

variable {τ : Type}

theorem pending_callAll (h : History τ) (ts : List Ticket) :
    pending (h ++ ts.map .called) = h.pending ++ ts := by
  induction ts generalizing h with
  | nil => simp
  | cons t ts ih =>
    have := ih (h ++ [.called t])
    simpa using this

/-- What is noted when all share one fetch. -/
def shared (token : Text) (now : τ) : List Ticket → History τ
  | [] => []
  | t :: ts => [.asked t, .fetched t token now] ++ (t :: ts).map (.ended · (.served token) now)

/-- What is noted when each makes a fetch of its own. -/
def separate (token : Text) (now : τ) (ts : List Ticket) : History τ :=
  ts.flatMap fun t => [.asked t, .fetched t token now, .ended t (.served token) now]

theorem started_callAll (h : History τ) (ts : List Ticket) :
    started (h ++ ts.map .called) = h.started := by
  have hcalled : started (ts.map (Note.called (τ := τ))) = 0 := started_eq_zero fun n hn => by
    obtain ⟨t, -, rfl⟩ := List.mem_map.mp hn
    rfl
  rw [started_append, hcalled, Nat.add_zero]

theorem started_shared (token : Text) (now : τ) (ts : List Ticket) :
    started (shared token now ts) = min 1 ts.length := by
  cases ts with
  | nil => rfl
  | cons t ts =>
    have hserved : started ((t :: ts).map (.ended · (.served token) now)) = 0 :=
      started_eq_zero fun n hn => by
        obtain ⟨u, -, rfl⟩ := List.mem_map.mp hn
        rfl
    rw [shared, started_append, hserved, List.length_cons]
    exact (Nat.min_eq_left (Nat.le_add_left 1 _)).symm

theorem started_separate (token : Text) (now : τ) (ts : List Ticket) :
    started (separate token now ts) = ts.length := by
  induction ts with
  | nil => rfl
  | cons t ts ih =>
    rw [separate, List.flatMap_cons, started_append, ← separate, ih, List.length_cons, Nat.add_comm]
    rfl

end History

namespace Cache

variable {τ : Type}

section Arrivals

variable {c : Cache τ}

theorem log_arrive (c : Cache τ) (w : Waiter) :
    (c.arrive w).log = c.log ++ [.called ⟨w, c.calls⟩] := by
  unfold arrive
  simp only
  split <;> rfl

theorem log_arriveAll (c : Cache τ) (ws : List Waiter) :
    (ws.foldl arrive c).log = c.log ++ (numbered c.calls ws).map .called := by
  induction ws generalizing c with
  | nil => exact (List.append_nil _).symm
  | cons w ws ih =>
    rw [List.foldl_cons, ih, log_arrive, calls_arrive, numbered, List.map_cons, List.append_assoc]
    rfl

theorem Ordered.inside_arrive (h : c.Ordered) (hh : c.held = true) (w : Waiter) :
    (c.arrive w).inside = c.inside ∧ (c.arrive w).held = true := by
  have hlocked := h.loopLock_eq.1
  have hfree : ¬ c.loopLock.isFree = true := by
    rw [Lock.isFree_iff, hlocked, hh]
    simp
  unfold Cache.arrive
  simp only [if_neg hfree]
  refine ⟨rfl, ?_⟩
  have hjoined : (c.loopLock.join ⟨w, c.calls⟩).locked = true := hlocked.trans hh
  exact hjoined

theorem Ordered.inside_arriveAll (h : c.Ordered) (hh : c.held = true) (ws : List Waiter) :
    (ws.foldl Cache.arrive c).inside = c.inside := by
  induction ws generalizing c with
  | nil => rfl
  | cons w ws ih =>
    obtain ⟨hin, hheld⟩ := h.inside_arrive hh w
    rw [List.foldl_cons, ih (h.arrive w) hheld, hin]

variable [Add τ]

theorem ttl_arriveAll (c : Cache τ) (ws : List Waiter) : (ws.foldl arrive c).ttl = c.ttl :=
  arriveAll_keeps (P := fun c' => c'.ttl = c.ttl)
    (fun c' w h => by unfold arrive; simp only; split <;> exact h) rfl ws

theorem instant_arriveAll (c : Cache τ) (ws : List Waiter) :
    (ws.foldl arrive c).instant = c.instant :=
  arriveAll_keeps (P := fun c' => c'.instant = c.instant)
    (fun c' w h => by unfold arrive; simp only; split <;> exact h) rfl ws

theorem Ordered.queue_arriveAll (h : c.Ordered) (ws : List Waiter) :
    (c.happen (.call ws)).queue = c.queue ++ numbered c.calls ws := by
  rw [← (h.happen (.call ws)).pending_eq, Cache.happen, log_arriveAll, History.pending_callAll,
    h.pending_eq]

/-- **The first of the calls that are made where nobody waits is let in**, and the others stand in
the line. -/
theorem Ordered.burst (h : c.Ordered) (hq : c.queue = []) (w : Waiter) (ws : List Waiter) :
    (c.happen (.call (w :: ws))).inside = [(⟨w, c.calls⟩, .entered)] ∧
      (c.happen (.call (w :: ws))).line = numbered (c.calls + 1) ws := by
  obtain ⟨hnil, hline⟩ := List.append_eq_nil_iff.mp hq
  have hin : c.inside = [] := List.map_eq_nil_iff.mp hnil
  have hlock := h.loopLock_eq
  have hfree : c.loopLock.isFree = true :=
    Lock.isFree_iff.mpr ⟨hlock.1.trans (h.not_held_of_inside hin), hlock.2.1.trans hline⟩
  have hfirst : (c.arrive w).inside = [(⟨w, c.calls⟩, .entered)] ∧ (c.arrive w).held = true := by
    unfold Cache.arrive
    simp [hfree, hin, held, note, Lock.take]
  have hinside : (c.happen (.call (w :: ws))).inside = [(⟨w, c.calls⟩, .entered)] := by
    rw [Cache.happen, List.foldl_cons, (h.arrive w).inside_arriveAll hfirst.2, hfirst.1]
  refine ⟨hinside, ?_⟩
  have hqueue := h.queue_arriveAll (w :: ws)
  rw [queue, hinside, hq, List.nil_append, numbered] at hqueue
  exact (List.cons.inj hqueue).2

end Arrivals

/-! ## 2. What comes of them -/

section Moves

variable [Add τ] [LT τ] [DecidableLT τ] {c c' : Cache τ} {token : Text}

/-- While a token may be served, nobody who is let in asks. -/
theorem hasAsked_move (hv : Lease.valid? c.now c.lease = some token)
    (hin : ∀ x ∈ c.inside, x.2.hasAsked = false) (h : c.move? = some c') :
    ∀ x ∈ c'.inside, x.2.hasAsked = false := by
  rcases move?_cases h with ⟨pre, t, s, post, hi, -, rfl⟩ | h
  · have hs : s.hasAsked = false := hin (t, s) (by simp [hi])
    cases s with
    | entered =>
      simp only [turn, hv]
      intro x hx
      refine hin x ?_
      rw [hi]
      rcases List.mem_append.mp hx with hx | hx
      · exact List.mem_append_left _ hx
      · exact List.mem_append_right _ (List.mem_cons_of_mem _ hx)
    | fetching => cases hs
    | answered r => cases hs
  · obtain ⟨t, l, rfl⟩ := letIn?_eq_some h
    intro x hx
    rcases List.mem_append.mp hx with hx | hx
    · exact hin x hx
    · rw [List.mem_singleton.mp hx]
      rfl

/-- While a token may be served and nobody has asked, nobody starts a fetch. -/
theorem NoFetchSince.settle (hv : Lease.valid? c.now c.lease = some token)
    (hin : ∀ x ∈ c.inside, x.2.hasAsked = false) :
    c.NoFetchSince c.settle ∧ c.settle.now = c.now := by
  induction c using settle.induct with
  | case1 c c' hm ih =>
    have hsince : c.NoFetchSince c' := .move hv hin hm
    have hnow : c'.now = c.now := now_move? hm
    obtain ⟨hrest, hnow'⟩ := ih (by rw [hnow, hsince.1, hv]) (hasAsked_move hv hin hm)
    rw [settle_of_some hm]
    exact ⟨hsince.trans hrest, hnow'.trans hnow⟩
  | case2 c hm =>
    rw [settle_of_none hm]
    exact ⟨.of_log_eq rfl rfl, rfl⟩

end Moves

section Through

variable [Add τ]

/-- The cache when a call has got a token from its fetch and come out. -/
def given (t : Ticket) (token : Text) (c : Cache τ) : Cache τ :=
  (c.keep t token).exit [] t (.served token)

theorem log_given (t : Ticket) (token : Text) (c : Cache τ) :
    (c.given t token).log = c.log ++ [.fetched t token c.now, .ended t (.served token) c.now] := by
  simp [given, exit, keep, note]

theorem line_given (t : Ticket) (token : Text) (c : Cache τ) : (c.given t token).line = c.line :=
  line_exit ..

theorem held_given (t : Ticket) (token : Text) (c : Cache τ) : (c.given t token).held = false :=
  held_exit ..

/-- The cache when a call has made a fetch that ended at once, and come out. -/
def through (t : Ticket) (token : Text) (c : Cache τ) : Cache τ :=
  ({ c with inside := [(t, .answered (.ok token))] }.note (.asked t)).given t token

theorem log_through (t : Ticket) (token : Text) (c : Cache τ) :
    (c.through t token).log
      = c.log ++ [.asked t, .fetched t token c.now, .ended t (.served token) c.now] := by
  simp [through, log_given, note]

theorem line_through (t : Ticket) (token : Text) (c : Cache τ) :
    (c.through t token).line = c.line :=
  line_given ..

end Through

section Settling

variable [Add τ] [LT τ] [DecidableLT τ] {c : Cache τ} {t : Ticket} {token : Text}

/-- Behind a valid lease who was let in is served, and then everyone in the line. -/
theorem settle_entered_served (hi : c.inside = [(t, .entered)])
    (hv : Lease.valid? c.now c.lease = some token) :
    c.settle.log = c.log ++ (t :: c.line).map (.ended · (.served token) c.now) := by
  have hout : c.turn [] t .entered [] = c.exit [] t (.served token) := by
    simp only [turn, hv, List.append_nil]
  rw [settle_of_some (move?_of_inside hi rfl), hout, settle_served rfl (held_exit ..) hv, line_exit]
  simp [exit, note]

/-- Behind a lease that is over who was let in starts a fetch. -/
theorem settle_entered_fetching (hi : c.inside = [(t, .entered)]) (hh : c.held = true)
    (hv : Lease.valid? c.now c.lease = none) (hlong : c.instant = none) :
    c.settle.fetches = [t] := by
  have hask : c.turn [] t .entered [] = { c with inside := [(t, .fetching)] }.note (.asked t) := by
    simp only [turn, hv, afterAsking, hlong, List.nil_append]
  have hquiet : ({ c with inside := [(t, .fetching)] }.note (.asked t)).move? = none :=
    quiet_of_fetching rfl hh
  rw [settle_of_some (move?_of_inside hi rfl), hask, settle_of_none hquiet]
  rfl

/-- Behind a lease that is over who was let in fetches, where fetches end at once. -/
theorem settle_entered_asking (hi : c.inside = [(t, .entered)])
    (hv : Lease.valid? c.now c.lease = none) (hmake : c.instant = some fun _ => .ok token) :
    c.settle = (c.through t token).settle := by
  have hask : c.turn [] t .entered [] =
      { c with inside := [(t, .answered (.ok token))] }.note (.asked t) := by
    simp only [turn, hv, afterAsking, hmake, List.nil_append]
  rw [settle_of_some (move?_of_inside hi rfl), hask, settle_of_some (move?_of_inside rfl rfl)]
  rfl

/-- **Where the lease is valid at once, one fetch is enough.** -/
theorem settle_shared (hi : c.inside = [(t, .entered)])
    (hv : Lease.valid? c.now c.lease = none) (hmake : c.instant = some fun _ => .ok token)
    (hpos : c.now < c.now + c.ttl) :
    c.settle.log = c.log ++ History.shared token c.now (t :: c.line) := by
  have hkept : Lease.valid? (c.through t token).now (c.through t token).lease = some token :=
    if_pos hpos
  have hnow : (c.through t token).now = c.now := rfl
  rw [settle_entered_asking hi hv hmake,
    settle_served (c := c.through t token) rfl (held_given ..) hkept, log_through, line_through,
    hnow]
  simp [History.shared]

/-- Where the lease is over at once, everyone in the line fetches. -/
theorem settle_line_separate (hi : c.inside = []) (hh : c.held = false)
    (hv : Lease.valid? c.now c.lease = none) (hmake : c.instant = some fun _ => .ok token)
    (hover : ¬ c.now < c.now + c.ttl) :
    c.settle.log = c.log ++ History.separate token c.now c.line := by
  generalize hl : c.line = line
  induction line generalizing c with
  | nil =>
    rw [settle_of_none (quiet_of_nobody hi hl)]
    simp [History.separate]
  | cons t rest ih =>
    have hover' : Lease.valid? ((c.enter t rest).through t token).now
        ((c.enter t rest).through t token).lease = none := if_neg hover
    have hrest := ih (c := (c.enter t rest).through t token) rfl (held_given ..) hover' hmake hover
      ((line_through ..).trans (line_enter hl))
    rw [settle_of_some (move?_of_line hi hh hl),
      settle_entered_asking (c := c.enter t rest) rfl hv hmake, hrest, log_through]
    simp [History.separate, enter, through, given, exit, keep, note]

/-- **Where the lease is over at once, each makes a fetch of its own.** -/
theorem settle_separate (hi : c.inside = [(t, .entered)])
    (hv : Lease.valid? c.now c.lease = none) (hmake : c.instant = some fun _ => .ok token)
    (hover : ¬ c.now < c.now + c.ttl) :
    c.settle.log = c.log ++ History.separate token c.now (t :: c.line) := by
  have hover' : Lease.valid? (c.through t token).now (c.through t token).lease = none :=
    if_neg hover
  have hnow : (c.through t token).now = c.now := rfl
  rw [settle_entered_asking hi hv hmake,
    settle_line_separate (c := c.through t token) rfl (held_given ..) hover' hmake hover,
    log_through, line_through, hnow]
  simp [History.separate]

/-! ## 3. A token that is kept, and one that is not -/

/-- Where a fetch has just given a token: what is left of the cache when its call has come out. -/
theorem step_release_eq (ho : c.Ordered) (ht : t ∈ c.fetches) :
    c.step (.release token) = (c.given t token).settle := by
  obtain ⟨⟨u, s⟩, hx, rfl⟩ := List.mem_map.mp ht
  obtain ⟨hmem, hs⟩ := List.mem_filter.mp hx
  obtain ⟨pre, post, hi⟩ := List.append_of_mem hmem
  obtain ⟨rfl, rfl, -⟩ := ho.alone hi
  cases s with
  | entered => cases hs
  | answered r => cases hs
  | fetching =>
    have hin : (c.answer (.ok token)).inside = [(u, .answered (.ok token))] := by
      rw [answer, hi]
      rfl
    rw [step, happen, settle_of_some (move?_of_inside hin rfl)]
    rfl

/-- At its clock reading a token that was fetched serves all that want it. -/
structure Keeps (c : Cache τ) : Prop where
  /-- When the fetch that is running gives a token, all that wait are served it. -/
  waiting : ∀ t token, t ∈ c.fetches →
    (c.step (.release token)).log = c.log ++ .fetched t token c.now ::
      c.log.pending.map (.ended · (.served token) c.now)
  /-- So are the calls that are made after that. -/
  later : ∀ t token ws, t ∈ c.fetches →
    ((c.step (.release token)).step (.call ws)).log = (c.step (.release token)).log ++
      (numbered (c.step (.release token)).calls ws).map .called ++
      (numbered (c.step (.release token)).calls ws).map (.ended · (.served token) c.now)
  /-- Calls that are made where nobody waits, and nothing can be served, share one fetch. -/
  together : ∀ token ws, c.queue = [] → Lease.valid? c.now c.lease = none →
    c.instant = some (fun _ => .ok token) →
    (c.step (.call ws)).log = c.log ++ (numbered c.calls ws).map .called ++
      History.shared token c.now (numbered c.calls ws) ∧
    (c.step (.call ws)).started = c.started + min 1 ws.length

/-- At its clock reading a token that was fetched serves nobody but the call that fetched it. -/
structure Loses (c : Cache τ) : Prop where
  /-- When the fetch that is running gives a token, the next that waits starts a fetch. -/
  waiting : ∀ t token, t ∈ c.fetches → c.instant = none →
    (c.step (.release token)).log = c.log ++ .fetched t token c.now ::
      .ended t (.served token) c.now :: (c.line.head?.map .asked).toList ∧
    (c.step (.release token)).fetches = c.line.take 1
  /-- So does the first of the calls that are made after that, if none has waited. -/
  later : ∀ t token w ws, t ∈ c.fetches → c.instant = none → c.line = [] →
    ((c.step (.release token)).step (.call (w :: ws))).fetches
      = [⟨w, (c.step (.release token)).calls⟩]
  /-- Calls that are made where nobody waits, and nothing can be served, make a fetch each. -/
  together : ∀ token ws, c.queue = [] → Lease.valid? c.now c.lease = none →
    c.instant = some (fun _ => .ok token) →
    (c.step (.call ws)).log = c.log ++ (numbered c.calls ws).map .called ++
      History.separate token c.now (numbered c.calls ws) ∧
    (c.step (.call ws)).started = c.started + ws.length

/-- **Calls are made where nobody waits.**  What comes of them is what comes of the first of them,
who is let in, and of the others behind it. -/
theorem Ordered.log_step_call (ho : c.Ordered) (hq : c.queue = []) {f : List Ticket → History τ}
    (hnil : f [] = [])
    (hcons : ∀ (b : Cache τ) t, b.inside = [(t, .entered)] → b.now = c.now → b.lease = c.lease →
      b.ttl = c.ttl → b.instant = c.instant → b.settle.log = b.log ++ f (t :: b.line))
    (ws : List Waiter) :
    (c.step (.call ws)).log = c.log ++ (numbered c.calls ws).map .called
      ++ f (numbered c.calls ws) := by
  cases ws with
  | nil =>
    obtain ⟨hinside, hline⟩ := List.append_eq_nil_iff.mp hq
    have hquiet : c.move? = none := quiet_of_nobody (List.map_eq_nil_iff.mp hinside) hline
    rw [step_nobody_called hquiet, numbered, hnil]
    simp
  | cons w ws =>
    obtain ⟨hinside, hline⟩ := ho.burst hq w ws
    rw [step, hcons _ _ hinside (now_arriveAll ..) (NoFetchSince.happen ..).1 (ttl_arriveAll ..)
      (instant_arriveAll ..), hline, Cache.happen, log_arriveAll, numbered]

/-- **Where a lease is over at once, each call makes a fetch.**  That is so if adding the time to
live to the clock reading makes no difference, or makes no number. -/
theorem Ordered.loses (ho : c.Ordered) (hover : ¬ c.now < c.now + c.ttl) : c.Loses where
  waiting t token ht hlong := by
    have hv : Lease.valid? (c.given t token).now (c.given t token).lease = none := if_neg hover
    obtain ⟨hlog, -, hfetches⟩ := settle_handedOver rfl (held_given t token c) hv hlong
    rw [step_release_eq ho ht, hlog, hfetches, log_given, line_given]
    exact ⟨by simp, rfl⟩
  later t token w ws ht hlong hline := by
    have hordered : (c.step (.release token)).Ordered := (Reach.start.step _).ordered ho
    have hlast : c.step (.release token) = c.given t token := by
      rw [step_release_eq ho ht, settle_of_none]
      exact quiet_of_nobody rfl ((line_given ..).trans hline)
    have hq : (c.given t token).queue = [] := by
      rw [queue, line_given, hline]
      rfl
    rw [hlast] at hordered ⊢
    have hinside := (hordered.burst hq w ws).1
    have hheld := (@Ordered.alone _ _ (hordered.happen (.call (w :: ws))) [] [] _ hinside).2.2
    refine settle_entered_fetching hinside hheld ?_ ((instant_arriveAll ..).trans hlong)
    rw [(NoFetchSince.happen ..).1]
    exact (congrArg (Lease.valid? · _) (now_arriveAll ..)).trans (if_neg hover)
  together token ws hq hv hmake := by
    have hlog := ho.log_step_call hq (f := History.separate token c.now) rfl
      (fun b t hi hnow hlease httl hinstant => by
        rw [← hnow]
        exact settle_separate hi (by rw [hnow, hlease, hv]) (hinstant.trans hmake)
          (by rw [hnow, httl]; exact hover)) ws
    refine ⟨hlog, ?_⟩
    rw [started, hlog, History.started_append, History.started_callAll, History.started_separate,
      length_numbered]
    rfl

/-- **A fetch that has succeeded leaves a valid lease and nobody who waits**, if it is valid at
once. -/
theorem Ordered.after_release (ho : c.Ordered) (token : Text) (hpos : c.now < c.now + c.ttl)
    (ht : t ∈ c.fetches) :
    (c.step (.release token)).now = c.now ∧
      Lease.valid? c.now (c.step (.release token)).lease = some token ∧
      (c.step (.release token)).queue = [] := by
  have hv : Lease.valid? (c.given t token).now (c.given t token).lease = some token := if_pos hpos
  obtain ⟨hsince, hnow⟩ := NoFetchSince.settle hv fun _ h => absurd h List.not_mem_nil
  rw [← step_release_eq ho ht] at hsince hnow
  refine ⟨hnow, hsince.1 ▸ hv, ?_⟩
  have hordered := (Reach.start.step (.release token)).ordered ho
  have hlog : (c.step (.release token)).log = (c.log ++ [.fetched t token c.now]) ++
      c.log.pending.map (.ended · (.served token) c.now) := by
    rw [step_release ho hpos ht, List.append_assoc]
    rfl
  rw [← hordered.pending_eq, hlog, History.pending_endAll, History.pending_fetched]
  exact List.filter_eq_nil_iff.mpr fun u hu => by simp [hu]

/-- **Where a lease is valid at once, calls share a fetch:** when it gives a token, the calls in the
line are let in one by one, and each is served by the lease. -/
theorem Ordered.keeps (ho : c.Ordered) (hpos : c.now < c.now + c.ttl) : c.Keeps where
  waiting t token ht := step_release ho hpos ht
  later t token ws ht := by
    obtain ⟨hnow, hv, hq⟩ := ho.after_release token hpos ht
    have hordered : (c.step (.release token)).Ordered :=
      (Reach.start.step _).ordered ho
    exact hordered.log_step_call hq (f := List.map (.ended · (.served token) c.now)) rfl
      (fun b u hi hnow' hlease _ _ => by
        have hb : b.now = c.now := hnow'.trans hnow
        rw [← hb]
        exact settle_entered_served hi (by rw [hb, hlease, hv])) ws
  together token ws hq hv hmake := by
    have hlog := ho.log_step_call hq (f := History.shared token c.now) rfl
      (fun b t hi hnow hlease httl hinstant => by
        rw [← hnow]
        exact settle_shared hi (by rw [hnow, hlease, hv]) (hinstant.trans hmake)
          (by rw [hnow, httl]; exact hpos)) ws
    refine ⟨hlog, ?_⟩
    rw [started, hlog, History.started_append, History.started_callAll, History.started_shared,
      length_numbered]
    rfl

/-! ## 4. Times to live stay -/

omit [LT τ] [DecidableLT τ] in
theorem ttl_happen (c : Cache τ) (e : Event τ) : (c.happen e).ttl = c.ttl := by
  cases e with
  | call ws => exact ttl_arriveAll c ws
  | advance d => rfl
  | release token => rfl
  | fail f => rfl
  | cancel id => rfl
  | expire id => rfl
  | mode instant => rfl
  | newLoop => rfl

theorem ttl_move? {c c' : Cache τ} (h : c.move? = some c') : c'.ttl = c.ttl := by
  rcases move?_cases h with ⟨pre, t, s, post, -, -, rfl⟩ | h
  · cases s with
    | entered =>
      simp only [turn]
      split <;> rfl
    | fetching => rfl
    | answered r => cases r <;> rfl
  · obtain ⟨t, l, rfl⟩ := letIn?_eq_some h
    rfl

/-- **The time to live is that of the start.** -/
theorem Reach.ttl_eq {start : Cache τ} (h : Reach start c) : c.ttl = start.ttl := by
  induction h with
  | start => rfl
  | event e _ ih => exact (ttl_happen _ e).trans ih
  | move _ hm ih => exact (ttl_move? hm).trans ih

end Settling

end Cache

end Tombola.Token
