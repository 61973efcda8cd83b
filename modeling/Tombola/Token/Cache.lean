import Tombola.Token.Lease
import Tombola.Token.Lock
/-!
# The cache of a remote token

Many calls may want the token at the same time, and a lock lets one of them in at a time.
Who is inside takes the token from a valid lease or else fetches a new one, and gives the
lock back when it ends, however it ends; so a burst of calls makes one fetch.

A fetch that fails ends its own call and changes nothing else.  A call that is cancelled, or
whose time runs out, leaves the line or gives the lock back; if it was fetching, the fetch is
dropped with it.  A change of loop cancels all calls that wait, and keeps the lease.  A lock
is of use in one loop only, so the first call of a loop makes a new one.

The machine has two kinds of transitions, which may follow each other in any order: `happen`
is what the callers, the clock and the secret server do, `move?` is what a call does next by
itself.  `Cache.step` is an event and then all the moves that follow from it.

Main statements:

* `work_move?`: every move leaves less to do, so the moves come to an end;
* `settle_quiet`, `run_quiet`: after steps nothing can move by itself;
* `Reach.step`, `Reach.run`: what steps lead to is reached by events and moves.
-/

namespace Tombola.Token

/-! ## 1. States -/

/-- How far a call that was let in has come. -/
inductive Stage where
  /-- It has not looked at the lease yet. -/
  | entered
  | fetching
  /-- Its fetch has ended, and it has not gone on yet. -/
  | answered (r : Except Failure Text)

/-- Whether a call at this stage waits for its fetch. -/
def Stage.isFetching : Stage → Bool
  | fetching => true
  | _ => false

/-- How many moves a call at this stage can still make. -/
def Stage.work : Stage → Nat
  | entered => 2
  | fetching => 0
  | answered _ => 1

/-- How many moves the calls inside may still make. -/
def workInside : List (Ticket × Stage) → Nat
  | [] => 0
  | (_, s) :: rest => s.work + workInside rest

theorem workInside_append (as bs : List (Ticket × Stage)) :
    workInside (as ++ bs) = workInside as + workInside bs := by
  induction as with
  | nil => simp [workInside]
  | cons a as ih =>
    simp only [List.cons_append, workInside, ih]
    omega

/-- The cache of one token. -/
structure Cache (τ : Type) where
  /-- How long a fetched token is served. -/
  ttl : τ
  now : τ
  lease : Option (Lease τ)
  loop : Nat
  /-- The lock that was made last. -/
  lock : Option Lock
  /-- The calls that were let in and have not ended. -/
  inside : List (Ticket × Stage)
  /-- How a fetch ends that ends at once, from the number of fetches; `none` while fetches
  take time. -/
  instant : Option (Nat → Except Failure Text)
  calls : Nat
  log : History τ

/-- What can happen. -/
inductive Event (τ : Type) where
  /-- Calls are made, in this order. -/
  | call (waiters : List Waiter)
  | advance (by' : τ)
  /-- The oldest running fetch gives a token. -/
  | release (token : Text)
  | fail (f : Failure)
  | cancel (id : String)
  | expire (id : String)
  /-- Later fetches end at once, or take time. -/
  | mode (instant : Option (Nat → Except Failure Text))
  /-- A new loop begins; the calls of the old one are cancelled. -/
  | newLoop

namespace Cache

variable {τ : Type}

/-- A cache that has fetched nothing yet. -/
def init (ttl now : τ) (instant : Option (Nat → Except Failure Text)) : Cache τ :=
  ⟨ttl, now, none, 0, none, [], instant, 0, []⟩

/-- The calls that wait for the lock, in order. -/
def line (c : Cache τ) : List Ticket := (c.lock.map (·.line)).getD []

def held (c : Cache τ) : Bool := (c.lock.map (·.locked)).getD false

/-- The lock that a call of this loop asks for: a lock of another loop is of no use. -/
def loopLock (c : Cache τ) : Lock :=
  match c.lock with
  | some l => if l.loop = c.loop then l else .fresh c.loop
  | none => .fresh c.loop

/-- The calls whose fetch is running. -/
def fetches (c : Cache τ) : List Ticket := (c.inside.filter (·.2.isFetching)).map (·.1)

def fetching (c : Cache τ) : Bool := ! c.fetches.isEmpty

/-- All calls that wait: for the lock, or inside. -/
def queue (c : Cache τ) : List Ticket := c.inside.map (·.1) ++ c.line

def started (c : Cache τ) : Nat := c.log.started

/-- The calls of this loop that have ended, in order. -/
def ended (c : Cache τ) : List (String × Outcome) := c.log.ended

def note (n : Note τ) (c : Cache τ) : Cache τ := { c with log := c.log ++ [n] }

/-! ## 2. Moves -/

/-- A call comes out again: it gives the lock back and ends.  `others` are the calls that
stay inside. -/
def exit (others : List (Ticket × Stage)) (t : Ticket) (o : Outcome) (c : Cache τ) : Cache τ :=
  { c with inside := others, lock := c.lock.map Lock.giveBack }.note (.ended t o c.now)

/-- Keeps a token that was just fetched. -/
def keep [Add τ] (t : Ticket) (token : Text) (c : Cache τ) : Cache τ :=
  { c with lease := some (.start c.ttl c.now token) }.note (.fetched t token c.now)

/-- The stage of a call that has just started the `n`-th fetch. -/
def afterAsking (c : Cache τ) (n : Nat) : Stage :=
  match c.instant with
  | some make => .answered (make n)
  | none => .fetching

/-- The first call of the line is let in, if the lock is free. -/
def letIn? (c : Cache τ) : Option (Cache τ) :=
  match c.lock.bind Lock.next? with
  | some (t, l) => some { c with lock := some l, inside := c.inside ++ [(t, .entered)] }
  | none => none

/-- How many moves may still follow. -/
def work (c : Cache τ) : Nat := 3 * c.line.length + workInside c.inside

theorem work_letIn? {c c' : Cache τ} (h : c.letIn? = some c') : c'.work < c.work := by
  unfold letIn? at h
  split at h
  · rename_i t l hl
    obtain ⟨l₀, h₀, hn⟩ := Option.bind_eq_some_iff.mp hl
    obtain ⟨-, rest, hline, rfl⟩ := Lock.next?_eq_some.mp hn
    cases h
    simp only [work, line, h₀, Option.map_some, Option.getD_some, hline, List.length_cons,
      workInside_append, workInside, Stage.work]
    omega
  · cases h

@[simp] theorem line_exit (others : List (Ticket × Stage)) (t : Ticket) (o : Outcome)
    (c : Cache τ) : (c.exit others t o).line = c.line := by
  cases h : c.lock <;> simp [exit, note, line, h, Lock.giveBack]

theorem work_exit {c : Cache τ} {pre post : List (Ticket × Stage)} {t : Ticket} {s : Stage}
    (hi : c.inside = pre ++ (t, s) :: post) (hs : 0 < s.work) (o : Outcome) :
    (c.exit (pre ++ post) t o).work < c.work := by
  rw [work, work, line_exit, hi]
  simp only [exit, note, workInside_append, workInside]
  omega

theorem work_afterAsking (c : Cache τ) (n : Nat) : (c.afterAsking n).work ≤ 1 := by
  unfold afterAsking
  split <;> simp [Stage.work]

/-- Where the first call that need not wait stands among those inside. -/
theorem inside_of_dropWhile {c : Cache τ} {post : List (Ticket × Stage)} {t : Ticket} {s : Stage}
    (h : c.inside.dropWhile (·.2.isFetching) = (t, s) :: post) :
    c.inside = c.inside.takeWhile (·.2.isFetching) ++ (t, s) :: post ∧ s.isFetching = false := by
  constructor
  · rw [← h, List.takeWhile_append_dropWhile]
  · have := List.head?_dropWhile_not (fun x : Ticket × Stage => x.2.isFetching) c.inside
    rw [h] at this
    simpa using this

section Moves

variable [Add τ] [LT τ] [DecidableLT τ]

/-- What a call inside does next; `pre` and `post` are the others inside. -/
def turn (pre : List (Ticket × Stage)) (t : Ticket) (s : Stage) (post : List (Ticket × Stage))
    (c : Cache τ) : Cache τ :=
  match s with
  | .entered =>
    match Lease.valid? c.now c.lease with
    | some token => c.exit (pre ++ post) t (.served token)
    | none =>
      { c with inside := pre ++ (t, c.afterAsking (c.started + 1)) :: post }.note (.asked t)
  | .fetching => c
  | .answered (.ok token) => (c.keep t token).exit (pre ++ post) t (.served token)
  | .answered (.error f) => c.exit (pre ++ post) t (.failed f)

/-- The next move, if there is one: the first call inside that need not wait goes on, or
else a call is let in. -/
def move? (c : Cache τ) : Option (Cache τ) :=
  match c.inside.dropWhile (·.2.isFetching) with
  | (t, s) :: post => some (c.turn (c.inside.takeWhile (·.2.isFetching)) t s post)
  | [] => c.letIn?

theorem work_turn {c : Cache τ} {pre post : List (Ticket × Stage)} {t : Ticket} {s : Stage}
    (hi : c.inside = pre ++ (t, s) :: post) (hs : s.isFetching = false) :
    (c.turn pre t s post).work < c.work := by
  cases s with
  | entered =>
    simp only [turn]
    split
    · exact work_exit hi (by simp [Stage.work]) _
    · have h1 := work_afterAsking c (c.started + 1)
      have h2 : Stage.entered.work = 2 := rfl
      simp only [work, note, line, hi, workInside_append, workInside]
      omega
  | fetching => simp [Stage.isFetching] at hs
  | answered r =>
    cases r with
    | ok token => exact work_exit (c := c.keep t token) hi (by simp [Stage.work]) _
    | error f => exact work_exit hi (by simp [Stage.work]) _

/-- A move is a turn of a call inside, or lets a call in. -/
theorem move?_cases {c c' : Cache τ} (h : c.move? = some c') :
    (∃ pre t s post, c.inside = pre ++ (t, s) :: post ∧ s.isFetching = false ∧
      c' = c.turn pre t s post) ∨ c.letIn? = some c' := by
  unfold move? at h
  split at h
  · rename_i t s post hd
    obtain ⟨hi, hf⟩ := inside_of_dropWhile hd
    exact .inl ⟨_, t, s, post, hi, hf, (Option.some.inj h).symm⟩
  · exact .inr h

theorem work_move? {c c' : Cache τ} (h : c.move? = some c') : c'.work < c.work := by
  rcases move?_cases h with ⟨pre, t, s, post, hi, hf, rfl⟩ | h
  · exact work_turn hi hf
  · exact work_letIn? h

/-- Makes moves until nothing can move by itself. -/
def settle (c : Cache τ) : Cache τ :=
  match _h : c.move? with
  | some c' => c'.settle
  | none => c
termination_by c.work
decreasing_by exact work_move? _h

theorem settle_of_some {c c' : Cache τ} (h : c.move? = some c') : c.settle = c'.settle := by
  rw [settle]
  split
  · rename_i h'
    rw [h] at h'
    cases h'
    rfl
  · rename_i h'
    rw [h] at h'
    cases h'

theorem settle_of_none {c : Cache τ} (h : c.move? = none) : c.settle = c := by
  rw [settle]
  split
  · rename_i h'
    rw [h] at h'
    cases h'
  · rfl

/-- **What has settled cannot move by itself.** -/
theorem settle_quiet (c : Cache τ) : c.settle.move? = none := by
  induction c using settle.induct with
  | case1 c c' h ih => rwa [settle_of_some h]
  | case2 c h => rwa [settle_of_none h]

end Moves

/-! ## 3. Events -/

/-- A call is made: it takes the lock or goes to the end of the line. -/
def arrive (c : Cache τ) (w : Waiter) : Cache τ :=
  let t : Ticket := { w with number := c.calls }
  let l := c.loopLock
  let c := { c with calls := c.calls + 1 }.note (.called t)
  if l.isFree then { c with lock := some l.take, inside := c.inside ++ [(t, .entered)] }
  else { c with lock := some (l.join t) }

/-- Some of the calls that wait are given up.  Who is inside gives the lock back. -/
def leave (who : Ticket → Bool) (o : Outcome) (c : Cache τ) : Cache τ :=
  let release (l : Lock) := if c.inside.any (who ·.1) then l.giveBack else l
  { c with
    inside := c.inside.filter (! who ·.1)
    lock := c.lock.map fun l => release (l.withdraw who)
    log := c.log ++ (c.queue.filter who).map (.ended · o c.now) }

/-- The stages of the calls inside when the oldest running fetch ends. -/
def answerFirst (r : Except Failure Text) : List (Ticket × Stage) → List (Ticket × Stage)
  | [] => []
  | (t, .fetching) :: rest => (t, .answered r) :: rest
  | x :: rest => x :: answerFirst r rest

/-- The oldest running fetch ends. -/
def answer (r : Except Failure Text) (c : Cache τ) : Cache τ :=
  { c with inside := answerFirst r c.inside }

/-- What an event does, before anyone moves. -/
def happen [Add τ] (c : Cache τ) : Event τ → Cache τ
  | .call ws => ws.foldl arrive c
  | .advance d => { c with now := c.now + d }
  | .release token => c.answer (.ok token)
  | .fail f => c.answer (.error f)
  | .cancel id => c.leave (·.id = id) .cancelled
  | .expire id => c.leave (fun t => t.id = id && t.bounded) .timedOut
  | .mode instant => { c with instant := instant }
  | .newLoop => { c.leave (fun _ => true) .cancelled with loop := c.loop + 1 }.note .looped

variable [Add τ] [LT τ] [DecidableLT τ]

/-- One event, and the moves that follow it. -/
def step (c : Cache τ) (e : Event τ) : Cache τ := (c.happen e).settle

def run (c : Cache τ) (es : List (Event τ)) : Cache τ := es.foldl step c

/-! ## 4. What can be reached -/

/-- What events and moves, in any order, lead to. -/
inductive Reach (start : Cache τ) : Cache τ → Prop
  | start : Reach start start
  | event {c : Cache τ} (e : Event τ) : Reach start c → Reach start (c.happen e)
  | move {c c' : Cache τ} : Reach start c → c.move? = some c' → Reach start c'

theorem Reach.settle {start c : Cache τ} (h : Reach start c) : Reach start c.settle := by
  induction c using settle.induct with
  | case1 c c' hm ih => rw [settle_of_some hm]; exact ih (h.move hm)
  | case2 c hm => rwa [settle_of_none hm]

theorem Reach.step {start c : Cache τ} (h : Reach start c) (e : Event τ) :
    Reach start (c.step e) :=
  (h.event e).settle

theorem init_quiet (ttl now : τ) (instant : Option (Nat → Except Failure Text)) :
    (init ttl now instant).move? = none := rfl

/-- After a run of steps nothing can move by itself. -/
theorem run_quiet {c : Cache τ} (h : c.move? = none) (es : List (Event τ)) :
    (c.run es).move? = none := by
  induction es generalizing c with
  | nil => exact h
  | cons e es ih => exact ih (settle_quiet _)

/-- **Steps lead only to what events and moves lead to.** -/
theorem Reach.run {start c : Cache τ} (h : Reach start c) (es : List (Event τ)) :
    Reach start (c.run es) := by
  induction es generalizing c with
  | nil => exact h
  | cons e es ih => exact ih (h.step e)

end Cache

end Tombola.Token
