import Tombola.Proofs.Token.Turns
/-!
# What comes of the line

When the call inside has ended, the calls of the line are let in one after another.  What
comes of them depends on the lease alone.  If it is valid, everyone is served from it, and
nobody fetches.  If it is over, the first of the line starts a fetch, and the others stay
where they are.

Main statements: `settle_served`, the line behind a valid lease; `settle_handedOver`, the line
behind one that is over, while fetches take time.
-/

namespace Tombola.Token.Cache

variable {τ : Type}

/-! ## 1. One call is let in -/

/-- The cache when the first of the line has been let in and `rest` is still there. -/
def enter (t : Ticket) (rest : List Ticket) (c : Cache τ) : Cache τ :=
  { c with
    lock := c.lock.map fun l => { l with locked := true, line := rest }
    inside := [(t, .entered)] }

section Lock

variable {c : Cache τ} {t : Ticket} {rest : List Ticket}

theorem lock_of_line (hl : c.line = t :: rest) : ∃ l, c.lock = some l ∧ l.line = t :: rest := by
  cases hc : c.lock with
  | none => simp [line, hc] at hl
  | some l => exact ⟨l, rfl, by simpa [line, hc] using hl⟩

theorem held_enter (hl : c.line = t :: rest) : (c.enter t rest).held = true := by
  obtain ⟨l, hc, -⟩ := lock_of_line hl
  simp [enter, held, hc]

theorem line_enter (hl : c.line = t :: rest) : (c.enter t rest).line = rest := by
  obtain ⟨l, hc, -⟩ := lock_of_line hl
  simp [enter, line, hc]

@[simp] theorem held_exit (others : List (Ticket × Stage)) (t : Ticket) (o : Outcome)
    (c : Cache τ) : (c.exit others t o).held = false := by
  cases h : c.lock <;> simp [exit, note, held, h, Lock.giveBack]

end Lock

variable [Add τ] [LT τ] [DecidableLT τ] {c : Cache τ} {t : Ticket} {s : Stage}
  {rest : List Ticket}

theorem move?_of_inside (hi : c.inside = [(t, s)]) (hs : s.isFetching = false) :
    c.move? = some (c.turn [] t s []) := by
  simp [move?, hi, hs]

/-- The first of the line is let in where nobody is. -/
theorem move?_of_line (hi : c.inside = []) (hh : c.held = false) (hl : c.line = t :: rest) :
    c.move? = some (c.enter t rest) := by
  obtain ⟨l, hc, hline⟩ := lock_of_line hl
  have hlocked : l.locked = false := by simpa [held, hc] using hh
  have hn : l.next? = some (t, { l with locked := true, line := rest }) :=
    Lock.next?_eq_some.mpr ⟨hlocked, rest, hline, rfl⟩
  simp [move?, hi, letIn?, hc, hn, enter]

/-- While the call inside fetches, nothing moves. -/
theorem quiet_of_fetching (hi : c.inside = [(t, .fetching)]) (hh : c.held = true) :
    c.move? = none := by
  cases hc : c.lock with
  | none => simp [move?, hi, Stage.isFetching, letIn?, hc]
  | some l =>
    have hn : l.next? = none := Lock.next?_eq_none.mpr (.inl (by simpa [held, hc] using hh))
    simp [move?, hi, Stage.isFetching, letIn?, hc, hn]

theorem quiet_of_nobody (hi : c.inside = []) (hl : c.line = []) : c.move? = none := by
  cases hc : c.lock with
  | none => simp [move?, hi, letIn?, hc]
  | some l =>
    have hn : l.next? = none := Lock.next?_eq_none.mpr (.inr (by simpa [line, hc] using hl))
    simp [move?, hi, letIn?, hc, hn]

/-! ## 2. The whole line -/

/-- **Behind a valid lease everyone is served**, in the order of the line, and nobody starts a
fetch. -/
theorem settle_served {token : Text} (hi : c.inside = []) (hh : c.held = false)
    (hv : Lease.valid? c.now c.lease = some token) :
    c.settle.log = c.log ++ c.line.map (.ended · (.served token) c.now) := by
  generalize hl : c.line = line
  induction line generalizing c with
  | nil =>
    rw [settle_of_none (quiet_of_nobody hi hl), List.map_nil, List.append_nil]
  | cons t rest ih =>
    have hout : (c.enter t rest).turn [] t .entered [] =
        (c.enter t rest).exit [] t (.served token) := by
      have hv' : Lease.valid? (c.enter t rest).now (c.enter t rest).lease = some token := hv
      simp only [turn, hv', List.append_nil]
    have hline : ((c.enter t rest).exit [] t (.served token)).line = rest :=
      (line_exit ..).trans (line_enter hl)
    have hrest := ih (c := (c.enter t rest).exit [] t (.served token)) rfl (held_exit ..) hv hline
    rw [settle_of_some (move?_of_line hi hh hl), settle_of_some (move?_of_inside rfl rfl), hout,
      hrest]
    simp [exit, note, enter]

/-- **Behind a lease that is over the first of the line starts a fetch**, and the others wait. -/
theorem settle_handedOver (hi : c.inside = []) (hh : c.held = false)
    (hv : Lease.valid? c.now c.lease = none) (hlong : c.instant = none) :
    c.settle.log = c.log ++ (c.line.head?.map .asked).toList ∧ c.settle.lease = c.lease ∧
      c.settle.fetches = c.line.take 1 := by
  cases hl : c.line with
  | nil =>
    rw [settle_of_none (quiet_of_nobody hi hl)]
    simp [fetches, hi]
  | cons t rest =>
    have hask : (c.enter t rest).turn [] t .entered [] =
        { c.enter t rest with inside := [(t, .fetching)] }.note (.asked t) := by
      have hv' : Lease.valid? (c.enter t rest).now (c.enter t rest).lease = none := hv
      have hlong' : (c.enter t rest).instant = none := hlong
      simp only [turn, hv', afterAsking, hlong', List.nil_append]
    have hquiet : ({ c.enter t rest with inside := [(t, .fetching)] }.note (.asked t)).move?
        = none := quiet_of_fetching rfl (held_enter hl)
    rw [settle_of_some (move?_of_line hi hh hl), settle_of_some (move?_of_inside rfl rfl), hask,
      settle_of_none hquiet]
    exact ⟨rfl, rfl, rfl⟩

end Tombola.Token.Cache
