import Tombola.Proofs.Float.Sums
import Tombola.Proofs.Token.Bursts
import Tombola.Settings.Number
import Tombola.Token.Ttl
/-!
# Times to live that are of use

A lease ends at the sum of the clock reading and the time to live, and this sum is rounded.  So a
token is kept only if the time to live is noticed in the sum: then it serves all that want it at
the reading at which it was fetched, and otherwise nobody but the call that fetched it.

Times to live that are zero or less are refused.  Of those that are left, what is infinite is
always noticed, and what is a number is noticed if it is not too small beside the clock.  What is
no number at all is neither zero nor less, nor is it ever noticed.

Main statement: `kept_iff_noticed`.
-/

namespace Tombola.Token

open Binary

/-- A number is accepted unless it is zero or less; what is no number at all is accepted too. -/
theorem Ttl.check_real_iff {x ttl : Float} : (real x).check = .ok ttl ↔ ttl = x ∧ ¬ x ≤ 0 := by
  unfold check seconds
  by_cases h : x ≤ 0
  · simp [h]
  · simp [h, eq_comm]

namespace Cache

/-- **A token is kept exactly if the time to live is noticed at the clock reading.**  The time to
live is any number that is accepted.  In every state that is reached from the start by events and
moves in any order, at a finite reading: if the time to live is noticed, a fetch that gives a token
serves all that wait and all that call after that, and calls that are made together share one fetch;
and if it is not, the next that waits starts a fetch of its own, and so does each of the calls that
are made together.  What is infinite is noticed, and what is no number is not. -/
theorem kept_iff_noticed {x ttl now : Float} {instant : Option (Nat → Except Failure Text)}
    {c : Cache Float} (hx : (Ttl.real x).check = .ok ttl) (h : Reach (init ttl now instant) c)
    (hnow : c.now.isFinite = true) :
    (Noticed c.now ttl → c.Keeps) ∧ (¬ Noticed c.now ttl → c.Loses) ∧
      (ttl.isInf = true → Noticed c.now ttl) ∧ (ttl.isNaN = true → ¬ Noticed c.now ttl) := by
  obtain ⟨rfl, hpos⟩ := Ttl.check_real_iff.mp hx
  have ho : c.Ordered := h.ordered (init_ordered ..)
  have httl : c.ttl = ttl := h.ttl_eq
  have hiff : c.now < c.now + c.ttl ↔ Noticed c.now ttl := by
    rw [httl]
    exact lt_add_iff hnow hpos
  exact ⟨fun hn => ho.keeps (hiff.mpr hn), fun hn => ho.loses (mt hiff.mp hn), .inl,
    not_noticed_of_isNaN⟩

/-- A minute is noticed at the reading 1000, and three calls share a fetch.  What is too small is
not, and each of them makes a fetch of its own. -/
theorem kept_iff_noticed_minute :
    let c : Cache Float := (init 60 1000 none).run
      [.call [⟨"a", false⟩, ⟨"b", true⟩, ⟨"c", false⟩]]
    let token := Text.ofString "x"
    let c' : Cache Float := init 1e-20 1000 (some fun _ => .ok token)
    (Ttl.real 60).check = .ok 60 ∧ Reach (init 60 1000 none) c ∧ c.now.isFinite = true ∧
      Noticed c.now 60 ∧ ⟨⟨"a", false⟩, 0⟩ ∈ c.fetches ∧
      (c.step (.release token)).log = c.log ++
        [.fetched ⟨⟨"a", false⟩, 0⟩ token c.now, .ended ⟨⟨"a", false⟩, 0⟩ (.served token) c.now,
          .ended ⟨⟨"b", true⟩, 1⟩ (.served token) c.now,
          .ended ⟨⟨"c", false⟩, 2⟩ (.served token) c.now] ∧
      (Ttl.real 1e-20).check = .ok 1e-20 ∧ ¬ Noticed c'.now 1e-20 ∧
      (c'.step (.call [⟨"a", false⟩, ⟨"b", true⟩, ⟨"c", false⟩])).started = 3 := by
  intro c token c'
  have haccepted : (Ttl.real 60).check = .ok 60 := Ttl.check_real_iff.mpr ⟨rfl, by decide +kernel⟩
  have hc : Reach (init 60 1000 none) c := Reach.start.run _
  have hnow : c.now.isFinite = true := by decide +kernel
  have hnoticed : Noticed c.now 60 := by decide +kernel
  have hf : ⟨⟨"a", false⟩, 0⟩ ∈ c.fetches := by decide +kernel
  have hp : c.log.pending = [⟨⟨"a", false⟩, 0⟩, ⟨⟨"b", true⟩, 1⟩, ⟨⟨"c", false⟩, 2⟩] := by
    decide +kernel
  have hlog := ((kept_iff_noticed haccepted hc hnow).1 hnoticed).waiting _ token hf
  rw [hp] at hlog
  have haccepted' : (Ttl.real 1e-20).check = .ok 1e-20 :=
    Ttl.check_real_iff.mpr ⟨rfl, by decide +kernel⟩
  have hunnoticed : ¬ Noticed c'.now 1e-20 := by decide +kernel
  have hstart : Reach c' c' := .start
  have hloses := (kept_iff_noticed haccepted' hstart (by decide +kernel)).2.1 hunnoticed
  exact ⟨haccepted, hc, hnow, hnoticed, hf, hlog, haccepted', hunnoticed,
    (hloses.together token _ rfl rfl rfl).2⟩

/-- **What is no number is accepted, and no token is kept for it**: each of three calls makes a
fetch of its own.  So it is with a number that is greater than zero and too small for the clock. -/
theorem burst_of_fetches :
    let ws : List Waiter := [⟨"a", false⟩, ⟨"b", true⟩, ⟨"c", false⟩]
    let burst (ttl : Float) : Cache Float :=
      (init ttl 1000 (some fun _ => .ok (Text.ofString "x"))).step (.call ws)
    (∃ x, Settings.readFloat "nan" = .ok x ∧ (Ttl.real x).check = .ok x ∧ (burst x).started = 3) ∧
      ∃ x, Settings.readFloat "1e-20" = .ok x ∧ (Ttl.real x).check = .ok x ∧
        (burst x).started = 3 := by
  intro ws burst
  have hburst : ∀ x : Float, ¬ (1000 : Float) < 1000 + x → (burst x).started = 3 := fun x hx =>
    (((init_ordered x 1000 _).loses hx).together (Text.ofString "x") ws rfl rfl rfl).2
  have hread : ∀ text, ((Settings.readFloat text).toOption.map fun x =>
      decide (¬ x ≤ 0 ∧ ¬ (1000 : Float) < 1000 + x)) = some true →
      ∃ x, Settings.readFloat text = .ok x ∧ (Ttl.real x).check = .ok x ∧
        (burst x).started = 3 := by
    intro text h
    obtain ⟨x, hx, h⟩ := Option.map_eq_some_iff.mp h
    obtain ⟨hpos, hover⟩ := of_decide_eq_true h
    exact ⟨x, ok_of_toOption hx, Ttl.check_real_iff.mpr ⟨rfl, hpos⟩, hburst x hover⟩
  exact ⟨hread _ (by decide +kernel), hread _ (by decide +kernel)⟩

end Cache

end Tombola.Token
