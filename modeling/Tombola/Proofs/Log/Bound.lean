import Mathlib.Data.List.Forall2
import Mathlib.Data.List.Induction
import Mathlib.Data.List.Nodup
import Tombola.Log.Line
import Tombola.Proofs.Occurrence
/-!
# What is bound and what a line shows of it

Values are bound to the log under names, some of them secrets.  A line shows what is bound when it
is made: under a name that the log does not use itself stands the value that was bound to it last,
since the last clearing, and under a sensitive name stands the mask.

So runs whose steps agree but for the values under sensitive names have the same lines, whatever the
time.  Both are shown stage by stage, for each stage of a line, and then along the steps.

Main statements:

* `get?_boundAfter`: what is bound after some steps;
* `get?_complete`: what a line shows of it;
* `untimed_linesAt`: lines of runs that agree but for secrets;
* `lines_hide_secrets`: all of this for what is emitted by a log that has been set up.
-/

namespace Tombola.Log

open Json

variable {c : Config} {moments : Nat → Moment} {bound bound' fs fs' : Fields} {e e' : Event}
  {k : Text} {v : Value}

/-! ## 1. Fields -/

/-- Whether a value is the last one under its name. -/
def Binds (fs : Fields) (k : Text) (v : Value) : Prop := IsLast (fun f => f.1 = k) fs (k, v)

/-- The fields of an event have different names. -/
def IsProper (e : Event) : Prop := (e.map Prod.fst).Nodup

theorem mem_names_insert {k' : Text} (h : k' ∈ (Fields.insert k v fs).map Prod.fst) :
    k' = k ∨ k' ∈ fs.map Prod.fst := by
  induction fs with
  | nil => exact .inl (List.mem_singleton.mp h)
  | cons f fs ih =>
    rw [Fields.insert] at h
    split at h
    · exact (List.mem_cons.mp h).imp_right (List.mem_cons_of_mem f.1)
    · rcases List.mem_cons.mp h with rfl | h
      · exact .inr List.mem_cons_self
      · exact (ih h).imp_right (List.mem_cons_of_mem f.1)

theorem IsProper.insert (h : IsProper fs) : IsProper (Fields.insert k v fs) := by
  induction fs with
  | nil => exact List.nodup_singleton k
  | cons f fs ih =>
    obtain ⟨hf, hfs⟩ := List.nodup_cons.mp h
    rw [Fields.insert]
    split
    · rename_i hk
      exact List.nodup_cons.mpr ⟨hk ▸ hf, hfs⟩
    · rename_i hk
      refine List.nodup_cons.mpr ⟨fun hm => ?_, ih hfs⟩
      rcases mem_names_insert hm with heq | hm
      · exact hk heq
      · exact hf hm

theorem IsProper.filter (h : IsProper fs) (p : Text × Value → Bool) : IsProper (fs.filter p) :=
  h.sublist (List.filter_sublist.map Prod.fst)

theorem get?_filter_names {p : Text → Bool} (hk : p k = true) :
    Fields.get? k (fs.filter fun f => p f.1) = Fields.get? k fs := by
  induction fs with
  | nil => rfl
  | cons f fs ih =>
    rw [List.filter_cons]
    split
    · rw [Fields.get?, ih, Fields.get?]
    · rename_i hf
      have hne : f.1 ≠ k := fun heq => hf (heq ▸ hk)
      rw [ih, Fields.get?, if_neg hne]

/-! ## 2. What is bound -/

/-- What is bound after steps from the beginning. -/
def boundAfter (past : List Step) : Fields := past.foldl Step.bound []

/-- Whether a step has a say in what is bound to a name. -/
def Step.Touches (k : Text) : Step → Prop
  | .bind fs => ∃ f ∈ fs, f.1 = k
  | .clear => True
  | .record _ => False

/-- **The value bound most recently:** it was bound to the name by the last step that had a say in
it, which is no clearing. -/
def MostRecent (past : List Step) (k : Text) (v : Value) : Prop :=
  ∃ fs, IsLast (Step.Touches k) past (.bind fs) ∧ Binds fs k v

theorem boundAfter_concat (past : List Step) (s : Step) :
    boundAfter (past ++ [s]) = s.bound (boundAfter past) := by
  rw [boundAfter, List.foldl_concat, boundAfter]

/-- **What is bound after a binding:** the last value given to the name, else the one before. -/
theorem get?_bind :
    Fields.get? k ((Step.bind fs).bound bound) = some v ↔
      Binds fs k v ∨ (∀ f ∈ fs, f.1 ≠ k) ∧ Fields.get? k bound = some v := by
  dsimp only [Step.bound]
  induction fs using List.reverseRecOn with
  | nil => simp [Binds, not_isLast_nil]
  | append_singleton fs f ih =>
    rw [List.foldl_concat, Binds, isLast_concat, ← Binds]
    by_cases hf : f.1 = k
    · subst hf
      rw [Fields.get?_insert_self]
      constructor
      · intro hv
        exact .inl (.inl ⟨rfl, by rw [← Option.some.inj hv]⟩)
      · rintro ((⟨-, hv⟩ | ⟨hne, -⟩) | ⟨hall, -⟩)
        · rw [← hv]
        · exact absurd rfl hne
        · exact absurd rfl (hall f (by simp))
    · rw [Fields.get?_insert_of_ne f.2 _ (Ne.symm hf), ih]
      simp [hf, or_imp, forall_and]

/-- **What is bound to a name** is the value that was bound to it most recently: by the last step
that touches the name, if that is a binding and no clearing. -/
theorem get?_boundAfter (past : List Step) :
    Fields.get? k (boundAfter past) = some v ↔ MostRecent past k v := by
  induction past using List.reverseRecOn with
  | nil => simp [boundAfter, Fields.get?, MostRecent, not_isLast_nil]
  | append_singleton past s ih =>
    rw [boundAfter_concat]
    simp only [MostRecent, isLast_concat]
    cases s with
    | bind fs =>
      rw [get?_bind, ih]
      constructor
      · rintro (hbinds | ⟨hnone, fs', hlast, hbinds⟩)
        · exact ⟨fs, .inl ⟨⟨_, hbinds.mem, rfl⟩, rfl⟩, hbinds⟩
        · refine ⟨fs', .inr ⟨?_, hlast⟩, hbinds⟩
          rintro ⟨f, hf, hk⟩
          exact hnone f hf hk
      · rintro ⟨fs', ⟨-, heq⟩ | ⟨htouches, hlast⟩, hbinds⟩
        · cases heq
          exact .inl hbinds
        · exact .inr ⟨fun f hf hk => htouches ⟨f, hf, hk⟩, fs', hlast, hbinds⟩
    | clear =>
      -- Nothing is bound, and the last step with a say is the clearing.
      refine iff_of_false (by simp [Step.bound, Fields.get?]) ?_
      rintro ⟨fs', ⟨-, heq⟩ | ⟨htouches, -⟩, -⟩
      · cases heq
      · exact htouches trivial
    | record r =>
      rw [Step.bound, ih]
      simp [MostRecent, Step.Touches]

theorem IsProper.step (h : IsProper bound) (s : Step) : IsProper (s.bound bound) := by
  cases s with
  | bind fs =>
    dsimp only [Step.bound]
    induction fs generalizing bound with
    | nil => exact h
    | cons f fs ih => exact ih h.insert
  | clear => exact List.nodup_nil
  | record r => exact h

theorem isProper_boundAfter (past : List Step) : IsProper (boundAfter past) := by
  induction past using List.reverseRecOn with
  | nil => exact List.nodup_nil
  | append_singleton past s ih =>
    rw [boundAfter_concat]
    exact ih.step s

/-! ## 3. What a line shows -/

/-- Names that the log sets itself, or takes away. -/
def usedNames : List Text :=
  ownNames ++ ["level", "logger", "timestamp", "stack", "stack_info"].map Text.ofString

theorem ne_of_not_used {name : String} (h : k ∉ usedNames)
    (hname : Text.ofString name ∈ usedNames) : k ≠ Text.ofString name := by
  rintro rfl
  exact h hname

theorem get?_dropField {k' : Text} (h : k ≠ k') :
    Fields.get? k (dropField k' e) = Fields.get? k e :=
  get?_filter_names (p := fun n => decide (n ≠ k')) (decide_eq_true h)

theorem get?_showStack (stack : Text) (h : k ∉ usedNames) :
    Fields.get? k (showStack stack e) = Fields.get? k e := by
  have hwish : k ≠ Text.ofString "stack_info" := ne_of_not_used h (by decide)
  have hstack : k ≠ Text.ofString "stack" := ne_of_not_used h (by decide)
  unfold showStack
  dsimp only
  split
  · rw [Fields.get?_insert_of_ne _ _ hstack, get?_dropField hwish]
  · exact get?_dropField hwish

theorem get?_withBound (message : Text) (h : k ∉ usedNames) :
    Fields.get? k (withBound message bound) = Fields.get? k bound := by
  have hevent : k ≠ Text.ofString "event" := ne_of_not_used h (by decide)
  have hown : (! ownNames.contains k) = true := by
    simpa using fun hk : k ∈ ownNames => h (List.mem_append_left _ hk)
  rw [withBound, Fields.get?, if_neg hevent.symm]
  exact get?_filter_names (p := fun n => ! ownNames.contains n) hown

/-- **What a line shows under a name that is not its own:** what is bound to it, or the mask in
place of that. -/
theorem get?_complete (m : Moment) (r : Record) (message : Text) (h : k ∉ usedNames) :
    Fields.get? k (complete m r message bound) =
      if sensitiveNames.contains k then (Fields.get? k bound).map fun _ => mask
      else Fields.get? k bound := by
  have hinsert {name : String} (hname : Text.ofString name ∈ usedNames) (v : Value) (e : Event) :
      Fields.get? k (Fields.insert (Text.ofString name) v e) = Fields.get? k e :=
    Fields.get?_insert_of_ne v e (ne_of_not_used h hname)
  dsimp only [complete]
  rw [get?_redact, get?_showStack m.stack h, hinsert (by decide), hinsert (by decide),
    hinsert (by decide), get?_withBound message h]

theorem isProper_withBound (message : Text) (h : IsProper bound) :
    IsProper (withBound message bound) := by
  refine List.nodup_cons.mpr ⟨?_, h.filter _⟩
  intro hm
  obtain ⟨f, hf, heq⟩ := List.mem_map.mp hm
  have hown : (! ownNames.contains f.1) = true := (List.mem_filter.mp hf).2
  rw [show f.1 = Text.ofString "event" from heq] at hown
  exact absurd hown (by decide)

theorem IsProper.showStack (h : IsProper e) (stack : Text) : IsProper (showStack stack e) := by
  unfold Log.showStack
  dsimp only
  split
  · exact (h.filter _).insert
  · exact h.filter _

theorem IsProper.redact (h : IsProper e) : IsProper (redact e) := by
  have hsame : (Log.redact e).map Prod.fst = e.map Prod.fst := by
    rw [Log.redact, List.map_map]
    refine List.map_congr_left fun f _ => ?_
    rw [Function.comp_apply]
    split <;> rfl
  rw [IsProper, hsame]
  exact h

theorem isProper_complete (m : Moment) (r : Record) (message : Text) (h : IsProper bound) :
    IsProper (complete m r message bound) :=
  ((isProper_withBound message h).insert.insert.insert.showStack m.stack).redact

/-- A line that is an event is one of what is bound. -/
theorem eq_complete_of_line {m : Moment} {r : Record} (h : r.line c m bound = .event e) :
    ∃ message, e = complete m r message bound := by
  unfold Record.line at h
  split at h
  · cases h
  · cases htext : r.text with
    | none =>
      rw [htext] at h
      cases h
    | some message =>
      rw [htext] at h
      dsimp only at h
      split at h
      · exact ⟨message, (Line.event.inj h).symm⟩
      · split at h <;> cases h

/-! ## 4. Runs -/

def calls : List Step → Nat
  | [] => 0
  | .record _ :: rest => calls rest + 1
  | _ :: rest => calls rest

theorem length_linesAt (c : Config) (moments : Nat → Moment) (bound : Fields)
    (steps : List Step) : (linesAt c moments bound steps).length = calls steps := by
  induction steps generalizing moments bound with
  | nil => rfl
  | cons s rest ih =>
    cases s with
    | record r => exact congrArg (· + 1) (ih _ _)
    | bind fs => exact ih _ _
    | clear => exact ih _ _

/-- **A run is its first steps and then the others,** from what these leave bound. -/
theorem linesAt_append (c : Config) (moments : Nat → Moment) (bound : Fields)
    (past rest : List Step) :
    linesAt c moments bound (past ++ rest) =
      linesAt c moments bound past ++
        linesAt c (fun n => moments (calls past + n)) (past.foldl Step.bound bound) rest := by
  induction past generalizing moments bound with
  | nil => simp [linesAt, calls]
  | cons s past ih =>
    cases s with
    | record r =>
      have hmoments : (fun n => moments (calls past + n + 1))
          = fun n => moments (calls (.record r :: past) + n) := by
        funext n
        rw [calls, Nat.add_right_comm]
      rw [List.cons_append, linesAt, ih, linesAt, List.cons_append, hmoments]
      rfl
    | bind fs => exact ih _ _
    | clear => exact ih _ _

/-- **Every line is that of a call,** and made of what is bound after the steps before it. -/
theorem exists_call {steps : List Step} {i : Nat} {l : Line}
    (h : (linesAt c moments bound steps)[i]? = some l) :
    ∃ past r rest, steps = past ++ .record r :: rest ∧ calls past = i ∧
      l = r.line c (moments i) (past.foldl Step.bound bound) := by
  induction steps generalizing moments bound i with
  | nil => cases h
  | cons s steps ih =>
    cases s with
    | record r =>
      rw [linesAt] at h
      cases i with
      | zero => exact ⟨[], r, steps, rfl, rfl, (Option.some.inj h).symm⟩
      | succ i =>
        obtain ⟨past, r', rest, rfl, rfl, rfl⟩ := ih h
        exact ⟨.record r :: past, r', rest, rfl, rfl, rfl⟩
    | bind fs =>
      obtain ⟨past, r, rest, rfl, rfl, rfl⟩ := ih h
      exact ⟨.bind fs :: past, r, rest, rfl, rfl, rfl⟩
    | clear =>
      obtain ⟨past, r, rest, rfl, rfl, rfl⟩ := ih h
      exact ⟨.clear :: past, r, rest, rfl, rfl, rfl⟩

/-- **After a clearing a run begins anew.** -/
theorem drop_linesAt_clear (c : Config) (moments : Nat → Moment) (bound : Fields)
    (past rest : List Step) :
    (linesAt c moments bound (past ++ .clear :: rest)).drop (calls past) =
      linesAt c (fun n => moments (calls past + n)) [] rest := by
  rw [linesAt_append, List.drop_left' (length_linesAt ..)]
  rfl

/-! ## 5. Runs that agree but for secrets -/

/-- **Fields that agree but under some names:** the names are the same, and so are the values under
all others. -/
def AgreeBut (names : List Text) : Fields → Fields → Prop :=
  List.Forall₂ fun f f' => f.1 = f'.1 ∧ (f.1 ∉ names → f.2 = f'.2)

/-- **Steps that agree but for secrets.** -/
inductive Step.Alike : Step → Step → Prop
  | bind {fs fs' : Fields} (h : AgreeBut sensitiveNames fs fs') : Alike (.bind fs) (.bind fs')
  | clear : Alike .clear .clear
  | record (r : Record) : Alike (.record r) (.record r)

/-- A line without its time. -/
def Line.untimed : Line → Line
  | .event e => .event (dropField (Text.ofString "timestamp") e)
  | l => l

variable {names : List Text} {v' : Value}

theorem AgreeBut.insert (h : AgreeBut names fs fs') (hv : k ∉ names → v = v') :
    AgreeBut names (Fields.insert k v fs) (Fields.insert k v' fs') := by
  induction h with
  | nil => exact .cons ⟨rfl, hv⟩ .nil
  | @cons f f' fs fs' hf h ih =>
    rw [Fields.insert, Fields.insert, ← hf.1]
    split
    · exact .cons ⟨rfl, hv⟩ h
    · exact .cons ⟨rfl, hf.1 ▸ hf.2⟩ ih

theorem AgreeBut.filter (h : AgreeBut names fs fs') (p : Text → Bool) :
    AgreeBut names (fs.filter fun f => p f.1) (fs'.filter fun f => p f.1) := by
  induction h with
  | nil => exact .nil
  | @cons f f' fs fs' hf h ih =>
    rw [List.filter_cons, List.filter_cons, ← hf.1]
    split
    · exact .cons hf ih
    · exact ih

theorem AgreeBut.get?_eq (h : AgreeBut names fs fs') (hk : k ∉ names) :
    Fields.get? k fs = Fields.get? k fs' := by
  induction h with
  | nil => rfl
  | @cons f f' fs fs' hf h ih =>
    rw [Fields.get?, Fields.get?, ← hf.1, ih]
    split
    · rename_i heq
      rw [hf.2 (heq ▸ hk)]
    · rfl

theorem AgreeBut.mono {names' : List Text} (h : AgreeBut names fs fs')
    (hsub : ∀ n ∈ names, n ∈ names') : AgreeBut names' fs fs' :=
  h.imp fun _ _ hf => ⟨hf.1, fun hn => hf.2 fun hm => hn (hsub _ hm)⟩

theorem AgreeBut.showStack (h : AgreeBut names e e')
    (hwish : Text.ofString "stack_info" ∉ names) (stack : Text) :
    AgreeBut names (showStack stack e) (showStack stack e') := by
  have hrest := h.filter fun n => decide (n ≠ Text.ofString "stack_info")
  unfold Log.showStack
  dsimp only
  rw [h.get?_eq hwish]
  split
  · exact hrest.insert fun _ => rfl
  · exact hrest

theorem AgreeBut.redact (h : AgreeBut (sensitiveNames ++ names) e e') :
    AgreeBut names (redact e) (redact e') := by
  refine List.forall₂_map_left_iff.mpr (List.forall₂_map_right_iff.mpr (h.imp fun f f' hf => ?_))
  rw [← hf.1]
  split
  · exact ⟨rfl, fun _ => rfl⟩
  · rename_i hs
    refine ⟨hf.1, fun hn => hf.2 fun hm => ?_⟩
    rcases List.mem_append.mp hm with hm | hm
    · exact hs (List.contains_iff_mem.mpr hm)
    · exact hn hm

/-- Without the one field in which they may differ, events are the same. -/
theorem AgreeBut.dropField_eq (h : AgreeBut [k] e e') : dropField k e = dropField k e' := by
  unfold dropField
  induction h with
  | nil => rfl
  | @cons f f' e e' hf h ih =>
    by_cases hk : f.1 = k
    · rw [List.filter_cons_of_neg (by simpa using hk),
        List.filter_cons_of_neg (by simpa [← hf.1] using hk), ih]
    · have hsame : f = f' := Prod.ext hf.1 (hf.2 (by simpa using hk))
      rw [← hsame, List.filter_cons_of_pos (by simpa using hk),
        List.filter_cons_of_pos (by simpa using hk), ih]

/-- Events agree but for the time, whatever stands under sensitive names. -/
theorem agreeBut_complete (h : AgreeBut sensitiveNames bound bound') (time time' : Value)
    (stack : Text) (r : Record) (message : Text) :
    AgreeBut [Text.ofString "timestamp"] (complete ⟨time, stack⟩ r message bound)
      (complete ⟨time', stack⟩ r message bound') := by
  have hbound : AgreeBut (sensitiveNames ++ [Text.ofString "timestamp"]) bound bound' :=
    h.mono fun n hn => List.mem_append_left _ hn
  dsimp only [complete]
  refine (AgreeBut.showStack ?_ (by decide) stack).redact
  -- Message, level and logger come from the call; the time is left out of the comparison.
  refine AgreeBut.insert ?_ fun hn => absurd (by decide) hn
  refine AgreeBut.insert (AgreeBut.insert ?_ fun _ => rfl) fun _ => rfl
  exact .cons ⟨rfl, fun _ => rfl⟩ (hbound.filter fun n => ! ownNames.contains n)

/-- **A line shows nothing of a secret:** it is the same without its time, whatever stands under
sensitive names. -/
theorem untimed_line {m m' : Moment} (h : AgreeBut sensitiveNames bound bound')
    (hm : m.stack = m'.stack) (c : Config) (r : Record) :
    (r.line c m bound).untimed = (r.line c m' bound').untimed := by
  obtain ⟨time, stack⟩ := m
  obtain ⟨time', stack'⟩ := m'
  obtain rfl : stack = stack' := hm
  have hget (name : String) (hname : Text.ofString name ∉ sensitiveNames) :
      Fields.get? (Text.ofString name) bound = Fields.get? (Text.ofString name) bound' :=
    h.get?_eq hname
  have hshowable : isShowable bound = isShowable bound' := by
    simp only [isShowable, hget "stack" (by decide), hget "stack_info" (by decide),
      hget "exception" (by decide)]
  unfold Record.line
  rw [hshowable]
  split
  · rfl
  · cases r.text with
    | none => rfl
    | some message =>
      dsimp only
      split
      · exact congrArg Line.event (agreeBut_complete h time time' stack r message).dropField_eq
      · rfl

theorem AgreeBut.step {s s' : Step} (h : AgreeBut sensitiveNames bound bound')
    (hs : s.Alike s') : AgreeBut sensitiveNames (s.bound bound) (s'.bound bound') := by
  cases hs with
  | bind hfs =>
    dsimp only [Step.bound]
    induction hfs generalizing bound bound' with
    | nil => exact h
    | @cons f f' fs fs' hf _ ih =>
      refine ih ?_
      dsimp only
      rw [← hf.1]
      exact h.insert hf.2
  | clear => exact .nil
  | record r => exact h

/-- **Runs whose steps agree but for secrets have the same lines,** their times aside.  What is
bound agrees but for secrets all along, by induction on the steps; and a line is made by masking
exactly these names. -/
theorem untimed_linesAt {steps steps' : List Step} (h : List.Forall₂ Step.Alike steps steps')
    {moments moments' : Nat → Moment} (hstacks : ∀ n, (moments n).stack = (moments' n).stack)
    (hbound : AgreeBut sensitiveNames bound bound') (c : Config) :
    (linesAt c moments bound steps).map Line.untimed =
      (linesAt c moments' bound' steps').map Line.untimed := by
  induction h generalizing moments moments' bound bound' with
  | nil => rfl
  | cons hs _ ih =>
    cases hs with
    | bind hfs => exact ih hstacks (hbound.step (.bind hfs))
    | clear => exact ih hstacks .nil
    | record r =>
      rw [linesAt, linesAt, List.map_cons, List.map_cons, untimed_line hbound (hstacks 0),
        ih (fun n => hstacks (n + 1)) hbound]

/-! ## 6. What is emitted -/

/-- **What an event has to show** of what was bound before it. -/
structure Shows (past : List Step) (e : Event) : Prop where
  proper : IsProper e
  /-- Under a name that the log has no use for stands the value bound most recently, if one is. -/
  plain : ∀ k v, k ∉ usedNames → k ∉ sensitiveNames →
    (Fields.get? k e = some v ↔ MostRecent past k v)
  /-- Under a sensitive name stands the mask, if a value is bound to it. -/
  masked : ∀ k v, k ∈ sensitiveNames →
    (Fields.get? k e = some v ↔ v = mask ∧ ∃ w, MostRecent past k w)

theorem shows_complete (m : Moment) (r : Record) (message : Text) (past : List Step) :
    Shows past (complete m r message (boundAfter past)) where
  proper := isProper_complete m r message (isProper_boundAfter past)
  plain := by
    intro k v hk hs
    rw [get?_complete m r message hk, if_neg (by simpa using hs), get?_boundAfter]
  masked := by
    intro k v hs
    have hfree : ∀ k ∈ sensitiveNames, k ∉ usedNames := by decide
    rw [get?_complete m r message (hfree k hs), if_pos (by simpa using hs),
      Option.map_eq_some_iff]
    simp only [get?_boundAfter]
    constructor
    · rintro ⟨w, hw, rfl⟩
      exact ⟨rfl, w, hw⟩
    · rintro ⟨rfl, w, hw⟩
      exact ⟨w, hw, rfl⟩

/-- **Lines hide secrets and show everything else that is bound.**  However the log is set up, runs
whose steps agree but for the values under sensitive names emit the same lines, their times aside;
what comes after a clearing is emitted as if nothing had been before it; and each event is that of a
call, and shows what was bound before it. -/
theorem lines_hide_secrets (level : String) (json : Option Bool)
    (environment : List (String × String)) :
    (∀ moments moments' steps steps', List.Forall₂ Step.Alike steps steps' →
      (∀ n, (moments n).stack = (moments' n).stack) →
      (emitted level json environment moments steps).map (·.map Line.untimed) =
        (emitted level json environment moments' steps').map (·.map Line.untimed)) ∧
    (∀ moments past rest,
      (emitted level json environment moments (past ++ .clear :: rest)).map (·.drop (calls past)) =
        emitted level json environment (fun n => moments (calls past + n)) rest) ∧
    ∀ moments steps ls i e, emitted level json environment moments steps = .ok ls →
      ls[i]? = some (.event e) →
      ∃ past r rest, steps = past ++ .record r :: rest ∧ calls past = i ∧ Shows past e := by
  unfold emitted
  cases Config.make level json environment with
  | error f => exact ⟨fun _ _ _ _ _ _ => rfl, fun _ _ _ => rfl, fun _ _ _ _ _ h => nomatch h⟩
  | ok c =>
    refine ⟨?_, ?_, ?_⟩
    · intro moments moments' steps steps' hsteps hstacks
      exact congrArg Except.ok (untimed_linesAt hsteps hstacks .nil c)
    · intro moments past rest
      exact congrArg Except.ok (drop_linesAt_clear c moments [] past rest)
    · intro moments steps ls i e hls he
      obtain rfl := Except.ok.inj hls
      obtain ⟨past, r, rest, hsteps, hcalls, hline⟩ := exists_call he
      obtain ⟨message, rfl⟩ := eq_complete_of_line hline.symm
      exact ⟨past, r, rest, hsteps, hcalls, shows_complete _ r message past⟩

/-- A token and a team, bound twice with a clearing between: whatever the token and the time, the
line is the same, and shows the second team. -/
theorem lines_hide_secrets_cleared :
    let binding (token team : String) : Step :=
      .bind [(Text.ofString "token", .ofString token), (Text.ofString "team", .ofString team)]
    let steps (token : String) : List Step := [binding token "T1", .clear, binding token "T2",
      .record ⟨[], 30, Text.ofString "slow", []⟩]
    let lines (token time : String) : Except Failure (List Line) :=
      emitted "INFO" (some true) [] (fun _ => ⟨.ofString time, []⟩) (steps token)
    (lines "abc" "10:00").map (·.map Line.untimed)
        = (lines "xyz" "11:00").map (·.map Line.untimed) ∧
      ∃ e, lines "abc" "10:00" = .ok [.event e] ∧
        Fields.get? (Text.ofString "team") e = some (.ofString "T2") ∧
        Fields.get? (Text.ofString "token") e = some mask := by
  intro binding steps lines
  obtain ⟨hsame, -, hshows⟩ := lines_hide_secrets "INFO" (some true) []
  have hbindings (team : String) : (binding "abc" team).Alike (binding "xyz" team) :=
    .bind (.cons ⟨rfl, fun hn => absurd (by decide) hn⟩ (.cons ⟨rfl, fun _ => rfl⟩ .nil))
  have hsteps : List.Forall₂ Step.Alike (steps "abc") (steps "xyz") :=
    .cons (hbindings "T1") (.cons .clear (.cons (hbindings "T2") (.cons (.record _) .nil)))
  refine ⟨hsame _ _ _ _ hsteps fun _ => rfl, ?_⟩
  obtain ⟨e, he⟩ : ∃ e, lines "abc" "10:00" = .ok [.event e] := ⟨_, rfl⟩
  obtain ⟨past, r, rest, heq, hcalls, hshown⟩ := hshows _ _ _ 0 e he rfl
  have hpast : past = [binding "abc" "T1", .clear, binding "abc" "T2"] := by
    rcases past with _ | ⟨s₁, _ | ⟨s₂, _ | ⟨s₃, _ | ⟨s₄, past⟩⟩⟩⟩
    · cases heq
    · cases heq
    · cases heq
    · cases heq
      rfl
    · simp [steps] at heq
  have hlast (k : Text) (hk : (Step.Touches k) (binding "abc" "T2")) :
      IsLast (Step.Touches k) past (binding "abc" "T2") :=
    ⟨[_, _], [], hpast, hk, List.forall_mem_nil _⟩
  have hteam : MostRecent past (Text.ofString "team") (.ofString "T2") :=
    ⟨_, hlast _ ⟨_, List.mem_cons_of_mem _ List.mem_cons_self, rfl⟩, [_], [], rfl, rfl,
      List.forall_mem_nil _⟩
  have htoken : MostRecent past (Text.ofString "token") (.ofString "abc") :=
    ⟨_, hlast _ ⟨_, List.mem_cons_self, rfl⟩, [], [_], rfl, rfl,
      List.forall_mem_singleton.mpr (by decide)⟩
  exact ⟨e, he, (hshown.plain _ _ (by decide) (by decide)).mpr hteam,
    (hshown.masked _ _ (by decide)).mpr ⟨rfl, _, htoken⟩⟩

end Tombola.Log
