import Tombola.Proofs.Command.Refusals
import Tombola.Proofs.Groups.Content
/-!
# The calls that a command makes

What a command may do to a store is read off the calls that it makes, whatever it is replied.
`Dialogue.Asks may` says that a dialogue makes no call but those of `may`; what these calls
preserve, the whole dialogue preserves, also when some of them fail (`Asks.runWith`).
`Dialogue.Guarded may` says more: every call is made for an action, a call that fails ends the
dialogue with the error of that action, and only calls that read are followed by others.

`Performs` lists the actions of the commands with their calls, and `guarded_perform` says that
they are all.  The commands that ask list names and look groups up.  A group is put by the
words of a save alone, under a name that may be used and with at least two options, and deleted
by the words of a deletion alone.  So words change a group only if they say so (`Alters`),
whatever the store (`entry_perform`).
-/

namespace Tombola.Groups

def Call.isReading : Call → Bool
  | .list => true
  | .get _ => true
  | .put _ _ => false
  | .delete _ => false

namespace Dialogue

variable {α β σ : Type}

/-! ## 1. Dialogues with a choice of calls -/

section Asks

variable {may may' : Call → Prop}

/-- Whether a dialogue makes only some calls, whatever the replies. -/
def Asks (may : Call → Prop) : Dialogue α → Prop
  | .done _ => True
  | .ask c k => may c ∧ ∀ r, Asks may (k r)

theorem Asks.mono {d : Dialogue α} (hd : d.Asks may) (h : ∀ c, may c → may' c) :
    d.Asks may' := by
  induction d with
  | done a => trivial
  | ask c k ih => exact ⟨h c hd.1, fun r => ih r (hd.2 r)⟩

/-- What every call preserves, the dialogue preserves, whichever calls fail. -/
theorem Asks.run_around {d : Dialogue α} (hd : d.Asks may) {store : Store σ} {P : σ → Prop}
    (hP : ∀ c s, may c → P s → P (store c s).2) (faults : Faults) (n : Nat) {s : σ} (hs : P s) :
    P (d.run (faults.around store) (n, s)).2.2 := by
  induction d generalizing n s with
  | done a => exact hs
  | ask c k ih =>
    unfold Dialogue.run
    cases hf : faults n c with
    | some f =>
      rw [Faults.around_of_some hf]
      exact ih _ (hd.2 _) _ hs
    | none =>
      rw [Faults.around_of_none hf]
      have hs' : P (store c s).2 := hP c s hd.1 hs
      cases (store c s).1 with
      | replied r => exact ih _ (hd.2 _) _ hs'
      | abandoned => exact hs'

/-- **What every call preserves, the dialogue preserves.**  The property need only survive the calls
that the dialogue may make.  A call that fails changes nothing, so it does not matter which do. -/
theorem Asks.runWith {d : Dialogue α} (hd : d.Asks may) {store : Store σ} {P : σ → Prop}
    (hP : ∀ c s, may c → P s → P (store c s).2) (faults : Faults) {s : σ} (hs : P s) :
    P (d.runWith faults store s).2 :=
  hd.run_around hP faults 0 hs

end Asks

section Guarded

variable {may : Action → Call → Prop} {own : DrawError → Prop}

/-- **Whether a dialogue is guarded.**  It makes its calls for the actions of `may`; a call that
fails ends it with the error of its action; a call that does more than read is the last one.
Where it ends with an error by itself, that is one of `own`. -/
def Guarded (may : Action → Call → Prop) (own : DrawError → Prop) : Drawing α → Prop
  | .done r => ∀ e, r = .error e → own e
  | .ask c k => ∃ a, may a c ∧ (∀ f, k (.error f) = .done (.error (a.error f))) ∧
      (∀ r, Guarded may own (k (.ok r))) ∧
      (c.isReading = true ∨ ∀ r, ∃ x, k (.ok r) = .done x)

theorem guarded_ok (a : α) : Guarded may own (.done (.ok a)) := nofun

theorem guarded_error {e : DrawError} (h : own e) :
    Guarded may own (.done (.error e) : Drawing α) := by
  intro e' he
  obtain rfl := Except.error.inj he
  exact h

theorem guarded_reading {a : Action} {c : Call} {k : c.Reply → Drawing α} (hc : may a c)
    (hr : c.isReading = true) (hk : ∀ r, (k r).Guarded may own) :
    (attempt a c k).Guarded may own :=
  ⟨a, hc, fun _ => rfl, hk, .inl hr⟩

theorem guarded_last {a : Action} {c : Call} {k : c.Reply → Except DrawError α}
    (hc : may a c) (hk : ∀ r e, k r = .error e → own e) :
    (attempt a c fun r => .done (k r)).Guarded may own :=
  ⟨a, hc, fun _ => rfl, fun r e he => hk r e he, .inr fun r => ⟨k r, rfl⟩⟩

/-- A guarded dialogue whose result is worked on without more calls. -/
theorem Guarded.bind_done {d : Drawing α} (hd : d.Guarded may own)
    {g : Except DrawError α → Drawing β} (herr : ∀ e, g (.error e) = .done (.error e))
    {f : α → Except DrawError β} (hok : ∀ a, g (.ok a) = .done (f a))
    (hf : ∀ a e, f a = .error e → own e) : (d.bind g).Guarded may own := by
  induction d with
  | done r =>
    simp only [bind]
    cases r with
    | error e =>
      rw [herr]
      exact guarded_error (hd e rfl)
    | ok a =>
      rw [hok]
      exact fun e he => hf a e he
  | ask c k ih =>
    obtain ⟨a, hc, hfail, hk, hlast⟩ := hd
    refine ⟨a, hc, ?_, fun r => ih _ (hk r), hlast.imp id ?_⟩
    · intro f'
      simp only [hfail, bind, herr]
    · intro h r
      obtain ⟨x, hx⟩ := h r
      simp only [hx, bind]
      cases x with
      | error e => exact ⟨_, herr e⟩
      | ok a => exact ⟨_, hok a⟩

theorem Guarded.asks {d : Drawing α} (hd : d.Guarded may own) :
    d.Asks fun c => ∃ a, may a c := by
  induction d with
  | done r => trivial
  | ask c k ih =>
    obtain ⟨a, hc, hfail, hk, -⟩ := hd
    refine ⟨⟨a, hc⟩, ?_⟩
    rintro (f | r)
    · rw [hfail]
      trivial
    · exact ih _ (hk r)

end Guarded

end Dialogue

end Tombola.Groups

namespace Tombola.Command

open Groups Dialogue

/-! ## 2. The calls of a command -/

/-- **The actions of a command**, each with the call that it makes, by the words. -/
inductive Performs (words : List String) : Action → Call → Prop
  | listing {rest : List String} (hw : words = "/list" :: rest) : Performs words .listing .list
  | listingForSelection (hw : Request.ofWords words = .ok ⟨.select, "", words⟩) :
    Performs words .listingForSelection .list
  | gettingForSelection {group : String} (hw : Request.ofWords words = .ok ⟨.select, "", words⟩)
      (hg : group ∈ words) : Performs words (.gettingForSelection group) (.get group)
  | getting {group : String} {rest : List String} (hw : words = "/show" :: group :: rest) :
    Performs words (.getting group) (.get group)
  | saving {group : String} {options : List String} (hw : words = "/save" :: group :: options)
      (hg : GoodName group) (hn : 2 ≤ options.eraseDups.length) :
    Performs words (.saving group) (.put group options.eraseDups)
  | deleting {group : String} {rest : List String} (hw : words = "/delete" :: group :: rest) :
    Performs words (.deleting group) (.delete group)

/-- **The calls that a command may make**, by its words. -/
inductive Makes (words : List String) : Call → Prop
  | list : Makes words .list
  | get (group : String) : Makes words (.get group)
  | put {group : String} {options : List String} (hw : words = "/save" :: group :: options)
      (hg : GoodName group) (hn : 2 ≤ options.eraseDups.length) :
      Makes words (.put group options.eraseDups)
  | delete {group : String} {rest : List String} (hw : words = "/delete" :: group :: rest) :
      Makes words (.delete group)

variable {words : List String}

theorem Performs.makes {a : Action} {c : Call} (h : Performs words a c) : Makes words c := by
  cases h with
  | listing hw => exact .list
  | listingForSelection hw => exact .list
  | gettingForSelection hw hg => exact .get _
  | getting hw => exact .get _
  | saving hw hg hn => exact .put hw hg hn
  | deleting hw => exact .delete hw

theorem guarded_gather (hw : Request.ofWords words = .ok ⟨.select, "", words⟩)
    (saved : List String) {rest : List String} (hrest : ∀ w ∈ rest, w ∈ words)
    (options out : List String) :
    (gather saved rest options out).Guarded (Performs words) DrawError.IsRefusal := by
  induction rest generalizing options out with
  | nil => exact guarded_ok _
  | cons word rest ih =>
    have ih' := ih fun w h => hrest w (List.mem_cons_of_mem _ h)
    unfold gather
    cases ht : Term.ofWord word with
    | without x => exact ih' _ _
    | literal x => exact ih' _ _
    | plain w =>
      have hword : w ∈ words :=
        Term.eq_of_ofWord_eq_plain ht ▸ hrest word (List.mem_cons_self ..)
      simp only []
      split
      · exact guarded_reading (.gettingForSelection hw hword) rfl fun _ => ih' _ _
      · exact ih' _ _

theorem guarded_select (hw : Request.ofWords words = .ok ⟨.select, "", words⟩)
    (shuffle : Shuffle) :
    (select shuffle words).Guarded (Performs words) DrawError.IsRefusal := by
  unfold select
  split
  · rename_i u hu
    exact guarded_error (isRefusal_of_mode hu)
  · rename_i mode rest hm
    obtain ⟨taken, ht⟩ := Mode.ofWords_rest hm
    have hdraw : ∀ options e, draw shuffle mode options = .error e → e.IsRefusal :=
      fun options e he => isRefusal_of_draw hm he
    refine Guarded.bind_done ?_ (fun _ => rfl) (fun _ => rfl) hdraw
    unfold resolve
    split
    · exact guarded_ok _
    · refine guarded_reading (.listingForSelection hw) rfl fun saved => ?_
      exact guarded_gather hw saved (fun w h => ht ▸ List.mem_append_right taken h) _ _

theorem guarded_saveGroup {group : String} {options : List String}
    (hw : words = "/save" :: group :: options) :
    (saveGroup group options).Guarded (Performs words) DrawError.IsRefusal := by
  unfold saveGroup
  rw [distinct_eq_eraseDups]
  cases hg : checkName group with
  | error u => exact guarded_error (isRefusal_of_checkName hg)
  | ok _ =>
    simp only []
    split
    · rename_i hn
      refine guarded_error fun n hm => ?_
      rw [List.mem_singleton.mp hm]
      exact length_le_of_lt_two hn
    · rename_i hn
      exact guarded_last (.saving hw (checkName_eq_ok_iff.mp hg) (Nat.not_lt.mp hn)) nofun

/-- **A command is guarded:** it makes these calls and no others. -/
theorem guarded_perform (name : String) (shuffle : Shuffle) (words : List String) :
    (perform name shuffle words).Guarded (Performs words) DrawError.IsRefusal := by
  unfold perform
  split
  · rename_i e he
    exact guarded_error (isRefusal_of_ofWords he)
  · rename_i r hr
    unfold Request.perform
    rcases Request.ofWords_cases hr with hop | rfl | ⟨hop, rest, hw⟩ | ⟨flag, hf, hw⟩
    · rw [hop]
      exact guarded_ok _
    · exact guarded_select hr shuffle
    · rw [hop]
      exact guarded_last (.listing hw) nofun
    · rcases Request.ofGroupFlag?_cases hf with ⟨rfl, hop⟩ | ⟨rfl, hop⟩ | ⟨rfl, hop⟩
      · rw [hop]
        refine guarded_last (.getting hw) fun options e he => ?_
        split at he
        · obtain rfl := Except.error.inj he
          exact fun n hn => absurd hn List.not_mem_nil
        · cases he
      · rw [hop]
        exact guarded_saveGroup hw
      · rw [hop]
        exact guarded_last (.deleting hw) nofun

theorem asks_perform (name : String) (shuffle : Shuffle) (words : List String) :
    (perform name shuffle words).Asks (Makes words) :=
  (guarded_perform name shuffle words).asks.mono fun _ ⟨_, h⟩ => h.makes

/-! ## 3. The words that change a group -/

/-- **The words that change a group:** a save under a name that may be used, with at least two
options, and a deletion. -/
inductive Alters (group : String) : List String → Prop
  | save {options : List String} (hg : GoodName group) (hn : 2 ≤ options.eraseDups.length) :
      Alters group ("/save" :: group :: options)
  | delete (rest : List String) : Alters group ("/delete" :: group :: rest)

theorem Makes.alters {c : Call} {group : String} (h : Makes words c) (hc : c.Changes group) :
    Alters group words := by
  cases h with
  | list => exact hc.elim
  | get g => exact hc.elim
  | put hw hg hn =>
    have hgroup : _ = group := hc
    subst hgroup
    rw [hw]
    exact .save hg hn
  | delete hw =>
    have hgroup : _ = group := hc
    subst hgroup
    rw [hw]
    exact .delete _

/-- **A command leaves all other groups alone**, on every backend, whatever calls fail.  All that a
group is made of is its entry: its options in memory and its row in the table.  Only a save or a
deletion of the group, in its own partition, can change that. -/
theorem entry_perform {p q group : String} (h : ¬ (q = p ∧ Alters group words)) (name : String)
    (shuffle : Shuffle) (faults : Faults) (b : Backend) (late : Bool) (s : Backend.Contents) :
    ((perform name shuffle words).runWith faults (b.store late p) s).2.entry q group
      = s.entry q group := by
  refine (asks_perform name shuffle words).runWith
    (P := fun s' : Backend.Contents => s'.entry q group = s.entry q group) ?_ faults rfl
  intro c s' hc hs'
  rw [Backend.entry_store (fun e => h ⟨e.1, hc.alters e.2⟩), hs']

end Tombola.Command
