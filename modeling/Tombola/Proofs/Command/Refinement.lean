import Tombola.Proofs.Command.Calls
import Tombola.Proofs.Groups.Kept
/-!
# Sessions do what they say to what is saved

A session is commands one after another, from any partitions, each against the stores as the
command before left them.  Of every command some calls on the store may fail.

A session is compared with a fold over its words alone.  `Step.effect` says what a command
does to what is saved: `/save` sets one group of its own partition, `/delete` takes one away,
and a call that fails, a refused name, too few options and every other command leave all as
it is.  The stores of every backend stand for the map that the fold comes to, so the listing
and the showing of groups answer from it.

The commands that do not save or delete make no call that changes anything (`run_other`); each
of the others makes one call (`runWith_attempt_done`).  From the two follows what one command
does (`run_effect`) and, by induction, what a session does (`session_effects`).
-/

namespace Tombola.Command

open Groups

/-! ## 1. Sessions -/

/-- A command of a session. -/
structure Step where
  /-- The partition that the command is for. -/
  partition : String
  /-- The name under which the command is called. -/
  name : String
  shuffle : Shuffle
  words : List String
  /-- The calls of the command that fail. -/
  faults : Faults

/-- Carries out a command of a session: what it comes to, and the stores after it. -/
def Step.run {σ : Type} (stores : String → Store σ) (step : Step) (s : σ) :
    Option (Except DrawError Reply) × σ :=
  (perform step.name step.shuffle step.words).runWith step.faults (stores step.partition) s

/-- The stores after some commands. -/
def session {σ : Type} (stores : String → Store σ) (steps : List Step) (s : σ) : σ :=
  steps.foldl (fun s step => (step.run stores s).2) s

/-! ## 2. Commands that make one call -/

theorem runWith_attempt_done {α σ : Type} (faults : Faults) (store : Store σ) (act : Action)
    (c : Call) (k : c.Reply → Except DrawError α) (s : σ) :
    (attempt act c fun r => .done (k r)).runWith faults store s =
      match faults 0 c with
      | some f => (some (.error (act.error f)), s)
      | none =>
        match store c s with
        | (.replied (.ok r), s') => (some (k r), s')
        | (.replied (.error f), s') => (some (.error (act.error f)), s')
        | (.abandoned, s') => (none, s') := by
  unfold Dialogue.runWith
  rw [run_attempt]
  cases hf : faults 0 c with
  | some f => rw [Faults.around_of_some hf]
  | none =>
    rw [Faults.around_of_none hf]
    rcases store c s with ⟨(_ | _) | _, s'⟩ <;> rfl

/-! ## 3. What a command does to what is saved -/

/-- **The effect of a command.**  The options of a group are saved without repetitions. -/
def Step.effect (step : Step) (a : Saved) : Saved :=
  match step.words with
  | "/save" :: group :: options =>
    if GoodName group ∧ 2 ≤ options.eraseDups.length
        ∧ (step.faults 0 (.put group options.eraseDups)).isNone then
      a.set step.partition group (some options.eraseDups)
    else a
  | "/delete" :: group :: _ =>
    if (step.faults 0 (.delete group)).isNone then a.set step.partition group none else a
  | _ => a

/-- The effect of commands one after another. -/
def effects (steps : List Step) (a : Saved) : Saved := steps.foldl (fun a step => step.effect a) a

variable {step : Step} {a : Saved} {group : String} {words : List String}

theorem effect_save (h : step.words = "/save" :: group :: words) :
    step.effect a =
      if GoodName group ∧ 2 ≤ words.eraseDups.length
          ∧ (step.faults 0 (.put group words.eraseDups)).isNone then
        a.set step.partition group (some words.eraseDups)
      else a := by
  simp only [Step.effect, h]

theorem effect_delete (h : step.words = "/delete" :: group :: words) :
    step.effect a =
      if (step.faults 0 (.delete group)).isNone then a.set step.partition group none else a := by
  simp only [Step.effect, h]

theorem effect_other (h1 : ∀ g options, step.words ≠ "/save" :: g :: options)
    (h2 : ∀ g rest, step.words ≠ "/delete" :: g :: rest) : step.effect a = a := by
  unfold Step.effect
  split
  · exact absurd ‹_› (h1 _ _)
  · exact absurd ‹_› (h2 _ _)
  · rfl

/-- No group is saved without options. -/
def Filled (a : Saved) : Prop := ∀ p g, a p g ≠ some []

theorem Filled.set (h : Filled a) {options : Option (List String)} (ho : options ≠ some [])
    (p g : String) : Filled (a.set p g options) := by
  intro q g'
  unfold Saved.set
  split
  · exact ho
  · exact h q g'

theorem Filled.effect (h : Filled a) (step : Step) : Filled (step.effect a) := by
  unfold Step.effect
  split
  · split
    · rename_i hs
      refine h.set ?_ _ _
      intro he
      have hlen := hs.2.1
      rw [Option.some.inj he] at hlen
      exact absurd hlen (by decide)
    · exact h
  · split
    · exact h.set (by simp) _ _
    · exact h
  · exact h

theorem filled_effects (steps : List Step) (h : Filled a) : Filled (effects steps a) := by
  induction steps generalizing a with
  | nil => exact h
  | cons step steps ih => exact ih (h.effect step)

/-! ## 4. One command against the stores -/

variable {σ : Type} {stores : String → Store σ} {R : σ → Saved → Prop} {s : σ}

theorem perform_groupFlag {flag : String} {op : Operation}
    (h : Operation.ofGroupFlag? flag = some op) (name : String) (shuffle : Shuffle) :
    perform name shuffle (flag :: group :: words) =
      Request.perform name shuffle ⟨op, group, words⟩ := by
  unfold perform
  rw [Request.ofWords_groupFlag h]

theorem perform_list (name : String) (shuffle : Shuffle) (rest : List String) :
    perform name shuffle ("/list" :: rest) = listGroups name := by
  simp [perform, Request.ofWords, Request.perform]

/-- Saving: refused for a name or for too few options, else one call. -/
theorem run_save (k : Keeps stores R) (hs : R s a)
    (h : step.words = "/save" :: group :: words) :
    R (step.run stores s).2 (step.effect a) := by
  rw [effect_save h]
  unfold Step.run
  rw [h, perform_groupFlag rfl]
  simp only [Request.perform]
  unfold saveGroup
  rw [distinct_eq_eraseDups]
  cases hc : checkName group with
  | error u =>
    have hg : ¬ GoodName group := by
      rw [← checkName_eq_ok_iff, hc]
      simp
    rw [if_neg (fun e => hg e.1 : ¬ (GoodName group ∧ _))]
    exact hs
  | ok _ =>
    have hg : GoodName group := checkName_eq_ok_iff.mp hc
    simp only []
    split
    · rename_i hlen
      rw [if_neg fun e => absurd e.2.1 (Nat.not_le.mpr hlen)]
      exact hs
    · rename_i hlen
      rw [runWith_attempt_done]
      cases hf : step.faults 0 (.put group words.eraseDups) with
      | some f =>
        rw [if_neg fun e => by simp at e]
        exact hs
      | none =>
        obtain ⟨s', hput, hR⟩ := k.put hs step.partition group words.eraseDups
        rw [if_pos ⟨hg, Nat.not_lt.mp hlen, rfl⟩, hput]
        exact hR

theorem run_delete (k : Keeps stores R) (hs : R s a)
    (h : step.words = "/delete" :: group :: words) :
    R (step.run stores s).2 (step.effect a) := by
  rw [effect_delete h]
  unfold Step.run
  rw [h, perform_groupFlag rfl]
  simp only [Request.perform, deleteGroup]
  rw [runWith_attempt_done]
  cases hf : step.faults 0 (.delete group) with
  | some f => exact hs
  | none =>
    obtain ⟨s', hdel, hR⟩ := k.delete hs step.partition group
    rw [hdel]
    exact hR

/-- Every other command only asks, whatever fails on the way. -/
theorem run_other (k : Keeps stores R) (hs : R s a)
    (h1 : ∀ g options, step.words ≠ "/save" :: g :: options)
    (h2 : ∀ g rest, step.words ≠ "/delete" :: g :: rest) : (step.run stores s).2 = s := by
  obtain ⟨names, _, hh⟩ := k.holds hs step.partition
  refine (asks_perform step.name step.shuffle step.words).runWith (P := (· = s)) ?_ step.faults rfl
  rintro c _ hc rfl
  cases hc with
  | list => rw [hh.list]
  | get g => rw [hh.get]
  | put hw => exact absurd hw (h1 _ _)
  | delete hw => exact absurd hw (h2 _ _)

/-- **One command does its effect**, whatever calls fail.  A store that stood for a map before the
command stands for the map with the effect of the command after it. -/
theorem run_effect (k : Keeps stores R) (hs : R s a) (step : Step) :
    R (step.run stores s).2 (step.effect a) := by
  by_cases h1 : ∃ g options, step.words = "/save" :: g :: options
  · obtain ⟨g, options, h⟩ := h1
    exact run_save k hs h
  · by_cases h2 : ∃ g rest, step.words = "/delete" :: g :: rest
    · obtain ⟨g, rest, h⟩ := h2
      exact run_delete k hs h
    · have h1' : ∀ g options, step.words ≠ "/save" :: g :: options :=
        fun g options e => h1 ⟨g, options, e⟩
      have h2' : ∀ g rest, step.words ≠ "/delete" :: g :: rest := fun g rest e => h2 ⟨g, rest, e⟩
      rw [effect_other h1' h2', run_other k hs h1' h2']
      exact hs

/-- A command of one call runs as if no call failed, if that one does not. -/
theorem runWith_attempt_done_of_none {α : Type} {faults : Faults} {store : Store σ} {act : Action}
    {c : Call} {k : c.Reply → Except DrawError α} (hf : faults 0 c = none) :
    (attempt act c fun r => .done (k r)).runWith faults store s =
      (attempt act c fun r => .done (k r)).run store s := by
  rw [runWith_attempt_done, hf, run_attempt]
  rfl

section Answers

variable {store : Store σ} {names : List String} {groups : Content}

theorem run_listGroups (h : store.Holds s names groups) (name : String) :
    ∃ reply, (listGroups name).run store s = (some (.ok reply), s) ∧ reply.kind = .listed ∧
      reply.options = names := by
  unfold listGroups
  rw [run_attempt, h.list]
  refine ⟨_, rfl, ?_, ?_⟩
  · split <;> rfl
  · split
    · rename_i hnil
      exact hnil.symm
    · rfl

theorem run_showGroup (h : store.Holds s names groups) {options : List String}
    (hg : groups group = some options) (hne : options ≠ []) :
    (showGroup group).run store s =
      (some (.ok ⟨.showed, "The *" ++ group ++ "* group has these options:\n" ++ bullets options,
        options⟩), s) := by
  unfold showGroup
  rw [run_attempt, h.get, hg]
  simp only [Option.getD_some, if_neg hne, Dialogue.run]

end Answers

theorem run_list (k : Keeps stores R) (hs : R s a) (h : step.words = "/list" :: words)
    (hf : step.faults 0 .list = none) :
    ∃ names reply, (step.run stores s).1 = some (.ok reply) ∧ reply.kind = .listed
      ∧ reply.options = names ∧ names.Pairwise (· < ·)
      ∧ ∀ g, g ∈ names ↔ (a step.partition g).isSome := by
  obtain ⟨names, hn, hh⟩ := k.holds hs step.partition
  obtain ⟨reply, hrun, hkind, hoptions⟩ := run_listGroups hh step.name
  have hstep : step.run stores s = (some (.ok reply), s) := by
    rw [Step.run, h, perform_list, ← hrun]
    exact runWith_attempt_done_of_none hf
  exact ⟨names, reply, by rw [hstep], hkind, hoptions, hn, hh.mem_names⟩

theorem run_show (k : Keeps stores R) (hs : R s a) (ha : Filled a)
    (h : step.words = "/show" :: group :: words) (hf : step.faults 0 (.get group) = none) :
    match a step.partition group with
    | some options => ∃ reply, (step.run stores s).1 = some (.ok reply) ∧ reply.kind = .showed
        ∧ reply.options = options
    | none => (step.run stores s).1 = some (.error (.usage (.notFound group))) := by
  obtain ⟨names, _, hh⟩ := k.holds hs step.partition
  have hstep : step.run stores s = (showGroup group).run (stores step.partition) s := by
    rw [Step.run, h, perform_groupFlag rfl]
    exact runWith_attempt_done_of_none hf
  rw [hstep]
  cases ho : a step.partition group with
  | none =>
    unfold showGroup
    rw [run_attempt, hh.get, ho]
    rfl
  | some options =>
    have hne : options ≠ [] := by
      rintro rfl
      exact ha _ _ ho
    exact ⟨_, by rw [run_showGroup hh ho hne], rfl, rfl⟩

/-! ## 5. What sessions do -/

/-- **A session does the effects of its commands,** by induction: after each of them the stores
stand for the map that the fold has come to. -/
theorem session_effects (k : Keeps stores R) (steps : List Step) (hs : R s a) :
    R (session stores steps s) (effects steps a) := by
  induction steps generalizing s a with
  | nil => exact hs
  | cons step steps ih => exact ih (run_effect k hs step)

/-- **A session refines the fold over its words.**  From nothing, after any commands, every
partition answers for its part of the map that the effects come to; and the next command
lists the names of that map, sorted, or shows the options of a group, if its call does not
fail. -/
theorem session_refines {disk : Disk} {b : Backend} (hb : b.Lasts disk) (steps : List Step) :
    let s := session (b.store false) steps (Backend.Contents.empty disk)
    let a := effects steps Saved.nothing
    (∀ p, ∃ names, names.Pairwise (· < ·) ∧ (b.store false p).Holds s names (a p))
      ∧ ∀ step : Step,
        (∀ rest, step.words = "/list" :: rest → step.faults 0 .list = none →
          ∃ names reply, (step.run (b.store false) s).1 = some (.ok reply)
            ∧ reply.kind = .listed ∧ reply.options = names ∧ names.Pairwise (· < ·)
            ∧ ∀ g, g ∈ names ↔ (a step.partition g).isSome)
        ∧ ∀ group rest, step.words = "/show" :: group :: rest →
          step.faults 0 (.get group) = none →
          match a step.partition group with
          | some options => ∃ reply, (step.run (b.store false) s).1 = some (.ok reply)
              ∧ reply.kind = .showed ∧ reply.options = options
          | none => (step.run (b.store false) s).1 = some (.error (.usage (.notFound group))) := by
  intro s a
  have k := Backend.keeps hb
  have hs : b.StandsFor disk s a := session_effects k steps (Backend.standsFor_empty disk b)
  have ha : Filled a := filled_effects steps fun _ _ => by simp [Saved.nothing]
  refine ⟨k.holds hs, fun step => ⟨?_, ?_⟩⟩
  · intro rest h hf
    exact run_list k hs h hf
  · intro group rest h hf
    exact run_show k hs ha h hf

/-- Saving, saving again while the store fails, saving in another partition, and deleting
while the store fails. -/
def lunchSteps : List Step :=
  [⟨"T1", "/random", id, ["/save", "lunch", "Tacos", "Pizza", "Tacos"], Faults.none⟩,
    ⟨"T1", "/random", id, ["/save", "lunch", "Soup", "Rice"],
      Faults.ofMethods fun _ => some .notADatabase⟩,
    ⟨"T2", "/random", id, ["/save", "lunch", "Soup", "Rice"], Faults.none⟩,
    ⟨"T1", "/random", id, ["/delete", "lunch"], Faults.ofMethods fun _ => some .notADatabase⟩]

/-- A disk with one directory, in which a table can be made. -/
def lunchDisk : Disk := ⟨["srv"], [(["srv"], .directory)]⟩

theorem lasts_lunch : (Backend.table "groups.db").Lasts lunchDisk :=
  Location.ofPath_here ["srv", "groups.db"] (by decide) (by decide) (by decide) (by decide)
    (by decide) rfl

theorem session_refines_lunch :
    (Backend.table "groups.db").Lasts lunchDisk
      ∧ ∃ reply, ((⟨"T1", "/random", id, ["/show", "lunch"], Faults.none⟩ : Step).run
          ((Backend.table "groups.db").store false)
          (session ((Backend.table "groups.db").store false) lunchSteps
            (Backend.Contents.empty lunchDisk))).1 = some (.ok reply)
        ∧ reply.kind = .showed ∧ reply.options = ["Tacos", "Pizza"] := by
  have ha : effects lunchSteps Saved.nothing "T1" "lunch" = some ["Tacos", "Pizza"] := by
    decide +kernel
  have h := ((session_refines lasts_lunch lunchSteps).2
    ⟨"T1", "/random", id, ["/show", "lunch"], Faults.none⟩).2 "lunch" [] rfl rfl
  simp only [ha] at h
  exact ⟨lasts_lunch, h⟩

end Tombola.Command
