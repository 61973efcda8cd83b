import Tombola.Proofs.Command.Meaning
import Tombola.Proofs.Command.Refinement
import Tombola.Proofs.Groups.Partition
/-!
# Saved groups are well formed and within reach

A save lets a group through if no command can take its name for something else and it has at
least two options, which it keeps without repetitions.  So all groups of a partition that was
vacant at the start are of this form, each with the options of a save for the partition, on
every backend, whatever calls fail and whatever happens in other partitions (`session_each`).

Such a group is within reach (`Reachable`): its name starts a selection, alone and before other
words, the selection draws from its options, it can be shown, and it can be deleted.  For this
the flags, the help, the words for the mode and the marks of a selection all have to keep clear
of good names (`Request.ofWords_goodName`, `Mode.ofWords_goodName`, `meaning_goodName`).
-/

namespace Tombola.Command

open Groups

/-! ## 1. What a save lets through -/

/-- **A group as a save lets it through.** -/
structure WellFormed (group : String) (options : List String) : Prop where
  name : GoodName group
  two : 2 ≤ options.length
  nodup : options.Nodup

/-- Whether the options of a group are those of a save among some commands for its partition. -/
def SavedBy (steps : List Step) (partition group : String) (options : List String) : Prop :=
  ∃ step ∈ steps, step.partition = partition ∧
    ∃ words, step.words = "/save" :: group :: words ∧ options = words.eraseDups

section Sessions

variable {p : String} {Q : String → List String → Prop} {b : Backend} {s : Backend.Contents}

/-- A command keeps what its partition is known for, if its save does. -/
theorem run_each (h : b.Each p Q s) {step : Step}
    (hsave : step.partition = p → ∀ g words, step.words = "/save" :: g :: words →
      WellFormed g words.eraseDups → Q g words.eraseDups) :
    b.Each p Q (step.run (b.store false) s).2 := by
  refine (asks_perform step.name step.shuffle step.words).runWith (P := b.Each p Q) ?_
    step.faults h
  intro c s hc hs
  refine hs.call (fun g options hp hput => ?_) false
  subst hput
  cases hc with
  | put hw hg hn =>
    refine hsave hp _ _ hw ⟨hg, hn, ?_⟩
    rw [← distinct_eq_eraseDups]
    exact nodup_distinct _

/-- **A session keeps what a partition is known for**, if its saves for the partition do.  Other
commands change no group of it, and saves in other partitions do not reach it. -/
theorem session_each {steps : List Step} (h : b.Each p Q s)
    (hsave : ∀ step ∈ steps, step.partition = p → ∀ g words,
      step.words = "/save" :: g :: words → WellFormed g words.eraseDups → Q g words.eraseDups) :
    b.Each p Q (session (b.store false) steps s) := by
  induction steps generalizing s with
  | nil => exact h
  | cons step steps ih =>
    have hstep := run_each h (hsave step (List.mem_cons_self ..))
    exact ih hstep fun step' hmem => hsave step' (List.mem_cons_of_mem _ hmem)

end Sessions

/-! ## 2. Good names -/

section Names

variable {group : String}

theorem ne_of_goodName (h : GoodName group) {word : String}
    (hw : word.toList.head? = some '/') : group ≠ word := by
  rintro rfl
  exact h.2 _ hw (by decide)

theorem term_goodName (h : GoodName group) : Term.ofWord group = .plain group := by
  unfold Term.ofWord
  split
  · rename_i hg
    exact absurd (by decide) (h.2 '-' (by rw [hg]; rfl))
  · rename_i hg
    exact absurd (by decide) (h.2 '+' (by rw [hg]; rfl))
  · rfl

/-- **A good name starts a selection**, alone and before other words. -/
theorem Request.ofWords_goodName (h : GoodName group) (rest : List String) :
    Request.ofWords (group :: rest) = .ok ⟨.select, "", group :: rest⟩ := by
  have hshow : group ≠ "/show" := ne_of_goodName h rfl
  have hsave : group ≠ "/save" := ne_of_goodName h rfl
  have hdelete : group ≠ "/delete" := ne_of_goodName h rfl
  refine Request.ofWords_select (ne_of_goodName h rfl) (fun e => absurd e h.1)
    (ne_of_goodName h rfl) ?_
  simp only [Operation.ofGroupFlag?, if_neg hshow, if_neg hsave, if_neg hdelete]

theorem Mode.ofWords_goodName (h : GoodName group) (rest : List String) :
    Mode.ofWords (group :: rest) = .ok (.winners 1, group :: rest) := by
  unfold Mode.ofWords
  split
  · rename_i hw
    exact absurd (List.cons.inj hw).1 (ne_of_goodName h rfl)
  · rename_i hw
    exact absurd (List.cons.inj hw).1 (ne_of_goodName h rfl)
  · rename_i hw
    exact absurd (List.cons.inj hw).1 (ne_of_goodName h rfl)
  · rfl

theorem meaning_goodName {groups : Content} {options : List String} (h : WellFormed group options)
    (hg : groups group = some options) : meaning groups [group] = options := by
  have hterm := term_goodName h.name
  have hc : contribution groups group = options := by
    simp only [contribution_eq, hterm, hg, Option.getD_some]
  have hout : isLeftOut [group] = fun _ => false := by
    funext x
    rw [isLeftOut_cons_of_ne (by simp [hterm]), isLeftOut_nil]
  have hkeep : options.filter (fun x => ! (fun _ => false) x) = options :=
    List.filter_eq_self.mpr fun _ _ => rfl
  simp only [meaning, List.flatMap_cons, List.flatMap_nil, List.append_nil, hc, hout, hkeep]
  rw [← distinct_eq_eraseDups, distinct_of_nodup h.nodup]

end Names

/-! ## 3. Groups within reach -/

section Reach

variable {σ : Type} {store : Store σ} {s : σ} {names : List String} {groups : Content}
  {group : String} {options : List String} {name : String}

/-- **A group is within reach** of the commands for its partition, and has these options. -/
structure Reachable (store : Store σ) (s : σ) (group : String) (options : List String) :
    Prop where
  /-- The name starts a selection, alone and before other words. -/
  selects : ∀ rest, Request.ofWords (group :: rest) = .ok ⟨.select, "", group :: rest⟩
  /-- The name alone draws from all options. -/
  drawn : ∀ name shuffle, (∀ options : List String, (shuffle options).Perm options) →
    ∃ reply, (perform name shuffle [group]).run store s = (some (.ok reply), s) ∧
      reply.kind = .selection ∧ reply.options.Perm options
  /-- The options are shown in their order. -/
  shown : ∀ name shuffle rest,
    (perform name shuffle ("/show" :: group :: rest)).run store s =
      (some (.ok ⟨.showed, "The *" ++ group ++ "* group has these options:\n" ++ bullets options,
        options⟩), s)
  /-- A deletion finds the group, and the listing after it does not have it. -/
  deleted : ∀ name shuffle rest, ∃ s',
    (perform name shuffle ("/delete" :: group :: rest)).run store s =
      (some (.ok ⟨.deleted, "Done! The *" ++ group ++ "* group is gone.", []⟩), s') ∧
      ∀ name shuffle rest, ∃ reply,
        (perform name shuffle ("/list" :: rest)).run store s' = (some (.ok reply), s') ∧
          reply.kind = .listed ∧ group ∉ reply.options

/-- A listing that is replied lists what the store answers. -/
theorem list_of_run {reply : Reply} (h : ((listGroups name).run store s).1 = some (.ok reply)) :
    (store .list s).1 = .replied (.ok reply.options) := by
  unfold listGroups at h
  rw [run_attempt] at h
  generalize store .list s = out at h ⊢
  rcases out with ⟨(f | names) | _, s'⟩
  · cases h
  · have hr := Except.ok.inj (Option.some.inj h)
    rw [← hr]
    split
    · rename_i hnil
      rw [hnil]
    · rfl
  · cases h

/-- The draw from the options of a well-formed group, for one winner. -/
theorem draw_one (h : WellFormed group options) (shuffle : Shuffle) :
    draw shuffle (.winners 1) options = .ok (announce (.winners 1) (shuffle options)) := by
  have hcheck : (Mode.winners 1).check options = .ok () := by
    have h1 : ¬ options.length < 1 := by have := h.two; omega
    simp only [Mode.check, if_neg (Nat.not_lt.mpr h.two), if_neg h1]
  simp only [draw, hcheck]

/-- **The name of a group draws from all its options.** -/
theorem run_goodName (h : store.Holds s names groups) (hw : WellFormed group options)
    (hg : groups group = some options) (name : String) (shuffle : Shuffle) :
    (perform name shuffle [group]).run store s =
      (some (.ok (announce (.winners 1) (shuffle options))), s) := by
  rw [perform_of_ok (Request.ofWords_goodName hw.name [])]
  simp only [Request.perform, select, Mode.ofWords_goodName hw.name []]
  rw [Dialogue.run_bind, run_resolve h, meaning_goodName hw hg]
  simp only [draw_one hw, Dialogue.run]

/-- **A well-formed group that is stored is within reach.** -/
theorem reachable_of_serves (h : store.Serves s names groups) (hw : WellFormed group options)
    (hg : groups group = some options) : Reachable store s group options where
  selects := Request.ofWords_goodName hw.name
  drawn name shuffle hperm :=
    ⟨_, run_goodName h.toHolds hw hg name shuffle, rfl, hperm options⟩
  shown name shuffle rest := by
    have hne : options ≠ [] := by
      rintro rfl
      exact absurd hw.two (by decide)
    rw [perform_groupFlag rfl]
    exact run_showGroup h.toHolds hg hne
  deleted name shuffle rest := by
    obtain ⟨s', names', hdel, hs'⟩ := h.delete group
    refine ⟨s', ?_, fun name' shuffle' rest' => ?_⟩
    · rw [perform_groupFlag rfl]
      simp only [Request.perform, deleteGroup]
      rw [run_attempt, hdel, hg]
      rfl
    · obtain ⟨reply, hrun, hkind, hoptions⟩ := run_listGroups hs' name'
      refine ⟨reply, by rw [perform_list, hrun], hkind, ?_⟩
      rw [hoptions, hs'.mem_names]
      simp [Content.without]

end Reach

/-! ## 4. Sessions -/

/-- **Saved groups are well formed and within reach.**  Let a partition be vacant at the start;
other partitions may hold anything.  After any commands, on any partitions and whatever calls
fail, all groups that the partition holds are well formed, with the options of a save; and if a
listing is replied, the store finds such options for every name on it, with which the group is
within reach. -/
theorem listed_groups_reachable {b : Backend} {p : String} {s₀ : Backend.Contents}
    (h : b.Vacant p s₀) (steps : List Step) :
    let s := session (b.store false) steps s₀
    let store := b.store false p
    b.Each p (fun g options => WellFormed g options ∧ SavedBy steps p g options) s ∧
      ∀ name shuffle rest reply,
        ((perform name shuffle ("/list" :: rest)).run store s).1 = some (.ok reply) →
        ∀ g ∈ reply.options, ∃ options, WellFormed g options ∧ SavedBy steps p g options ∧
          store (.get g) s = (.replied (.ok options), s) ∧ Reachable store s g options := by
  intro s store
  have heach : b.Each p (fun g options => WellFormed g options ∧ SavedBy steps p g options) s :=
    session_each h.each fun step hstep hp g words hw hwell =>
      ⟨hwell, step, hstep, hp, words, hw, rfl⟩
  refine ⟨heach, fun name shuffle rest reply hreply g hg => ?_⟩
  rw [perform_list] at hreply
  obtain ⟨groups, hserves, hgroups⟩ := heach.serves (list_of_run hreply)
  obtain ⟨options, ho⟩ := Option.isSome_iff_exists.mp ((hserves.mem_names g).mp hg)
  obtain ⟨hwell, hsaved⟩ := hgroups g options ho
  have hget := hserves.get g
  rw [ho] at hget
  exact ⟨options, hwell, hsaved, hget, reachable_of_serves hserves hwell ho⟩

/-- A table in which another partition has a row that cannot be read. -/
def lunchRows : Backend.Contents :=
  ⟨[], [⟨"T2", "dinner", "Soup"⟩], lunchDisk⟩

theorem listed_groups_reachable_lunch :
    let s := session ((Backend.table "groups.db").store false) lunchSteps lunchRows
    let store := (Backend.table "groups.db").store false "T1"
    (Backend.table "groups.db").Vacant "T1" lunchRows ∧
      ∃ reply, ((perform "/random" id ["/list"]).run store s).1 = some (.ok reply) ∧
        "lunch" ∈ reply.options ∧
        ∃ options, WellFormed "lunch" options ∧ SavedBy lunchSteps "T1" "lunch" options ∧
          store (.get "lunch") s = (.replied (.ok options), s) ∧
          Reachable store s "lunch" options := by
  intro s store
  have hvacant : (Backend.table "groups.db").Vacant "T1" lunchRows := by
    intro r hr
    obtain rfl := List.mem_singleton.mp hr
    decide
  have hlist : ((perform "/random" id ["/list"]).run store s).1 =
      some (.ok ⟨.listed, "Your saved groups are:\n• lunch", ["lunch"]⟩) := by
    decide +kernel
  exact ⟨hvacant, _, hlist, List.mem_singleton_self _,
    (listed_groups_reachable hvacant lunchSteps).2 _ _ _ _ hlist _ (List.mem_singleton_self _)⟩

end Tombola.Command
