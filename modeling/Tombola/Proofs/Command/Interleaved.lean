import Tombola.Proofs.Command.WellFormed
/-!
# A selection among the commands of others

A selection makes a call for the listing and one for every word that names a listed group, and
the commands of others may come between any two of its calls (`among`).  It sees no single
state of the groups: it may take one group as it was before the commands of others and another
one as they left it, or find a group gone that it saw on the listing.

What it does see is one state for each word.  A word that names no group on the listing is
looked at at the moment of the listing, any other at the moment of its own call (`looks`); and
unless its group is gone by then, it adds what it stands for at that moment (`meaningAt`).  So if
the groups that the words name stay as they are from the first call to the last, the selection
comes to what it would come to alone.

Main statements:

* `run_gather_among`: the pass through the words, whatever others do;
* `selection_word_by_word`: what a selection comes to, on every backend;
* `no_single_moment`: it may be what it comes to alone at no moment at all.
-/

namespace Tombola.Command

open Groups

variable {σ : Type}

/-! ## 1. Calls with commands in between -/

/-- The calls of one user among the commands of others: before the call `n`, the commands
`others n` are carried out.  The state counts the calls. -/
def among (others : Nat → List Step) (stores : String → Store σ) (p : String) : Store (Nat × σ) :=
  fun c (n, s) =>
    let (a, s') := stores p c (session stores (others n) s)
    (a, (n + 1, s'))

/-- The stores at the moment of the call `n`, if the calls themselves change nothing. -/
def moment (others : Nat → List Step) (stores : String → Store σ) (s : σ) : Nat → σ
  | 0 => session stores (others 0) s
  | n + 1 => session stores (others (n + 1)) (moment others stores s n)

/-! ## 2. Words at their moments -/

def namesGroup (groups : Content) (word : String) : Bool :=
  match Term.ofWord word with
  | .plain w => (groups w).isSome
  | _ => false

/-- The words, each with the number of the call at which it is looked at: the listing, or the
call for its group.  The next call is `n`. -/
def looks (listed : Content) : Nat → List String → List (String × Nat)
  | _, [] => []
  | n, word :: words =>
    if namesGroup listed word then (word, n) :: looks listed (n + 1) words
    else (word, 0) :: looks listed n words

/-- **The options that words stand for, each at its own moment.** -/
def meaningAt (seen : Nat → Content) (words : List (String × Nat)) : List String :=
  ((words.flatMap fun x => contribution (seen x.2) x.1).filter
    (! isLeftOut (words.map (·.1)) ·)).eraseDups

/-- What a word adds: the options that are found under its name, if it named a group. -/
def found (seen : Nat → Content) (x : String × Nat) : List String :=
  if namesGroup (seen 0) x.1 then (seen x.2 x.1).getD [] else contribution (seen 0) x.1

/-- Whether a word that names a group on the listing still does when it is looked at. -/
def IsThere (seen : Nat → Content) (x : String × Nat) : Prop :=
  namesGroup (seen 0) x.1 = true → (seen x.2 x.1).isSome = true

section Words

variable {seen : Nat → Content} {listed groups : Content} {word : String} {words : List String}
  {n : Nat} {x : String × Nat}

theorem plain_of_namesGroup (h : namesGroup groups word = true) :
    Term.ofWord word = .plain word ∧ (groups word).isSome = true := by
  unfold namesGroup at h
  split at h
  · rename_i w ht
    obtain rfl := Term.eq_of_ofWord_eq_plain ht
    exact ⟨ht, h⟩
  · cases h

/-- What a word adds depends on its own group only. -/
theorem contribution_congr {groups' : Content} (h : groups word = groups' word) :
    contribution groups word = contribution groups' word := by
  rw [contribution_eq, contribution_eq]
  cases ht : Term.ofWord word with
  | without x => rfl
  | literal x => rfl
  | plain w =>
    obtain rfl := Term.eq_of_ofWord_eq_plain ht
    simp only [h]

theorem looks_cons_of_names (h : namesGroup listed word = true) :
    looks listed n (word :: words) = (word, n) :: looks listed (n + 1) words :=
  if_pos h

theorem looks_cons_of_not (h : namesGroup listed word = false) :
    looks listed n (word :: words) = (word, 0) :: looks listed n words :=
  if_neg (by simp [h])

theorem found_of_names (h : namesGroup (seen 0) word = true) :
    found seen (word, n) = (seen n word).getD [] :=
  if_pos h

theorem found_of_not (h : namesGroup (seen 0) word = false) :
    found seen (word, n) = contribution (seen 0) word :=
  if_neg (by simp [h])

theorem looks_words : (looks listed n words).map (·.1) = words := by
  induction words generalizing n with
  | nil => rfl
  | cons word words ih =>
    unfold looks
    split
    · rw [List.map_cons, ih]
    · rw [List.map_cons, ih]

theorem mem_of_mem_looks (h : x ∈ looks listed n words) : x.1 ∈ words := by
  have hmem : x.1 ∈ (looks listed n words).map (·.1) := List.mem_map_of_mem h
  rwa [looks_words] at hmem

/-- Words that name no listed group are looked at at the listing. -/
theorem looks_moment (h : x ∈ looks listed n words) :
    namesGroup listed x.1 = true ∨ x.2 = 0 := by
  induction words generalizing n with
  | nil => cases h
  | cons word words ih =>
    unfold looks at h
    split at h
    · rename_i hg
      rcases List.mem_cons.mp h with rfl | hmem
      · exact .inl hg
      · exact ih hmem
    · rcases List.mem_cons.mp h with rfl | hmem
      · exact .inr rfl
      · exact ih hmem

/-- **A word adds what it stands for at its moment**, if its group is there. -/
theorem found_eq (h : x ∈ looks (seen 0) n words) (ht : IsThere seen x) :
    found seen x = contribution (seen x.2) x.1 := by
  unfold found
  cases hg : namesGroup (seen 0) x.1 with
  | false =>
    rcases looks_moment h with hyes | hzero
    · rw [hg] at hyes
      cases hyes
    · rw [hzero]
      rfl
  | true =>
    obtain ⟨hplain, -⟩ := plain_of_namesGroup hg
    obtain ⟨options, ho⟩ := Option.isSome_iff_exists.mp (ht hg)
    have hc : contribution (seen x.2) x.1 = options := by
      rw [contribution_eq, hplain]
      simp only [ho, Option.getD_some]
    rw [if_pos rfl, hc, ho, Option.getD_some]

/-- If no group is gone, what is found is what the words stand for at their moments. -/
theorem meaningAt_of_there (h : ∀ x ∈ looks (seen 0) n words, IsThere seen x) :
    meaningAt seen (looks (seen 0) n words) =
      (((looks (seen 0) n words).flatMap (found seen)).filter (! isLeftOut words ·)).eraseDups := by
  have hfound : (looks (seen 0) n words).flatMap (found seen) =
      (looks (seen 0) n words).flatMap fun x => contribution (seen x.2) x.1 :=
    List.flatMap_congr fun x hx => found_eq hx (h x hx)
  rw [hfound, meaningAt, looks_words]

/-- Where the words stand for the same at all moments, they stand for what they do at the
first. -/
theorem meaningAt_of_same (h : ∀ x ∈ looks (seen 0) n words, seen x.2 x.1 = seen 0 x.1) :
    meaningAt seen (looks (seen 0) n words) = meaning (seen 0) words := by
  have hadded : (looks (seen 0) n words).flatMap (fun x => contribution (seen x.2) x.1) =
      words.flatMap (contribution (seen 0)) := by
    have hmap : words.flatMap (contribution (seen 0)) =
        (looks (seen 0) n words).flatMap fun x => contribution (seen 0) x.1 := by
      have hwords : (looks (seen 0) n words).map (·.1) = words := looks_words
      conv_lhs => rw [← hwords]
      rw [List.flatMap_map]
    rw [hmap]
    exact List.flatMap_congr fun x hx => contribution_congr (h x hx)
  unfold meaningAt meaning
  rw [hadded, looks_words]

end Words

/-! ## 3. The pass among the commands of others -/

section Pass

variable {others : Nat → List Step} {stores : String → Store σ} {p : String} {s : σ}
  {seen : Nat → Content} {listed : Content} {word : String} {names : List String}

/-- A word that names a listed group asks for its options. -/
theorem gather_cons_of_names (hw : word ∈ names) (ht : Term.ofWord word = .plain word)
    (words options out : List String) :
    gather names (word :: words) options out =
      attempt (.gettingForSelection word) (.get word) fun found =>
        gather names words (options ++ found.filter (! out.contains ·)) out := by
  simp only [gather, ht, List.contains_iff_mem, if_pos hw]

/-- Any other word is done with at once: what it adds, or leaves out, is what it stands for at the
listing. -/
theorem gather_cons_of_not (hnames : ∀ g, g ∈ names ↔ (listed g).isSome)
    (hg : namesGroup listed word = false) (words options out : List String) :
    ∃ options' out', gather names (word :: words) options out = gather names words options' out' ∧
      ∀ added, collected (word :: words) (contribution listed word ++ added) options out =
        collected words added options' out' := by
  cases ht : Term.ofWord word with
  | without x =>
    refine ⟨options.filter (· ≠ x), x :: out, by simp only [gather, ht], fun added => ?_⟩
    rw [contribution_of_without ht, List.nil_append, collected_without ht]
  | literal x =>
    refine ⟨options ++ [x].filter (! out.contains ·), out, by simp only [gather, ht], ?_⟩
    intro added
    rw [contribution_eq, ht, collected_add (by simp [ht])]
  | plain w =>
    obtain rfl := Term.eq_of_ofWord_eq_plain ht
    have hnone : listed word = none := by simpa [namesGroup, ht] using hg
    have hw : word ∉ names := by simp [hnames, hnone]
    refine ⟨options ++ [word].filter (! out.contains ·), out, ?_, fun added => ?_⟩
    · simp only [gather, ht, List.contains_iff_mem, if_neg hw]
    · rw [contribution_eq, ht, collected_add (by simp [ht])]
      simp only [hnone, Option.getD_none]

/-- **The pass through the words, whatever others do.**  If the store answers for `seen` at the
moments of all calls, every word adds what is found at its moment, and these moments are those
of the calls that the pass makes. -/
theorem run_gather_among
    (h : ∀ n, ∃ names, (stores p).Holds (moment others stores s n) names (seen n))
    (hnames : ∀ g, g ∈ names ↔ (seen 0 g).isSome) (words options out : List String) (n : Nat) :
    ∃ m, (gather names words options out).run (among others stores p)
        (n + 1, moment others stores s n) =
          (some (.ok (collected words
            ((looks (seen 0) (n + 1) words).flatMap (found seen)) options out)),
            (m + 1, moment others stores s m)) ∧
      n ≤ m ∧ ∀ x ∈ looks (seen 0) (n + 1) words, x.2 ≤ m := by
  -- The accumulators and the number of the next call are general.
  induction words generalizing options out n with
  | nil =>
    have ho : options.filter (! isLeftOut [] ·) = options :=
      List.filter_eq_self.mpr (by simp)
    refine ⟨n, ?_, le_rfl, fun x hx => absurd hx List.not_mem_nil⟩
    simp only [gather, Dialogue.run, looks, collected, ho, List.flatMap_nil, List.filter_nil,
      List.append_nil]
  | cons word words ih =>
    have hbound {k m i : Nat} (hk : k ≤ m) (hm : ∀ x ∈ looks (seen 0) i words, x.2 ≤ m) :
        ∀ x ∈ (word, k) :: looks (seen 0) i words, x.2 ≤ m := by
      intro x hx
      rcases List.mem_cons.mp hx with rfl | hmem
      · exact hk
      · exact hm x hmem
    cases hg : namesGroup (seen 0) word with
    | false =>
      obtain ⟨options', out', hgather, hcollected⟩ :=
        gather_cons_of_not hnames hg words options out
      obtain ⟨m, hrun, hle, hm⟩ := ih options' out' n
      rw [looks_cons_of_not hg, hgather]
      refine ⟨m, ?_, hle, hbound (Nat.zero_le m) hm⟩
      rw [List.flatMap_cons, found_of_not hg, hcollected]
      exact hrun
    | true =>
      obtain ⟨ht, hthere⟩ := plain_of_namesGroup hg
      -- The group is looked for after the next commands of others.
      obtain ⟨names', hholds⟩ := h (n + 1)
      have hget : among others stores p (.get word) (n + 1, moment others stores s n) =
          (.replied (.ok ((seen (n + 1) word).getD [])),
            (n + 2, moment others stores s (n + 1))) := by
        have := hholds.get word
        simp only [moment] at this ⊢
        simp only [among, this]
      obtain ⟨m, hrun, hle, hm⟩ := ih
        (options ++ ((seen (n + 1) word).getD []).filter (! out.contains ·)) out (n + 1)
      rw [looks_cons_of_names hg, gather_cons_of_names ((hnames word).mpr hthere) ht]
      refine ⟨m, ?_, Nat.le_of_succ_le hle, hbound hle hm⟩
      rw [List.flatMap_cons, found_of_names hg, collected_add (by simp [ht]), run_attempt, hget]
      exact hrun

/-- The options of a selection among the commands of others. -/
theorem run_resolve_among
    (h : ∀ n, ∃ names, (stores p).Holds (moment others stores s n) names (seen n))
    (words : List String) :
    ∃ n s', (resolve words).run (among others stores p) (0, s) =
        (some (.ok ((((looks (seen 0) 1 words).flatMap (found seen)).filter
          (! isLeftOut words ·)).eraseDups)), (n, s')) ∧
      ∀ x ∈ looks (seen 0) 1 words, x.2 < n := by
  cases words with
  | nil => exact ⟨0, s, rfl, fun x hx => absurd hx List.not_mem_nil⟩
  | cons word words =>
    obtain ⟨names, hholds⟩ := h 0
    have hlist : among others stores p .list (0, s) =
        (.replied (.ok names), (1, moment others stores s 0)) := by
      have := hholds.list
      simp only [moment] at this ⊢
      simp only [among, this]
    obtain ⟨m, hrun, -, hm⟩ := run_gather_among h hholds.mem_names (word :: words) [] [] 0
    refine ⟨m + 1, moment others stores s m, ?_, fun x hx => Nat.lt_succ_of_le (hm x hx)⟩
    unfold resolve
    rw [run_attempt, hlist]
    rw [collected_start] at hrun
    exact hrun

end Pass

/-! ## 4. Selections -/

section Selections

variable {store : Store σ} {shuffle : Shuffle} {words rest : List String} {mode : Mode} {s : σ}

/-- Where the listing fails, a selection comes to what it would come to alone. -/
theorem run_select_among_failed {others : Nat → List Step} {stores : String → Store σ} {p : String}
    {f : Failure} (h : (stores p .list (moment others stores s 0)).1 = .replied (.error f)) :
    ((select shuffle words).run (among others stores p) (0, s)).1 =
      ((select shuffle words).run (stores p) (moment others stores s 0)).1 := by
  unfold select
  cases Mode.ofWords words with
  | error u => rfl
  | ok x =>
    obtain ⟨mode, rest⟩ := x
    simp only
    rw [Dialogue.run_bind, Dialogue.run_bind]
    cases rest with
    | nil => rfl
    | cons word rest =>
      unfold resolve
      rw [run_attempt, run_attempt]
      simp only [moment, among] at h ⊢
      rcases hx : stores p .list (session stores (others 0) s) with ⟨a, s'⟩
      rw [hx] at h
      obtain rfl : a = _ := h
      rfl

end Selections

/-! ## 5. Backends -/

section Backends

variable {p : String} {b : Backend} {s : Backend.Contents}

theorem isOpen_session (h : b.IsOpen s) (steps : List Step) :
    b.IsOpen (session (b.store false) steps s) := by
  induction steps generalizing s with
  | nil => exact h
  | cons step steps ih =>
    refine ih ?_
    refine (asks_perform step.name step.shuffle step.words).runWith (P := b.IsOpen) ?_
      step.faults h
    exact fun c _ _ hs => hs.call c false

theorem isOpen_of_lasts {disk : Disk} (h : b.Lasts disk) : b.IsOpen (.empty disk) := by
  cases b with
  | memory => trivial
  | table path =>
    intro f left hclosed
    have hshared : Location.ofPath disk path = .shared := h
    rw [show Location.ofPath disk path = .closed f left from hclosed] at hshared
    cases hshared

theorem vacant_empty (b : Backend) (p : String) (disk : Disk) : b.Vacant p (.empty disk) := by
  cases b with
  | memory => exact fun _ => rfl
  | table path => exact fun r hr => absurd hr List.not_mem_nil

/-- After commands that began with nothing, the store answers for what a backend finds. -/
theorem holds_session {disk : Disk} {steps : List Step}
    (ho : b.IsOpen (session (b.store false) steps (.empty disk))) :
    ∃ names, (b.store false p).Holds (session (b.store false) steps (.empty disk)) names
      (b.content p (session (b.store false) steps (.empty disk))) := by
  have heach : b.Each p (fun _ _ => True) (session (b.store false) steps (.empty disk)) :=
    session_each (vacant_empty b p disk).each fun _ _ _ _ _ _ _ => trivial
  obtain ⟨names, hs⟩ := heach.serves_content ho
  exact ⟨names, hs.toHolds⟩

/-- The stores at a moment are those after all commands of others up to it. -/
theorem moment_eq_session (others : Nat → List Step) (stores : String → Store σ) (s : σ) (n : Nat) :
    moment others stores s n = session stores ((List.range (n + 1)).flatMap others) s := by
  induction n with
  | zero => simp [moment]
  | succ n ih =>
    rw [moment, ih, List.range_succ (n := n + 1), List.flatMap_append]
    simp [session]

/-- What a backend finds at the moments of the calls, the store answers for, if it is open at the
first of them. -/
theorem holds_moment {others : Nat → List Step} {disk : Disk}
    (ho : b.IsOpen (moment others (b.store false) (.empty disk) 0)) (n : Nat) :
    ∃ names, (b.store false p).Holds (moment others (b.store false) (.empty disk) n) names
      (b.content p (moment others (b.store false) (.empty disk) n)) := by
  have hopen : b.IsOpen (moment others (b.store false) (.empty disk) n) := by
    induction n with
    | zero => exact ho
    | succ n ih => exact isOpen_session ih _
  rw [moment_eq_session] at hopen ⊢
  exact holds_session hopen

end Backends

/-- **A selection among the commands of others, word by word.**  On every backend, let others
carry out any commands before its calls and between them.  A selection that is refused for its
mode, or whose listing fails, comes to what it would come to alone at its first call.  Otherwise
every word is looked at at one of the calls.  If no group that a word names on the listing is
gone when the word is looked at, the selection draws from what the words stand for at their
moments.  And if the groups that the words name are the same at all its calls, it comes to what
it would come to alone at the first of them. -/
theorem selection_word_by_word (b : Backend) (disk : Disk) (p : String)
    (others : Nat → List Step) (shuffle : Shuffle) (words : List String) :
    let stores := b.store false
    let s := moment others stores (.empty disk)
    let seen := fun n => b.content p (s n)
    let run := (select shuffle words).run (among others stores p) (0, .empty disk)
    let alone := fun n => ((select shuffle words).run (stores p) (s n)).1
    ((∃ u, Mode.ofWords words = .error u) ∨
        (∃ f, (stores p .list (s 0)).1 = .replied (.error f)) → run.1 = alone 0) ∧
      ∀ names mode rest, (stores p .list (s 0)).1 = .replied (.ok names) →
        Mode.ofWords words = .ok (mode, rest) →
        let looked := looks (seen 0) 1 rest
        (∀ n, ∃ names, (stores p).Holds (s n) names (seen n)) ∧
          (∀ x ∈ looked, x.2 < run.2.1) ∧
          ((∀ x ∈ looked, IsThere seen x) →
            run.1 = some (draw shuffle mode (meaningAt seen looked))) ∧
          ((∀ n < run.2.1, ∀ w ∈ rest, seen n w = seen 0 w) → run.1 = alone 0) := by
  intro stores s seen run alone
  refine ⟨?_, ?_⟩
  · rintro (⟨u, hu⟩ | ⟨f, hf⟩)
    · simp only [run, alone, run_select_refused hu]
    · exact run_select_among_failed hf
  · intro names mode rest hlist hmode looked
    have hholds : ∀ n, ∃ names, (stores p).Holds (s n) names (seen n) :=
      holds_moment (Backend.isOpen_iff_list.mpr ⟨names, hlist⟩)
    obtain ⟨n, s', hrun, hcalls⟩ := run_resolve_among hholds rest
    have hselect : run = _ := run_select hmode hrun
    have hthere (ht : ∀ x ∈ looked, IsThere seen x) :
        run.1 = some (draw shuffle mode (meaningAt seen looked)) := by
      rw [hselect, meaningAt_of_there ht]
    rw [hselect]
    refine ⟨hholds, hcalls, hselect ▸ hthere, fun hsame => ?_⟩
    have hkept : ∀ x ∈ looked, seen x.2 x.1 = seen 0 x.1 := fun x hx =>
      hsame x.2 (hcalls x hx) x.1 (mem_of_mem_looks hx)
    have halone : alone 0 = some (draw shuffle mode (meaning (seen 0) rest)) := by
      obtain ⟨names', h0⟩ := hholds 0
      exact congrArg Prod.fst (run_select hmode (run_resolve h0 rest))
    rw [halone, ← meaningAt_of_same hkept, ← hthere]
    · rw [hselect]
    · intro x hx hg
      rw [hkept x hx]
      exact (plain_of_namesGroup hg).2

/-- A command of another user of the partition. -/
def stepOf (words : List String) : Step := ⟨"T1", "/random", id, words, Faults.none⟩

/-- Others who save two groups, and save both of them anew while the second one is yet to be
looked at. -/
def savingOthers : Nat → List Step
  | 0 => [stepOf ["/save", "lunch", "Tacos", "Pizza"], stepOf ["/save", "dinner", "Soup", "Rice"]]
  | 2 => [stepOf ["/save", "lunch", "Bread", "Jam"], stepOf ["/save", "dinner", "Stew", "Pie"]]
  | _ => []

/-- One group is drawn from as it was, the other one as it is, in a table in a file. -/
theorem selection_word_by_word_dinner :
    let b := Backend.table "groups.db"
    let stores := b.store false
    let s := moment savingOthers stores (.empty lunchDisk)
    let seen := fun n => b.content "T1" (s n)
    (∀ x ∈ looks (seen 0) 1 ["lunch", "dinner"], IsThere seen x) ∧
      ((select id ["/all", "lunch", "dinner"]).run (among savingOthers stores "T1")
          (0, .empty lunchDisk)).1 =
        some (.ok (announce .all ["Tacos", "Pizza", "Stew", "Pie"])) := by
  intro b stores s seen
  have hlooks : looks (seen 0) 1 ["lunch", "dinner"] = [("lunch", 1), ("dinner", 2)] := by
    decide +kernel
  have hlunch : (seen 1 "lunch").isSome = true := by decide +kernel
  have hdinner : (seen 2 "dinner").isSome = true := by decide +kernel
  have hthere : ∀ x ∈ looks (seen 0) 1 ["lunch", "dinner"], IsThere seen x := by
    rw [hlooks]
    intro x hx
    rcases List.mem_pair.mp hx with rfl | rfl
    · exact fun _ => hlunch
    · exact fun _ => hdinner
  have hmeaning : meaningAt seen (looks (seen 0) 1 ["lunch", "dinner"]) =
      ["Tacos", "Pizza", "Stew", "Pie"] := by
    rw [hlooks]
    decide +kernel
  have hopen : b.IsOpen (s 0) := isOpen_session (isOpen_of_lasts lasts_lunch) _
  obtain ⟨names, hlist⟩ := (Backend.isOpen_iff_list (p := "T1")).mp hopen
  obtain ⟨-, hdraws⟩ := selection_word_by_word b lunchDisk "T1" savingOthers id
    ["/all", "lunch", "dinner"]
  obtain ⟨-, -, hdraw, -⟩ := hdraws names .all ["lunch", "dinner"] hlist rfl
  refine ⟨hthere, (hdraw hthere).trans ?_⟩
  rw [hmeaning]
  rfl

/-- Others who save a group, and delete it after the listing. -/
def deletingOthers : Nat → List Step
  | 0 => [stepOf ["/save", "lunch", "Tacos", "Pizza"]]
  | 1 => [stepOf ["/delete", "lunch"]]
  | _ => []

def optionsOf (x : Option (Except DrawError Reply)) : Option (List String) :=
  (x.bind (·.toOption)).map (·.options)

section Moments

variable (b : Backend) (disk : Disk) (others : Nat → List Step) (words : List String)

/-- What a selection draws from among the commands of others. -/
def drawnAmong : Option (List String) :=
  optionsOf ((select id words).run (among others (b.store false) "T1") (0, .empty disk)).1

/-- The contents after the first `k` commands of others. -/
def contentsAfter (k : Nat) : Backend.Contents :=
  session (b.store false) (((List.range 3).flatMap others).take k) (.empty disk)

/-- What a selection draws from alone, after the first `k` commands of others. -/
def drawnAlone (k : Nat) : Option (List String) :=
  optionsOf ((select id words).run (b.store false "T1") (contentsAfter b disk others k)).1

variable {b disk others words} {rest : List String} {mode : Mode}

theorem drawnAlone_eq (ho : b.IsOpen (.empty disk)) (h : Mode.ofWords words = .ok (mode, rest))
    (k : Nat) : drawnAlone b disk others words k = optionsOf (some (draw id mode
      (meaning (b.content "T1" (contentsAfter b disk others k)) rest))) := by
  obtain ⟨names, hholds⟩ : ∃ names, (b.store false "T1").Holds (contentsAfter b disk others k) names
      (b.content "T1" (contentsAfter b disk others k)) := holds_session (isOpen_session ho _)
  rw [drawnAlone, run_select h (run_resolve hholds rest)]

theorem drawnAmong_eq (ho : b.IsOpen (.empty disk)) (h : Mode.ofWords words = .ok (mode, rest)) :
    let stores := b.store false
    let seen := fun n => b.content "T1" (moment others stores (.empty disk) n)
    drawnAmong b disk others words = optionsOf (some (draw id mode
      (((looks (seen 0) 1 rest).flatMap (found seen)).filter (! isLeftOut rest ·)).eraseDups)) := by
  intro stores seen
  have hholds : ∀ n, ∃ names,
      (stores "T1").Holds (moment others stores (.empty disk) n) names (seen n) :=
    holds_moment (isOpen_session ho (others 0))
  obtain ⟨n, s', hrun, -⟩ := run_resolve_among hholds rest
  have hselect : (select id words).run (among others stores "T1") (0, .empty disk) = _ :=
    run_select h hrun
  rw [drawnAmong, hselect]

end Moments

/-- **A selection need not see a single state of the groups.**  In a table in a file, after no
number of commands of others would it draw alone from the options that it draws from among
them. -/
theorem no_single_moment :
    (∀ k ≤ 4, drawnAlone (.table "groups.db") lunchDisk savingOthers ["/all", "lunch", "dinner"] k
        ≠ drawnAmong (.table "groups.db") lunchDisk savingOthers ["/all", "lunch", "dinner"]) ∧
      ∀ k ≤ 2, drawnAlone (.table "groups.db") lunchDisk deletingOthers
          ["/all", "lunch", "Soup", "Rice"] k
        ≠ drawnAmong (.table "groups.db") lunchDisk deletingOthers
          ["/all", "lunch", "Soup", "Rice"] := by
  have hopen : (Backend.table "groups.db").IsOpen (.empty lunchDisk) := isOpen_of_lasts lasts_lunch
  have htwo : Mode.ofWords ["/all", "lunch", "dinner"] = .ok (.all, ["lunch", "dinner"]) := rfl
  have hone : Mode.ofWords ["/all", "lunch", "Soup", "Rice"] =
      .ok (.all, ["lunch", "Soup", "Rice"]) := rfl
  simp only [drawnAlone_eq hopen htwo, drawnAmong_eq hopen htwo, drawnAlone_eq hopen hone,
    drawnAmong_eq hopen hone]
  decide +kernel

end Tombola.Command
