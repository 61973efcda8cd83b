import Tombola.Command.Perform
import Tombola.Proofs.Command.Meaning
/-!
# What a selection announces

A selection succeeds if its words ask for a mode, there are two options at least and there are
not more winners than options.  Then its reply holds all the options as they were shuffled, and
its message names the first of them.

The message is specified by how it is cut.  A sentence that names winners is cut at its
asterisks (`sentence`), and every second piece is a name; a shuffled list is cut into its
lines (`numberedLines`).  Where the options do not hold the mark that a message is cut at, the
names are read back from the text alone.

Main statements:

* `Mode.leads_iff`: which words ask for which mode;
* `joinBold_append`: the sentence of two or more winners, for every number of them;
* `announces_announce`: the reply of a draw that is possible;
* `selection_announces`: when a selection succeeds, and what it announces then.
-/

namespace Tombola.Command

open Groups

/-! ## 1. When a draw is possible -/

/-- **How a mode is asked for:** the mode, all the words, and the words that are left. -/
inductive Mode.Leads : Mode → List String → List String → Prop where
  | all (rest : List String) : Leads .all ("/all" :: rest) rest
  | winners {count : String} {n : Nat} (h : Count.ofWord? count = some n) (rest : List String) :
      Leads (.winners n) ("/n" :: count :: rest) rest
  | one {words : List String} (hall : words.head? ≠ some "/all") (hn : words.head? ≠ some "/n") :
      Leads (.winners 1) words words

/-- Whether a draw is possible in a mode. -/
def Mode.Allows (mode : Mode) (options : List String) : Prop :=
  2 ≤ options.length ∧ ∀ n, mode = .winners n → n ≤ options.length

section Modes

variable {mode : Mode} {words rest options : List String}

theorem Mode.leads_iff : mode.Leads words rest ↔ Mode.ofWords words = .ok (mode, rest) := by
  constructor
  · intro h
    cases h with
    | all rest => rfl
    | winners h rest => simp only [ofWords, h]
    | one hall hn =>
      unfold ofWords
      split
      · exact absurd rfl hall
      · exact absurd rfl hn
      · exact absurd rfl hn
      · rfl
  · intro h
    unfold ofWords at h
    split at h
    · cases h
      exact .all _
    · cases h
    · split at h
      · rename_i hc
        cases h
        exact .winners hc _
      · cases h
    · rename_i hall hone hn
      cases h
      cases words with
      | nil => exact .one (by simp) (by simp)
      | cons word words =>
        refine .one ?_ ?_
        · rintro ⟨⟩
          exact hall _ rfl
        · rintro ⟨⟩
          cases words with
          | nil => exact hone rfl
          | cons count words => exact hn _ _ rfl

theorem Mode.Leads.pos {n : Nat} (h : (Mode.winners n).Leads words rest) : 1 ≤ n := by
  cases h with
  | winners h rest => exact (Count.ofWord?_eq_some h).1
  | one hall hn => exact Nat.le_refl 1

/-- The words that ask for a mode are options of a selection, not flags of a command. -/
theorem ofWords_of_mode {word : String} (h : word = "/all" ∨ word = "/n") (rest : List String) :
    Request.ofWords (word :: rest) = .ok ⟨.select, "", word :: rest⟩ := by
  rcases h with rfl | rfl
  · exact Request.ofWords_select (by decide) (fun e => absurd e (by decide)) (by decide) rfl
  · exact Request.ofWords_select (by decide) (fun e => absurd e (by decide)) (by decide) rfl

theorem Mode.Allows.congr {options' : List String} (h : mode.Allows options)
    (hl : options'.length = options.length) : mode.Allows options' := by
  unfold Allows
  rw [hl]
  exact h

theorem Mode.check_of_allows (h : mode.Allows options) : mode.check options = .ok () := by
  have h2 : ¬ options.length < 2 := Nat.not_lt.mpr h.1
  unfold check
  rw [if_neg h2]
  cases mode with
  | all => rfl
  | winners n => exact if_neg (Nat.not_lt.mpr (h.2 n rfl))

theorem Mode.check_of_not_allows (h : ¬ mode.Allows options) :
    ∃ u, mode.check options = .error u := by
  unfold check
  split
  · exact ⟨_, rfl⟩
  · rename_i h2
    cases mode with
    | all => exact absurd ⟨Nat.not_lt.mp h2, fun n hn => nomatch hn⟩ h
    | winners n =>
      have hn : options.length < n := by
        refine Nat.lt_of_not_le fun hle => h ⟨Nat.not_lt.mp h2, fun m hm => ?_⟩
        cases hm
        exact hle
      exact ⟨_, if_pos hn⟩

end Modes

/-! ## 2. Messages in pieces -/

/-- The pieces of a message between the occurrences of a mark. -/
def cutAt (mark : Char) (message : String) : List String :=
  (message.toList.splitOn mark).map String.ofList

/-- A message that was joined of pieces without the mark is cut into these. -/
theorem cutAt_intercalate {mark : Char} {pieces : List String}
    (h : ∀ p ∈ pieces, mark ∉ p.toList) (hne : pieces ≠ []) :
    cutAt mark ((String.singleton mark).intercalate pieces) = pieces := by
  have hlists : ∀ l ∈ pieces.map String.toList, mark ∉ l := by
    intro l hl
    obtain ⟨p, hp, rfl⟩ := List.mem_map.mp hl
    exact h p hp
  have hmap : pieces.map String.toList ≠ [] := fun e => hne (List.map_eq_nil_iff.mp e)
  rw [cutAt, String.toList_intercalate, String.toList_singleton,
    List.splitOn_intercalate mark hlists hmap, List.map_map]
  simp only [Function.comp_def, String.ofList_toList, List.map_id']

def everySecond : List String → List String
  | _ :: x :: pieces => x :: everySecond pieces
  | _ => []

/-! ## 3. Winners -/

/-- How a sentence of three or more winners goes on with `x` and the winners after it. -/
def series (x : String) : List String → List String
  | [] => [", and ", x, "!"]
  | y :: ys => ", " :: x :: series y ys

/-- **The sentence that names winners,** cut at its asterisks. -/
def sentence : List String → List String
  | [] => []
  | [x] => ["The winner is... ", x, "!"]
  | [x, y] => ["The winners are... ", x, " and ", y, "!"]
  | x :: y :: z :: zs => "The winners are... " :: x :: series y (z :: zs)

/-- What stands in bold in a message. -/
def inBold (message : String) : List String := everySecond (cutAt '*' message)

theorem everySecond_series (x : String) (xs : List String) :
    everySecond (series x xs) = x :: xs := by
  induction xs generalizing x with
  | nil => rfl
  | cons y ys ih => rw [series, everySecond, ih]

/-- Every second piece of the sentence is a winner, and all winners are there. -/
theorem everySecond_sentence : ∀ winners : List String, everySecond (sentence winners) = winners
  | [] => rfl
  | [_] => rfl
  | [_, _] => rfl
  | x :: y :: z :: zs => by rw [sentence, everySecond, everySecond_series]

theorem mem_series {p x : String} {xs : List String} (h : p ∈ series x xs) :
    p ∈ x :: xs ∨ '*' ∉ p.toList := by
  induction xs generalizing x with
  | nil =>
    simp only [series, List.mem_cons, List.not_mem_nil, or_false] at h
    rcases h with rfl | rfl | rfl
    · exact .inr (by decide)
    · exact .inl List.mem_cons_self
    · exact .inr (by decide)
  | cons y ys ih =>
    rcases List.mem_cons.mp h with rfl | h
    · exact .inr (by decide)
    · rcases List.mem_cons.mp h with rfl | h
      · exact .inl List.mem_cons_self
      · exact (ih h).imp_left (List.mem_cons_of_mem x)

/-- Only the winners may bring an asterisk of their own. -/
theorem mem_sentence {p : String} {winners : List String} (h : p ∈ sentence winners) :
    p ∈ winners ∨ '*' ∉ p.toList := by
  unfold sentence at h
  split at h
  · cases h
  · simp only [List.mem_cons, List.not_mem_nil, or_false] at h
    rcases h with rfl | rfl | rfl
    · exact .inr (by decide)
    · exact .inl List.mem_cons_self
    · exact .inr (by decide)
  · simp only [List.mem_cons, List.not_mem_nil, or_false] at h
    rcases h with rfl | rfl | rfl | rfl | rfl
    · exact .inr (by decide)
    · exact .inl List.mem_cons_self
    · exact .inr (by decide)
    · exact .inl (List.mem_cons_of_mem _ List.mem_cons_self)
    · exact .inr (by decide)
  · rcases List.mem_cons.mp h with rfl | h
    · exact .inr (by decide)
    · rcases List.mem_cons.mp h with rfl | h
      · exact .inl List.mem_cons_self
      · exact (mem_series h).imp_left (List.mem_cons_of_mem _)

/-- **The winners are read back from what stands in bold.** -/
theorem inBold_sentence {winners : List String} (h : ∀ x ∈ winners, '*' ∉ x.toList) :
    inBold ("*".intercalate (sentence winners)) = winners := by
  by_cases hne : sentence winners = []
  · rw [hne, ← everySecond_sentence winners, hne]
    decide
  · have hfree : ∀ p ∈ sentence winners, '*' ∉ p.toList := fun p hp =>
      (mem_sentence hp).elim (h p) id
    have hcut : cutAt '*' ("*".intercalate (sentence winners)) = sentence winners :=
      cutAt_intercalate hfree hne
    rw [inBold, hcut, everySecond_sentence]

theorem joinBold_series (x y : String) (ys : List String) :
    ", ".intercalate ((x :: y :: ys).map fun i => "*" ++ i ++ "*").dropLast ++ ", and "
        ++ ((x :: y :: ys).map fun i => "*" ++ i ++ "*").getLastD "" ++ "!"
      = "*" ++ x ++ "*" ++ "*".intercalate (series y ys) := by
  -- The last two winners are the end of every enumeration; a winner before them adds a comma.
  induction ys generalizing x y with
  | nil => simp [series, ← String.toList_inj]
  | cons z zs ih =>
    have hne : ((y :: z :: zs).map fun i => "*" ++ i ++ "*").dropLast ≠ [] := by simp
    have hlast : ((x :: y :: z :: zs).map fun i => "*" ++ i ++ "*").getLastD ""
        = ((y :: z :: zs).map fun i => "*" ++ i ++ "*").getLastD "" := rfl
    have hseries : series z zs ≠ [] := by cases zs <;> simp [series]
    rw [hlast, List.map_cons, List.dropLast_cons_of_ne_nil (by simp),
      String.intercalate_cons_of_ne_nil hne, series, String.intercalate_cons_cons,
      String.intercalate_cons_of_ne_nil hseries]
    simp only [String.append_assoc] at ih ⊢
    rw [ih]

/-- **Two or more winners in a sentence.**  The marks for bold cut it into pieces, and every second
piece is a winner; the ones between are commas, a blank and the last `and`. -/
theorem joinBold_append {winners : List String} (h : 2 ≤ winners.length) :
    "The winners are... " ++ joinBold winners ++ "!" = "*".intercalate (sentence winners) := by
  match winners, h with
  | [x, y], _ => simp [joinBold, sentence, ← String.toList_inj]
  | x :: y :: z :: zs, _ =>
    have hlen : ¬ ((x :: y :: z :: zs).map fun i => "*" ++ i ++ "*").length ≤ 2 := by simp
    rw [joinBold, if_neg hlen, String.append_assoc, joinBold_series, sentence,
      String.intercalate_cons_cons, String.intercalate_cons_of_ne_nil (by simp [series])]
    simp only [String.append_assoc]

/-! ## 4. Shuffled lists -/

/-- **The lines of a shuffled list,** numbered from one on. -/
def numberedLines (options : List String) : List String :=
  "Here's your shuffled list:" :: options.mapIdx fun i x => toString (i + 1) ++ ". " ++ x

theorem numbered_eq_mapIdx (n : Nat) (xs : List String) :
    numbered n xs = xs.mapIdx fun i x => toString (i + n) ++ ". " ++ x := by
  induction xs generalizing n with
  | nil => rfl
  | cons x xs ih =>
    rw [numbered, ih, List.mapIdx_cons, Nat.zero_add]
    simp only [Nat.add_comm, Nat.add_left_comm]

theorem intercalate_numbered {options : List String} (h : options ≠ []) :
    "Here's your shuffled list:\n" ++ "\n".intercalate (numbered 1 options)
      = "\n".intercalate (numberedLines options) := by
  have hne : (options.mapIdx fun i x => toString (i + 1) ++ ". " ++ x) ≠ [] := by
    simpa [List.mapIdx_eq_nil_iff] using h
  rw [numbered_eq_mapIdx, numberedLines, String.intercalate_cons_of_ne_nil hne]
  rfl

theorem newline_not_mem_toString (n : Nat) : '\n' ∉ (toString n).toList := fun h =>
  absurd (Decimal.isDigit_of_mem_digits h) (by decide)

/-- **The numbered options are read back from the lines.** -/
theorem cutAt_numberedLines {options : List String} (h : ∀ x ∈ options, '\n' ∉ x.toList) :
    cutAt '\n' ("\n".intercalate (numberedLines options)) = numberedLines options := by
  refine cutAt_intercalate (fun p hp => ?_) (List.cons_ne_nil _ _)
  rcases List.mem_cons.mp hp with rfl | hp
  · decide
  · obtain ⟨i, hi, rfl⟩ := List.mem_mapIdx.mp hp
    have hnumber : '\n' ∉ (toString (i + 1)).toList := newline_not_mem_toString (i + 1)
    have hdot : '\n' ∉ (". " : String).toList := by decide
    simp only [String.toList_append, List.mem_append, not_or]
    exact ⟨⟨hnumber, hdot⟩, h _ (List.getElem_mem hi)⟩

/-! ## 5. Announcements -/

/-- The kind of reply that a draw gets. -/
def Mode.kind : Mode → ReplyKind
  | .all => .shuffled
  | .winners _ => .selection

/-- What a message is joined of, and by which mark. -/
def Mode.message (mode : Mode) (options : List String) : String :=
  match mode with
  | .all => "\n".intercalate (numberedLines options)
  | .winners n => "*".intercalate (sentence (options.take n))

/-- **A reply announces shuffled options.** -/
structure Announces (mode : Mode) (options : List String) (reply : Reply) : Prop where
  /-- The reply holds all of them. -/
  drawn : reply.options = options
  kind : reply.kind = mode.kind
  message : reply.message = mode.message options
  /-- In bold are the first ones, in order. -/
  winners : ∀ n, mode = .winners n → (∀ x ∈ options, '*' ∉ x.toList) →
    inBold reply.message = options.take n
  /-- In the lines are all of them, numbered from one on. -/
  lines : mode = .all → (∀ x ∈ options, '\n' ∉ x.toList) →
    cutAt '\n' reply.message = numberedLines options

theorem message_announce {mode : Mode} {options : List String} (h : mode.Allows options)
    (hpos : ∀ n, mode = .winners n → 1 ≤ n) :
    (announce mode options).message = mode.message options := by
  unfold announce
  split
  · have hne : options ≠ [] := fun e => absurd h.1 (by simp [e])
    exact intercalate_numbered hne
  · cases options with
    | nil => exact absurd h.1 (by decide)
    | cons x xs => simp [Mode.message, sentence, String.append_assoc]
  · rename_i n hn1
    have hn : 2 ≤ n := by
      have h1 : 1 ≤ n := hpos n rfl
      have hne : n ≠ 1 := fun e => hn1 (by rw [e])
      omega
    refine joinBold_append ?_
    rw [List.length_take]
    exact Nat.le_min.mpr ⟨hn, h.1⟩

/-- **A draw that is possible announces the options.**  They are all in the reply, in the order of
the shuffle; the first ones can be read back from what stands in bold, or all of them from the
lines, as far as no option holds the mark that the message is cut at. -/
theorem announces_announce {mode : Mode} {options : List String} (h : mode.Allows options)
    (hpos : ∀ n, mode = .winners n → 1 ≤ n) : Announces mode options (announce mode options) where
  drawn := by unfold announce; split <;> rfl
  kind := by unfold announce; split <;> rfl
  message := message_announce h hpos
  winners n hn hfree := by
    subst hn
    rw [message_announce h hpos]
    exact inBold_sentence fun x hx => hfree x (List.mem_of_mem_take hx)
  lines hall hfree := by
    subst hall
    rw [message_announce h hpos]
    exact cutAt_numberedLines hfree

/-! ## 6. Selections -/

/-- **A selection of what its mode allows** announces the options as they were shuffled. -/
theorem run_select_allowed {σ : Type} {store : Store σ} {s s' : σ} {mode : Mode}
    {words rest options : List String} {shuffle : Shuffle} (hleads : mode.Leads words rest)
    (hresolve : (resolve rest).run store s = (some (.ok options), s'))
    (hallows : mode.Allows options) (hperm : (shuffle options).Perm options) :
    ∃ reply, (select shuffle words).run store s = (some (.ok reply), s') ∧
      Announces mode (shuffle options) reply := by
  refine ⟨announce mode (shuffle options), ?_, ?_⟩
  · rw [run_select (Mode.leads_iff.mp hleads) hresolve, draw, Mode.check_of_allows hallows]
  · refine announces_announce (hallows.congr hperm.length_eq) ?_
    rintro n rfl
    exact hleads.pos

/-- **A selection succeeds exactly when it should, and announces exactly what was drawn.**  It
succeeds if its words ask for a mode that the options of the other words allow.  Then the reply
holds these options as they were shuffled, nothing twice, and announces them.  Otherwise the
selection is refused, the same with every shuffle. -/
theorem selection_announces {σ : Type} {store : Store σ} {s : σ} {names : List String}
    {groups : Content} (h : store.Holds s names groups) {words : List String} {r : Request}
    (hw : Request.ofWords words = .ok r) (hr : r.operation = .select) (name : String)
    {shuffle : Shuffle} (hp : ∀ options, (shuffle options).Perm options) :
    let run (shuffle : Shuffle) := (perform name shuffle words).run store s
    let possible (mode : Mode) (rest : List String) :=
      mode.Leads words rest ∧ mode.Allows (meaning groups rest)
    ((∃ reply, (run shuffle).1 = some (.ok reply)) ↔ ∃ mode rest, possible mode rest) ∧
      (∀ mode rest, possible mode rest → ∃ reply, run shuffle = (some (.ok reply), s) ∧
        Announces mode (shuffle (meaning groups rest)) reply ∧
        reply.options.Perm (meaning groups rest) ∧ reply.options.Nodup) ∧
      ((¬ ∃ mode rest, possible mode rest) →
        ∃ u, ∀ shuffle', run shuffle' = (some (.error (.usage u)), s)) := by
  intro run possible
  have hrun (shuffle : Shuffle) : run shuffle = (select shuffle words).run store s := by
    rcases Request.ofWords_cases hw with ho | rfl | ⟨ho, -⟩ | ⟨flag, hf, -⟩
    · rw [hr] at ho
      cases ho
    · simp only [run, perform_of_ok hw, Request.perform]
    · rw [hr] at ho
      cases ho
    · rw [hr] at hf
      rcases Request.ofGroupFlag?_cases hf with ⟨-, ho⟩ | ⟨-, ho⟩ | ⟨-, ho⟩ <;> cases ho
  have hsucceeds (mode : Mode) (rest : List String) (hm : possible mode rest) :
      ∃ reply, run shuffle = (some (.ok reply), s) ∧
        Announces mode (shuffle (meaning groups rest)) reply ∧
        reply.options.Perm (meaning groups rest) ∧ reply.options.Nodup := by
    have hperm : (shuffle (meaning groups rest)).Perm (meaning groups rest) := hp _
    obtain ⟨reply, hreply, ha⟩ := run_select_allowed hm.1 (run_resolve h rest) hm.2 hperm
    rw [← hrun] at hreply
    refine ⟨reply, hreply, ha, ?_, ?_⟩
    · rw [ha.drawn]
      exact hperm
    · rw [ha.drawn]
      exact hperm.nodup_iff.mpr (nodup_meaning groups rest)
  -- What is refused is told before the shuffle is taken, so it is told with every shuffle.
  have hrefused (hno : ¬ ∃ mode rest, possible mode rest) :
      ∃ u, ∀ shuffle', run shuffle' = (some (.error (.usage u)), s) := by
    rcases hmode : Mode.ofWords words with u | ⟨mode, rest⟩
    · exact ⟨u, fun shuffle' => by rw [hrun, run_select_refused hmode]⟩
    · obtain ⟨u, hu⟩ := Mode.check_of_not_allows fun ha =>
        hno ⟨mode, rest, Mode.leads_iff.mpr hmode, ha⟩
      exact ⟨u, fun shuffle' => by rw [hrun, run_select hmode (run_resolve h rest), draw, hu]⟩
  refine ⟨?_, hsucceeds, hrefused⟩
  constructor
  · rintro ⟨reply, hreply⟩
    refine Classical.byContradiction fun hno => ?_
    obtain ⟨u, hu⟩ := hrefused hno
    rw [hu] at hreply
    cases hreply
  · rintro ⟨mode, rest, hm⟩
    obtain ⟨reply, hreply, -⟩ := hsucceeds mode rest hm
    exact ⟨reply, by rw [hreply]⟩

/-- Three winners of four options, in the order of the shuffle; five cannot be had. -/
theorem selection_announces_lunch :
    (∃ reply,
        (perform "/random" List.reverse ["/n", " +3", "lunch", "-Pizza", "Soup", "+lunch"]).run
          (Memory.store "T1") oddGroups = (some (.ok reply), oddGroups) ∧
        reply.kind = .selection ∧ reply.options = ["lunch", "Soup", "Salad", "Tacos"] ∧
        reply.message = "The winners are... *lunch*, *Soup*, and *Salad*!" ∧
        inBold reply.message = ["lunch", "Soup", "Salad"]) ∧
      ∃ u, (perform "/random" List.reverse ["/n", "5", "lunch", "-Pizza", "Soup", "+lunch"]).run
          (Memory.store "T1") oddGroups = (some (.error (.usage u)), oddGroups) := by
  have hselects (count : String) :
      Request.ofWords ["/n", count, "lunch", "-Pizza", "Soup", "+lunch"]
        = .ok ⟨.select, "", ["/n", count, "lunch", "-Pizza", "Soup", "+lunch"]⟩ :=
    ofWords_of_mode (.inr rfl) _
  have hperm (options : List String) : options.reverse.Perm options := List.reverse_perm options
  have hmeaning : meaning (oddGroups.content "T1") ["lunch", "-Pizza", "Soup", "+lunch"]
      = ["Tacos", "Salad", "Soup", "lunch"] := by decide +kernel
  have h3 : Count.ofWord? " +3" = some 3 := by decide +kernel
  have h5 : Count.ofWord? "5" = some 5 := by decide +kernel
  constructor
  · have h := selection_announces (Memory.holds "T1" oddGroups) (hselects " +3") rfl "/random" hperm
    have hallows : (Mode.winners 3).Allows ["Tacos", "Salad", "Soup", "lunch"] :=
      ⟨by decide, fun n hn => by cases hn; decide⟩
    obtain ⟨reply, hrun, ha, -⟩ := h.2.1 (.winners 3) ["lunch", "-Pizza", "Soup", "+lunch"]
      ⟨.winners h3 _, by rw [hmeaning]; exact hallows⟩
    rw [hmeaning] at ha
    refine ⟨reply, hrun, ha.kind, ha.drawn, ?_, ha.winners 3 rfl (by decide)⟩
    rw [ha.message]
    decide
  · have h := selection_announces (Memory.holds "T1" oddGroups) (hselects "5") rfl "/random" hperm
    have hmode : Mode.ofWords ["/n", "5", "lunch", "-Pizza", "Soup", "+lunch"]
        = .ok (.winners 5, ["lunch", "-Pizza", "Soup", "+lunch"]) := by simp only [Mode.ofWords, h5]
    have himpossible : ¬ ∃ (mode : Mode) (rest : List String),
        mode.Leads ["/n", "5", "lunch", "-Pizza", "Soup", "+lunch"] rest ∧
          mode.Allows (meaning (oddGroups.content "T1") rest) := by
      rintro ⟨mode, rest, hleads, hallows⟩
      cases (Mode.leads_iff.mp hleads).symm.trans hmode
      rw [hmeaning] at hallows
      exact absurd (hallows.2 5 rfl) (by decide)
    obtain ⟨u, hu⟩ := h.2.2 himpossible
    exact ⟨u, hu _⟩

end Tombola.Command
