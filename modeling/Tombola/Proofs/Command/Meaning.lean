import Tombola.Command.Selection
import Tombola.Proofs.Groups.Content
/-!
# What the words of a selection mean

`gather` goes through the words once, with two accumulators: a word `-x` drops `x` from what
was gathered and is remembered against what comes later.  `meaning` says the same without an
order of events: every word contributes some options, and whatever any word leaves out is
taken away at the end.

Main statements:

* `run_gather`: what the pass comes to, from any accumulators;
* `meaning_congr`: only the other words' order counts, the words `-x` count as a set;
* `resolve_eq_meaning`: the options of a selection are its meaning, without repetition, and
  the store is as before.
-/

namespace Tombola.Command

open Groups

/-! ## 1. The meaning -/

def leavesOut (word : String) : Bool :=
  match word.toList with
  | '-' :: _ :: _ => true
  | _ => false

/-- The options that a word adds: none if it leaves one out, the rest of the word after a
plus sign, the options of the group with its name, else the word itself. -/
def contribution (groups : Content) (word : String) : List String :=
  match word.toList with
  | '-' :: _ :: _ => []
  | '+' :: c :: cs => [String.ofList (c :: cs)]
  | _ => (groups word).getD [word]

/-- Whether an option is left out by one of the words. -/
def isLeftOut (words : List String) (x : String) : Bool := x ≠ "" && words.contains ("-" ++ x)

/-- **The options that the words stand for.** -/
def meaning (groups : Content) (words : List String) : List String :=
  ((words.flatMap (contribution groups)).filter (! isLeftOut words ·)).eraseDups

variable {groups : Content} {word : String} {words : List String}

theorem nodup_meaning (groups : Content) (words : List String) :
    (meaning groups words).Nodup := by
  rw [meaning, ← distinct_eq_eraseDups]
  exact nodup_distinct _

/-! ## 2. One word -/

theorem contribution_of_leavesOut (h : leavesOut word = true) :
    contribution groups word = [] := by
  unfold leavesOut at h
  unfold contribution
  split at h
  · rename_i hw
    simp only [hw]
  · exact absurd h (by decide)

/-- The terms and the contributions tell words apart in the same way. -/
theorem contribution_eq (groups : Content) (word : String) :
    contribution groups word =
      match Term.ofWord word with
      | .without _ => []
      | .literal x => [x]
      | .plain w => (groups w).getD [w] := by
  fun_cases Term.ofWord word with
  | case1 c cs hw => simp only [contribution, hw]
  | case2 c cs hw => simp only [contribution, hw]
  | case3 h1 h2 =>
    unfold contribution
    split
    · rename_i hw
      exact absurd hw (h1 _ _)
    · rename_i hw
      exact absurd hw (h2 _ _)
    · rfl

theorem contribution_of_without {x : String} (h : Term.ofWord word = .without x) :
    contribution groups word = [] := by
  rw [contribution_eq, h]

@[simp] theorem isLeftOut_nil (x : String) : isLeftOut [] x = false := by
  simp [isLeftOut]

theorem isLeftOut_cons (word : String) (words : List String) (x : String) :
    isLeftOut (word :: words) x =
      (decide (Term.ofWord word = .without x) || isLeftOut words x) := by
  by_cases hx : x = ""
  · have hne : Term.ofWord word ≠ .without x := fun h =>
      (Term.ofWord_eq_without_iff.mp h).1 hx
    rw [decide_eq_false hne, Bool.false_or]
    simp [isLeftOut, hx]
  · have h : Term.ofWord word = .without x ↔ "-" ++ x = word := by
      rw [Term.ofWord_eq_without_iff, eq_comm]
      exact and_iff_right hx
    rw [Bool.eq_iff_iff]
    simp [isLeftOut, hx, h]

theorem isLeftOut_cons_of_without {x : String} (h : Term.ofWord word = .without x) (y : String) :
    isLeftOut (word :: words) y = (decide (y = x) || isLeftOut words y) := by
  rw [isLeftOut_cons, h]
  simp [eq_comm]

theorem isLeftOut_cons_of_ne {y : String} (h : ∀ x, Term.ofWord word ≠ .without x) :
    isLeftOut (word :: words) y = isLeftOut words y := by
  rw [isLeftOut_cons, decide_eq_false (h y), Bool.false_or]

/-! ## 3. The pass -/

/-- What the pass comes to if the words add `added` one after another, given what was gathered
and left out before. -/
def collected (words added options out : List String) : List String :=
  distinct (options.filter (! isLeftOut words ·)
    ++ added.filter fun x => ! out.contains x && ! isLeftOut words x)

/-- A word that leaves an option out: it goes from what was gathered, and is kept in mind. -/
theorem collected_without {x : String} (h : Term.ofWord word = .without x)
    (added options out : List String) :
    collected (word :: words) added options out =
      collected words added (options.filter (· ≠ x)) (x :: out) := by
  unfold collected
  rw [List.filter_filter]
  congr 2
  · refine List.filter_congr fun y _ => ?_
    rw [isLeftOut_cons_of_without h]
    by_cases hy : y = x <;> simp [hy]
  · refine List.filter_congr fun y _ => ?_
    rw [isLeftOut_cons_of_without h]
    by_cases hy : y = x <;> simp [hy]

/-- A word that adds options: those that were not left out before it. -/
theorem collected_add (h : ∀ x, Term.ofWord word ≠ .without x)
    (more added options out : List String) :
    collected (word :: words) (more ++ added) options out =
      collected words added (options ++ more.filter (! out.contains ·)) out := by
  have hl (y : String) : isLeftOut (word :: words) y = isLeftOut words y :=
    isLeftOut_cons_of_ne h
  unfold collected
  simp only [hl, List.filter_append, List.filter_filter, List.append_assoc]
  congr 3
  refine List.filter_congr fun y _ => ?_
  rw [Bool.and_comm]

/-- What the pass comes to without anything gathered before. -/
theorem collected_start (words added : List String) :
    collected words added [] [] = (added.filter (! isLeftOut words ·)).eraseDups := by
  simp [collected, distinct_eq_eraseDups]

/-- What the pass comes to, given what was gathered and left out before. -/
def gathered (groups : Content) (words options out : List String) : List String :=
  collected words (words.flatMap (contribution groups)) options out

theorem gathered_without {x : String} (h : Term.ofWord word = .without x)
    (options out : List String) :
    gathered groups (word :: words) options out =
      gathered groups words (options.filter (· ≠ x)) (x :: out) := by
  unfold gathered
  rw [List.flatMap_cons, contribution_of_without h, List.nil_append, collected_without h]

theorem gathered_add (h : ∀ x, Term.ofWord word ≠ .without x) (options out : List String) :
    gathered groups (word :: words) options out =
      gathered groups words
        (options ++ (contribution groups word).filter (! out.contains ·)) out := by
  unfold gathered
  rw [List.flatMap_cons, collected_add h]

variable {σ : Type} {store : Store σ} {s : σ} {names : List String}

/-- **The pass, from any accumulators.**  The induction is on the words; the options that were
gathered and those that were left out are arbitrary, since the two change along the way. -/
theorem run_gather (h : store.Holds s names groups) (words options out : List String) :
    (gather names words options out).run store s =
      (some (.ok (gathered groups words options out)), s) := by
  -- The accumulators are general: every word hands changed ones to the words after it.
  induction words generalizing options out with
  | nil =>
    have ho : options.filter (! isLeftOut [] ·) = options :=
      List.filter_eq_self.mpr (by simp)
    simp only [gather, Dialogue.run, gathered, collected, ho, List.flatMap_nil, List.filter_nil,
      List.append_nil]
  | cons word words ih =>
    unfold gather
    cases ht : Term.ofWord word with
    | without x =>
      simp only []
      rw [ih, gathered_without ht]
    | literal x =>
      have hc : contribution groups word = [x] := by rw [contribution_eq, ht]
      simp only []
      rw [ih, gathered_add (by simp [ht]), hc]
    | plain w =>
      have hc : contribution groups word = (groups w).getD [w] := by rw [contribution_eq, ht]
      simp only [List.contains_iff_mem]
      split
      · rename_i hw
        obtain ⟨options', ho⟩ := Option.isSome_iff_exists.mp ((h.mem_names w).mp hw)
        rw [run_attempt, h.get, ho]
        simp only [Option.getD_some]
        rw [ih, gathered_add (by simp [ht]), hc, ho, Option.getD_some]
      · rename_i hw
        have ho : groups w = none := by
          rw [← Option.not_isSome_iff_eq_none]
          exact fun hs => hw ((h.mem_names w).mpr hs)
        rw [ih, gathered_add (by simp [ht]), hc, ho, Option.getD_none]

/-! ## 4. The order of the words -/

theorem leavesOut_minus {x : String} (h : x ≠ "") : leavesOut ("-" ++ x) = true := by
  have ht : ("-" ++ x).toList = '-' :: x.toList := String.toList_append
  cases hc : x.toList with
  | nil => exact absurd (String.toList_eq_nil_iff.mp hc) h
  | cons c cs => simp only [leavesOut, ht, hc]

theorem flatMap_contribution_filter (groups : Content) (words : List String) :
    (words.filter (! leavesOut ·)).flatMap (contribution groups) =
      words.flatMap (contribution groups) := by
  induction words with
  | nil => rfl
  | cons w ws ih =>
    cases hw : leavesOut w with
    | true => simp [hw, ih, contribution_of_leavesOut hw]
    | false => simp [hw, ih]

/-- **Where words leave options out does not matter.**  Two lists of words mean the same if
they agree on the other words, in order, and on which words leave something out. -/
theorem meaning_congr {words' : List String}
    (h1 : words'.filter (! leavesOut ·) = words.filter (! leavesOut ·))
    (h2 : ∀ w, leavesOut w = true → (w ∈ words' ↔ w ∈ words)) :
    meaning groups words' = meaning groups words := by
  have hout : isLeftOut words' = isLeftOut words := by
    funext x
    by_cases hx : x = ""
    · simp [isLeftOut, hx]
    · simp [isLeftOut, hx, h2 _ (leavesOut_minus hx)]
  unfold meaning
  rw [hout, ← flatMap_contribution_filter groups words', h1, flatMap_contribution_filter]

/-! ## 5. The options of a selection -/

theorem gathered_start (groups : Content) (words : List String) :
    gathered groups words [] [] = meaning groups words :=
  collected_start words _

/-- A selection comes to the meaning of its words. -/
theorem run_resolve (h : store.Holds s names groups) (words : List String) :
    (resolve words).run store s = (some (.ok (meaning groups words)), s) := by
  cases words with
  | nil => rfl
  | cons word words =>
    unfold resolve
    rw [run_attempt, h.list]
    simp only []
    rw [run_gather h, gathered_start]

/-- **The options of a selection are the meaning of its words.**  The resolution is a pass over the
words with two accumulators, which asks the store on the way; the meaning is written down without
any order of working.  For every store that answers for a map the two are the same.  Nothing occurs
twice among the options, the store is as before, and the places of the words that leave something
out make no difference. -/
theorem resolve_eq_meaning (h : store.Holds s names groups) (words : List String) :
    (resolve words).run store s = (some (.ok (meaning groups words)), s)
      ∧ (meaning groups words).Nodup
      ∧ ∀ words', words'.filter (! leavesOut ·) = words.filter (! leavesOut ·) →
        (∀ w, leavesOut w = true → (w ∈ words' ↔ w ∈ words)) →
        (resolve words').run store s = (resolve words).run store s := by
  refine ⟨run_resolve h words, nodup_meaning groups words, ?_⟩
  intro words' h1 h2
  rw [run_resolve h, run_resolve h, meaning_congr h1 h2]

/-- Groups with odd names and repeated options. -/
def oddGroups : Memory :=
  [("T1", [("lunch", ["Tacos", "Pizza", "Tacos", "Salad"]), ("-", ["Soup"]), ("", []),
    ("+lunch", ["Rice"])])]

theorem resolve_eq_meaning_odd :
    (resolve ["lunch", "+lunch", "+", "", "-", "-Pizza", "Pizza", "Tacos"]).run (Memory.store "T1")
        oddGroups = (some (.ok ["Tacos", "Salad", "lunch", "+", "Soup"]), oddGroups)
      ∧ (resolve ["-Pizza", "lunch", "+lunch", "+", "", "-", "Pizza", "Tacos"]).run
          (Memory.store "T1") oddGroups
        = (resolve ["lunch", "+lunch", "+", "", "-", "-Pizza", "Pizza", "Tacos"]).run
          (Memory.store "T1") oddGroups := by
  have h := resolve_eq_meaning (Memory.holds "T1" oddGroups)
    ["lunch", "+lunch", "+", "", "-", "-Pizza", "Pizza", "Tacos"]
  have hm : meaning (oddGroups.content "T1")
      ["lunch", "+lunch", "+", "", "-", "-Pizza", "Pizza", "Tacos"]
      = ["Tacos", "Salad", "lunch", "+", "Soup"] := by decide +kernel
  refine ⟨by rw [h.1, hm], h.2.2 _ (by decide) fun w _ => ?_⟩
  exact List.Perm.mem_iff (by decide)

end Tombola.Command
