import Tombola.Command.Request
import Tombola.Command.Count
import Tombola.Command.Reply
import Tombola.Groups.Dialogue
/-!
# Selections

A selection gathers options from its words, shuffles them and names winners.  The words are
read from left to right: `-x` leaves `x` out, before and after it; `+x` adds the word `x`
itself; the name of a saved group adds its options; any other word adds itself.

Main statements: `nodup_distinct`, `mem_distinct`, the options are drawn from without
repetition and nothing is lost; `Term.ofWord_eq_without_iff`, the words that leave an option
out; `Term.ofWord_plus`, those that add one literally; `Mode.ofWords_rest`, the mode only takes
words from the front; `run_select`, a selection draws from what its words come to.
-/

namespace Tombola.Command

open Groups

/-! ## 1. Repetitions -/

/-- The first occurrence of everything, in order. -/
def distinct : List String → List String
  | [] => []
  | x :: xs => x :: (distinct xs).filter (· ≠ x)

@[simp] theorem mem_distinct {x : String} {xs : List String} : x ∈ distinct xs ↔ x ∈ xs := by
  induction xs with
  | nil => simp [distinct]
  | cons y ys ih => by_cases h : x = y <;> simp [distinct, ih, h]

theorem nodup_distinct (xs : List String) : (distinct xs).Nodup := by
  induction xs with
  | nil => simp [distinct]
  | cons y ys ih =>
    refine List.nodup_cons.mpr ⟨by simp, ?_⟩
    exact List.Pairwise.sublist List.filter_sublist ih

theorem distinct_of_nodup {xs : List String} (h : xs.Nodup) : distinct xs = xs := by
  induction xs with
  | nil => rfl
  | cons y ys ih =>
    obtain ⟨hy, hys⟩ := List.nodup_cons.mp h
    have hne : ∀ x ∈ ys, decide (x ≠ y) = true := by
      intro x hx
      rw [decide_eq_true_iff]
      rintro rfl
      exact hy hx
    rw [distinct, ih hys, List.filter_eq_self.mpr hne]

theorem distinct_filter (p : String → Bool) (xs : List String) :
    distinct (xs.filter p) = (distinct xs).filter p := by
  induction xs with
  | nil => rfl
  | cons y ys ih =>
    cases hp : p y with
    | true => simp [distinct, hp, ih, List.filter_filter, Bool.and_comm]
    | false =>
      have h : ((distinct ys).filter (· ≠ y)).filter p = (distinct ys).filter p := by
        rw [List.filter_filter]
        refine List.filter_congr fun x _ => ?_
        by_cases hx : x = y
        · simp [hx, hp]
        · simp [hx]
      simp only [distinct, List.filter_cons, hp, Bool.false_eq_true, if_false, ih, h]

/-- Dropping repetitions from the end is dropping them from the front. -/
theorem distinct_eq_eraseDups : ∀ xs : List String, distinct xs = xs.eraseDups
  | [] => by simp [distinct]
  | x :: xs => by
    have ih := distinct_eq_eraseDups (xs.filter (· ≠ x))
    rw [distinct_filter] at ih
    rw [distinct, ih, List.eraseDups_cons]
    congr 3
    funext y
    by_cases h : y = x <;> simp [h]
termination_by xs => xs.length
decreasing_by
  have h := List.length_filter_le (fun y => decide (y ≠ x)) xs
  simp only [List.length_cons]
  omega

/-! ## 2. Words -/

/-- What a word of a selection means. -/
inductive Term where
  | without (option : String)
  | literal (option : String)
  /-- Adds a group if there is one with this name, else the word itself. -/
  | plain (word : String)
  deriving DecidableEq, Repr

/-- The meaning of a word.  A mark that stands alone is a plain word. -/
def Term.ofWord (word : String) : Term :=
  match word.toList with
  | '-' :: c :: cs => .without (String.ofList (c :: cs))
  | '+' :: c :: cs => .literal (String.ofList (c :: cs))
  | _ => .plain word

/-- **A word leaves out what follows its minus sign.** -/
theorem Term.ofWord_eq_without_iff {word x : String} :
    ofWord word = .without x ↔ x ≠ "" ∧ word = "-" ++ x := by
  have hx : word = "-" ++ x ↔ word.toList = '-' :: x.toList := by
    rw [← String.toList_inj, String.toList_append]
    rfl
  rw [hx]
  constructor
  · intro h
    unfold ofWord at h
    split at h
    · rename_i c cs hw
      obtain rfl : String.ofList (c :: cs) = x := by simpa using h
      simp [hw]
    · simp at h
    · simp at h
  · rintro ⟨hne, hw⟩
    cases hc : x.toList with
    | nil => exact absurd (String.toList_eq_nil_iff.mp hc) hne
    | cons c cs =>
      rw [hc] at hw
      simp only [ofWord, hw]
      rw [← hc, String.ofList_toList]

/-- **A word adds what follows its plus sign, literally.** -/
theorem Term.ofWord_plus {x : String} (h : x ≠ "") : ofWord ("+" ++ x) = .literal x := by
  have hword : ("+" ++ x).toList = '+' :: x.toList := String.toList_append
  cases hc : x.toList with
  | nil => exact absurd (String.toList_eq_nil_iff.mp hc) h
  | cons c cs =>
    simp only [ofWord, hword, hc]
    rw [← hc, String.ofList_toList]

/-- A plain word is the word that it was read from. -/
theorem Term.eq_of_ofWord_eq_plain {word w : String} (h : ofWord word = .plain w) :
    word = w := by
  unfold ofWord at h
  split at h
  · cases h
  · cases h
  · exact Term.plain.inj h

/-- How many options win. -/
inductive Mode where
  | all
  | winners (count : Nat)
  deriving DecidableEq, Repr

/-- The mode that the words in front ask for, and the words that are left. -/
def Mode.ofWords : List String → Except UsageFault (Mode × List String)
  | "/all" :: rest => .ok (.all, rest)
  | ["/n"] => .error .badCount
  | "/n" :: count :: rest =>
    match Count.ofWord? count with
    | some n => .ok (.winners n, rest)
    | none => .error .badCount
  | words => .ok (.winners 1, words)

/-- The mode takes at most two words, from the front. -/
theorem Mode.ofWords_rest {words rest : List String} {m : Mode}
    (h : Mode.ofWords words = .ok (m, rest)) : ∃ taken, words = taken ++ rest := by
  unfold Mode.ofWords at h
  split at h
  · exact ⟨["/all"], by simp_all⟩
  · simp at h
  · rename_i count tail
    split at h
    · exact ⟨["/n", count], by simp_all⟩
    · simp at h
  · exact ⟨[], by simp_all⟩

/-! ## 3. Gathering options -/

/-- Goes through the words.  `saved` are the names of the groups, `options` what was gathered
so far, `out` what was left out so far. -/
def gather (saved : List String) : List String → List String → List String →
    Drawing (List String)
  | [], options, _ => .done (.ok (distinct options))
  | word :: words, options, out =>
    let add (candidates : List String) : List String :=
      options ++ candidates.filter (! out.contains ·)
    match Term.ofWord word with
    | .without x => gather saved words (options.filter (· ≠ x)) (x :: out)
    | .literal x => gather saved words (add [x]) out
    | .plain w =>
      if saved.contains w then
        attempt (.gettingForSelection w) (.get w) fun found =>
          gather saved words (add found) out
      else gather saved words (add [w]) out

/-- The options that the words of a selection come to.  Without words the store is not
asked. -/
def resolve (words : List String) : Drawing (List String) :=
  match words with
  | [] => .done (.ok [])
  | _ => attempt .listingForSelection .list fun saved => gather saved words [] []

/-! ## 4. Drawing -/

/-- The names in bold, joined as in a sentence. -/
def joinBold (items : List String) : String :=
  let bold := items.map fun i => "*" ++ i ++ "*"
  if bold.length ≤ 2 then " and ".intercalate bold
  else ", ".intercalate bold.dropLast ++ ", and " ++ bold.getLastD ""

/-- The options in lines, numbered from `n` on. -/
def numbered : Nat → List String → List String
  | _, [] => []
  | n, x :: xs => (toString n ++ ". " ++ x) :: numbered (n + 1) xs

/-- The reply that announces the shuffled options. -/
def announce (mode : Mode) (options : List String) : Reply :=
  match mode with
  | .all =>
    ⟨.shuffled, "Here's your shuffled list:\n" ++ "\n".intercalate (numbered 1 options), options⟩
  | .winners 1 => ⟨.selection, "The winner is... *" ++ options.headD "" ++ "*!", options⟩
  | .winners n => ⟨.selection, "The winners are... " ++ joinBold (options.take n) ++ "!", options⟩

/-- Refuses to draw from too few options. -/
def Mode.check (mode : Mode) (options : List String) : Except UsageFault Unit :=
  if options.length < 2 then .error (.tooFewToDraw options.length)
  else match mode with
    | .all => .ok ()
    | .winners n =>
      if options.length < n then .error (.tooManyWinners n options.length) else .ok ()

/-- A rearrangement of options. -/
abbrev Shuffle := List String → List String

/-- The draw from options that were gathered. -/
def draw (shuffle : Shuffle) (mode : Mode) (options : List String) : Except DrawError Reply :=
  match mode.check options with
  | .error u => .error (.usage u)
  | .ok () => .ok (announce mode (shuffle options))

/-- A selection: the mode first, then the options, then the draw. -/
def select (shuffle : Shuffle) (words : List String) : Drawing Reply :=
  match Mode.ofWords words with
  | .error u => .done (.error (.usage u))
  | .ok (mode, rest) =>
    (resolve rest).bind fun
      | .error e => .done (.error e)
      | .ok options => .done (draw shuffle mode options)

variable {σ : Type} {store : Store σ} {s : σ} {shuffle : Shuffle} {words rest : List String}
  {mode : Mode}

/-- A selection without a mode is refused before the store is asked. -/
theorem run_select_refused {u : UsageFault} (h : Mode.ofWords words = .error u) :
    (select shuffle words).run store s = (some (.error (.usage u)), s) := by
  simp only [select, h, Dialogue.run]

/-- A selection draws from the options that its words come to. -/
theorem run_select {options : List String} {s' : σ} (h : Mode.ofWords words = .ok (mode, rest))
    (hr : (resolve rest).run store s = (some (.ok options), s')) :
    (select shuffle words).run store s = (some (draw shuffle mode options), s') := by
  simp only [select, h]
  rw [Dialogue.run_bind, hr]
  rfl

end Tombola.Command
