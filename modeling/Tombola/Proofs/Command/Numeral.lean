import Tombola.Proofs.Command.Announced
/-!
# How a count is written

The word behind "/n" is read from left to right: blanks are trimmed off, a sign is taken off,
underscores are dropped, and what is left must be digits.  Here it is said what such a word looks
like as a whole.  A numeral (`Numeral`) is blanks, a sign or none, groups of digits with one
underscore between each two, and blanks; the digits are 4300 at most, zeros in front included.
The reader accepts the texts of numerals and nothing else, and reads their value.

What follows for the command: a word that is a numeral of one or more is the count, and the words
behind it are gathered as options.  Any other word, and no word at all, is refused with the one
error about the count, and the store is not asked.

Main statements:

* `ungroup_eq_some_iff`: underscores stand between groups of digits;
* `int?_eq_some_iff`: the texts that are read as whole numbers, and their values;
* `count_parsed`: what becomes of a command that begins with "/n".
-/

namespace Tombola.Command

open Groups

namespace Count

/-! ## 1. Groups of digits -/

/-- Whether a list of characters is a run of digits, and not empty. -/
def IsGroup (g : List Char) : Prop := g ≠ [] ∧ ∀ c ∈ g, Decimal.isDigit c = true

theorem ungroup_append {after : Bool} {g rest : List Char} (h : ∀ c ∈ g, Decimal.isDigit c = true)
    (hne : after = true ∨ g ≠ []) :
    ungroup after (g ++ '_' :: rest) = (ungroup false rest).map (g ++ ·) := by
  induction g generalizing after with
  | nil =>
    obtain rfl : after = true := hne.resolve_right (· rfl)
    simp [ungroup]
  | cons d g ih =>
    have hd : Decimal.isDigit d = true := h d List.mem_cons_self
    have hsep : d ≠ '_' := by
      rintro rfl
      exact absurd hd (by decide)
    have htail := ih (fun c hc => h c (List.mem_cons_of_mem d hc)) (.inl rfl)
    simp only [List.cons_append, ungroup, if_neg hsep, hd, if_true, htail, Option.map_map]
    rfl

/-- Groups with underscores between them are read as their digits; the first may have begun
before. -/
theorem ungroup_groups {after : Bool} {g : List Char} {gs : List (List Char)}
    (hg : ∀ c ∈ g, Decimal.isDigit c = true) (hne : after = true ∨ g ≠ [])
    (hgs : ∀ g ∈ gs, IsGroup g) :
    ungroup after (['_'].intercalate (g :: gs)) = some (g :: gs).flatten := by
  induction gs generalizing after g with
  | nil => simpa using ungroup_digits hg hne
  | cons g' gs ih =>
    have hg' : IsGroup g' := hgs g' List.mem_cons_self
    have hrest : ungroup false (['_'].intercalate (g' :: gs)) = some (g' :: gs).flatten :=
      ih hg'.2 (.inr hg'.1) fun x hx => hgs x (List.mem_cons_of_mem _ hx)
    rw [List.intercalate_cons_cons, List.append_assoc, List.singleton_append,
      ungroup_append hg hne, hrest]
    rfl

/-- What is read without underscores was groups of digits. -/
theorem groups_of_ungroup {after : Bool} {cs ds : List Char} (h : ungroup after cs = some ds) :
    ∃ g gs, (after = true ∨ g ≠ []) ∧ (∀ c ∈ g, Decimal.isDigit c = true) ∧
      (∀ g ∈ gs, IsGroup g) ∧ cs = ['_'].intercalate (g :: gs) ∧ ds = (g :: gs).flatten := by
  induction cs generalizing after ds with
  | nil =>
    unfold ungroup at h
    split at h
    · rename_i hafter
      obtain rfl := Option.some.inj h
      exact ⟨[], [], .inl hafter, by simp, by simp, rfl, rfl⟩
    · cases h
  | cons c cs ih =>
    unfold ungroup at h
    split at h
    · rename_i hc
      split at h
      · rename_i hafter
        obtain ⟨g, gs, hne, hg, hgs, rfl, rfl⟩ := ih h
        have hgroup : IsGroup g := ⟨hne.resolve_left (by decide), hg⟩
        refine ⟨[], g :: gs, .inl hafter, by simp, ?_, ?_, rfl⟩
        · intro x hx
          rcases List.mem_cons.mp hx with rfl | hx
          · exact hgroup
          · exact hgs x hx
        · rw [hc, List.intercalate_cons_cons]
          rfl
      · cases h
    · split at h
      · rename_i hd
        obtain ⟨es, he, rfl⟩ := Option.map_eq_some_iff.mp h
        obtain ⟨g, gs, -, hg, hgs, rfl, rfl⟩ := ih he
        refine ⟨c :: g, gs, .inr (List.cons_ne_nil c g), ?_, hgs, ?_, rfl⟩
        · intro x hx
          rcases List.mem_cons.mp hx with rfl | hx
          · exact hd
          · exact hg x hx
        · cases gs <;> simp
      · cases h

/-- What is read without underscores has nothing else in it than digits and underscores. -/
theorem mem_of_ungroup {after : Bool} {cs ds : List Char} (h : ungroup after cs = some ds) :
    ∀ c ∈ cs, c = '_' ∨ Decimal.isDigit c = true := by
  induction cs generalizing after ds with
  | nil => simp
  | cons c cs ih =>
    unfold ungroup at h
    split at h
    · rename_i hc
      split at h
      · exact List.forall_mem_cons.mpr ⟨.inl hc, ih h⟩
      · cases h
    · split at h
      · rename_i hd
        obtain ⟨es, he, -⟩ := Option.map_eq_some_iff.mp h
        exact List.forall_mem_cons.mpr ⟨.inr hd, ih he⟩
      · cases h

/-- **Underscores stand between groups of digits,** one between each two, and nowhere else. -/
theorem ungroup_eq_some_iff {cs ds : List Char} :
    ungroup false cs = some ds ↔
      ∃ groups : List (List Char), groups ≠ [] ∧ (∀ g ∈ groups, IsGroup g) ∧
        cs = ['_'].intercalate groups ∧ ds = groups.flatten := by
  constructor
  · intro h
    obtain ⟨g, gs, hne, hg, hgs, hcs, hds⟩ := groups_of_ungroup h
    refine ⟨g :: gs, List.cons_ne_nil g gs, ?_, hcs, hds⟩
    intro x hx
    rcases List.mem_cons.mp hx with rfl | hx
    · exact ⟨hne.resolve_left (by decide), hg⟩
    · exact hgs x hx
  · rintro ⟨groups, hne, hgroups, rfl, rfl⟩
    cases groups with
    | nil => exact absurd rfl hne
    | cons g gs =>
      have hg : IsGroup g := hgroups g List.mem_cons_self
      exact ungroup_groups hg.2 (.inr hg.1) fun x hx => hgroups x (List.mem_cons_of_mem g hx)

/-! ## 2. Numerals -/

/-- What may stand in front of the digits. -/
inductive Sign where
  | none
  | plus
  | minus
  deriving DecidableEq, Repr

def Sign.chars : Sign → List Char
  | none => []
  | plus => ['+']
  | minus => ['-']

/-- The number of this size with the sign. -/
def Sign.apply : Sign → Nat → Int
  | minus, n => -n
  | _, n => n

/-- A whole number as it may be written. -/
structure Numeral where
  before : List Char
  sign : Sign
  groups : List (List Char)
  after : List Char
  blank_before : ∀ c ∈ before, Text.isAsciiBlank c = true
  blank_after : ∀ c ∈ after, Text.isAsciiBlank c = true
  groups_ne_nil : groups ≠ []
  isGroup : ∀ g ∈ groups, IsGroup g
  /-- There are not too many digits; zeros in front are digits too. -/
  length_le : groups.flatten.length ≤ maxDigits

namespace Numeral

/-- The digits with the underscores between their groups. -/
def grouped (n : Numeral) : List Char := ['_'].intercalate n.groups

def text (n : Numeral) : List Char := n.before ++ (n.sign.chars ++ n.grouped) ++ n.after

/-- The number that the numeral stands for. -/
def value (n : Numeral) : Int := n.sign.apply (Decimal.value n.groups.flatten)

theorem ungroup_grouped (n : Numeral) : ungroup false n.grouped = some n.groups.flatten :=
  ungroup_eq_some_iff.mpr ⟨n.groups, n.groups_ne_nil, n.isGroup, rfl, rfl⟩

theorem head_grouped (n : Numeral) :
    ∃ d rest, n.grouped = d :: rest ∧ Decimal.isDigit d = true := by
  unfold grouped
  have hne := n.groups_ne_nil
  have hall := n.isGroup
  cases hg : n.groups with
  | nil => exact absurd hg hne
  | cons g gs =>
    obtain ⟨hg0, hdigits⟩ : IsGroup g := hall g (by simp [hg])
    cases g with
    | nil => exact absurd rfl hg0
    | cons d g =>
      have hd : Decimal.isDigit d = true := hdigits d List.mem_cons_self
      cases gs with
      | nil => exact ⟨d, g, by simp, hd⟩
      | cons g' gs => exact ⟨d, _, by rw [List.intercalate_cons_cons]; rfl, hd⟩

theorem not_blank_middle (n : Numeral) {c : Char} (h : c ∈ n.sign.chars ++ n.grouped) :
    Text.isAsciiBlank c = false := by
  rcases List.mem_append.mp h with h | h
  · cases hs : n.sign with
    | none => simp [hs, Sign.chars] at h
    | plus =>
      obtain rfl : c = '+' := by simpa [hs, Sign.chars] using h
      decide
    | minus =>
      obtain rfl : c = '-' := by simpa [hs, Sign.chars] using h
      decide
  · rcases mem_of_ungroup n.ungroup_grouped c h with rfl | hd
    · decide
    · exact (lt_of_isDigit hd).2

theorem trim_text (n : Numeral) :
    Text.trim Text.isAsciiBlank n.text = n.sign.chars ++ n.grouped := by
  rw [text, Text.trim_append_of_all n.blank_before n.blank_after]
  exact Text.trim_eq_self fun _ hc => n.not_blank_middle hc

theorem sign_middle (n : Numeral) :
    Count.sign (n.sign.chars ++ n.grouped) = (decide (n.sign = .minus), n.grouped) := by
  obtain ⟨d, rest, hg, hd⟩ := n.head_grouped
  cases n.sign with
  | none =>
    have hminus : d ≠ '-' := fun e => absurd (e ▸ hd) (by decide)
    have hplus : d ≠ '+' := fun e => absurd (e ▸ hd) (by decide)
    rw [hg]
    unfold Count.sign
    split
    · rename_i heq
      exact absurd (List.cons.inj heq).1 hminus
    · rename_i heq
      exact absurd (List.cons.inj heq).1 hplus
    · rfl
  | plus => rfl
  | minus => rfl

theorem int?_text (n : Numeral) : int? n.text = some n.value := by
  have hshort : ¬ maxDigits < n.groups.flatten.length := Nat.not_lt.mpr n.length_le
  simp only [int?, n.trim_text, n.sign_middle, n.ungroup_grouped, if_neg hshort, value]
  cases n.sign <;> rfl

end Numeral

theorem exists_sign (cs : List Char) :
    ∃ s : Sign, cs = s.chars ++ (sign cs).2 ∧ (sign cs).1 = decide (s = .minus) := by
  unfold sign
  split
  · exact ⟨.minus, rfl, rfl⟩
  · exact ⟨.plus, rfl, rfl⟩
  · exact ⟨.none, rfl, rfl⟩

/-- **The texts that are read as whole numbers** are the numerals. -/
theorem int?_eq_some_iff {word : List Char} {i : Int} :
    int? word = some i ↔ ∃ n : Numeral, n.text = word ∧ n.value = i := by
  constructor
  · intro h
    obtain ⟨before, after, hword, hbefore, hafter⟩ :=
      Text.exists_eq_append_trim Text.isAsciiBlank word
    obtain ⟨s, hsign, hminus⟩ := exists_sign (Text.trim Text.isAsciiBlank word)
    unfold int? at h
    simp only at h
    split at h
    · cases h
    · rename_i ds hds
      split at h
      · cases h
      · rename_i hlen
        obtain ⟨groups, hne, hgroups, hcs, rfl⟩ := ungroup_eq_some_iff.mp hds
        refine ⟨⟨before, s, groups, after, hbefore, hafter, hne, hgroups, Nat.not_lt.mp hlen⟩,
          ?_, ?_⟩
        · rw [Numeral.text, Numeral.grouped, ← hcs, ← hsign, ← hword]
        · rw [hminus] at h
          obtain rfl := Option.some.inj h
          cases s <;> rfl
  · rintro ⟨n, rfl, rfl⟩
    exact n.int?_text

/-- Whether a word counts, and how many: it is ASCII, a numeral, and one at least. -/
def Counts (word : String) (c : Nat) : Prop :=
  isAscii word.toList = true ∧ 1 ≤ c ∧ ∃ n : Numeral, n.text = word.toList ∧ n.value = c

/-- **The words that count** are those that the reader accepts. -/
theorem ofWord?_eq_some_iff {word : String} {c : Nat} : ofWord? word = some c ↔ Counts word c := by
  constructor
  · intro h
    unfold ofWord? at h
    split at h
    · rename_i hascii
      split at h
      · rename_i i hi
        split at h
        · rename_i hpos
          obtain rfl := Option.some.inj h
          obtain ⟨n, htext, rfl⟩ := int?_eq_some_iff.mp hi
          exact ⟨hascii, by omega, n, htext, by omega⟩
        · cases h
      · cases h
    · cases h
  · rintro ⟨hascii, hpos, n, htext, hvalue⟩
    have hint : int? word.toList = some (c : Int) := int?_eq_some_iff.mpr ⟨n, htext, hvalue⟩
    have h1 : (1 : Int) ≤ c := by omega
    simp only [ofWord?, hascii, if_true, hint, if_pos h1, Int.toNat_natCast]

-- Blanks, a sign, zeros in front and underscores are allowed; digits of other scripts are not.
example : ofWord? " +0_12\n" = some 12 ∧ ofWord? "1__2" = none ∧ ofWord? "_12" = none ∧
    ofWord? "- 12" = none ∧ ofWord? "-12" = none ∧ ofWord? "\u0661\u0662" = none := by
  decide +kernel

end Count

/-! ## 3. Commands that begin with "/n" -/

/-- Gathers options from words and draws from them in a mode. -/
def drawFrom (shuffle : Shuffle) (mode : Mode) (words : List String) : Drawing Reply :=
  (resolve words).bind fun
    | .error e => .done (.error e)
    | .ok options => .done (draw shuffle mode options)

variable {words rest : List String}

theorem Mode.ofWords_winners_iff {c : Nat} :
    Mode.ofWords ("/n" :: words) = .ok (.winners c, rest) ↔
      ∃ word, words = word :: rest ∧ Count.Counts word c := by
  rw [← Mode.leads_iff]
  constructor
  · intro h
    cases h with
    | winners h rest => exact ⟨_, rfl, Count.ofWord?_eq_some_iff.mp h⟩
    | one hall hn => exact absurd rfl hn
  · rintro ⟨word, rfl, h⟩
    exact .winners (Count.ofWord?_eq_some_iff.mpr h) rest

theorem Mode.ofWords_eq_badCount (h : ∀ word rest c, words = word :: rest → ¬ Count.Counts word c) :
    Mode.ofWords ("/n" :: words) = .error .badCount := by
  cases words with
  | nil => rfl
  | cons word rest =>
    have hnone : Count.ofWord? word = none := by
      refine Option.eq_none_iff_forall_ne_some.mpr fun c hc => ?_
      exact h word rest c rfl (Count.ofWord?_eq_some_iff.mp hc)
    simp only [Mode.ofWords, hnone]

/-- **The count behind "/n" is read exactly.**  It is the value of the next word if that word is
ASCII and a numeral of one or more.  Then the options are gathered from the words behind it, and
so many of them are drawn.  If there is no such word, the command is refused with the error about
the count, and with no other, whatever the store: it is not asked. -/
theorem count_parsed (name : String) (shuffle : Shuffle) (words : List String) :
    (∀ c rest, Mode.ofWords ("/n" :: words) = .ok (.winners c, rest) ↔
      ∃ word, words = word :: rest ∧ Count.Counts word c) ∧
    ((∃ word rest c, words = word :: rest ∧ Count.Counts word c ∧
        perform name shuffle ("/n" :: words) = drawFrom shuffle (.winners c) rest) ∨
      (¬ ∃ word rest c, words = word :: rest ∧ Count.Counts word c) ∧
        perform name shuffle ("/n" :: words) = .done (.error (.usage .badCount))) := by
  have hselect : perform name shuffle ("/n" :: words) = select shuffle ("/n" :: words) :=
    perform_of_ok (ofWords_of_mode (.inr rfl) words) name shuffle
  refine ⟨fun c rest => Mode.ofWords_winners_iff, ?_⟩
  by_cases hcount : ∃ word rest c, words = word :: rest ∧ Count.Counts word c
  · obtain ⟨word, rest, c, hwords, hc⟩ := hcount
    have hmode : Mode.ofWords ("/n" :: words) = .ok (.winners c, rest) :=
      Mode.ofWords_winners_iff.mpr ⟨word, hwords, hc⟩
    refine .inl ⟨word, rest, c, hwords, hc, ?_⟩
    rw [hselect, select, hmode]
    rfl
  · have hmode : Mode.ofWords ("/n" :: words) = .error .badCount :=
      Mode.ofWords_eq_badCount fun word rest c hw hc => hcount ⟨word, rest, c, hw, hc⟩
    refine .inr ⟨hcount, ?_⟩
    rw [hselect, select, hmode]

end Tombola.Command
