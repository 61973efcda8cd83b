/-!
# Blanks, words and trimming

Two classes of separating characters are used by this library, and they differ in four
characters.  *White* characters have the Unicode property White_Space; numbers in settings
are trimmed of them.  *Blanks* are the white characters and the four information separators
U+001C to U+001F; the words of a command are separated by them.

Main statements:

* `trim_append_of_all`, `exists_eq_append_trim`: what trimming drops;
* `not_mem_pieces`: a piece holds no separator.
-/

namespace Tombola.Text

/-! ## 1. The two classes -/

/-- Characters with the Unicode property White_Space; there are 25 of them. -/
def isWhite (c : Char) : Bool :=
  let n := c.toNat
  (9 ≤ n && n ≤ 13) || n == 0x20 || n == 0x85 || n == 0xA0 || n == 0x1680
    || (0x2000 ≤ n && n ≤ 0x200A) || n == 0x2028 || n == 0x2029 || n == 0x202F
    || n == 0x205F || n == 0x3000

/-- Characters that separate words: the white ones and U+001C to U+001F. -/
def isBlank (c : Char) : Bool :=
  isWhite c || (0x1C ≤ c.toNat && c.toNat ≤ 0x1F)

/-- The six blanks of ASCII that a written count may be padded with. -/
def isAsciiBlank (c : Char) : Bool :=
  c == ' ' || (9 ≤ c.toNat && c.toNat ≤ 13)

/-! ## 2. Trimming -/

/-- Drops the characters of class `p` from the end. -/
def trimEnd (p : Char → Bool) (cs : List Char) : List Char :=
  (cs.reverse.dropWhile p).reverse

/-- Drops the characters of class `p` from both ends. -/
def trim (p : Char → Bool) (cs : List Char) : List Char :=
  trimEnd p (cs.dropWhile p)

/-- `s` without the characters of class `p` at its ends. -/
def trimmed (p : Char → Bool) (s : String) : String :=
  String.ofList (trim p s.toList)

theorem trimEnd_append_of_all {p : Char → Bool} {cs ds : List Char} (h : ∀ c ∈ ds, p c = true) :
    trimEnd p (cs ++ ds) = trimEnd p cs := by
  rw [trimEnd, List.reverse_append,
    List.dropWhile_append_of_pos fun c hc => h c (List.mem_reverse.mp hc), ← trimEnd]

/-- Nothing is dropped before a character that is not of class `p`. -/
theorem trimEnd_append_of_mem {p : Char → Bool} {cs ds : List Char} {c : Char} (hc : c ∈ ds)
    (hp : p c = false) : trimEnd p (cs ++ ds) = cs ++ trimEnd p ds := by
  have hd : ds.reverse.dropWhile p ≠ [] := by
    intro h
    have hall := List.all_takeWhile (p := p) (l := ds.reverse)
    have htake := List.takeWhile_append_dropWhile (p := p) (l := ds.reverse)
    rw [h, List.append_nil] at htake
    rw [htake, List.all_reverse] at hall
    simpa [hp] using List.all_eq_true.mp hall c hc
  simp only [trimEnd, List.reverse_append, List.dropWhile_append, List.isEmpty_iff, if_neg hd,
    List.reverse_reverse]

theorem dropWhile_eq_self {p : Char → Bool} {cs : List Char} (h : ∀ c ∈ cs, p c = false) :
    cs.dropWhile p = cs := by
  cases cs with
  | nil => rfl
  | cons c cs => exact List.dropWhile_cons_of_neg (by simp [h c List.mem_cons_self])

/-- Nothing is dropped from a text without characters of class `p`. -/
theorem trimEnd_eq_self {p : Char → Bool} {cs : List Char} (h : ∀ c ∈ cs, p c = false) :
    trimEnd p cs = cs := by
  rw [trimEnd, dropWhile_eq_self fun c hc => h c (List.mem_reverse.mp hc), List.reverse_reverse]

theorem trim_eq_self {p : Char → Bool} {cs : List Char} (h : ∀ c ∈ cs, p c = false) :
    trim p cs = cs := by
  rw [trim, dropWhile_eq_self h, trimEnd_eq_self h]

theorem trim_append_of_all {p : Char → Bool} {before cs after : List Char}
    (hb : ∀ c ∈ before, p c = true) (ha : ∀ c ∈ after, p c = true) :
    trim p (before ++ cs ++ after) = trim p cs := by
  rw [trim, trim, List.append_assoc, List.dropWhile_append_of_pos hb, List.dropWhile_append]
  cases hd : cs.dropWhile p with
  | nil =>
    have hafter : after.dropWhile p = [] := by
      have hdrop := @List.dropWhile_append_of_pos _ p after [] ha
      rwa [List.append_nil, List.dropWhile_nil] at hdrop
    simp [hafter]
  | cons c rest => exact trimEnd_append_of_all ha

/-- **Nothing is dropped but characters of class `p`**, in front and behind. -/
theorem exists_eq_append_trim (p : Char → Bool) (cs : List Char) :
    ∃ before after, cs = before ++ trim p cs ++ after ∧ (∀ c ∈ before, p c = true) ∧
      ∀ c ∈ after, p c = true := by
  have hall (ds : List Char) : ∀ c ∈ ds.takeWhile p, p c = true :=
    List.all_eq_true.mp List.all_takeWhile
  refine ⟨cs.takeWhile p, ((cs.dropWhile p).reverse.takeWhile p).reverse, ?_, hall cs, ?_⟩
  · rw [trim, trimEnd, List.append_assoc, ← List.reverse_append, List.takeWhile_append_dropWhile,
      List.reverse_reverse, List.takeWhile_append_dropWhile]
  · intro c hc
    exact hall _ c (List.mem_reverse.mp hc)

/-- A text is blank when nothing is left of it after trimming. -/
def isBlankText (s : String) : Bool := s.toList.all isBlank

/-! ## 3. Pieces and words -/

def consFirst (c : Char) : List (List Char) → List (List Char)
  | [] => [[c]]
  | w :: ws => (c :: w) :: ws

/-- The pieces between the separators of class `p`; one more than there are separators. -/
def pieces (p : Char → Bool) : List Char → List (List Char)
  | [] => [[]]
  | c :: cs => if p c then [] :: pieces p cs else consFirst c (pieces p cs)

/-- The maximal runs of characters that are not blank, in order. -/
def words (s : String) : List String :=
  ((pieces isBlank s.toList).filter (! ·.isEmpty)).map String.ofList

theorem mem_consFirst {c : Char} {ws : List (List Char)} {w : List Char}
    (h : w ∈ consFirst c ws) : w = [c] ∨ w ∈ ws ∨ ∃ v ∈ ws, w = c :: v := by
  cases ws with
  | nil => exact .inl (by simpa [consFirst] using h)
  | cons v vs =>
    rcases List.mem_cons.mp h with rfl | h
    · exact .inr (.inr ⟨v, by simp, rfl⟩)
    · exact .inr (.inl (by simp [h]))

theorem not_mem_pieces {p : Char → Bool} {cs w : List Char} (hw : w ∈ pieces p cs) :
    ∀ c ∈ w, p c = false := by
  induction cs generalizing w with
  | nil =>
    intro c hc
    simp only [pieces, List.mem_singleton] at hw
    rw [hw] at hc
    cases hc
  | cons d ds ih =>
    unfold pieces at hw
    split at hw
    · rcases List.mem_cons.mp hw with rfl | hw
      · intro c hc; cases hc
      · exact ih hw
    · rename_i hd
      rcases mem_consFirst hw with rfl | hw | ⟨v, hv, rfl⟩
      · intro c hc
        rw [List.mem_singleton.mp hc]
        simpa using hd
      · exact ih hw
      · intro c hc
        rcases List.mem_cons.mp hc with rfl | hc
        · simpa using hd
        · exact ih hv c hc

end Tombola.Text
