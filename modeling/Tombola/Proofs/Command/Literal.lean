import Tombola.Proofs.Command.Announced
/-!
# Options that are put to the draw literally

A plus sign in front of a word makes it an option, whatever the word is: a flag, a mode, a
word that leaves an option out, the name of a group, or a word with a plus sign of its own.
No stage that the words pass looks behind the sign, neither the choice of the operation
(`ofWords_plus`) nor the mode (`Mode.leads_escaped`) nor the pass through the words
(`gather_escaped`), so different options are drawn from as they are.

Main statement: `escaped_drawn`, for one winner, for all and for any number of winners that
there are options for.
-/

namespace Tombola.Command

open Groups

/-- The word that adds an option literally. -/
def escaped (option : String) : String := "+" ++ option

variable {σ : Type} {store : Store σ} {s s' : σ} {names xs : List String} {mode : Mode}

theorem head?_escaped (x : String) : (escaped x).toList.head? = some '+' := by
  rw [escaped, String.toList_append]
  rfl

/-- The sign keeps a word from asking for a mode. -/
theorem Mode.leads_escaped (xs : List String) :
    (winners 1).Leads (xs.map escaped) (xs.map escaped) := by
  have hne {w : String} (hw : w.toList.head? ≠ some '+') : (xs.map escaped).head? ≠ some w := by
    rw [List.head?_map]
    intro h
    obtain ⟨x, -, rfl⟩ := Option.map_eq_some_iff.mp h
    exact hw (head?_escaped x)
  exact .one (hne (by decide)) (hne (by decide))

/-- **The pass through escaped words** adds the options one after the other.  The names of the
groups do not matter. -/
theorem gather_escaped (names : List String) (hne : "" ∉ xs) (options : List String) :
    gather names (xs.map escaped) options [] = .done (.ok (distinct (options ++ xs))) := by
  induction xs generalizing options with
  | nil => rw [List.map_nil, gather, List.append_nil]
  | cons x xs ih =>
    have hx : x ≠ "" := fun e => hne (e ▸ List.mem_cons_self)
    have htail : "" ∉ xs := fun h => hne (List.mem_cons_of_mem x h)
    have hword : Term.ofWord (escaped x) = .literal x := Term.ofWord_plus hx
    have hadd : [x].filter (! ([] : List String).contains ·) = [x] := rfl
    simp only [List.map_cons, gather, hword, hadd]
    rw [ih htail, List.append_assoc, List.singleton_append]

/-- Escaped words come to the options, if these are different. -/
theorem run_resolve_escaped (hlist : store .list s = (.replied (.ok names), s')) (hxs : xs ≠ [])
    (hnodup : xs.Nodup) (hne : "" ∉ xs) :
    (resolve (xs.map escaped)).run store s = (some (.ok xs), s') := by
  have hgather := gather_escaped names hne []
  rw [List.nil_append, distinct_of_nodup hnodup] at hgather
  cases xs with
  | nil => exact absurd rfl hxs
  | cons x xs =>
    rw [List.map_cons] at hgather ⊢
    unfold resolve
    rw [run_attempt, hlist]
    simp only [hgather, Dialogue.run]

/-- **A draw from escaped words,** behind words that ask for a mode that the options allow. -/
theorem run_perform_escaped (hlist : store .list s = (.replied (.ok names), s'))
    (hnodup : xs.Nodup) (hne : "" ∉ xs) {shuffle : Shuffle} (hperm : (shuffle xs).Perm xs)
    (name : String) {words : List String} (hleads : mode.Leads words (xs.map escaped))
    (hallows : mode.Allows xs) (hselect : Request.ofWords words = .ok ⟨.select, "", words⟩) :
    ∃ reply, (perform name shuffle words).run store s = (some (.ok reply), s') ∧
      reply.kind = mode.kind ∧ reply.options.Perm xs := by
  have hxs : xs ≠ [] := fun e => absurd hallows.1 (by simp [e])
  have hresolve := run_resolve_escaped hlist hxs hnodup hne
  obtain ⟨reply, hreply, ha⟩ := run_select_allowed hleads hresolve hallows hperm
  refine ⟨reply, ?_, ha.kind, ?_⟩
  · rw [perform_of_ok hselect]
    exact hreply
  · rw [ha.drawn]
    exact hperm

/-- **Anything can be put to the draw literally.**  With a plus sign in front of each, two or
more different options are drawn from just as they are: one winner if nothing stands before
them, all of them behind "/all", and any number of winners that there are options for, however
the count is written.  It only takes a store that answers the listing, whatever it lists. -/
theorem escaped_drawn (hlist : store .list s = (.replied (.ok names), s')) (hlen : 2 ≤ xs.length)
    (hnodup : xs.Nodup) (hne : "" ∉ xs) {shuffle : Shuffle}
    (hp : ∀ options, (shuffle options).Perm options) (name : String) :
    let drawn (kind : ReplyKind) (front : List String) := ∃ reply,
      (perform name shuffle (front ++ xs.map ("+" ++ ·))).run store s = (some (.ok reply), s') ∧
        reply.kind = kind ∧ reply.options.Perm xs
    drawn .selection [] ∧ drawn .shuffled ["/all"] ∧
      (∀ count c, Count.ofWord? count = some c → c ≤ xs.length →
        drawn .selection ["/n", count]) ∧
      -- A count has at most so many digits; no list in memory is long enough for more.
      (xs.length < Decimal.tenTo Count.maxDigits → ∀ c, 1 ≤ c → c ≤ xs.length →
        drawn .selection ["/n", toString c]) := by
  intro drawn
  have hwinners {c : Nat} (hle : c ≤ xs.length) : (Mode.winners c).Allows xs := by
    refine ⟨hlen, ?_⟩
    rintro n ⟨⟩
    exact hle
  have hall : Mode.all.Allows xs := ⟨hlen, fun n hn => nomatch n, hn⟩
  have hplain : Request.ofWords (xs.map escaped) = .ok ⟨.select, "", xs.map escaped⟩ := by
    cases xs with
    | nil => exact absurd hlen (by decide)
    | cons x xs => exact Request.ofWords_plus (head?_escaped x)
  have hcount (count : String) (c : Nat) (hc : Count.ofWord? count = some c)
      (hle : c ≤ xs.length) : drawn .selection ["/n", count] :=
    run_perform_escaped hlist hnodup hne (hp xs) name (.winners hc _) (hwinners hle)
      (ofWords_of_mode (.inr rfl) _)
  refine ⟨?_, ?_, hcount, ?_⟩
  · exact run_perform_escaped hlist hnodup hne (hp xs) name (Mode.leads_escaped xs)
      (hwinners (by omega)) hplain
  · exact run_perform_escaped hlist hnodup hne (hp xs) name (.all _) hall
      (ofWords_of_mode (.inl rfl) _)
  · intro hshort c h1 hle
    have hlt : c < Decimal.tenTo Count.maxDigits := Nat.lt_of_le_of_lt hle hshort
    exact hcount (toString c) c (Count.ofWord?_toString h1 hlt) hle

/-- Options that look like everything that a word can be. -/
def imitations : List String :=
  ["help", "/help", "/all", "/n", "/save", "lunch", "-x", "x", "+y", "-", "+", " ", "é"]

/-- Imitations of flags, modes and groups, next to a group of the same name. -/
theorem escaped_drawn_imitations :
    (∃ reply, (perform "/random" List.reverse (["/n", "012"] ++ imitations.map ("+" ++ ·))).run
          (Memory.store "T1") oddGroups = (some (.ok reply), oddGroups) ∧
        reply.kind = .selection ∧ reply.options.Perm imitations) ∧
      ∃ reply, (perform "/random" List.reverse
            (["/n", toString 13] ++ imitations.map ("+" ++ ·))).run
          (Memory.store "T1") oddGroups = (some (.ok reply), oddGroups) ∧
        reply.kind = .selection ∧ reply.options.Perm imitations := by
  have hlist : Memory.store "T1" .list oddGroups
      = (.replied (.ok (oddGroups.ledger "T1").sortedNames), oddGroups) := rfl
  have h := escaped_drawn hlist (show 2 ≤ imitations.length by decide) (by decide) (by decide)
    (fun options => List.reverse_perm options) "/random"
  have hshort : imitations.length < Decimal.tenTo Count.maxDigits :=
    (Decimal.length_digits_le_iff (by decide)).mp (by decide)
  have h12 : Count.ofWord? "012" = some 12 := by decide +kernel
  exact ⟨h.2.2.1 "012" 12 h12 (by decide), h.2.2.2 hshort 13 (by decide) (by decide)⟩

end Tombola.Command
