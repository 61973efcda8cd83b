/-!
# Entries under names

A list of entries, each under a name that occurs once.  An entry that is replaced keeps its
place, a new one goes to the end.

Main statements: `get?_put`, `get?_erase`, what is found after a change;
`nodup_names_put`, `nodup_names_erase`, names stay different.
-/

namespace Tombola.Groups

/-- Entries under names, in the order in which the names first came. -/
abbrev Entries (β : Type) := List (String × β)

namespace Entries

variable {β : Type}

def get? (k : String) : Entries β → Option β
  | [] => none
  | (k', v) :: rest => if k' = k then some v else get? k rest

/-- Puts an entry under a name, in place of one that is there. -/
def put (k : String) (v : β) : Entries β → Entries β
  | [] => [(k, v)]
  | (k', v') :: rest => if k' = k then (k, v) :: rest else (k', v') :: put k v rest

def erase (k : String) : Entries β → Entries β
  | [] => []
  | (k', v') :: rest => if k' = k then erase k rest else (k', v') :: erase k rest

def names (es : Entries β) : List String := es.map (·.1)

def sortedNames (es : Entries β) : List String :=
  es.names.mergeSort fun a b => decide (a ≤ b)

theorem get?_put (k k' : String) (v : β) (es : Entries β) :
    get? k' (put k v es) = if k' = k then some v else get? k' es := by
  induction es with
  | nil =>
    by_cases h : k' = k
    · simp [put, get?, h]
    · simp [put, get?, h, Ne.symm h]
  | cons e es ih =>
    obtain ⟨k'', v''⟩ := e
    by_cases h1 : k'' = k
    · subst h1
      by_cases h : k' = k''
      · simp [put, get?, h]
      · simp [put, get?, h, Ne.symm h]
    · by_cases h2 : k'' = k'
      · subst h2
        simp [put, get?, h1]
      · simp [put, get?, h1, h2, ih]

theorem get?_erase (k k' : String) (es : Entries β) :
    get? k' (erase k es) = if k' = k then none else get? k' es := by
  induction es with
  | nil => simp [erase, get?]
  | cons e es ih =>
    obtain ⟨k'', v''⟩ := e
    by_cases h1 : k'' = k
    · subst h1
      by_cases h : k' = k''
      · subst h
        simpa [erase] using ih
      · simp [erase, get?, h, Ne.symm h, ih]
    · by_cases h2 : k'' = k'
      · subst h2
        simp [erase, get?, h1]
      · simp [erase, get?, h1, h2, ih]

theorem mem_names_iff {k : String} {es : Entries β} : k ∈ names es ↔ (get? k es).isSome := by
  induction es with
  | nil => simp [names, get?]
  | cons e es ih =>
    obtain ⟨k', v⟩ := e
    have ih' : k ∈ List.map (fun x => x.1) es ↔ (get? k es).isSome := ih
    by_cases h : k' = k
    · simp [names, get?, h]
    · simp [names, get?, h, Ne.symm h, ← ih']

theorem nodup_names_put {k : String} {v : β} {es : Entries β} (h : es.names.Nodup) :
    (put k v es).names.Nodup := by
  induction es with
  | nil => simp [put, names]
  | cons e es ih =>
    obtain ⟨k', v'⟩ := e
    have hc : (k' :: names es).Nodup := h
    obtain ⟨h1, h2⟩ := List.nodup_cons.mp hc
    unfold put
    split
    · rename_i heq
      subst heq
      exact hc
    · rename_i hne
      refine List.nodup_cons.mpr ⟨?_, ih h2⟩
      intro hm
      have hm' : k' ∈ names (put k v es) := hm
      rw [mem_names_iff, get?_put, if_neg hne, ← mem_names_iff] at hm'
      exact h1 hm'

theorem nodup_names_erase {k : String} {es : Entries β} (h : es.names.Nodup) :
    (erase k es).names.Nodup := by
  induction es with
  | nil => simp [erase, names]
  | cons e es ih =>
    obtain ⟨k', v'⟩ := e
    have hc : (k' :: names es).Nodup := h
    obtain ⟨h1, h2⟩ := List.nodup_cons.mp hc
    unfold erase
    split
    · exact ih h2
    · rename_i hne
      refine List.nodup_cons.mpr ⟨?_, ih h2⟩
      intro hm
      have hm' : k' ∈ names (erase k es) := hm
      rw [mem_names_iff, get?_erase, if_neg hne, ← mem_names_iff] at hm'
      exact h1 hm'

end Entries

end Tombola.Groups
