import Tombola.Error
/-!
# Requests

The words of a command become a request: an operation, the name of a group where the
operation needs one, and the words that are left.

Main statements: `ofWords_select`, a first word that is no flag starts a selection;
`ofWords_plus`, so does every word that begins with a plus sign; `ofWords_groupFlag`, a flag
and a name ask for an operation on a group; `ofWords_cases`, all requests.
-/

namespace Tombola.Command

/-- What a command can do. -/
inductive Operation where
  | help
  | select
  | list
  | show
  | save
  | delete
  deriving DecidableEq, Repr

namespace Operation

def all : List Operation := [.help, .select, .list, .show, .save, .delete]

def name : Operation → String
  | help => "help"
  | select => "select"
  | list => "list"
  | .show => "show"
  | save => "save"
  | delete => "delete"

def ofName? (s : String) : Option Operation := all.find? (·.name = s)

/-- The operation that a flag asks for, if the flag takes the name of a group. -/
def ofGroupFlag? (word : String) : Option Operation :=
  if word = "/show" then some .show
  else if word = "/save" then some .save
  else if word = "/delete" then some .delete
  else none

/-- The names of the operations that a table of handlers leaves out, sorted. -/
def missing (present : List Operation) : List String :=
  ((all.filter (! present.contains ·)).map name).mergeSort (fun a b => decide (a ≤ b))

/-- Refuses a table of handlers that leaves an operation out. -/
def checkTable (present : List Operation) : Except Failure Unit :=
  match missing present with
  | [] => .ok ()
  | names =>
    .error (.plain .runtime ("no handler for operations: ["
      ++ ", ".intercalate (names.map Text.quoted) ++ "]"))

end Operation

/-- A request. -/
structure Request where
  operation : Operation
  /-- The name of a group, for an operation that needs one. -/
  operand : String
  args : List String
  deriving DecidableEq, Repr

namespace Request

/-- The request that the words of a command make.  A first word that is no flag is an option
to draw from, even if it looks like a flag. -/
def ofWords : List String → Except DrawError Request
  | [] => .ok ⟨.help, "", []⟩
  | word :: rest =>
    if word = "/help" ∨ (rest = [] ∧ word = "help") then .ok ⟨.help, "", word :: rest⟩
    else if word = "/list" then .ok ⟨.list, "", word :: rest⟩
    else match Operation.ofGroupFlag? word, rest with
      | none, _ => .ok ⟨.select, "", word :: rest⟩
      | some _, [] => .error (.missingOperand word)
      | some op, group :: args => .ok ⟨op, group, args⟩

/-- A first word that is no flag and not a lone "help" starts a selection. -/
theorem ofWords_select {word : String} {rest : List String} (h1 : word ≠ "/help")
    (h2 : word = "help" → rest ≠ []) (h3 : word ≠ "/list")
    (h4 : Operation.ofGroupFlag? word = none) :
    ofWords (word :: rest) = .ok ⟨.select, "", word :: rest⟩ := by
  have h12 : ¬ (word = "/help" ∨ (rest = [] ∧ word = "help")) := fun h =>
    h.elim h1 fun h => h2 h.2 h.1
  simp only [ofWords, if_neg h12, if_neg h3, h4]

/-- A first word that begins with a plus sign starts a selection. -/
theorem ofWords_plus {word : String} {rest : List String} (h : word.toList.head? = some '+') :
    ofWords (word :: rest) = .ok ⟨.select, "", word :: rest⟩ := by
  have ne {w : String} (hw : w.toList.head? ≠ some '+') : word ≠ w := fun e => hw (e ▸ h)
  have h1 : word ≠ "/show" := ne (by decide)
  have h2 : word ≠ "/save" := ne (by decide)
  have h3 : word ≠ "/delete" := ne (by decide)
  have h4 : word ≠ "help" := ne (by decide)
  exact ofWords_select (ne (by decide)) (fun e => absurd e h4) (ne (by decide))
    (by simp [Operation.ofGroupFlag?, h1, h2, h3])

theorem ofGroupFlag?_cases {word : String} {op : Operation}
    (h : Operation.ofGroupFlag? word = some op) :
    (word = "/show" ∧ op = .show) ∨ (word = "/save" ∧ op = .save)
      ∨ (word = "/delete" ∧ op = .delete) := by
  unfold Operation.ofGroupFlag? at h
  split at h
  · exact Or.inl ⟨‹_›, by simpa using h.symm⟩
  · split at h
    · exact Or.inr (Or.inl ⟨‹_›, by simpa using h.symm⟩)
    · split at h
      · exact Or.inr (Or.inr ⟨‹_›, by simpa using h.symm⟩)
      · simp at h

/-- **A flag and the name of a group** ask for the flag's operation. -/
theorem ofWords_groupFlag {flag group : String} {op : Operation} {args : List String}
    (h : Operation.ofGroupFlag? flag = some op) :
    ofWords (flag :: group :: args) = .ok ⟨op, group, args⟩ := by
  have h1 : flag ≠ "/help" ∧ flag ≠ "/list" := by
    rcases ofGroupFlag?_cases h with ⟨rfl, _⟩ | ⟨rfl, _⟩ | ⟨rfl, _⟩ <;> decide
  simp [ofWords, h1, h]

/-- **The requests that words make:** the help, a selection from all the words, the listing, or
the operation of a flag on a group. -/
theorem ofWords_cases {words : List String} {r : Request} (h : ofWords words = .ok r) :
    r.operation = .help ∨ r = ⟨.select, "", words⟩
      ∨ (r.operation = .list ∧ ∃ rest, words = "/list" :: rest)
      ∨ ∃ flag, Operation.ofGroupFlag? flag = some r.operation
        ∧ words = flag :: r.operand :: r.args := by
  unfold ofWords at h
  split at h
  · obtain rfl := Except.ok.inj h
    exact .inl rfl
  · split at h
    · obtain rfl := Except.ok.inj h
      exact .inl rfl
    · split at h
      · rename_i hlist
        obtain rfl := Except.ok.inj h
        exact .inr (.inr (.inl ⟨rfl, _, by rw [hlist]⟩))
      · split at h
        · obtain rfl := Except.ok.inj h
          exact .inr (.inl rfl)
        · simp at h
        · rename_i hf _
          obtain rfl := Except.ok.inj h
          exact .inr (.inr (.inr ⟨_, hf, rfl⟩))

end Request

end Tombola.Command
