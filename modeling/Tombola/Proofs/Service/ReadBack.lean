import Tombola.Proofs.Groups.Partition
import Tombola.Proofs.Service.Workspaces
import Tombola.Proofs.Command.Refinement
/-!
# What was saved is read back

A save is answered by "Done!" only if its call on the store was answered: every other text that
a save can be answered by tells of something that went wrong (`put_of_done`).  What the call kept
stays in the ledger or in the row of the group (`Backend.Keeping`) until a command of the
workspace alters it (`entry_serve`), and the table is found where it was, since openings come to
the same all along (`opening_serve`).

There is one exception.  A path may name a table that is new on every opening
(`Location.ofPath_eq_fresh_iff`).  There too a save is confirmed, and the group is gone
(`unsaved_without_file`).

Main statement: `saved_read_back`.
-/

namespace Tombola.Groups

/-! ## 1. Tables that are new on every opening -/

theorem Location.ofReference_eq_fresh_iff {d : Disk} {r : Reference} :
    ofReference d r = .fresh ↔
      r.access = .memory ∨ r.access ≠ .read ∧
        (r.file = "" ∨ r.file = ":memory:" ∨ r.volatile = true ∧ r.immutable = false) := by
  unfold ofReference
  by_cases ha : r.access = .memory
  · simp [ha]
  · rw [if_neg ha, or_iff_right ha]
    by_cases hf : r.file = "" ∨ r.file = ":memory:"
    · rw [if_pos hf]
      by_cases hread : r.access = .read
      · simp [hread]
      · rcases hf with hf | hf <;> simp [hread, hf]
    · rw [if_neg hf]
      obtain ⟨hempty, hmemory⟩ := not_or.mp hf
      by_cases hv : r.volatile = true
      · by_cases hread : r.access = .read
        · simp [hv, hread]
        · cases r.immutable <;> simp [hv, hread, hempty, hmemory]
      · rw [if_neg hv]
        simp only [hv, hempty, hmemory, false_or, false_and, and_false, iff_false,
          Bool.false_eq_true]
        -- A file is shared, or cannot be opened.
        split
        · exact nofun
        · split <;> exact nofun

/-- **The paths without a file:** the directory is there or can be made, and the reference asks
for memory, or has an empty name or that of memory, or names a system that keeps files in
memory. -/
theorem Location.ofPath_eq_fresh_iff {d : Disk} {path : String} :
    ofPath d path = .fresh ↔
      hasZero (Path.ofString path).parent.text = false ∧ hasZero path = false ∧
        ∃ left r, d.make (Path.ofString path).parent = (none, left) ∧
          Reference.ofString path = .ok r ∧
          (r.access = .memory ∨ r.access ≠ .read ∧
            (r.file = "" ∨ r.file = ":memory:" ∨ r.volatile = true ∧ r.immutable = false)) := by
  unfold ofPath
  by_cases hd : hasZero (Path.ofString path).parent.text = true
  · simp [hd]
  · simp only [hd]
    rcases hm : d.make (Path.ofString path).parent with ⟨_ | f, left⟩
    · by_cases hz : hasZero path = true
      · simp [hz]
      · cases hr : Reference.ofString path <;> simp [hz, ofReference_eq_fresh_iff]
    · simp

/-! ## 2. What a backend keeps -/

namespace Backend

variable {b : Backend} {path p g : String} {options : List String} {d d' : Disk} {s s' : Contents}
  {late : Bool}

/-- Whether a backend has options of a group where it keeps them: in the ledger of the partition,
or as the text of a row. -/
def Keeping (partition group : String) (options : List String) : Backend → Contents → Prop
  | .memory, s => s.memory.content partition group = some options
  | .table _, s =>
    s.table.row? partition group = some ⟨partition, group, Table.writeOptions options⟩

/-- What is kept of a group depends on its entry alone. -/
theorem Keeping.of_entry (h : b.Keeping p g options s) (he : s'.entry p g = s.entry p g) :
    b.Keeping p g options s' := by
  obtain ⟨hmemory, hrow⟩ := Prod.mk.inj he
  cases b with
  | memory => exact hmemory.trans h
  | table path => exact hrow.trans h

/-- Whether every call of a backend meets a new table. -/
def IsFresh (disk : Disk) : Backend → Prop
  | .memory => False
  | .table path => Location.ofPath disk path = .fresh

/-- Whether the calls of a backend are answered: it can be opened, and if it keeps a table, the
deadline has not passed. -/
def Answers (late : Bool) : Backend → Contents → Prop
  | .memory, _ => True
  | .table path, s => late = false ∧ (Backend.table path).IsOpen s

/-- **A save that is answered is kept**, unless the call met a new table. -/
theorem keeping_of_put (h : (b.store late p (.put g options) s).1 = .replied (.ok ())) :
    b.Answers late s ∧
      (¬ b.IsFresh s.disk → b.Keeping p g options (b.store late p (.put g options) s).2) := by
  cases b with
  | memory =>
    refine ⟨trivial, fun _ => ?_⟩
    simp only [Keeping, store, Memory.store, Memory.content, Memory.ledger_update_self,
      Entries.get?_put, if_true]
  | table path =>
    rw [store_table_eq] at h ⊢
    cases late with
    | true => cases h
    | false =>
      cases hplace : Location.ofPath s.disk path with
      | shared =>
        refine ⟨⟨rfl, by simp [IsOpen, hplace]⟩, fun _ => ?_⟩
        simp only [Keeping, onTable, Table.store, Table.row?_upsert, and_self, if_true]
      | fresh =>
        exact ⟨⟨rfl, by simp [IsOpen, hplace]⟩, fun hf => absurd hplace hf⟩
      | closed f left =>
        rw [hplace] at h
        cases h

/-- **What is kept is found**, unless the call meets a new table. -/
theorem get_of_keeping (ha : b.Answers late s) (hf : ¬ b.IsFresh s.disk)
    (h : b.Keeping p g options s) :
    b.store late p (.get g) s = (.replied (.ok options), s) := by
  cases b with
  | memory =>
    have hget : (s.memory.ledger p).get? g = some options := h
    simp only [store, Memory.store, hget, Option.getD_some]
  | table path =>
    obtain ⟨rfl, hopen⟩ := ha
    cases hplace : Location.ofPath s.disk path with
    | shared =>
      have hrow : s.table.row? p g = some ⟨p, g, Table.writeOptions options⟩ := h
      rw [store_table_shared hplace]
      simp only [Table.store, Table.options, hrow, Table.readOptions_writeOptions]
    | fresh => exact absurd hplace hf
    | closed f left => exact absurd hplace (hopen f left)

theorem get_of_fresh (ha : b.Answers late s) (hf : b.IsFresh s.disk) :
    b.store late p (.get g) s = (.replied (.ok []), s) := by
  cases b with
  | memory => exact hf.elim
  | table path =>
    obtain ⟨rfl, -⟩ := ha
    exact (serves_fresh hf).get g

/-- Openings that come to the same meet a new table both times, or neither time. -/
theorem isFresh_iff (hb : b.IsAt path)
    (h : (Location.ofPath d path).Like (Location.ofPath d' path)) :
    b.IsFresh d' ↔ b.IsFresh d := by
  rcases hb with rfl | rfl
  · exact Iff.rfl
  · change Location.ofPath d' path = .fresh ↔ Location.ofPath d path = .fresh
    revert h
    generalize Location.ofPath d path = place, Location.ofPath d' path = place'
    intro h
    cases h with
    | shared | fresh => exact Iff.rfl
    | closed => exact iff_of_false nofun nofun

/-- On a disk without errors of ours, calls fail without such an error. -/
theorem foreign_of_error (hb : b.IsAt path) (hd : d.IsForeign)
    (h : (Location.ofPath d path).Like (Location.ofPath s.disk path)) (f : Failure)
    (hc : (b.store late p (.put g options) s).1 = .replied (.error f)) : f.isOurs = false := by
  rcases hb with rfl | rfl
  · cases hc
  · rw [store_table_eq] at hc
    cases late with
    | true => cases hc
    | false =>
      generalize hplace : Location.ofPath d path = place at h
      generalize Location.ofPath s.disk path = place' at h hc
      cases h with
      | shared | fresh => cases hc
      | closed hf =>
        have hours := Location.foreign_of_closed hd hplace
        cases hc
        rcases hf with rfl | ⟨-, hf⟩
        · exact hours
        · exact hf

theorem Answers.of_like (ha : b.Answers late s) (hb : b.IsAt path)
    (h : (Location.ofPath s.disk path).Like (Location.ofPath s'.disk path)) :
    b.Answers late s' := by
  rcases hb with rfl | rfl
  · trivial
  · obtain ⟨rfl, hopen⟩ := ha
    refine ⟨rfl, fun f left hc => ?_⟩
    rw [hc] at h
    generalize hplace : Location.ofPath s.disk path = place at h
    cases h
    exact hopen _ _ hplace

end Backend

end Tombola.Groups

namespace Tombola.Command

open Groups

def savedMessage (group : String) (options : List String) : String :=
  "Done! The *" ++ group ++ "* group now has these options:\n" ++ bullets options

def shownMessage (group : String) (options : List String) : String :=
  "The *" ++ group ++ "* group has these options:\n" ++ bullets options

end Tombola.Command

namespace Tombola.Service

open Groups Command

/-! ## 3. Commands -/

/-- Whether a disturbance spares a command of one call: its handler is there, and the call does not
fail. -/
structure Disturbance.Spares (d : Disturbance) (op : Operation) (c : Call) : Prop where
  handler : d.handler op = Option.none
  call : d.faults 0 c = Option.none

section Commands

variable {name text group : String} {shuffle : Shuffle} {d : Disturbance}
  {store : Store Backend.Contents} {options rest : List String} {contents : Backend.Contents}

/-- Whether a text is one of those that tell of something that went wrong. -/
def IsWhoops (text : String) : Prop := text.toList.head? = some 'W'

instance : DecidablePred IsWhoops := fun text =>
  inferInstanceAs (Decidable (text.toList.head? = some 'W'))

theorem isWhoops_append {t u : String} (h : IsWhoops t) : IsWhoops (t ++ u) := by
  unfold IsWhoops at h ⊢
  rw [String.toList_append, List.head?_append, h]
  rfl

theorem not_isWhoops_done : ¬ IsWhoops ("Done! " ++ text) := by
  have hhead : "Done! ".toList.head? = some 'D' := by decide
  unfold IsWhoops
  rw [String.toList_append, List.head?_append, hhead, Option.some_or, Option.some.injEq]
  decide

theorem saveGroup_of_good (hg : GoodName group) (hn : 2 ≤ options.eraseDups.length) :
    saveGroup group options =
      attempt (.saving group) (.put group options.eraseDups) fun _ => .done (.ok
        ⟨.saved, savedMessage group options.eraseDups, options.eraseDups⟩) := by
  unfold saveGroup
  rw [distinct_eq_eraseDups, checkName_eq_ok_iff.mpr hg]
  simp only [if_neg (Nat.not_lt.mpr hn)]
  rfl

/-- **A save is refused, or makes its one call.** -/
theorem saveGroup_cases (group : String) (options : List String) :
    (∃ u, saveGroup group options = .done (.error (.usage u)) ∧ IsWhoops u.help) ∨
      GoodName group ∧ 2 ≤ options.eraseDups.length := by
  cases hc : checkName group with
  | error u =>
    refine .inl ⟨u, by simp only [saveGroup, hc], ?_⟩
    unfold checkName at hc
    split at hc
    · cases hc
      decide
    · split at hc
      · split at hc
        · cases hc
          exact isWhoops_append (isWhoops_append (by decide))
        · cases hc
      · cases hc
  | ok _ =>
    by_cases hn : 2 ≤ options.eraseDups.length
    · exact .inr ⟨checkName_eq_ok_iff.mp hc, hn⟩
    · refine .inl ⟨.tooFewToSave group options.eraseDups.length, ?_, ?_⟩
      · unfold saveGroup
        rw [distinct_eq_eraseDups, hc]
        simp only [if_pos (Nat.not_le.mp hn)]
      · change IsWhoops (UsageFault.tooFewToSave "" 0).help
        decide

/-- The error of a call that failed with an error of another program. -/
theorem isWhoops_failed {a : Action} {f : Failure} (h : f.isOurs = false) :
    IsWhoops (a.error f).help := by
  rw [a.error_of_not_ours h, DrawError.help_store _ ""]
  decide

theorem text_of_reply {inChannel inChannel' : Bool} {t t' : String}
    (h : reply inChannel t = reply inChannel' t') : t = t' := by
  simp only [reply, texts, Json.Value.ofFields, Json.Value.ofString, List.map_cons, List.map_nil,
    Response.json.injEq, Json.Value.obj.injEq, List.cons.injEq, Prod.mk.injEq,
    Json.Value.str.injEq, true_and, and_true] at h
  exact Text.ofString_injective h.2

/-- What comes of a command, by the end of its dialogue. -/
def Result.ofEnd : Option (Except DrawError Reply) → Result
  | some (.ok reply) => .replied reply
  | some (.error e) => .failed (.ours e)
  | none => .late

/-- A flag and the name of a group are carried out by the dialogue of the flag. -/
theorem carryOut_groupFlag {flag : String} {op : Operation}
    (hf : Operation.ofGroupFlag? flag = some op) (hd : d.handler op = none) :
    let dialogue := Request.perform name shuffle ⟨op, group, options⟩
    carryOut name shuffle d store (flag :: group :: options) contents =
      (.ofEnd (dialogue.runWith d.faults store contents).1,
        (dialogue.runWith d.faults store contents).2) := by
  intro dialogue
  unfold carryOut
  rw [Command.Request.ofWords_groupFlag hf]
  simp only [hd, dialogue]
  rcases (Request.perform name shuffle ⟨op, group, options⟩).runWith d.faults store contents
    with ⟨_ | (e | reply), contents'⟩ <;> rfl

/-- **A save that is confirmed was carried out:** its call was answered.  The other messages begin
in another way, so the words `Done!` tell that nothing was refused and nothing failed. -/
theorem put_of_done (hd : d.Spares .save (.put group options.eraseDups))
    (hstore : ∀ f, (store (.put group options.eraseDups) contents).1 = .replied (.error f) →
      f.isOurs = false)
    (h : (carryOut name shuffle d store ("/save" :: group :: options) contents).1.response
      = reply false ("Done! " ++ text)) :
    2 ≤ options.eraseDups.length ∧
      (store (.put group options.eraseDups) contents).1 = .replied (.ok ()) ∧
      (carryOut name shuffle d store ("/save" :: group :: options) contents).2
        = (store (.put group options.eraseDups) contents).2 := by
  -- A text that tells of something that went wrong is not the one in question.
  have hne {x : Result} {t : String} (hx : x.response = reply false ("Done! " ++ text))
      (ht : x.response = reply false t) (hw : IsWhoops t) : False := by
    have he : "Done! " ++ text = t := text_of_reply (hx.symm.trans ht)
    exact not_isWhoops_done (he ▸ hw)
  rw [carryOut_groupFlag rfl hd.handler] at h ⊢
  simp only [Command.Request.perform] at h ⊢
  rcases saveGroup_cases group options with ⟨u, hu, hw⟩ | ⟨hgood, hlen⟩
  · rw [hu] at h
    exact (hne h rfl hw).elim
  · rw [saveGroup_of_good hgood hlen, runWith_attempt_done, hd.call] at h ⊢
    refine ⟨hlen, ?_⟩
    rcases hs : store (.put group options.eraseDups) contents with ⟨(f | _) | _, contents'⟩
    · rw [hs] at h
      exact (hne h rfl (isWhoops_failed (hstore _ (by rw [hs])))).elim
    · exact ⟨rfl, rfl⟩
    · rw [hs] at h
      exact (hne h rfl (by decide)).elim

/-- **A save whose call is answered is confirmed.** -/
theorem response_save (hd : d.Spares .save (.put group options.eraseDups)) (hg : GoodName group)
    (hn : 2 ≤ options.eraseDups.length)
    (hs : (store (.put group options.eraseDups) contents).1 = .replied (.ok ())) :
    (carryOut name shuffle d store ("/save" :: group :: options) contents).1.response =
      reply false (savedMessage group options.eraseDups) := by
  rw [carryOut_groupFlag rfl hd.handler]
  simp only [Command.Request.perform]
  rw [saveGroup_of_good hg hn, runWith_attempt_done, hd.call]
  rcases hx : store (.put group options.eraseDups) contents with ⟨_, contents'⟩
  rw [hx] at hs
  obtain rfl := hs
  rfl

/-- **A group that is shown** is answered by the options that the store finds, or by their lack. -/
theorem response_show (hd : d.Spares .show (.get group))
    {found : List String} (hs : (store (.get group) contents).1 = .replied (.ok found)) :
    (carryOut name shuffle d store ("/show" :: group :: rest) contents).1.response =
      reply false (if found = [] then (UsageFault.notFound group).help
        else shownMessage group found) := by
  rw [carryOut_groupFlag rfl hd.handler]
  simp only [Command.Request.perform, showGroup]
  rw [runWith_attempt_done, hd.call]
  rcases hx : store (.get group) contents with ⟨_, contents'⟩
  rw [hx] at hs
  obtain rfl := hs
  dsimp only
  split <;> rfl

end Commands

/-! ## 4. Requests -/

/-- **What a request must be for its command to be carried out:** a command within the limit, that
checks no certificate, with the token that is expected. -/
structure Accepted (s : Settings) (d : Disturbance) (r : Request) (st : State) : Prop where
  command : r.isCommand = true
  admitted : s.rateLimit < 0 ∨ st.commands < s.rateLimit
  noCheck : (Form.ofOctets r.body).value "ssl_check" ≠ "1"
  given : (Form.ofOctets r.body).value "token" ≠ ""
  expected : (expected s d r.arrival st.keeper).1
    = .ok (Text.ofString ((Form.ofOctets r.body).value "token"))

def Request.words (r : Request) : List String := Text.words ((Form.ofOctets r.body).value "text")

section Requests

variable {g : Setting} {s : Settings} {d : Disturbance} {r : Request} {st : State} {b : Backend}
  {team text : String}

theorem isOf_iff : r.isOf team = true ↔
    r.isCommand = true ∧ (Form.ofOctets r.body).value "team_id" = team := by
  simp [Request.isOf]

/-- What a command comes to that is carried out. -/
def CarriedOut (g : Setting) (s : Settings) (b : Backend) (d : Disturbance) (r : Request)
    (st : State) : Prop :=
  ∃ name,
    let out := carryOut name g.shuffle d
      (b.store (isOver s.commandTimeout) ((Form.ofOctets r.body).value "team_id")) r.words
      st.contents
    (handle g d r st).1 = .ok out.1.response ∧ (handle g d r st).2.contents = out.2

/-- **An admitted command with status 200 was carried out,** unless it checks a certificate. -/
theorem carriedOut_of_status (h : r.isCommand = true) (hg : g.settings = .ok s)
    (hl : s.rateLimit < 0 ∨ st.commands < s.rateLimit)
    (hb : Backend.ofName s.storeBackend s.appDb = .ok b)
    (hs : (Form.ofOctets r.body).value "ssl_check" ≠ "1")
    (h200 : status? (handle g d r st).1 = some 200) : CarriedOut g s b d r st := by
  unfold CarriedOut
  rw [handle_admitted h hg hl] at h200 ⊢
  have hfate : Fate g s d r.arrival (Form.ofOctets r.body)
    { st with commands := st.commands + 1 } _ _ := fate_admitted
  generalize admitted g s d r.arrival (Form.ofOctets r.body)
    { st with commands := st.commands + 1 } = out at h200 hfate ⊢
  obtain ⟨a, st'⟩ := out
  cases hfate with
  | check hc => exact absurd hc hs
  | unknown => exact absurd (status?_unavailable h200) (by decide)
  | unjudged | storeless => cases h200
  | forbidden => simp [status?, Response.status] at h200
  | done _ _ _ hb' _ hr =>
    obtain rfl := Except.ok.inj (hb.symm.trans hb')
    exact ⟨_, by rw [Request.words, hr], by rw [Request.words, hr]⟩

/-- **An accepted command is carried out.** -/
theorem Accepted.carriedOut (h : Accepted s d r st) (hg : g.settings = .ok s)
    (hb : Backend.ofName s.storeBackend s.appDb = .ok b) : CarriedOut g s b d r st := by
  refine carriedOut_of_status h.command hg h.admitted hb h.noCheck ?_
  rw [handle_admitted h.command hg h.admitted]
  exact fate_admitted.answered h.noCheck h.given h.expected hb

/-- **A command that is replied to was carried out.** -/
theorem carriedOut_of_reply (h : r.isCommand = true) (hg : g.settings = .ok s)
    (hb : Backend.ofName s.storeBackend s.appDb = .ok b)
    (ha : (handle g d r st).1 = .ok (reply false text)) : CarriedOut g s b d r st := by
  have h200 : status? (handle g d r st).1 = some 200 := by
    rw [ha]
    rfl
  by_cases hl : s.rateLimit < 0 ∨ st.commands < s.rateLimit
  · refine carriedOut_of_status h hg hl hb (fun hs => ?_) h200
    rw [handle_admitted h hg hl, gate_ssl hs] at ha
    cases ha
  · rw [handle_limited h hg hl] at h200
    exact absurd h200 (by simp [status?, Response.status])

/-- **A request leaves the opening of the table as it is.** -/
theorem opening_handle (hg : g.settings = .ok s) :
    (Location.ofPath st.contents.disk s.appDb).Like
      (Location.ofPath (handle g d r st).2.contents.disk s.appDb) := by
  -- It leaves the contents the same for some workspace, and openings are the same for all.
  obtain ⟨other, hother⟩ : ∃ other, r.isOf other = false := by
    refine ⟨(Form.ofOctets r.body).value "team_id" ++ "x", ?_⟩
    have hne : (Form.ofOctets r.body).value "team_id" ≠
        (Form.ofOctets r.body).value "team_id" ++ "x" := by
      intro he
      have hlen := congrArg String.length he
      rw [String.length_append] at hlen
      exact absurd hlen (by simp)
    simp [Request.isOf, hne]
  exact (handle_apart hg hother).opening

end Requests

/-! ## 5. Runs -/

section Runs

variable {g : Setting} {s : Settings} {requests : List (Disturbance × Request)} {st : State}
  {team group : String}

theorem opening_serve (st : State) (hg : g.settings = .ok s) :
    (Location.ofPath st.contents.disk s.appDb).Like
      (Location.ofPath (serve g requests st).2.contents.disk s.appDb) := by
  induction requests generalizing st with
  | nil => exact .refl _
  | cons x requests ih => exact (opening_handle (d := x.1) (r := x.2) hg).trans (ih _)

/-- **A run whose commands do not alter a group leaves it alone.**  Commands of other workspaces may
have any words. -/
theorem entry_serve
    (h : ∀ x ∈ requests, x.2.isOf team = true → ¬ Alters group x.2.words) :
    (serve g requests st).2.contents.entry team group = st.contents.entry team group := by
  by_contra hc
  obtain ⟨before, d, r, after, s, rfl, -, ha⟩ := serve_changed hc
  have hmem : (d, r) ∈ before ++ (d, r) :: after := by simp
  refine h _ hmem ?_ ha.alters
  simp [Request.isOf, ha.command, ← ha.partition]

end Runs

/-! ## 6. A save and a showing -/

theorem expected_fixed {s : Settings} {d : Disturbance} (hs : s.slackToken ≠ "")
    (hd : d.provider = none) (now : Float) (m : Token.Provider.Memory) :
    expected s d now m = (.ok (Text.ofString s.slackToken), m) := by
  simp only [expected, hd, Token.Provider.ofSettings_fixed hs, Token.Provider.lookup]

/-- Settings with a fixed token and a table at a path. -/
def tableSettings (path : String) : Settings :=
  { Settings.default with slackToken := "x", storeBackend := "sqlite", appDb := path }

/-- A save of a group with a repetition. -/
def lunchSave : Disturbance × Request := commandOf "T1" "/save+lunch+Tacos+Pizza+Tacos"

def lunchShow : Disturbance × Request := commandOf "T1" "/show+lunch"

theorem lunchSave_words : lunchSave.2.words = ["/save", "lunch", "Tacos", "Pizza", "Tacos"] := by
  decide +kernel

theorem lunchShow_words : lunchShow.2.words = ["/show", "lunch"] := by decide +kernel

/-- A command with the fixed token is accepted within the limit. -/
theorem accepted_fixed {path : String} {x : Disturbance × Request} {st : State}
    (hcommand : x.2.isCommand = true) (hl : st.commands < 120)
    (hs : (Form.ofOctets x.2.body).value "ssl_check" ≠ "1")
    (ht : (Form.ofOctets x.2.body).value "token" = "x") (hd : x.1.provider = none) :
    Accepted (tableSettings path) x.1 x.2 st where
  command := hcommand
  admitted := by
    have hlimit : (tableSettings path).rateLimit = 120 := rfl
    omega
  noCheck := hs
  given := by
    rw [ht]
    decide
  expected := by
    have hfixed : (tableSettings path).slackToken ≠ "" := by
      change "x" ≠ ""
      decide
    rw [ht, expected_fixed hfixed hd]
    rfl

theorem accepted_lunchSave {path : String} {st : State} (hl : st.commands < 120) :
    Accepted (tableSettings path) .none lunchSave.2 st :=
  accepted_fixed (x := lunchSave) (by decide +kernel) hl (by decide +kernel) (by decide +kernel) rfl

theorem accepted_lunchShow {path : String} {st : State} (hl : st.commands < 120) :
    Accepted (tableSettings path) .none lunchShow.2 st :=
  accepted_fixed (x := lunchShow) (by decide +kernel) hl (by decide +kernel) (by decide +kernel) rfl

theorem ofName_tableSettings (path : String) :
    Backend.ofName (tableSettings path).storeBackend (tableSettings path).appDb
      = .ok (.table path) :=
  Backend.ofName_eq_ok_iff.mpr (.inl ⟨(by decide : Backend.plain "sqlite" = "sqlite"), rfl⟩)

theorem isOver_tableSettings (path : String) :
    isOver (tableSettings path).commandTimeout = false := by
  change isOver Settings.default.commandTimeout = false
  decide +kernel

/-- The save is confirmed wherever its call is answered. -/
theorem confirmed_lunchSave {path : String} {st : State} (hl : st.commands < 120)
    (hs : ((Backend.table path).store false "T1" (.put "lunch" ["Tacos", "Pizza"])
      st.contents).1 = .replied (.ok ())) :
    (handle ⟨.ok (tableSettings path), List.reverse⟩ .none lunchSave.2 st).1 =
      .ok (reply false (savedMessage "lunch" ["Tacos", "Pizza"])) := by
  obtain ⟨name, hanswer, -⟩ := (accepted_lunchSave hl).carriedOut
    (g := ⟨.ok (tableSettings path), List.reverse⟩) rfl (ofName_tableSettings path)
  have hteam : (Form.ofOctets lunchSave.2.body).value "team_id" = "T1" := by decide +kernel
  have hoptions : ["Tacos", "Pizza", "Tacos"].eraseDups = ["Tacos", "Pizza"] := by decide
  rw [lunchSave_words, hteam, isOver_tableSettings] at hanswer
  rw [hanswer, response_save ⟨rfl, rfl⟩ (by decide) (by decide) (by rw [hoptions]; exact hs),
    hoptions]

/-! ## 7. What was saved -/

/-- **What was saved and confirmed is read back,** unless the table is new on every opening.  Let
a save of a workspace be confirmed, after any requests, on a disk without errors of ours; and let
a group be shown to the workspace after any requests that do not save or delete it.  Then the
options are those that were saved, each once.  With a new table on every opening the group is
never found. -/
theorem saved_read_back {g : Setting} {s : Settings} {b : Backend} (hg : g.settings = .ok s)
    (hb : Backend.ofName s.storeBackend s.appDb = .ok b) (script : List Vault.Exchange)
    {disk : Disk} (hdisk : disk.IsForeign) (before between : List (Disturbance × Request))
    {d d' : Disturbance} {r r' : Request} {team group text : String} {options rest : List String}
    (hr : r.isOf team = true) (hwords : r.words = "/save" :: group :: options)
    (hd : d.Spares .save (.put group options.eraseDups))
    (hdone : (handle g d r (serve g before (.init script disk)).2).1
      = .ok (reply false ("Done! " ++ text)))
    (hbetween : ∀ x ∈ between, x.2.isOf team = true → ¬ Alters group x.2.words)
    (hr' : r'.isOf team = true) (hwords' : r'.words = "/show" :: group :: rest)
    (hd' : d'.Spares .show (.get group)) :
    let saved := (handle g d r (serve g before (.init script disk)).2).2
    let st := (serve g between saved).2
    Accepted s d' r' st →
      (¬ b.IsFresh disk → (handle g d' r' st).1
        = .ok (reply false (shownMessage group options.eraseDups))) ∧
      (b.IsFresh disk → (handle g d' r' st).1
        = .ok (reply false (UsageFault.notFound group).help)) := by
  intro saved st haccepted
  have hst : (serve g between saved).2 = st := rfl
  have hsaved : (handle g d r (serve g before (.init script disk)).2).2 = saved := rfl
  clear_value st saved
  generalize hst₀ : (serve g before (.init script disk)).2 = st₀ at hdone hsaved
  have hat : b.IsAt s.appDb := Backend.isAt_of_ofName hb
  obtain ⟨hcommand, rfl⟩ := isOf_iff.mp hr
  obtain ⟨-, hteam⟩ := isOf_iff.mp hr'
  -- Openings come to the same as at the start, before and after the save.
  have hbefore : (Location.ofPath disk s.appDb).Like
      (Location.ofPath st₀.contents.disk s.appDb) := by
    rw [← hst₀]
    exact opening_serve (.init script disk) hg
  have hafter : (Location.ofPath st₀.contents.disk s.appDb).Like
      (Location.ofPath st.contents.disk s.appDb) := by
    rw [← hst, ← hsaved]
    exact (opening_handle hg).trans (opening_serve _ hg)
  obtain ⟨name, hanswer, hcontents⟩ := carriedOut_of_reply hcommand hg hb hdone
  rw [hwords] at hanswer hcontents
  rw [hsaved] at hcontents
  obtain ⟨hlen, hput, hstored⟩ := put_of_done hd (Backend.foreign_of_error hat hdisk hbefore)
    (Except.ok.inj (hanswer.symm.trans hdone))
  obtain ⟨hanswers, hkept⟩ := Backend.keeping_of_put hput
  -- What is kept by the save is kept until the group is shown.
  have hentry : st.contents.entry ((Form.ofOctets r.body).value "team_id") group =
      saved.contents.entry ((Form.ofOctets r.body).value "team_id") group := by
    rw [← hst]
    exact entry_serve hbetween
  have hanswers' := hanswers.of_like hat hafter
  have hfresh : b.IsFresh st.contents.disk ↔ b.IsFresh disk :=
    Backend.isFresh_iff hat (hbefore.trans hafter)
  obtain ⟨name', hshown, -⟩ := haccepted.carriedOut hg hb
  rw [hwords', hteam] at hshown
  rw [hshown]
  refine ⟨fun hf => ?_, fun hf => ?_⟩
  · have hheld : b.Keeping ((Form.ofOctets r.body).value "team_id") group options.eraseDups
        saved.contents := by
      rw [hcontents, hstored]
      exact hkept fun h => hf ((Backend.isFresh_iff hat hbefore).mp h)
    have hget := Backend.get_of_keeping hanswers' (fun h => hf (hfresh.mp h))
      (hheld.of_entry hentry)
    rw [response_show hd' (congrArg Prod.fst hget), if_neg]
    intro he
    rw [he] at hlen
    exact absurd hlen (by decide)
  · have hget := Backend.get_of_fresh (p := (Form.ofOctets r.body).value "team_id") (g := group)
      hanswers' (hfresh.mpr hf)
    rw [response_show hd' (congrArg Prod.fst hget), if_pos rfl]

/-- A group is saved anew and shown, while another workspace deletes its own of this name. -/
theorem saved_read_back_lunch :
    let g : Setting := ⟨.ok (tableSettings "groups.db"), List.reverse⟩
    let before := [commandOf "T1" "/save+lunch+Bread+Jam"]
    let between := [commandOf "T2" "/delete+lunch", commandOf "T1" "/save+dinner+Soup+Rice"]
    let saved := (handle g .none lunchSave.2 (serve g before (.init [] lunchDisk)).2).2
    (handle g .none lunchShow.2 (serve g between saved).2).1 =
      .ok (reply false (shownMessage "lunch" ["Tacos", "Pizza"])) := by
  intro g before between
  have hforeign : lunchDisk.IsForeign := by
    intro x hx f hf
    obtain rfl := List.mem_singleton.mp hx
    rcases hf with hf | hf <;> cases hf
  have hbefore : (serve g before (.init [] lunchDisk)).2.commands = 1 := by
    rw [serve_commands]
    decide +kernel
  have hopening : (Location.ofPath lunchDisk "groups.db").Like
      (Location.ofPath (serve g before (.init [] lunchDisk)).2.contents.disk "groups.db") :=
    @opening_serve g (tableSettings "groups.db") before (.init [] lunchDisk) rfl
  have hmessage : savedMessage "lunch" ["Tacos", "Pizza"] = "Done! " ++ ("The *lunch" ++
      ("* group now has these options:\n" ++ bullets ["Tacos", "Pizza"])) := by decide +kernel
  have hdone : (handle g .none lunchSave.2 (serve g before (.init [] lunchDisk)).2).1 =
      .ok (reply false ("Done! " ++ ("The *lunch" ++
        ("* group now has these options:\n" ++ bullets ["Tacos", "Pizza"])))) := by
    rw [← hmessage]
    refine confirmed_lunchSave (by omega) ?_
    have hshared : Location.ofPath lunchDisk "groups.db" = .shared := lasts_lunch
    rw [hshared] at hopening
    generalize (serve g before (.init [] lunchDisk)).2.contents = contents at hopening ⊢
    generalize hplace : Location.ofPath contents.disk "groups.db" = place at hopening
    cases hopening
    rw [Backend.store_table_shared hplace]
    rfl
  have hbetween : ∀ x ∈ between, x.2.isOf "T1" = true → ¬ Alters "lunch" x.2.words := by
    intro x hx hteam
    rcases List.mem_cons.mp hx with rfl | hx
    · exact absurd hteam (by decide +kernel)
    · obtain rfl := List.mem_singleton.mp hx
      have hwords : (commandOf "T1" "/save+dinner+Soup+Rice").2.words =
          ["/save", "dinner", "Soup", "Rice"] := by decide +kernel
      intro halters
      generalize (commandOf "T1" "/save+dinner+Soup+Rice").2.words = words at hwords halters
      cases halters with
      | save => exact absurd (List.cons.inj (List.cons.inj hwords).2).1 (by decide)
      | delete => exact absurd (List.cons.inj hwords).1 (by decide)
  have hsaved : (handle g .none lunchSave.2 (serve g before (.init [] lunchDisk)).2).2.commands
      = 2 := by
    rw [handle_commands (by decide +kernel), hbefore]
  have hcommands : (serve g between
      (handle g .none lunchSave.2 (serve g before (.init [] lunchDisk)).2).2).2.commands = 4 := by
    rw [serve_commands, hsaved]
    decide +kernel
  have hnotFresh : ¬ (Backend.table "groups.db").IsFresh lunchDisk := fun hfresh =>
    nomatch lasts_lunch.symm.trans hfresh
  have hread := saved_read_back rfl (ofName_tableSettings "groups.db") [] hforeign before between
    (by decide +kernel) lunchSave_words ⟨rfl, rfl⟩ hdone hbetween (by decide +kernel)
    lunchShow_words ⟨rfl, rfl⟩ (accepted_lunchShow (by rw [hcommands]; decide))
  exact hread.1 hnotFresh

/-- Without a file the save is confirmed, and the group is not shown. -/
theorem unsaved_without_file :
    let g : Setting := ⟨.ok (tableSettings ":memory:"), List.reverse⟩
    let st : State := .init [] ⟨[], []⟩
    (handle g .none lunchSave.2 st).1 =
        .ok (reply false (savedMessage "lunch" ["Tacos", "Pizza"])) ∧
      (handle g .none lunchShow.2 (handle g .none lunchSave.2 st).2).1 ≠
        .ok (reply false (shownMessage "lunch" ["Tacos", "Pizza"])) := by
  intro g st
  have hanswered : ((Backend.table ":memory:").store false "T1" (.put "lunch" ["Tacos", "Pizza"])
      st.contents).1 = .replied (.ok ()) := by
    rw [Backend.store_table_eq, (Location.ofPath_memory _).2]
    rfl
  refine ⟨confirmed_lunchSave (by decide) hanswered, ?_⟩
  have hsaved : (handle g .none lunchSave.2 st).2.commands = 1 :=
    handle_commands (by decide +kernel)
  generalize (handle g .none lunchSave.2 st).2 = saved at hsaved ⊢
  obtain ⟨name, hanswer, -⟩ := (accepted_lunchShow (by omega : saved.commands < 120)).carriedOut
    (g := g) rfl (ofName_tableSettings ":memory:")
  have hteam : (Form.ofOctets lunchShow.2.body).value "team_id" = "T1" := by decide +kernel
  have hget : ((Backend.table ":memory:").store false "T1" (.get "lunch") saved.contents).1
      = .replied (.ok []) := by
    rw [Backend.store_table_eq, (Location.ofPath_memory _).2]
    rfl
  rw [lunchShow_words, hteam, isOver_tableSettings] at hanswer
  rw [hanswer, response_show ⟨rfl, rfl⟩ hget, if_pos rfl]
  intro he
  have htext : (UsageFault.notFound "lunch").help = shownMessage "lunch" ["Tacos", "Pizza"] :=
    text_of_reply (Except.ok.inj he)
  exact absurd htext (by decide +kernel)

end Tombola.Service
