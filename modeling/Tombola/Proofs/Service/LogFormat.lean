import Mathlib.Data.List.Nodup
import Tombola.Proofs.Occurrence
import Tombola.Service.Start
/-!
# What is production to the log

The variable `APP_ENV` is read twice when the service starts.  The settings take it in whatever
letter case, the last one of the environment, and from the environment file if the environment has
none.  The log is to be JSON in production, and looks for the variable in the environment alone and
under its exact name.

So the two may take one service for different things.  This file says when: production may be named
in another letter case only, or in the file only; or it is named exactly, and something else is
named behind it in another letter case (`Misread`).

Main statements:

* `look_eq_some_iff`: which variable the settings take;
* `Config.json_iff_of_make`: when lines are JSON;
* `json_iff_unless_misread`: a service that started logs in JSON just if its settings are for
  production, unless `APP_ENV` is misread.
-/

namespace Tombola

namespace Settings

/-! ## 1. The variable that counts -/

variable {α : Type} {vars : List (String × α)} {name : String} {v v' : α}

/-- Whether a variable has a name in some letter case. -/
def IsSpelling (name : String) (w : String × α) : Prop := Text.inSmall w.1 = Text.inSmall name

/-- **The variable that counts under a name:** the last one that has it in some letter case. -/
def Counts (vars : List (String × α)) (name : String) (v : α) : Prop :=
  ∃ n, IsLast (IsSpelling name) vars (n, v)

/-- Whether no variable has a name, in whatever letter case. -/
def Unset (vars : List (String × α)) (name : String) : Prop := ∀ w ∈ vars, ¬ IsSpelling name w

theorem get?_folded_eq_some_iff :
    (folded vars).get? (Text.inSmall name) = some v ↔ Counts vars name v := by
  rw [get?_folded, Option.map_eq_some_iff]
  have hlast (w : String × α) :
      (vars.reverse.find? fun w => Text.inSmall w.1 = Text.inSmall name) = some w ↔
        IsLast (IsSpelling name) vars w :=
    find?_reverse_eq_some_iff (P := fun w : String × α => Text.inSmall w.1 = Text.inSmall name)
  simp only [hlast]
  constructor
  · rintro ⟨w, hw, rfl⟩
    exact ⟨w.1, hw⟩
  · rintro ⟨n, hn⟩
    exact ⟨(n, v), hn, rfl⟩

theorem get?_folded_eq_none_iff :
    (folded vars).get? (Text.inSmall name) = none ↔ Unset vars name := by
  rw [get?_folded, Option.map_eq_none_iff, List.find?_eq_none]
  simp only [List.mem_reverse, decide_eq_true_eq, Unset, IsSpelling]

/-- One variable counts. -/
theorem Counts.unique (h : Counts vars name v) (h' : Counts vars name v') : v = v' :=
  Option.some.inj ((get?_folded_eq_some_iff.mpr h).symm.trans (get?_folded_eq_some_iff.mpr h'))

theorem exists_counts (h : ¬ Unset vars name) : ∃ v, Counts vars name v := by
  rw [← get?_folded_eq_none_iff] at h
  obtain ⟨v, hv⟩ := Option.ne_none_iff_exists'.mp h
  exact ⟨v, get?_folded_eq_some_iff.mp hv⟩

theorem Counts.not_unset (h : Counts vars name v) : ¬ Unset vars name := by
  rw [← get?_folded_eq_none_iff, get?_folded_eq_some_iff.mpr h]
  exact Option.some_ne_none v

/-- Whether the environment file gives a variable a value, and the environment none. -/
def FromFile (s : Sources) (name value : String) : Prop :=
  Unset s.environment name ∧
    ∃ text, s.file = some text ∧ Counts (EnvFile.values s.environment text) name (some value)

/-- **Which value the settings take:** the one that counts in the environment, else the one that
counts in the file. -/
theorem look_eq_some_iff {s : Sources} {name value : String} :
    s.look name = some value ↔ Counts s.environment name value ∨ FromFile s name value := by
  simp only [Sources.look]
  cases henv : (folded s.environment).get? (Text.inSmall name) with
  | some w =>
    dsimp only
    have hw := get?_folded_eq_some_iff.mp henv
    constructor
    · intro h
      exact .inl (Option.some.inj h ▸ hw)
    · rintro (h | h)
      · exact congrArg some (hw.unique h)
      · exact absurd h.1 hw.not_unset
  | none =>
    dsimp only
    have hunset := get?_folded_eq_none_iff.mp henv
    have hfile : ((foldedFile s).get? (Text.inSmall name)).getD none = some value ↔
        ∃ text, s.file = some text ∧
          Counts (EnvFile.values s.environment text) name (some value) := by
      rw [foldedFile]
      cases s.file with
      | none => simp [Groups.Entries.get?]
      | some text =>
        rw [Option.getD_eq_iff]
        simp [get?_folded_eq_some_iff]
    rw [hfile]
    constructor
    · intro h
      exact .inr ⟨hunset, h⟩
    · rintro (h | h)
      · exact absurd hunset h.not_unset
      · exact h.2

theorem appEnv_of_read {s : Sources} {r : Settings} (h : read s = .ok r) :
    r.appEnv = (s.look "APP_ENV").getD "dev" := by
  unfold read at h
  dsimp only at h
  split at h
  · cases h
    rfl
  · cases h

theorem isProduction_iff_of_read {s : Sources} {r : Settings} (h : read s = .ok r) :
    r.appEnv = "prod" ↔
      Counts s.environment "APP_ENV" "prod" ∨ FromFile s "APP_ENV" "prod" := by
  rw [appEnv_of_read h, ← look_eq_some_iff]
  cases s.look "APP_ENV" with
  | none => exact iff_of_false (by decide) (by simp)
  | some v => simp

end Settings

/-! ## 2. Lines of the log -/

/-- **When lines are JSON:** just if the environment has `APP_ENV`, by its exact name, as
production. -/
theorem Log.Config.json_iff_of_make {level : String} {environment : List (String × String)}
    {c : Log.Config} (hnames : (environment.map (·.1)).Nodup)
    (h : make level none environment = .ok c) :
    c.json = true ↔ ("APP_ENV", "prod") ∈ environment := by
  unfold make at h
  split at h
  · cases h
  · cases h
    dsimp only [Option.getD_none]
    split
    · rename_i e he
      have hname : e.1 = "APP_ENV" := by simpa using List.find?_some he
      have hmem : e ∈ environment := List.mem_of_find?_eq_some he
      rw [decide_eq_true_eq]
      constructor
      · intro hvalue
        rwa [← hname, ← hvalue]
      · intro hprod
        -- No two variables have one name.
        exact congrArg Prod.snd (List.inj_on_of_nodup_map hnames hmem hprod hname)
    · rename_i hnone
      refine iff_of_false Bool.false_ne_true fun hprod => ?_
      have := List.find?_eq_none.mp hnone _ hprod
      simp at this

namespace Service

open Settings

/-! ## 3. Agreement -/

/-- **The ways in which `APP_ENV` is misread:** the log takes a service for something else than its
settings do. -/
inductive Misread (s : Sources) : Prop
  /-- The one that counts says production, and none says so by the exact name. -/
  | respelled (h : Counts s.environment "APP_ENV" "prod")
      (hexact : ("APP_ENV", "prod") ∉ s.environment)
  /-- Only the file says production. -/
  | filed (h : FromFile s "APP_ENV" "prod")
  /-- The exact name says production, and the one that counts says something else. -/
  | overruled {value : String} (hexact : ("APP_ENV", "prod") ∈ s.environment)
      (h : Counts s.environment "APP_ENV" value) (hvalue : value ≠ "prod")

theorem agree_iff_not_misread (s : Sources) :
    (("APP_ENV", "prod") ∈ s.environment ↔
      Counts s.environment "APP_ENV" "prod" ∨ FromFile s "APP_ENV" "prod") ↔ ¬ Misread s := by
  have hset (hexact : ("APP_ENV", "prod") ∈ s.environment) :
      ¬ Unset s.environment "APP_ENV" := fun hunset => hunset _ hexact rfl
  constructor
  · rintro hiff (⟨h, hexact⟩ | h | ⟨hexact, h, hvalue⟩)
    · exact hexact (hiff.mpr (.inl h))
    · exact hset (hiff.mpr (.inr h)) h.1
    · rcases hiff.mp hexact with hprod | hfile
      · exact hvalue (h.unique hprod)
      · exact hset hexact hfile.1
  · intro hmisread
    constructor
    · intro hexact
      obtain ⟨value, hvalue⟩ := exists_counts (hset hexact)
      by_cases hprod : value = "prod"
      · exact .inl (hprod ▸ hvalue)
      · exact absurd (.overruled hexact hvalue hprod) hmisread
    · rintro (hprod | hfile)
      · refine Decidable.byContradiction fun hexact => ?_
        exact hmisread (.respelled hprod hexact)
      · exact absurd (.filed hfile) hmisread

/-- **A service logs in JSON just if it is for production, unless `APP_ENV` is misread.**  Let a
service have started.  Its log is in JSON exactly if the environment has `prod` under the exact
name.  Its settings are for production exactly if the variable that counts says so, in whatever
letter case its name is, or if the file does and the environment does not say anything.  So the two
agree but for the three ways to misread the variable. -/
theorem json_iff_unless_misread {sources : Sources} {r : Started}
    (hnames : (sources.environment.map (·.1)).Nodup) (h : start sources = .ok r) :
    (r.log.json = true ↔ ("APP_ENV", "prod") ∈ sources.environment) ∧
      (r.settings.appEnv = "prod" ↔
        Counts sources.environment "APP_ENV" "prod" ∨ FromFile sources "APP_ENV" "prod") ∧
      ((r.log.json = true ↔ r.settings.appEnv = "prod") ↔ ¬ Misread sources) := by
  obtain ⟨hread, -, hlog, -, -⟩ := start_eq_ok_iff.mp h
  have hjson := Log.Config.json_iff_of_make hnames hlog
  have hproduction := isProduction_iff_of_read hread
  refine ⟨hjson, hproduction, ?_⟩
  rw [hjson, hproduction]
  exact agree_iff_not_misread sources

/-- Production by the exact name is production for both. -/
theorem json_iff_unless_misread_exact :
    let sources : Sources := ⟨[("APP_ENV", "prod"), ("SLACK_TOKEN", "x")], none⟩
    (sources.environment.map (·.1)).Nodup ∧
      ∃ r, start sources = .ok r ∧ r.log.json = true ∧ r.settings.appEnv = "prod" := by
  have hnames : (([("APP_ENV", "prod"), ("SLACK_TOKEN", "x")] : List (String × String)).map
      (·.1)).Nodup := by decide
  have hfolded : folded [("APP_ENV", "prod"), ("SLACK_TOKEN", "x")]
      = [("app_env", "prod"), ("slack_token", "x")] := by
    simp only [folded]
    decide
  have hstart : ∃ r, start ⟨[("APP_ENV", "prod"), ("SLACK_TOKEN", "x")], none⟩ = .ok r := by
    simp only [start, Settings.read, Sources.look, hfolded]
    exact ⟨_, rfl⟩
  obtain ⟨r, hr⟩ := hstart
  obtain ⟨hjson, hproduction, -⟩ := json_iff_unless_misread hnames hr
  have hcounts : Counts [("APP_ENV", "prod"), ("SLACK_TOKEN", "x")] "APP_ENV" "prod" :=
    ⟨"APP_ENV", [], [("SLACK_TOKEN", "x")], rfl, rfl, by
      simp only [IsSpelling, List.forall_mem_singleton]
      decide⟩
  exact ⟨hnames, r, hr, hjson.mpr (by decide), hproduction.mpr (.inl hcounts)⟩

/-- **Production is missed by the log** if it is named in small letters, or in the file; and a
service is taken for production that a variable behind says is none. -/
theorem log_misses_production :
    (∃ r, start ⟨[("SLACK_TOKEN", "x"), ("app_env", "prod")], none⟩ = .ok r ∧
        r.settings.appEnv = "prod" ∧ r.log.json = false) ∧
      (∃ r, start ⟨[("SLACK_TOKEN", "x")], some "APP_ENV=prod\n"⟩ = .ok r ∧
        r.settings.appEnv = "prod" ∧ r.log.json = false) ∧
      ∃ r, start ⟨[("APP_ENV", "prod"), ("SLACK_TOKEN", "x"), ("app_env", "dev")], none⟩ = .ok r ∧
        r.settings.appEnv = "dev" ∧ r.log.json = true := by
  refine ⟨?_, ?_, ?_⟩
  · have hfolded : folded [("SLACK_TOKEN", "x"), ("app_env", "prod")]
        = [("slack_token", "x"), ("app_env", "prod")] := by
      simp only [folded]
      decide
    simp only [start, Settings.read, Sources.look, hfolded]
    exact ⟨_, rfl, rfl, rfl⟩
  · have hfolded : folded [("SLACK_TOKEN", "x")] = [("slack_token", "x")] := by
      simp only [folded]
      decide
    have hfile : foldedFile ⟨[("SLACK_TOKEN", "x")], some "APP_ENV=prod\n"⟩
        = [("app_env", some "prod")] := by
      simp only [foldedFile, folded]
      decide
    simp only [start, Settings.read, Sources.look, hfolded, hfile]
    exact ⟨_, rfl, rfl, rfl⟩
  · have hfolded : folded [("APP_ENV", "prod"), ("SLACK_TOKEN", "x"), ("app_env", "dev")]
        = [("app_env", "dev"), ("slack_token", "x")] := by
      simp only [folded]
      decide
    simp only [start, Settings.read, Sources.look, hfolded]
    exact ⟨_, rfl, rfl, rfl⟩

end Service

end Tombola
