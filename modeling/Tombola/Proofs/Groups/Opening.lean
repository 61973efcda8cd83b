import Tombola.Groups.Location
/-!
# Openings come to the same again

Opening a table may leave directories on the disk, and goes by what stands there.  So it could
come to something else the next time.  It does not: directories that were made are found again,
and where a directory could not be made, it cannot be made the next time either, since all
that was made before lies on the way to it and is there already.  Only the reason may be
another one, and then it is neither time an error of ours.  On a disk where nothing fails with an
error of ours no opening does.

Main statements:

* `Disk.make_again`: making a directory again;
* `Location.ofPath_again`: opening a table again;
* `Location.foreign_of_closed`: what openings fail with.
-/

namespace Tombola.Groups

/-! ## 1. Directories -/

namespace Disk

variable {d d' : Disk} {p : Path} {place here x : Place} {names : List String} {n root : String}

theorem node?_add_self : (d.add place).node? place = some .directory := by
  unfold node?
  split
  · rfl
  · simp [add]

/-- What is there stays when a directory is added elsewhere. -/
theorem node?_add_of_some {q : Place} {node : Node} (hp : d.node? place = none)
    (hq : d.node? q = some node) : (d.add place).node? q = some node := by
  have hne : place ≠ q := by
    rintro rfl
    rw [hp] at hq
    cases hq
  unfold node? at hq ⊢
  split at hq
  · rename_i hroot
    rw [if_pos hroot]
    exact hq
  · rename_i hroot
    rw [if_neg hroot, add, List.find?_cons_of_neg (by simpa using hne)]
    exact hq

/-- A way leads to the same place when a directory is added. -/
theorem walk_add (hp : d.node? place = none) (h : d.walk here names = .ok x) :
    (d.add place).walk here names = .ok x := by
  induction names generalizing here with
  | nil => exact h
  | cons n names ih =>
    unfold walk at h ⊢
    split at h
    · rename_i hup
      rw [if_pos hup]
      exact ih h
    · rename_i hup
      rw [if_neg hup]
      split at h
      · cases h
      · rename_i hlong
        rw [if_neg hlong]
        cases hnode : d.node? (here ++ [n]) with
        | none => simp only [hnode] at h; cases h
        | some node =>
          rw [node?_add_of_some hp hnode]
          rw [hnode] at h
          cases node with
          | file f | device f => cases h
          | directory | sealed' r => exact ih h

theorem walk_append {more : List String} :
    d.walk here (names ++ more) = (d.walk here names).bind fun there => d.walk there more := by
  induction names generalizing here with
  | nil => rfl
  | cons n names ih =>
    rw [List.cons_append, walk, walk]
    split
    · exact ih
    · split
      · rfl
      · cases d.node? (here ++ [n]) with
        | none => rfl
        | some node =>
          cases node with
          | file f | device f => rfl
          | directory | sealed' r => exact ih

theorem isDirectory_iff :
    d.isDirectory p = true ↔ ∃ there, d.walk (d.start p) p.names = .ok there := by
  unfold isDirectory
  cases d.walk (d.start p) p.names <;> simp [Except.toBool]

theorem isDirectory_above (h : d.isDirectory ⟨root, names ++ [n]⟩ = true) :
    d.isDirectory ⟨root, names⟩ = true := by
  obtain ⟨there, hthere⟩ := isDirectory_iff.mp h
  simp only [walk_append] at hthere
  cases habove : d.walk (d.start ⟨root, names ++ [n]⟩) names with
  | error r =>
    rw [habove] at hthere
    cases hthere
  | ok above => exact isDirectory_iff.mpr ⟨above, habove⟩

/-- A directory that is made: the one above it is there, and it is afterwards. -/
theorem isDirectory_of_makeOne (h : d.makeOne ⟨root, names ++ [n]⟩ = .ok d') :
    d.isDirectory ⟨root, names⟩ = true ∧ d'.isDirectory ⟨root, names ++ [n]⟩ = true := by
  unfold makeOne at h
  split at h
  · cases h
  · simp only [List.dropLast_concat, List.getLast?_concat] at h
    split at h
    · cases h
    · rename_i above habove
      refine ⟨isDirectory_iff.mpr ⟨above, habove⟩, ?_⟩
      split at h
      · cases h
      · rename_i hup
        split at h
        · cases h
        · rename_i hlong
          split at h
          · cases h
          · cases h
          · rename_i hnone _
            obtain rfl := Except.ok.inj h
            refine isDirectory_iff.mpr ⟨above ++ [n], ?_⟩
            have hwalk : (d.add (above ++ [n])).walk (d.start ⟨root, names ++ [n]⟩) names
                = .ok above := walk_add hnone habove
            have hlast : (d.add (above ++ [n])).walk above [n] = .ok (above ++ [n]) := by
              rw [walk, if_neg hup, if_neg hlong, node?_add_self]
              rfl
            exact walk_append.trans ((congrArg (Except.bind · _) hwalk).trans hlast)

/-- A directory that is there is not made, and what is above it is there. -/
theorem makeOne_of_isDirectory (h : d.isDirectory p = true) :
    ∃ r, d.makeOne p = .error r ∧ r ≠ .notThere := by
  obtain ⟨root, names⟩ := p
  unfold makeOne
  split
  · exact ⟨_, rfl, nofun⟩
  · rcases List.eq_nil_or_concat names with rfl | ⟨above, n, rfl⟩
    · exact ⟨_, rfl, nofun⟩
    · obtain ⟨there, hthere⟩ := isDirectory_iff.mp h
      simp only [List.concat_eq_append, walk_append, List.dropLast_concat,
        List.getLast?_concat] at hthere ⊢
      cases habove : d.walk (d.start ⟨root, above ++ [n]⟩) above with
      | error r =>
        rw [habove] at hthere
        cases hthere
      | ok place =>
        rw [habove] at hthere
        have hlast : d.walk place [n] = .ok there := hthere
        simp only
        unfold walk at hlast
        split
        · exact ⟨_, rfl, nofun⟩
        · rename_i hup
          rw [if_neg hup] at hlast
          split
          · exact ⟨_, rfl, nofun⟩
          · rename_i hlong
            rw [if_neg hlong] at hlast
            cases hnode : d.node? (place ++ [n]) with
            | none =>
              rw [hnode] at hlast
              cases hlast
            | some node => exact ⟨_, rfl, nofun⟩

theorem ensureOne_of_isDirectory (h : d.isDirectory p = true) : d.ensureOne p = (none, d) := by
  obtain ⟨r, hr, -⟩ := makeOne_of_isDirectory h
  simp [ensureOne, hr, h]

/-- Where one directory could be made sure of, it is there. -/
theorem isDirectory_of_ensureOne (h : d.ensureOne ⟨root, names ++ [n]⟩ = (none, d')) :
    d'.isDirectory ⟨root, names ++ [n]⟩ = true := by
  unfold ensureOne at h
  split at h
  · rename_i made hmade
    obtain rfl : made = d' := congrArg Prod.snd h
    exact (isDirectory_of_makeOne hmade).2
  · split at h
    · rename_i hdir
      obtain rfl : d = d' := congrArg Prod.snd h
      exact hdir
    · cases congrArg Prod.fst h

/-- Where it could not be, nothing has changed, and the directory is not there. -/
theorem ensureOne_eq_some {f : Failure} (h : d.ensureOne p = (some f, d')) :
    d' = d ∧ d.isDirectory p = false ∧ f.isOurs = false := by
  unfold ensureOne at h
  split at h
  · cases congrArg Prod.fst h
  · rename_i r _
    split at h
    · cases congrArg Prod.fst h
    · rename_i hdir
      cases h
      exact ⟨rfl, Bool.eq_false_iff.mpr hdir, by cases r <;> rfl⟩

/-- Where a directory is there, those above it need not be made. -/
theorem makeAll_of_isDirectory {ns : List String} (h : d.isDirectory ⟨root, ns.reverse⟩ = true) :
    makeAll root ns d = (none, d) := by
  cases ns with
  | nil => exact ensureOne_of_isDirectory h
  | cons n ns =>
    obtain ⟨r, hr, hne⟩ := makeOne_of_isDirectory h
    have hensure := ensureOne_of_isDirectory h
    unfold makeAll
    simp only [hr, hensure]
    split
    · rename_i he
      exact absurd (Except.error.inj he) hne
    · rfl

theorem isDirectory_of_makeAll {ns : List String} (h : makeAll root ns d = (none, d')) :
    d'.isDirectory ⟨root, ns.reverse⟩ = true := by
  cases ns with
  | nil => exact isDirectory_iff.mpr ⟨_, rfl⟩
  | cons n ns =>
    unfold makeAll at h
    rw [List.reverse_cons] at h ⊢
    simp only at h
    split at h
    · split at h
      · cases congrArg Prod.fst h
      · exact isDirectory_of_ensureOne h
    · exact isDirectory_of_ensureOne h

/-- A directory that cannot be made sure of now cannot be the next time. -/
theorem makeAll_of_ensureOne {ns : List String} {f : Failure}
    (hsome : d.ensureOne ⟨root, (n :: ns).reverse⟩ = (some f, d'))
    (habove : d.makeOne ⟨root, (n :: ns).reverse⟩ = .error .notThere →
      makeAll root ns d = (none, d)) :
    d'.isDirectory ⟨root, (n :: ns).reverse⟩ = false ∧ f.isOurs = false ∧
      makeAll root (n :: ns) d' = (some f, d') := by
  obtain ⟨rfl, hdir, hours⟩ := ensureOne_eq_some hsome
  refine ⟨hdir, hours, ?_⟩
  unfold makeAll
  simp only
  split
  · rename_i hm
    rw [habove hm]
    exact hsome
  · exact hsome

/-- Below what is not there and cannot be made, nothing is there or can be made. -/
theorem makeAll_of_above {ns : List String} {f : Failure}
    (hdir : d.isDirectory ⟨root, ns.reverse⟩ = false) (hf : f.isOurs = false)
    (hmake : makeAll root ns d = (some f, d)) :
    d.isDirectory ⟨root, (n :: ns).reverse⟩ = false ∧
      ∃ f', f'.isOurs = false ∧ makeAll root (n :: ns) d = (some f', d) := by
  rw [List.reverse_cons]
  have hnot : d.isDirectory ⟨root, ns.reverse ++ [n]⟩ = false := by
    refine Bool.eq_false_iff.mpr fun hyes => ?_
    rw [isDirectory_above hyes] at hdir
    cases hdir
  refine ⟨hnot, ?_⟩
  unfold makeAll
  simp only [List.reverse_cons]
  split
  · rw [hmake]
    exact ⟨f, hf, rfl⟩
  · unfold ensureOne
    cases hone : d.makeOne ⟨root, ns.reverse ++ [n]⟩ with
    | ok made =>
      rw [(isDirectory_of_makeOne hone).1] at hdir
      cases hdir
    | error r =>
      simp only [hnot]
      exact ⟨_, by cases r <;> rfl, rfl⟩

/-- **Where directories could not be made, they cannot be made again,** and nothing changes any
more. -/
theorem makeAll_eq_some {ns : List String} {f : Failure} (h : makeAll root ns d = (some f, d')) :
    d'.isDirectory ⟨root, ns.reverse⟩ = false ∧ f.isOurs = false ∧
      ∃ f', f'.isOurs = false ∧ makeAll root ns d' = (some f', d') := by
  induction ns generalizing d d' f with
  | nil =>
    have hroot : d.isDirectory ⟨root, []⟩ = true := isDirectory_iff.mpr ⟨_, rfl⟩
    have hnone : makeAll root [] d = (none, d) := ensureOne_of_isDirectory hroot
    rw [hnone] at h
    cases congrArg Prod.fst h
  | cons n ns ih =>
    unfold makeAll at h
    simp only at h
    split at h
    · rcases hup : makeAll root ns d with ⟨_ | f₁, d₁⟩
      · rw [hup] at h
        have hthere := isDirectory_of_makeAll hup
        obtain ⟨hdir, hours, hagain⟩ :=
          makeAll_of_ensureOne h fun _ => makeAll_of_isDirectory hthere
        exact ⟨hdir, hours, f, hours, hagain⟩
      · rw [hup] at h
        obtain ⟨rfl, rfl⟩ : f₁ = f ∧ d₁ = d' := by simpa using h
        obtain ⟨hdir, hours, f', hours', hagain⟩ := ih hup
        obtain ⟨hnot, hmake⟩ := makeAll_of_above (n := n) hdir hours' hagain
        exact ⟨hnot, hours, hmake⟩
    · rename_i hother
      obtain ⟨hdir, hours, hagain⟩ := makeAll_of_ensureOne h fun hm => absurd hm hother
      exact ⟨hdir, hours, f, hours, hagain⟩

/-- **Making a directory again** comes to the same, up to the reason of a failure. -/
theorem make_again {r : Option Failure} (h : d.make p = (r, d')) :
    ∃ r', d'.make p = (r', d') ∧ (r = none ↔ r' = none) ∧
      (∀ f, r = some f → f.isOurs = false) ∧ ∀ f, r' = some f → f.isOurs = false := by
  cases r with
  | none =>
    have hdir := isDirectory_of_makeAll h
    exact ⟨none, makeAll_of_isDirectory hdir, Iff.rfl, nofun, nofun⟩
  | some f =>
    obtain ⟨-, hours, f', hours', hagain⟩ := makeAll_eq_some h
    refine ⟨some f', hagain, iff_of_false nofun nofun, ?_, ?_⟩
    · rintro _ ⟨rfl⟩
      exact hours
    · rintro _ ⟨rfl⟩
      exact hours'

end Disk

end Tombola.Groups

namespace Tombola

open Groups

/-! ## 2. Failures and openings that come to the same -/

/-- Whether two failures come to the same for a command: they are one, or neither is an error of
ours, and then a store error is made of both. -/
def Failure.Like (f f' : Failure) : Prop := f = f' ∨ f.isOurs = false ∧ f'.isOurs = false

theorem Failure.Like.symm {f f' : Failure} (h : f.Like f') : f'.Like f :=
  h.imp Eq.symm And.symm

theorem Failure.Like.trans {f f' f'' : Failure} (h : f.Like f') (h' : f'.Like f'') :
    f.Like f'' := by
  rcases h with rfl | ⟨hf, hf'⟩
  · exact h'
  · rcases h' with rfl | ⟨-, hf''⟩
    · exact .inr ⟨hf, hf'⟩
    · exact .inr ⟨hf, hf''⟩

namespace Groups.Location

/-- Whether two openings come to the same, up to what is left on the disk. -/
inductive Like : Location → Location → Prop
  | shared : Like .shared .shared
  | fresh : Like .fresh .fresh
  | closed {f f' : Failure} {left left' : Disk} (h : f.Like f') :
    Like (.closed f left) (.closed f' left')

variable {l l' l'' : Location} {d left : Disk} {path : String} {f : Failure}

theorem Like.refl (l : Location) : l.Like l := by
  cases l with
  | shared => exact .shared
  | fresh => exact .fresh
  | closed f left => exact .closed (.inl rfl)

theorem Like.symm (h : l.Like l') : l'.Like l := by
  cases h with
  | shared => exact .shared
  | fresh => exact .fresh
  | closed h => exact .closed h.symm

theorem Like.trans (h : l.Like l') (h' : l'.Like l'') : l.Like l'' := by
  cases h with
  | shared => exact h'
  | fresh => exact h'
  | closed h =>
    cases h' with
    | closed h' => exact .closed (h.trans h')

/-- What a reference leads to is left as it was. -/
theorem ofReference_closed {r : Reference} (h : ofReference d r = .closed f left) : left = d := by
  unfold ofReference at h
  split at h
  · cases h
  · split at h
    · split at h
      · cases h
        rfl
      · cases h
    · split at h
      · split at h
        · cases h
          rfl
        · cases h
      · split at h
        · cases h
          rfl
        · split at h
          · cases h
            rfl
          · cases h

/-- **A failed opening fails again,** and leaves no more on the disk. -/
theorem ofPath_again (h : ofPath d path = .closed f left) :
    ∃ f', f.Like f' ∧ ofPath left path = .closed f' left := by
  unfold ofPath at h ⊢
  simp only at h ⊢
  split at h
  · rename_i hz
    cases h
    exact ⟨zeroInside, .inl rfl, by rw [if_pos hz]⟩
  · rename_i hz
    rw [if_neg hz]
    rcases hmake : d.make (Path.ofString path).parent with ⟨_ | g, made⟩
    · -- The directory was made: it is found again, and the rest goes by the same disk.
      obtain ⟨r', hagain, hr', -⟩ := Disk.make_again hmake
      obtain rfl := hr'.mp rfl
      rw [hmake] at h
      have hleft : left = made := by
        simp only at h
        split at h
        · cases h
          rfl
        · split at h
          · cases h
            rfl
          · exact ofReference_closed h
      subst hleft
      exact ⟨f, .inl rfl, by rw [hagain]; exact h⟩
    · obtain ⟨r', hagain, hr', hours, hours'⟩ := Disk.make_again hmake
      rw [hmake] at h
      cases h
      cases r' with
      | none => cases hr'.mpr rfl
      | some f' =>
        refine ⟨f', .inr ⟨hours _ rfl, hours' _ rfl⟩, ?_⟩
        rw [hagain]

end Groups.Location

end Tombola

namespace Tombola.Groups

/-! ## 3. What openings fail with -/

section Foreign

/-- Whether what stands on a disk fails with errors of other programs only. -/
def Disk.IsForeign (d : Disk) : Prop :=
  ∀ x ∈ d.nodes, ∀ f, x.2 = .file f ∨ x.2 = .device f → f.isOurs = false

variable {d d' : Disk} {p : Path} {place : Place} {f : Failure} {left : Disk} {r : Reference}

theorem Disk.IsForeign.node? (h : d.IsForeign)
    (hn : d.node? place = some (.file f) ∨ d.node? place = some (.device f)) :
    f.isOurs = false := by
  have hmem : ∀ node, d.node? place = some node → node ≠ .directory →
      ∃ x ∈ d.nodes, x.2 = node := by
    intro node hnode hne
    unfold Disk.node? at hnode
    split at hnode
    · exact absurd (Option.some.inj hnode).symm hne
    · obtain ⟨x, hx, rfl⟩ := Option.map_eq_some_iff.mp hnode
      exact ⟨x, List.mem_of_find?_eq_some hx, rfl⟩
  rcases hn with hn | hn
  · obtain ⟨x, hx, hnode⟩ := hmem _ hn nofun
    exact h x hx f (.inl hnode)
  · obtain ⟨x, hx, hnode⟩ := hmem _ hn nofun
    exact h x hx f (.inr hnode)

theorem Disk.IsForeign.add (h : d.IsForeign) : (d.add place).IsForeign := by
  intro x hx f hf
  rcases List.mem_cons.mp hx with rfl | hx
  · rcases hf with hf | hf <;> cases hf
  · exact h x hx f hf

theorem Disk.IsForeign.makeOne (h : d.IsForeign) (hm : d.makeOne p = .ok d') : d'.IsForeign := by
  unfold Disk.makeOne at hm
  split at hm
  · cases hm
  · split at hm
    · cases hm
    · split at hm
      · cases hm
      · split at hm
        · cases hm
        · split at hm
          · cases hm
          · split at hm
            · cases hm
            · cases hm
            · obtain rfl := Except.ok.inj hm
              exact h.add

theorem Disk.IsForeign.ensureOne (h : d.IsForeign) : (d.ensureOne p).2.IsForeign := by
  unfold Disk.ensureOne
  split
  · rename_i hm
    exact h.makeOne hm
  · split <;> exact h

theorem Disk.IsForeign.make (h : d.IsForeign) : (d.make p).2.IsForeign := by
  obtain ⟨root, names⟩ := p
  unfold Disk.make
  dsimp only
  generalize names.reverse = ns
  induction ns generalizing d with
  | nil => exact h.ensureOne
  | cons n ns ih =>
    unfold Disk.makeAll
    simp only
    split
    · have habove := ih h
      split
      · rename_i hup
        rw [hup] at habove
        exact habove
      · rename_i hup
        rw [hup] at habove
        exact habove.ensureOne
    · exact h.ensureOne

theorem Reference.error_applyOption {access : Access} {option : String × String}
    (h : applyOption access option = .error f) : f.isOurs = false := by
  unfold applyOption at h
  dsimp only at h
  split at h
  · split at h
    · cases h
      rfl
    · split at h
      · cases h
      · cases h
        rfl
  · split at h
    · cases h
      rfl
    · cases h

theorem Reference.error_foldlM {options : List (String × String)} {access : Access}
    (h : options.foldlM applyOption access = .error f) : f.isOurs = false := by
  induction options generalizing access with
  | nil => cases h
  | cons option options ih =>
    rw [List.foldlM_cons] at h
    cases ha : applyOption access option with
    | error f' =>
      rw [ha] at h
      cases h
      exact error_applyOption ha
    | ok access' =>
      rw [ha] at h
      exact ih h

/-- A reference that names nothing is an error of other programs. -/
theorem Reference.error_ofString {s : String} (h : ofString s = .error f) : f.isOurs = false := by
  unfold ofString at h
  dsimp only at h
  split at h
  · unfold ofChars at h
    generalize s.toList.drop _ = cs at h
    cases hm : behindMachine cs with
    | error f' =>
      rw [hm] at h
      cases h
      unfold behindMachine at hm
      split at hm
      · dsimp only at hm
        split at hm <;> cases hm
        rfl
      · cases hm
    | ok rest =>
      rw [hm] at h
      cases ha : (optionsOf ((rest.takeWhile (· ≠ '#')).dropWhile (· ≠ '?')).tail).foldlM
          applyOption .create with
      | error f' =>
        have hf := error_foldlM ha
        simp only [bind, Except.bind, ha] at h
        cases h
        exact hf
      | ok access =>
        simp only [bind, Except.bind, ha] at h
        split at h
        · cases h
        · cases h
          rfl
  · cases h

theorem Location.foreign_of_blocked? (h : d.IsForeign) (hb : blocked? d r place = some f) :
    f.isOurs = false := by
  unfold blocked? at hb
  split at hb
  · cases hb
    rfl
  · split at hb
    · rename_i hn
      cases hb
      exact h.node? (.inl hn)
    · rename_i hn
      split at hb
      · cases hb
        rfl
      · cases hb
        exact h.node? (.inr hn)
    · split at hb <;> cases hb <;> rfl
    · split at hb
      · split at hb
        · cases hb
          rfl
        · split at hb
          · cases hb
            rfl
          · cases hb
      · cases hb
        rfl

theorem Location.foreign_of_reference (h : d.IsForeign) (hr : ofReference d r = .closed f left) :
    f.isOurs = false := by
  unfold ofReference at hr
  split at hr
  · cases hr
  · split at hr
    · split at hr
      · cases hr
        rfl
      · cases hr
    · split at hr
      · split at hr
        · cases hr
          rfl
        · cases hr
      · split at hr
        · cases hr
          rfl
        · split at hr
          · rename_i hb
            cases hr
            exact foreign_of_blocked? h hb
          · cases hr

/-- **On such a disk openings fail with errors of other programs only.** -/
theorem Location.foreign_of_closed {path : String} (h : d.IsForeign)
    (hc : ofPath d path = .closed f left) : f.isOurs = false := by
  unfold ofPath at hc
  dsimp only at hc
  split at hc
  · cases hc
    rfl
  · split at hc
    · rename_i f' made hmake
      cases hc
      obtain ⟨-, -, -, hours, -⟩ := Disk.make_again hmake
      exact hours _ rfl
    · rename_i made hmake
      have hmade : made.IsForeign := by
        have hm : (d.make (Path.ofString path).parent).2.IsForeign := h.make
        rw [hmake] at hm
        exact hm
      split at hc
      · cases hc
        rfl
      · split at hc
        · rename_i hr
          cases hc
          exact Reference.error_ofString hr
        · exact foreign_of_reference hmade hc

end Foreign

end Tombola.Groups
