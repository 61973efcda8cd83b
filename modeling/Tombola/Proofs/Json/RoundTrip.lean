import Tombola.Json.Reader
/-!
# Values written as JSON are read again

The options of a group are kept as JSON text, in ASCII, and read when the group is asked for;
and the command line writes JSON for others to read.  Every string survives that: a character
is written as itself, by a letter, by its 16-bit unit or by the two units of a surrogate pair,
and the reader puts the units together again.  So does every value without numbers.

The reader goes character by character, so the steps are: one escape (`pieces_escape`), all
of a string (`pieces_escapes`), the string between its quotes (`string_writeString`), then the
items of an array (`elements_writeItems`) and the fields of an object (`members_writeFields`),
if their values are read again.

Main statements:

* `IsPlain.readsAgain`: a plain value is read again, whatever follows it;
* `IsPlain.read`: so is a text that is one; `readWithin_write`, an array of strings, if an
  array may be opened at all;
* `IsPlain.isPrinted`: what is written of it is printable ASCII.
-/

namespace Tombola.Json

/-! ## 1. Units -/

theorem hexValue?_hexDigit :
    ∀ d < 16, hexValue? (.char (Text.hexDigit d)) = some d := by decide

theorem unitEscape_eq (n : Nat) :
    unitEscape n =
      ['\\', 'u', Text.hexDigit (n / 4096 % 16), Text.hexDigit (n / 256 % 16),
        Text.hexDigit (n / 16 % 16), Text.hexDigit (n % 16)] := by
  simp [unitEscape, Text.hexDigits, Nat.div_div_eq_div_mul]

theorem hex4?_hexDigit {n : Nat} (h : n < 65536) :
    hex4? (.char (Text.hexDigit (n / 4096 % 16))) (.char (Text.hexDigit (n / 256 % 16)))
      (.char (Text.hexDigit (n / 16 % 16))) (.char (Text.hexDigit (n % 16))) = some n := by
  have hd (m : Nat) : hexValue? (.char (Text.hexDigit (m % 16))) = some (m % 16) :=
    hexValue?_hexDigit _ (Nat.mod_lt _ (by decide))
  have hn : ((n / 4096 % 16 * 16 + n / 256 % 16) * 16 + n / 16 % 16) * 16 + n % 16 = n := by
    omega
  simp [hex4?, hd, hn]

/-- An escape by number, with one more character behind it, is read as a unit. -/
theorem pieces_unitEscape {n : Nat} (h : n < 65536) (start : Text) (acc : List Piece)
    {rest : Text} (hr : rest ≠ []) :
    pieces start acc ((unitEscape n).map CodePoint.char ++ rest) =
      pieces start (.unit n :: acc) rest := by
  cases rest with
  | nil => exact absurd rfl hr
  | cons e rest =>
    rw [unitEscape_eq]
    simp only [List.map_cons, List.map_nil, List.cons_append, List.nil_append]
    rw [pieces, hex4?_hexDigit h]

/-! ## 2. Characters -/

/-- The characters that are escaped by a letter. -/
def lettered : List Char := ['"', '\\', '\n', '\r', '\t', '\x0c', '\x08']

/-- The parts that an escaped character is read as. -/
def piecesOf (c : Char) : List Piece :=
  if c ∈ lettered ∨ (0x20 ≤ c.toNat ∧ c.toNat ≤ 0x7E) then [.plain (.char c)]
  else if c.toNat < 0x10000 then [.unit c.toNat]
  else
    [.unit (0xD800 + (c.toNat - 0x10000) / 1024), .unit (0xDC00 + (c.toNat - 0x10000) % 1024)]

theorem escape_of_lettered {c : Char} (h : c ∈ lettered) :
    ∃ l, escape (.char c) = ['\\', l] ∧ letterEscape? (.char l) = some c := by
  simp only [lettered, List.mem_cons, List.not_mem_nil, or_false] at h
  rcases h with rfl | rfl | rfl | rfl | rfl | rfl | rfl
  · exact ⟨'"', rfl, rfl⟩
  · exact ⟨'\\', rfl, rfl⟩
  · exact ⟨'n', rfl, rfl⟩
  · exact ⟨'r', rfl, rfl⟩
  · exact ⟨'t', rfl, rfl⟩
  · exact ⟨'f', rfl, rfl⟩
  · exact ⟨'b', rfl, rfl⟩

theorem escape_of_not_lettered {c : Char} (h : c ∉ lettered) :
    escape (.char c) =
      if 0x20 ≤ c.toNat ∧ c.toNat ≤ 0x7E then [c]
      else if c.toNat < 0x10000 then unitEscape c.toNat
      else unitEscape (0xD800 + (c.toNat - 0x10000) / 1024)
        ++ unitEscape (0xDC00 + (c.toNat - 0x10000) % 1024) := by
  simp only [lettered, List.mem_cons, List.not_mem_nil, or_false, not_or] at h
  obtain ⟨h1, h2, h3, h4, h5, h6, h7⟩ := h
  simp only [escape, h1, h2, h3, h4, h5, h6, h7, if_false]

theorem pieces_letter {l c : Char} (h : letterEscape? (.char l) = some c) (start : Text)
    (acc : List Piece) (rest : Text) :
    pieces start acc (.char '\\' :: .char l :: rest) =
      pieces start (.plain (.char c) :: acc) rest := by
  have hu : l ≠ 'u' := by
    rintro rfl
    simp [letterEscape?] at h
  rw [pieces, h]
  · rintro _ _ _ _ _ _ hl _
    exact hu (by simpa using hl)
  · intro hl
    exact hu (by simpa using hl)

theorem pieces_plain {c : Char} (h1 : c ≠ '"') (h2 : c ≠ '\\') (h3 : 0x20 ≤ c.toNat)
    (start : Text) (acc : List Piece) (rest : Text) :
    pieces start acc (.char c :: rest) = pieces start (.plain (.char c) :: acc) rest := by
  have h4 : ¬ (CodePoint.char c).toNat < 0x20 := Nat.not_lt.mpr h3
  rw [pieces, if_neg h4]
  · simpa using h1
  all_goals simp [h2]

theorem pieces_escape (c : Char) (start : Text) (acc : List Piece) {rest : Text}
    (hr : rest ≠ []) :
    pieces start acc ((escape (.char c)).map CodePoint.char ++ rest) =
      pieces start ((piecesOf c).reverse ++ acc) rest := by
  have hc := CodePoint.toNat_lt c
  by_cases hl : c ∈ lettered
  · obtain ⟨l, he, hl'⟩ := escape_of_lettered hl
    rw [he, piecesOf, if_pos (Or.inl hl)]
    exact pieces_letter hl' start acc rest
  · rw [escape_of_not_lettered hl, piecesOf]
    simp only [hl, false_or]
    by_cases hp : 0x20 ≤ c.toNat ∧ c.toNat ≤ 0x7E
    · rw [if_pos hp, if_pos hp]
      have h1 : c ≠ '"' := fun e => hl (e ▸ by decide)
      have h2 : c ≠ '\\' := fun e => hl (e ▸ by decide)
      exact pieces_plain h1 h2 hp.1 start acc rest
    · rw [if_neg hp, if_neg hp]
      by_cases hb : c.toNat < 0x10000
      · rw [if_pos hb, if_pos hb]
        exact pieces_unitEscape hb start acc hr
      · rw [if_neg hb, if_neg hb, List.map_append, List.append_assoc]
        rw [pieces_unitEscape (by omega) start acc (by simp [hr]),
          pieces_unitEscape (by omega) start _ hr]
        rfl

theorem point_toNat (c : Char) : point c.toNat = .char c := by
  rw [point, CodePoint.ofNat?_toNat, Option.getD_some]

theorem paired_halves {n : Nat} (h : 0x10000 ≤ n) :
    Encoding.paired (0xD800 + (n - 0x10000) / 1024) (0xDC00 + (n - 0x10000) % 1024) = n := by
  unfold Encoding.paired
  generalize hq : (n - 0x10000) / 1024 = q
  generalize hr : (n - 0x10000) % 1024 = r
  omega

theorem ofPieces_piecesOf (c : Char) (ps : List Piece) :
    ofPieces none (piecesOf c ++ ps) = .char c :: ofPieces none ps := by
  have hc := CodePoint.toNat_lt c
  have hv : c.toNat.isValidChar := c.valid
  unfold piecesOf
  split
  · rfl
  · split
    · rename_i hb
      have hh : Encoding.isHigh c.toNat = false := by
        simp only [Encoding.isHigh, Bool.and_eq_false_imp, decide_eq_true_eq,
          decide_eq_false_iff_not]
        simp only [Nat.isValidChar] at hv
        omega
      simp [ofPieces, hh, point_toNat]
    · rename_i hb
      have hh : Encoding.isHigh (0xD800 + (c.toNat - 0x10000) / 1024) = true := by
        simp only [Encoding.isHigh, Bool.and_eq_true, decide_eq_true_eq]
        omega
      have hl : Encoding.isLow (0xDC00 + (c.toNat - 0x10000) % 1024) = true := by
        simp only [Encoding.isLow, Bool.and_eq_true, decide_eq_true_eq]
        omega
      rw [List.cons_append, List.cons_append, List.nil_append, ofPieces, if_pos hh, ofPieces,
        if_pos hl, paired_halves (Nat.le_of_not_lt hb), point_toNat]

/-! ## 3. Strings -/

theorem pieces_escapes (cs : List Char) (start : Text) (acc : List Piece) {rest : Text}
    (hr : rest ≠ []) :
    pieces start acc ((cs.flatMap fun c => escape (.char c)).map CodePoint.char ++ rest) =
      pieces start ((cs.flatMap piecesOf).reverse ++ acc) rest := by
  induction cs generalizing acc with
  | nil => rfl
  | cons c cs ih =>
    simp only [List.flatMap_cons, List.map_append, List.append_assoc, List.reverse_append]
    rw [pieces_escape c start acc (by simp [hr]), ih]

theorem ofPieces_piecesOf_all (cs : List Char) :
    ofPieces none (cs.flatMap piecesOf) = cs.map .char := by
  induction cs with
  | nil => rfl
  | cons c cs ih => rw [List.flatMap_cons, ofPieces_piecesOf, ih, List.map_cons]

theorem ofString_writeString (s : String) :
    Text.ofString (writeString (Text.ofString s)) =
      .char '"' :: ((s.toList.flatMap fun c => escape (.char c)).map CodePoint.char
        ++ [.char '"']) := by
  simp [writeString, Text.ofString, List.flatMap_map]

/-- **A written string is read again**, whatever follows it.  Everything beyond printable ASCII is
written as an escape by number, in two halves where it takes two, and the reader joins them. -/
theorem string_writeString (s : String) (rest : Text) :
    string (Text.ofString (writeString (Text.ofString s)) ++ rest) =
      .ok (Text.ofString s, rest) := by
  rw [ofString_writeString]
  unfold string
  simp only [List.cons_append, List.tail_cons, List.append_assoc, List.nil_append]
  rw [pieces_escapes _ _ _ (by simp), pieces]
  simp [Except.map, ofPieces_piecesOf_all, Text.ofString]

/-! ## 4. Items and fields -/

/-- The characters that values other than numbers begin with. -/
def marks : List Char := ['"', '[', '\x7b', 'n', 't', 'f']

/-- Whether a text begins as a value other than a number does. -/
def BeginsAsValue (t : Text) : Prop := ∃ c ∈ marks, ∃ r, t = .char c :: r

theorem BeginsAsValue.skip {t : Text} (h : BeginsAsValue t) (rest : Text) :
    skip (t ++ rest) = t ++ rest := by
  obtain ⟨c, hc, r, rfl⟩ := h
  have hblank : ¬ (c = ' ' ∨ c = '\t' ∨ c = '\n' ∨ c = '\r') := by
    simp only [marks, List.mem_cons, List.not_mem_nil, or_false] at hc
    rcases hc with rfl | rfl | rfl | rfl | rfl | rfl <;> decide
  rw [List.cons_append, Json.skip, if_neg hblank]

/-- Whether a value is read again from what is written of it, whatever follows, while `room`
arrays and objects may be opened.  Every call of the reader takes a character, so it is enough
if there is more fuel than what is written is long. -/
structure Value.ReadsAgain (room : Nat) (v : Value) : Prop where
  begins : BeginsAsValue (Text.ofString v.write)
  value : ∀ fuel rest, (Text.ofString v.write).length < fuel →
    value fuel room (Text.ofString v.write ++ rest) = .ok (v, rest)

theorem skip_space (r : Text) : skip (.char ' ' :: r) = skip r := rfl

theorem skip_comma (r : Text) : skip (.char ',' :: r) = .char ',' :: r := rfl

theorem skip_colon (r : Text) : skip (.char ':' :: r) = .char ':' :: r := rfl

section Items

variable {room fuel : Nat} {v : Value} {vs acc : List Value}

theorem writeItems_cons_cons (v v' : Value) (vs : List Value) :
    Text.ofString (writeItems (v :: v' :: vs)) =
      Text.ofString v.write ++ .char ',' :: .char ' ' :: Text.ofString (writeItems (v' :: vs)) := by
  simp only [writeItems, Text.ofString_append, List.append_assoc]
  rfl

theorem begins_writeItems (h : v.ReadsAgain room) (vs : List Value) :
    BeginsAsValue (Text.ofString (writeItems (v :: vs))) := by
  cases vs with
  | nil => exact h.begins
  | cons v' vs =>
    obtain ⟨c, hc, r, hr⟩ := h.begins
    rw [writeItems_cons_cons, hr]
    exact ⟨c, hc, _, rfl⟩

/-- **The items of a written array,** from the next one on. -/
theorem elements_writeItems (h : ∀ w ∈ v :: vs, w.ReadsAgain room) (rest : Text)
    (hf : (Text.ofString (writeItems (v :: vs))).length + 1 < fuel) :
    elements fuel room acc (Text.ofString (writeItems (v :: vs)) ++ .char ']' :: rest) =
      .ok (.arr (acc.reverse ++ v :: vs), rest) := by
  induction vs generalizing v fuel acc with
  | nil =>
    obtain ⟨hv, -⟩ := List.forall_mem_cons.mp h
    obtain ⟨fuel, rfl⟩ : ∃ n, fuel = n + 1 := ⟨fuel - 1, by omega⟩
    simp only [writeItems] at hf ⊢
    rw [elements, hv.value fuel _ (by omega)]
    simp [skip]
  | cons v' vs ih =>
    obtain ⟨hv, hvs⟩ := List.forall_mem_cons.mp h
    obtain ⟨fuel, rfl⟩ : ∃ n, fuel = n + 1 := ⟨fuel - 1, by omega⟩
    have hbegins : BeginsAsValue (Text.ofString (writeItems (v' :: vs))) :=
      begins_writeItems (hvs v' (List.mem_cons_self ..)) vs
    rw [writeItems_cons_cons] at hf ⊢
    simp only [List.length_append, List.length_cons] at hf
    rw [elements, List.append_assoc, hv.value _ _ (by omega)]
    simp only [List.cons_append, skip_comma, skip_space]
    rw [hbegins.skip, ih hvs (by omega)]
    simp

end Items

section Fields

variable {room fuel : Nat} {f : Text × Value} {fs acc : Fields}

theorem writeFields_singleton (f : Text × Value) :
    Text.ofString (writeFields [f]) =
      Text.ofString (writeString f.1) ++ .char ':' :: .char ' ' :: Text.ofString f.2.write := by
  simp only [writeFields, Text.ofString_append, List.append_assoc]
  rfl

theorem writeFields_cons_cons (f f' : Text × Value) (fs : Fields) :
    Text.ofString (writeFields (f :: f' :: fs)) =
      Text.ofString (writeString f.1) ++ .char ':' :: .char ' ' :: (Text.ofString f.2.write
        ++ .char ',' :: .char ' ' :: Text.ofString (writeFields (f' :: fs))) := by
  simp only [writeFields, Text.ofString_append, List.append_assoc]
  rfl

theorem begins_writeFields (f : Text × Value) (fs : Fields) :
    BeginsAsValue (Text.ofString (writeFields (f :: fs))) := by
  obtain ⟨r, hr⟩ : ∃ r, Text.ofString (writeString f.1) = .char '"' :: r := by
    simp [writeString, Text.ofString]
  cases fs with
  | nil =>
    rw [writeFields_singleton, hr]
    exact ⟨'"', by decide, _, rfl⟩
  | cons f' fs =>
    rw [writeFields_cons_cons, hr]
    exact ⟨'"', by decide, _, rfl⟩

theorem Fields.insert_of_new {k : Text} {v : Value} {fs : Fields} (h : k ∉ fs.map (·.1)) :
    fs.insert k v = fs ++ [(k, v)] := by
  induction fs with
  | nil => rfl
  | cons f fs ih =>
    simp only [List.map_cons, List.mem_cons, not_or] at h
    rw [Fields.insert, if_neg (Ne.symm h.1), ih h.2, List.cons_append]

theorem not_mem_of_nodup (hn : ((acc ++ f :: fs).map (·.1)).Nodup) : f.1 ∉ acc.map (·.1) := by
  intro hmem
  rw [List.map_append, List.map_cons] at hn
  exact (List.nodup_append.mp hn).2.2 _ hmem _ (List.mem_cons_self ..) rfl

theorem members_field (hk : ∃ s : String, f.1 = Text.ofString s) (hv : f.2.ReadsAgain room)
    (hf : (Text.ofString f.2.write).length < fuel) {c : CodePoint}
    (hc : c = .char '\x7d' ∨ c = .char ',') (rest : Text) :
    members (fuel + 1) room acc (Text.ofString (writeString f.1) ++ .char ':' :: .char ' '
        :: (Text.ofString f.2.write ++ c :: rest)) =
      if c = .char '\x7d' then .ok (.obj (acc.insert f.1 f.2), rest)
      else members fuel room (acc.insert f.1 f.2) (skip rest) := by
  obtain ⟨s, hs⟩ := hk
  have hname := string_writeString s
    (.char ':' :: .char ' ' :: (Text.ofString f.2.write ++ c :: rest))
  rw [hs]
  rw [ofString_writeString] at hname ⊢
  simp only [List.cons_append] at hname ⊢
  rw [members, hname]
  simp only [skip_colon, skip_space, hv.begins.skip, hv.value _ _ hf]
  rcases hc with rfl | rfl
  · rfl
  · rfl

/-- **The fields of a written object,** from the next one on. -/
theorem members_writeFields (hk : ∀ f' ∈ f :: fs, ∃ s : String, f'.1 = Text.ofString s)
    (hv : ∀ f' ∈ f :: fs, f'.2.ReadsAgain room) (acc : Fields)
    (hn : ((acc ++ f :: fs).map (·.1)).Nodup) (rest : Text)
    (hf : (Text.ofString (writeFields (f :: fs))).length + 1 < fuel) :
    members fuel room acc (Text.ofString (writeFields (f :: fs)) ++ .char '\x7d' :: rest) =
      .ok (.obj (acc ++ f :: fs), rest) := by
  induction fs generalizing f fuel acc with
  | nil =>
    obtain ⟨hkey, -⟩ := List.forall_mem_cons.mp hk
    obtain ⟨hvalue, -⟩ := List.forall_mem_cons.mp hv
    obtain ⟨fuel, rfl⟩ : ∃ n, fuel = n + 1 := ⟨fuel - 1, by omega⟩
    rw [writeFields_singleton] at hf ⊢
    simp only [List.length_append, List.length_cons] at hf
    simp only [List.append_assoc, List.cons_append]
    rw [members_field hkey hvalue (by omega) (.inl rfl), if_pos rfl,
      Fields.insert_of_new (not_mem_of_nodup hn)]
  | cons f' fs ih =>
    obtain ⟨hkey, hkeys⟩ := List.forall_mem_cons.mp hk
    obtain ⟨hvalue, hvalues⟩ := List.forall_mem_cons.mp hv
    obtain ⟨fuel, rfl⟩ : ∃ n, fuel = n + 1 := ⟨fuel - 1, by omega⟩
    rw [writeFields_cons_cons] at hf ⊢
    simp only [List.length_append, List.length_cons] at hf
    simp only [List.append_assoc, List.cons_append]
    rw [members_field hkey hvalue (by omega) (.inr rfl), if_neg (by decide),
      Fields.insert_of_new (not_mem_of_nodup hn), skip_space, (begins_writeFields f' fs).skip,
      ih hkeys hvalues _ (by simpa using hn) (by omega), List.append_assoc]
    rfl

end Fields

/-! ## 5. Values -/

/-- **Values without numbers,** of strings, where the names in an object differ and arrays and
objects are nested at most `depth` deep. -/
inductive Value.IsPlain : Nat → Value → Prop
  | null {depth : Nat} : IsPlain depth .null
  | bool {depth : Nat} (b : Bool) : IsPlain depth (.bool b)
  | str {depth : Nat} (s : String) : IsPlain depth (.ofString s)
  | arr {depth : Nat} {items : List Value} (hv : ∀ v ∈ items, IsPlain depth v) :
    IsPlain (depth + 1) (.arr items)
  | obj {depth : Nat} {fields : Fields} (hk : ∀ f ∈ fields, ∃ s : String, f.1 = Text.ofString s)
    (hn : (fields.map (·.1)).Nodup) (hv : ∀ f ∈ fields, IsPlain depth f.2) :
    IsPlain (depth + 1) (.obj fields)

section Values

variable {room : Nat}

theorem isPlain_ofStrings (ss : List String) : (Value.ofStrings ss).IsPlain (room + 1) := by
  refine .arr fun v hv => ?_
  obtain ⟨s, -, rfl⟩ := List.mem_map.mp hv
  exact .str s

theorem write_arr (items : List Value) :
    Text.ofString (Value.arr items).write =
      .char '[' :: (Text.ofString (writeItems items) ++ [.char ']']) := by
  simp only [Value.write, Text.ofString_append]
  rfl

theorem write_obj (fields : Fields) :
    Text.ofString (Value.obj fields).write =
      .char '\x7b' :: (Text.ofString (writeFields fields) ++ [.char '\x7d']) := by
  simp only [Value.write, Text.ofString_append]
  rfl

/-- An object is plain if its names differ and its values are plain. -/
theorem isPlain_ofFields {fs : List (String × Value)} (hn : (fs.map (·.1)).Nodup)
    (hv : ∀ f ∈ fs, f.2.IsPlain room) : (Value.ofFields fs).IsPlain (room + 1) := by
  refine .obj ?_ ?_ ?_
  · intro f hf
    obtain ⟨f', -, rfl⟩ := List.mem_map.mp hf
    exact ⟨f'.1, rfl⟩
  · have hnames : (fs.map fun f => (Text.ofString f.1, f.2)).map (·.1) =
        (fs.map (·.1)).map Text.ofString := by
      simp only [List.map_map, Function.comp_def]
    rw [hnames]
    exact List.Pairwise.map Text.ofString (fun _ _ hne h => hne (Text.ofString_injective h)) hn
  · intro f hf
    obtain ⟨f', hf', rfl⟩ := List.mem_map.mp hf
    exact hv f' hf'

theorem value_items {fuel : Nat} {t : Text} (h : BeginsAsValue t) (rest : Text) :
    value (fuel + 1) (room + 1) (.char '[' :: (t ++ rest)) = elements fuel room [] (t ++ rest) := by
  have hskip := h.skip rest
  obtain ⟨c, hc, r, rfl⟩ := h
  rw [value, hskip]
  simp only [marks, List.mem_cons, List.not_mem_nil, or_false] at hc
  rcases hc with rfl | rfl | rfl | rfl | rfl | rfl <;> rfl

theorem value_fields {fuel : Nat} {t : Text} (h : BeginsAsValue t) (rest : Text) :
    value (fuel + 1) (room + 1) (.char '\x7b' :: (t ++ rest)) =
      members fuel room [] (t ++ rest) := by
  have hskip := h.skip rest
  obtain ⟨c, hc, r, rfl⟩ := h
  rw [value, hskip]
  simp only [marks, List.mem_cons, List.not_mem_nil, or_false] at hc
  rcases hc with rfl | rfl | rfl | rfl | rfl | rfl <;> rfl

theorem readsAgain_str (s : String) : (Value.ofString s).ReadsAgain room where
  begins := ⟨'"', by decide, _, ofString_writeString s⟩
  value := by
    intro fuel rest hf
    obtain ⟨fuel, rfl⟩ : ∃ n, fuel = n + 1 := ⟨fuel - 1, by omega⟩
    have h := string_writeString s rest
    simp only [Value.ofString, Value.write]
    rw [ofString_writeString] at h ⊢
    simp only [List.cons_append] at h ⊢
    rw [value, h]
    rfl

theorem readsAgain_arr {items : List Value} (hv : ∀ v ∈ items, v.ReadsAgain room) :
    (Value.arr items).ReadsAgain (room + 1) where
  begins := ⟨'[', by decide, _, write_arr items⟩
  value := by
    intro fuel rest hf
    obtain ⟨fuel, rfl⟩ : ∃ n, fuel = n + 1 := ⟨fuel - 1, by omega⟩
    rw [write_arr] at hf ⊢
    simp only [List.length_append, List.length_cons, List.length_nil] at hf
    simp only [List.cons_append, List.append_assoc, List.nil_append]
    cases items with
    | nil => rfl
    | cons v vs =>
      have hbegins := begins_writeItems (hv v (List.mem_cons_self ..)) vs
      rw [value_items hbegins, elements_writeItems hv rest (by omega)]
      rfl

theorem readsAgain_obj {fields : Fields} (hk : ∀ f ∈ fields, ∃ s : String, f.1 = Text.ofString s)
    (hn : (fields.map (·.1)).Nodup) (hv : ∀ f ∈ fields, f.2.ReadsAgain room) :
    (Value.obj fields).ReadsAgain (room + 1) where
  begins := ⟨'\x7b', by decide, _, write_obj fields⟩
  value := by
    intro fuel rest hf
    obtain ⟨fuel, rfl⟩ : ∃ n, fuel = n + 1 := ⟨fuel - 1, by omega⟩
    rw [write_obj] at hf ⊢
    simp only [List.length_append, List.length_cons, List.length_nil] at hf
    simp only [List.cons_append, List.append_assoc, List.nil_append]
    cases fields with
    | nil => rfl
    | cons f fs =>
      rw [value_fields (begins_writeFields f fs),
        members_writeFields hk hv [] hn rest (by omega)]
      rfl

/-- **A plain value is read again,** if arrays and objects may be nested as deep as they are. -/
theorem Value.IsPlain.readsAgain {v : Value} (h : v.IsPlain room) : v.ReadsAgain room := by
  induction h with
  | null =>
    refine ⟨⟨'n', by decide, _, rfl⟩, fun fuel rest hf => ?_⟩
    obtain ⟨fuel, rfl⟩ : ∃ n, fuel = n + 1 := ⟨fuel - 1, by omega⟩
    rfl
  | bool b =>
    cases b with
    | true =>
      refine ⟨⟨'t', by decide, _, rfl⟩, fun fuel rest hf => ?_⟩
      obtain ⟨fuel, rfl⟩ : ∃ n, fuel = n + 1 := ⟨fuel - 1, by omega⟩
      rfl
    | false =>
      refine ⟨⟨'f', by decide, _, rfl⟩, fun fuel rest hf => ?_⟩
      obtain ⟨fuel, rfl⟩ : ∃ n, fuel = n + 1 := ⟨fuel - 1, by omega⟩
      rfl
  | str s => exact readsAgain_str s
  | arr _ ih => exact readsAgain_arr ih
  | obj hk hn _ ih => exact readsAgain_obj hk hn ih

/-! ## 6. Texts -/

theorem Value.IsPlain.mono {depth depth' : Nat} {v : Value} (h : v.IsPlain depth)
    (hd : depth ≤ depth') : v.IsPlain depth' := by
  induction h generalizing depth' with
  | null => exact .null
  | bool b => exact .bool b
  | str s => exact .str s
  | arr _ ih =>
    obtain ⟨d, rfl⟩ : ∃ d, depth' = d + 1 := ⟨depth' - 1, by omega⟩
    exact .arr fun v hv => ih v hv (by omega)
  | obj hk hn _ ih =>
    obtain ⟨d, rfl⟩ : ∃ d, depth' = d + 1 := ⟨depth' - 1, by omega⟩
    exact .obj hk hn fun f hf => ih f hf (by omega)

theorem length_write_le_items {v : Value} {vs : List Value} (h : v ∈ vs) :
    (Text.ofString v.write).length ≤ (Text.ofString (writeItems vs)).length := by
  induction vs with
  | nil => cases h
  | cons w vs ih =>
    cases vs with
    | nil =>
      rw [List.mem_singleton.mp h]
      exact Nat.le_refl _
    | cons w' vs =>
      rw [writeItems_cons_cons, List.length_append, List.length_cons, List.length_cons]
      rcases List.mem_cons.mp h with rfl | h
      · omega
      · have := ih h
        omega

theorem length_write_le_fields {f : Text × Value} {fs : Fields} (h : f ∈ fs) :
    (Text.ofString f.2.write).length ≤ (Text.ofString (writeFields fs)).length := by
  induction fs with
  | nil => cases h
  | cons f' fs ih =>
    cases fs with
    | nil =>
      rw [List.mem_singleton.mp h, writeFields_singleton]
      simp only [List.length_append, List.length_cons]
      omega
    | cons f'' fs =>
      rw [writeFields_cons_cons]
      simp only [List.length_append, List.length_cons]
      rcases List.mem_cons.mp h with rfl | h
      · omega
      · have := ih h
        omega

/-- A value is never nested deeper than what is written of it is long. -/
theorem Value.IsPlain.within {depth : Nat} {v : Value} (h : v.IsPlain depth) :
    v.IsPlain (Text.ofString v.write).length := by
  induction h with
  | null => exact .null
  | bool b => exact .bool b
  | str s => exact .str s
  | arr _ ih =>
    rw [write_arr, List.length_cons]
    refine .arr fun v hv => (ih v hv).mono ?_
    have := length_write_le_items hv
    rw [List.length_append]
    omega
  | obj hk hn _ ih =>
    rw [write_obj, List.length_cons]
    refine .obj hk hn fun f hf => (ih f hf).mono ?_
    have := length_write_le_fields hf
    rw [List.length_append]
    omega

/-- **A plain value is read again as a text,** if it may be nested as deep as it is, also with
white space behind it. -/
theorem Value.IsPlain.readWithin {v : Value} (h : v.IsPlain room) (blank : Text)
    (hb : skip blank = []) :
    readWithin room (Text.ofString v.write ++ blank) = .ok v := by
  have hskip := h.readsAgain.begins.skip blank
  have hread := h.readsAgain.value (2 * (Text.ofString v.write ++ blank).length + 2) blank
    (by rw [List.length_append]; omega)
  obtain ⟨c, hc, r, hr⟩ := h.readsAgain.begins
  have hmark : c ≠ '\uFEFF' := by
    rintro rfl
    exact absurd hc (by decide)
  unfold Json.readWithin
  rw [hskip, hread]
  simp [hb, hr, hmark]

/-- **A plain value is read again as a text,** however deep it is nested. -/
theorem Value.IsPlain.read {depth : Nat} {v : Value} (h : v.IsPlain depth) (blank : Text)
    (hb : skip blank = []) : read (Text.ofString v.write ++ blank) = .ok v := by
  have hroom : v.IsPlain (Text.ofString v.write ++ blank).length :=
    h.within.mono (by rw [List.length_append]; omega)
  exact hroom.readWithin blank hb

/-- **An array of strings is read again**, if an array may be opened at all. -/
theorem readWithin_write (room : Nat) (ss : List String) :
    readWithin (room + 1) (Text.ofString (Value.ofStrings ss).write) =
      .ok (Value.ofStrings ss) := by
  have hplain : (Value.ofStrings ss).IsPlain (room + 1) := isPlain_ofStrings ss
  simpa using hplain.readWithin [] rfl

end Values

/-! ## 7. What is written -/

/-- Whether a text is of printable characters of ASCII alone. -/
def IsPrinted (s : String) : Prop := ∀ c ∈ s.toList, 0x20 ≤ c.toNat ∧ c.toNat ≤ 0x7E

theorem isPrinted_of_all {s : String}
    (h : s.toList.all (fun c => 0x20 ≤ c.toNat ∧ c.toNat ≤ 0x7E) = true) : IsPrinted s := by
  simpa [IsPrinted] using h

theorem IsPrinted.append {s s' : String} (h : IsPrinted s) (h' : IsPrinted s') :
    IsPrinted (s ++ s') := by
  intro c hc
  rw [String.toList_append] at hc
  rcases List.mem_append.mp hc with hc | hc
  · exact h c hc
  · exact h' c hc

theorem printed_hexDigit :
    ∀ d < 16, 0x20 ≤ (Text.hexDigit d).toNat ∧ (Text.hexDigit d).toNat ≤ 0x7E := by decide

theorem printed_unitEscape (n : Nat) {d : Char} (h : d ∈ unitEscape n) :
    0x20 ≤ d.toNat ∧ d.toNat ≤ 0x7E := by
  rw [unitEscape_eq] at h
  simp only [List.mem_cons, List.not_mem_nil, or_false] at h
  have hdigit (m : Nat) := printed_hexDigit (m % 16) (Nat.mod_lt _ (by decide))
  rcases h with rfl | rfl | rfl | rfl | rfl | rfl
  · decide
  · decide
  all_goals exact hdigit _

theorem printed_escape (p : CodePoint) {d : Char} (h : d ∈ escape p) :
    0x20 ≤ d.toNat ∧ d.toNat ≤ 0x7E := by
  cases p with
  | lone n => exact printed_unitEscape _ h
  | char c =>
    by_cases hl : c ∈ lettered
    · simp only [lettered, List.mem_cons, List.not_mem_nil, or_false] at hl
      rcases hl with rfl | rfl | rfl | rfl | rfl | rfl | rfl
      all_goals
        rcases List.mem_cons.mp h with rfl | h
        · decide
        · rw [List.mem_singleton.mp h]
          decide
    · rw [escape_of_not_lettered hl] at h
      split at h
      · rename_i hp
        rw [List.mem_singleton.mp h]
        exact hp
      · split at h
        · exact printed_unitEscape _ h
        · rcases List.mem_append.mp h with h | h
          · exact printed_unitEscape _ h
          · exact printed_unitEscape _ h

theorem isPrinted_writeString (t : Text) : IsPrinted (writeString t) := by
  intro d hd
  simp only [writeString, String.toList_ofList, List.cons_append, List.mem_cons, List.mem_append,
    List.not_mem_nil, or_false] at hd
  rcases hd with rfl | hd | rfl
  · decide
  · obtain ⟨p, -, hp⟩ := List.mem_flatMap.mp hd
    exact printed_escape p hp
  · decide

theorem isPrinted_comma : IsPrinted ", " := isPrinted_of_all (by decide)

theorem isPrinted_colon : IsPrinted ": " := isPrinted_of_all (by decide)

theorem isPrinted_writeItems {vs : List Value} (h : ∀ v ∈ vs, IsPrinted v.write) :
    IsPrinted (writeItems vs) := by
  induction vs with
  | nil => exact isPrinted_of_all (by decide)
  | cons v vs ih =>
    obtain ⟨hv, hvs⟩ := List.forall_mem_cons.mp h
    cases vs with
    | nil => exact hv
    | cons v' vs => exact (hv.append isPrinted_comma).append (ih hvs)

theorem isPrinted_writeFields {fs : Fields} (h : ∀ f ∈ fs, IsPrinted f.2.write) :
    IsPrinted (writeFields fs) := by
  induction fs with
  | nil => exact isPrinted_of_all (by decide)
  | cons f fs ih =>
    obtain ⟨hf, hfs⟩ := List.forall_mem_cons.mp h
    have hfirst := ((isPrinted_writeString f.1).append isPrinted_colon).append hf
    cases fs with
    | nil => exact hfirst
    | cons f' fs => exact (hfirst.append isPrinted_comma).append (ih hfs)

/-- **What is written of a plain value is printable ASCII.** -/
theorem Value.IsPlain.isPrinted {depth : Nat} {v : Value} (h : v.IsPlain depth) :
    IsPrinted v.write := by
  induction h with
  | null => exact isPrinted_of_all (by decide)
  | bool b => cases b <;> exact isPrinted_of_all (by decide)
  | str s => exact isPrinted_writeString _
  | arr _ ih =>
    have hopen : IsPrinted "[" := isPrinted_of_all (by decide)
    have hclose : IsPrinted "]" := isPrinted_of_all (by decide)
    exact (hopen.append (isPrinted_writeItems ih)).append hclose
  | obj _ _ _ ih =>
    have hopen : IsPrinted "\x7b" := isPrinted_of_all (by decide)
    have hclose : IsPrinted "\x7d" := isPrinted_of_all (by decide)
    exact (hopen.append (isPrinted_writeFields ih)).append hclose

end Tombola.Json
