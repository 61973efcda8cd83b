import Mathlib.Data.List.Forall2
import Tombola.Form
import Tombola.Proofs.Occurrence
import Tombola.Proofs.Url.Path
/-!
# Forms that are written and read back

A form can be written in more than one way.  A character that separates nothing may stand for
itself, a space may be a plus sign, and every character may be escaped, with hexadecimal digits in
either letter case.  Percent encoding is read run by run of ASCII characters, and what stands in
one run may be escaped in part only, so a reading is followed with the run in front of it.

Reading takes the first of the values that are gathered under a name, and would fail if there were
none.  No name is gathered without a value, so every body is read, malformed ones included.

Main statements:

* `decode_of_spells`: a text is read back from whatever it is spelled as;
* `ofOctets_of_writes`: so are the pairs of a form;
* `exists_firsts?_gathered`: every form has its fields, each name with the value of its first pair;
* `written_read_back`: the fields of a body are those of the pairs that it was written from, and
  every body has fields.
-/

namespace Tombola

/-! ## 1. Spellings in percent encoding -/

namespace Percent

/-- **Escapes of octets:** a percent sign and two hexadecimal digits for each, in either letter
case. -/
inductive Escapes : List UInt8 → List Char → Prop
  | nil : Escapes [] []
  | cons {b : UInt8} {bs : List UInt8} {x y : Char} {m n : Nat} {es : List Char}
      (hx : Json.hexValue? (.char x) = some m) (hy : Json.hexValue? (.char y) = some n)
      (hb : b.toNat = m * 16 + n) (h : Escapes bs es) : Escapes (b :: bs) ('%' :: x :: y :: es)

/-- **Spellings of a text:** each character but the percent sign as it is, or its octets
escaped. -/
inductive Spells : List Char → List Char → Prop
  | nil : Spells [] []
  | plain {c : Char} {cs ws : List Char} (hc : c ≠ '%') (h : Spells cs ws) :
      Spells (c :: cs) (c :: ws)
  | escaped {c : Char} {cs es ws : List Char} (he : Escapes (Utf8.encodeNat c.toNat) es)
      (h : Spells cs ws) : Spells (c :: cs) (es ++ ws)

variable {bs : List UInt8} {cs es ws : List Char}

theorem escapes_flatMap (bs : List UInt8) : Escapes bs (bs.flatMap octetEscape) := by
  induction bs with
  | nil => exact .nil
  | cons b bs ih =>
    have hb : b.toNat < 256 := b.toNat_lt
    exact .cons (hexValue?_capitalHexDigit (b.toNat / 16) (by omega))
      (hexValue?_capitalHexDigit (b.toNat % 16) (by omega)) (by omega) ih

/-- Escapes are made of percent signs and hexadecimal digits. -/
theorem Escapes.mem (h : Escapes bs es) {d : Char} (hd : d ∈ es) : d = '%' ∨ IsHex d := by
  induction h with
  | nil => cases hd
  | cons hx hy hb h ih =>
    simp only [List.mem_cons] at hd
    rcases hd with rfl | rfl | rfl | hd
    · exact .inl rfl
    · exact .inr (by simp [IsHex, hx])
    · exact .inr (by simp [IsHex, hy])
    · exact ih hd

theorem Escapes.ascii (h : Escapes bs es) : ∀ d ∈ es, d.toNat < 128 := by
  intro d hd
  rcases h.mem hd with rfl | hhex
  · decide
  · exact Url.toNat_lt_of_isHex hhex

/-- **Escapes are read as their octets,** whatever follows. -/
theorem Escapes.octets_append (h : Escapes bs es) (rest : List Char) :
    octets (es ++ rest) = bs ++ octets rest := by
  induction h with
  | nil => rfl
  | @cons b bs x y m n es hx hy hb h ih =>
    have hvalue : (m * 16 + n).toUInt8 = b := by
      rw [← hb]
      exact UInt8.ofNat_toNat
    rw [List.cons_append, List.cons_append, List.cons_append, octets_escape hx hy, ih, hvalue,
      List.cons_append]

theorem octets_cons_of_ne {c : Char} (hc : c ≠ '%') (rest : List Char) :
    octets (c :: rest) = c.toNat.toUInt8 :: octets rest := by
  refine octets_plain ?_
  rintro ⟨x, y, rest', -, -, heq⟩
  exact hc (List.cons.inj heq).1

theorem decodeFrom_append_of_ascii (h : ∀ c ∈ cs, c.toNat < 128) (run rest : List Char) :
    decodeFrom run (cs ++ rest) = decodeFrom (cs.reverse ++ run) rest := by
  induction cs generalizing run with
  | nil => rfl
  | cons c cs ih =>
    rw [List.cons_append, decodeFrom, if_pos (h c List.mem_cons_self),
      ih fun d hd => h d (List.mem_cons_of_mem c hd), List.reverse_cons, List.append_assoc,
      List.singleton_append]

/-- **A run of whole characters:** its octets are those of a text, whatever follows them. -/
def IsWhole (run before : List Char) : Prop :=
  ∀ rest, octets (run.reverse ++ rest) = Utf8.encodeChars before ++ octets rest

theorem isWhole_nil : IsWhole [] [] := fun _ => rfl

theorem IsWhole.decodeLossy_eq {run before : List Char} (h : IsWhole run before) :
    Utf8.decodeLossy (octets run.reverse) = before := by
  have hend := h []
  rw [List.append_nil, octets, List.append_nil] at hend
  rw [hend, Utf8.decodeLossy_encodeChars]

theorem encodeChars_concat (cs : List Char) (c : Char) :
    Utf8.encodeChars (cs ++ [c]) = Utf8.encodeChars cs ++ Utf8.encodeNat c.toNat := by
  simp [Utf8.encodeChars]

theorem IsWhole.plain {run before : List Char} (h : IsWhole run before) {c : Char}
    (hc : c ≠ '%') (hascii : c.toNat < 128) : IsWhole (c :: run) (before ++ [c]) := by
  intro rest
  have hone : Utf8.encodeNat c.toNat = [c.toNat.toUInt8] := if_pos hascii
  rw [List.reverse_cons, List.append_assoc, h, List.singleton_append, octets_cons_of_ne hc,
    encodeChars_concat, hone, List.append_assoc, List.singleton_append]

theorem IsWhole.escaped {run before : List Char} (h : IsWhole run before) {c : Char}
    (he : Escapes (Utf8.encodeNat c.toNat) es) : IsWhole (es.reverse ++ run) (before ++ [c]) := by
  intro rest
  rw [List.reverse_append, List.reverse_reverse, List.append_assoc, h, he.octets_append,
    encodeChars_concat, List.append_assoc]

/-- **A spelled text is read behind the run that it joins,** if that is one of whole characters. -/
theorem decodeFrom_of_spells (h : Spells cs ws) {run before : List Char}
    (hrun : IsWhole run before) : decodeFrom run ws = before ++ cs := by
  induction h generalizing run before with
  | nil => rw [decodeFrom, hrun.decodeLossy_eq, List.append_nil]
  | @plain c cs ws hc h ih =>
    by_cases hascii : c.toNat < 128
    · rw [decodeFrom, if_pos hascii, ih (hrun.plain hc hascii), List.append_assoc,
        List.singleton_append]
    · -- A character beyond ASCII ends the run, and the next one begins with nothing in it.
      rw [decodeFrom, if_neg hascii, hrun.decodeLossy_eq, ih isWhole_nil, List.nil_append]
  | @escaped c cs es ws he h ih =>
    rw [decodeFrom_append_of_ascii he.ascii, ih (hrun.escaped he), List.append_assoc,
      List.singleton_append]

/-- **A text is read back** from every spelling. -/
theorem decode_of_spells (h : Spells cs ws) : decode ws = cs :=
  decodeFrom_of_spells h isWhole_nil

end Percent

namespace Form

/-! ## 2. Ways to write a form -/

/-- Characters that do not stand for themselves in a form. -/
def separators : List Char := ['%', '+', '&', '=']

/-- **Spellings of a name or a value:** a plus sign for a space, each character that separates
nothing as it is, or its octets escaped. -/
inductive Spells : List Char → List Char → Prop
  | nil : Spells [] []
  | plus {cs ws : List Char} (h : Spells cs ws) : Spells (' ' :: cs) ('+' :: ws)
  | plain {c : Char} {cs ws : List Char} (hc : c ∉ separators) (h : Spells cs ws) :
      Spells (c :: cs) (c :: ws)
  | escaped {c : Char} {cs es ws : List Char} (he : Percent.Escapes (Utf8.encodeNat c.toNat) es)
      (h : Spells cs ws) : Spells (c :: cs) (es ++ ws)

/-- Ways to write a pair: its name and its value with an equals sign between. -/
def WritesPair (p : String × String) (ws : List Char) : Prop :=
  ∃ name value, Spells p.1.toList name ∧ Spells p.2.toList value ∧ ws = name ++ '=' :: value

/-- **Bodies that a form is written as:** its pairs in order, with ampersands between. -/
def Writes (f : Form) (body : List UInt8) : Prop :=
  ∃ pairs, List.Forall₂ WritesPair f pairs ∧ body = Utf8.encodeChars (['&'].intercalate pairs)

variable {f : Form} {cs ws : List Char}

theorem eq_percent_of_mem_escapes {bs : List UInt8} {es : List Char} (h : Percent.Escapes bs es)
    {d : Char} (hd : d ∈ es) (hs : d ∈ separators) : d = '%' := by
  refine (h.mem hd).resolve_right fun hhex => ?_
  have hnone : ∀ s ∈ separators, ¬ Percent.IsHex s := by
    simp only [separators, List.forall_mem_cons]
    exact ⟨by decide, by decide, by decide, by decide, List.forall_mem_nil _⟩
  exact hnone d hs hhex

/-- No spelling holds a character that separates pairs, or a name from its value. -/
theorem Spells.not_mem (h : Spells cs ws) : '&' ∉ ws ∧ '=' ∉ ws := by
  induction h with
  | nil => exact ⟨List.not_mem_nil, List.not_mem_nil⟩
  | plus h ih => exact ⟨by simpa using ih.1, by simpa using ih.2⟩
  | plain hc h ih =>
    simp only [separators, List.mem_cons, List.not_mem_nil, or_false, not_or] at hc
    exact ⟨by simpa [Ne.symm hc.2.2.1] using ih.1, by simpa [Ne.symm hc.2.2.2] using ih.2⟩
  | escaped he h ih =>
    refine ⟨?_, ?_⟩
    · intro hm
      rcases List.mem_append.mp hm with hm | hm
      · exact absurd (eq_percent_of_mem_escapes he hm (by decide)) (by decide)
      · exact ih.1 hm
    · intro hm
      rcases List.mem_append.mp hm with hm | hm
      · exact absurd (eq_percent_of_mem_escapes he hm (by decide)) (by decide)
      · exact ih.2 hm

/-- With spaces for plus signs, a spelling is one in percent encoding. -/
theorem Spells.percent (h : Spells cs ws) :
    Percent.Spells cs (ws.map fun c => if c = '+' then ' ' else c) := by
  induction h with
  | nil => exact .nil
  | plus h ih => exact .plain (by decide) ih
  | @plain c cs ws hc h ih =>
    simp only [separators, List.mem_cons, List.not_mem_nil, or_false, not_or] at hc
    rw [List.map_cons, if_neg hc.2.1]
    exact .plain hc.1 ih
  | @escaped c cs es ws he h ih =>
    have hsame : es.map (fun c => if c = '+' then ' ' else c) = es := by
      refine (List.map_congr_left fun d hd => if_neg ?_).trans (List.map_id es)
      rintro rfl
      exact absurd (eq_percent_of_mem_escapes he hd (by decide)) (by decide)
    rw [List.map_append, hsame]
    exact .escaped he ih

theorem decodePart_of_spells {s : String} (h : Spells s.toList ws) : decodePart ws = s := by
  rw [decodePart, Percent.decode_of_spells h.percent, String.ofList_toList]

theorem decodePair_of_writesPair {p : String × String} (h : WritesPair p ws) :
    decodePair ws = p := by
  obtain ⟨name, value, hname, hvalue, rfl⟩ := h
  have hfree : ∀ c ∈ name, decide (c ≠ '=') = true := by
    intro c hc
    exact decide_eq_true fun e => hname.not_mem.2 (e ▸ hc)
  rw [decodePair, List.takeWhile_append_of_pos hfree, List.dropWhile_append_of_pos hfree,
    List.takeWhile_cons_of_neg (by decide), List.dropWhile_cons_of_neg (by decide),
    List.append_nil, List.drop_one, List.tail_cons, decodePart_of_spells hname,
    decodePart_of_spells hvalue]

theorem decodePair_of_forall₂ {pairs : List (List Char)} (h : List.Forall₂ WritesPair f pairs) :
    pairs.map decodePair = f := by
  induction h with
  | nil => rfl
  | cons hp h ih => rw [List.map_cons, decodePair_of_writesPair hp, ih]

theorem WritesPair.piece {p : String × String} (h : WritesPair p ws) : '&' ∉ ws ∧ ws ≠ [] := by
  obtain ⟨name, value, hname, hvalue, rfl⟩ := h
  refine ⟨?_, by simp⟩
  simp [hname.not_mem.1, hvalue.not_mem.1]

theorem pieces_of_forall₂ {pairs : List (List Char)} (h : List.Forall₂ WritesPair f pairs) :
    ∀ ws ∈ pairs, '&' ∉ ws ∧ ws ≠ [] := by
  induction h with
  | nil => simp
  | cons hp h ih =>
    intro ws hws
    rcases List.mem_cons.mp hws with rfl | hws
    · exact hp.piece
    · exact ih ws hws

/-- **The pairs of a form are read back** from every way to write it: each pair by itself, since no
spelling holds an ampersand, and in a pair the name and the value, since none holds an equals
sign. -/
theorem ofOctets_of_writes {body : List UInt8} (h : Writes f body) : ofOctets body = f := by
  obtain ⟨pairs, hpairs, rfl⟩ := h
  have hpieces := pieces_of_forall₂ hpairs
  rw [ofOctets, Utf8.decodeLossy_encodeChars, ofChars, Text.pieces_eq_splitOnP]
  by_cases hnil : pairs = []
  · subst hnil
    cases hpairs
    rfl
  · rw [← List.splitOn_eq_splitOnP, List.splitOn_intercalate '&' (fun ws hws => (hpieces ws hws).1)
      hnil, List.filter_eq_self.mpr fun ws hws => by simpa using (hpieces ws hws).2,
      decodePair_of_forall₂ hpairs]

theorem spells_encodePart (s : String) : Spells s.toList (encodePart s) := by
  unfold encodePart
  induction s.toList with
  | nil => exact .nil
  | cons c cs ih =>
    rw [List.flatMap_cons]
    split
    · rename_i hc
      subst hc
      exact .plus ih
    · split
      · rename_i hplain
        have hnone : ∀ s ∈ separators, isPlain s = false := by
          simp only [separators, List.forall_mem_cons]
          exact ⟨rfl, rfl, rfl, rfl, List.forall_mem_nil _⟩
        refine .plain (fun hs => ?_) ih
        rw [hnone c hs] at hplain
        cases hplain
      · exact .escaped (Percent.escapes_flatMap _) ih

/-- The usual body of a form is one of these. -/
theorem writes_toOctets (f : Form) : Writes f (toOctets f) := by
  refine ⟨f.map fun p => encodePart p.1 ++ '=' :: encodePart p.2, ?_, by rw [toOctets, encode]⟩
  induction f with
  | nil => exact .nil
  | cons p f ih =>
    rw [List.map_cons]
    refine .cons ⟨encodePart p.1, encodePart p.2, ?_, ?_, rfl⟩ ih
    · exact spells_encodePart p.1
    · exact spells_encodePart p.2

/-! ## 3. Fields -/

/-- **Whether the first pair with a name has this value.** -/
def HasFirst (f : Form) (k v : String) : Prop := IsFirst (fun p => p.1 = k) f (k, v)

/-- **The map that sends each name to the value of its first pair.** -/
structure MapsFirsts (m : Groups.Entries String) (f : Form) : Prop where
  /-- No name has two values. -/
  nodup : m.names.Nodup
  firsts : ∀ k v, m.get? k = some v ↔ HasFirst f k v

theorem get?_eq_find? (k : String) (f : Form) : f.get? k = (f.find? (·.1 = k)).map (·.2) := by
  induction f with
  | nil => rfl
  | cons p f ih =>
    rw [get?_cons, ih, List.find?_cons]
    by_cases hk : p.1 = k
    · simp [hk]
    · simp [hk]

theorem get?_eq_some_iff {k v : String} : f.get? k = some v ↔ HasFirst f k v := by
  rw [get?_eq_find?, Option.map_eq_some_iff, HasFirst, ← find?_eq_some_iff_isFirst]
  constructor
  · rintro ⟨p, hp, rfl⟩
    obtain rfl : p.1 = k := by simpa using List.find?_some hp
    exact hp
  · intro h
    exact ⟨(k, v), h, rfl⟩

/-- Fields with a value under each name have first values, under the same names. -/
theorem exists_firsts? {fields : Groups.Entries (List String)} (h : ∀ e ∈ fields, e.2 ≠ []) :
    ∃ m, firsts? fields = some m ∧ m.names = fields.names ∧
      ∀ k, m.get? k = (fields.get? k).bind List.head? := by
  induction fields with
  | nil => exact ⟨[], rfl, rfl, fun _ => rfl⟩
  | cons e fields ih =>
    obtain ⟨k', vs⟩ := e
    obtain ⟨he, hfields⟩ := List.forall_mem_cons.mp h
    obtain ⟨v, vs, rfl⟩ := List.exists_cons_of_ne_nil he
    obtain ⟨m, hm, hnames, hget⟩ := ih hfields
    refine ⟨(k', v) :: m, ?_, congrArg (k' :: ·) hnames, ?_⟩
    · rw [firsts?, List.mapM_cons, ← firsts?, hm]
      rfl
    · intro k
      simp only [Groups.Entries.get?]
      split
      · rfl
      · exact hget k

theorem mem_put {β : Type} {k : String} {v : β} {es : Groups.Entries β} {e : String × β}
    (h : e ∈ es.put k v) : e = (k, v) ∨ e ∈ es := by
  induction es with
  | nil => exact .inl (List.mem_singleton.mp h)
  | cons e' es ih =>
    rw [Groups.Entries.put] at h
    split at h
    · exact (List.mem_cons.mp h).imp_right (List.mem_cons_of_mem e')
    · rcases List.mem_cons.mp h with rfl | h
      · exact .inr List.mem_cons_self
      · exact (ih h).imp_right (List.mem_cons_of_mem e')

/-- **Values that can be gathered:** there is one under each name, and each name is there once. -/
structure IsGathered (fields : Groups.Entries (List String)) : Prop where
  values : ∀ e ∈ fields, e.2 ≠ []
  nodup : fields.names.Nodup

theorem IsGathered.gather {fields : Groups.Entries (List String)} (h : IsGathered fields)
    (p : String × String) : IsGathered (gather fields p) where
  values := by
    intro e he
    rcases mem_put he with rfl | he
    · simp
    · exact h.values e he
  nodup := Groups.Entries.nodup_names_put h.nodup

theorem isGathered_gathered (f : Form) : IsGathered (gathered f) := by
  have hall (fields : Groups.Entries (List String)) (h : IsGathered fields) :
      IsGathered (f.foldl Form.gather fields) := by
    induction f generalizing fields with
    | nil => exact h
    | cons p f ih => exact ih _ (h.gather p)
  exact hall [] ⟨by simp, List.nodup_nil⟩

/-- **Every form has its fields:** each name with the value of its first pair.  A name that is
gathered has at least one value, so taking the first one never fails. -/
theorem exists_firsts?_gathered (f : Form) :
    ∃ m, firsts? (gathered f) = some m ∧ MapsFirsts m f ∧ ∀ k, m.get? k = f.get? k := by
  obtain ⟨hvalues, hnodup⟩ := isGathered_gathered f
  obtain ⟨m, hm, hnames, hget⟩ := exists_firsts? hvalues
  have hsame (k : String) : m.get? k = f.get? k := by
    rw [hget, get?_gathered, ← head?_values]
    split
    · rename_i hnone
      rw [hnone]
      rfl
    · rfl
  exact ⟨m, hm, ⟨hnames ▸ hnodup, fun k v => by rw [hsame, get?_eq_some_iff]⟩, hsame⟩

/-! ## 4. Bodies -/

/-- **What is written is read back, and every body is read.**  However a form is written, its pairs
are read back and the fields of the body send each name to the value of its first pair; the usual
body is one of the ways to write it.  A body of any octets whatsoever has fields: those of the
pairs that it is looked up in. -/
theorem written_read_back :
    (∀ f, Writes f (toOctets f)) ∧
      (∀ f body, Writes f body →
        ofOctets body = f ∧ ∃ m, fields? body = some m ∧ MapsFirsts m f) ∧
      ∀ body, ∃ m, fields? body = some m ∧ MapsFirsts m (ofOctets body) ∧
        ∀ k, m.get? k = (ofOctets body).get? k := by
  refine ⟨writes_toOctets, ?_, fun body => exists_firsts?_gathered (ofOctets body)⟩
  intro f body h
  obtain ⟨m, hm, hmaps, -⟩ := exists_firsts?_gathered f
  exact ⟨ofOctets_of_writes h, m, by rw [fields?, ofOctets_of_writes h, hm], hmaps⟩

/-- Three pairs, two of them with one name and one of them blank, written with a plus sign and with
escapes in both letter cases; and a body with a broken escape that is no UTF-8. -/
theorem written_read_back_odd :
    let f : Form := [("a b", "é&"), ("", ""), ("a b", "x")]
    let body := Utf8.encode "a+b=%c3%A9%26&=&a%20b=x"
    Writes f body ∧
      (∃ m, fields? body = some m ∧ m.get? "a b" = some "é&" ∧ m.get? "" = some "") ∧
      ∃ m, fields? [0x25, 0x7A, 0x3D, 0xFF] = some m ∧ m.get? "%z" = some "\uFFFD" := by
  intro f body
  have hsign : Percent.Escapes (Utf8.encodeNat '&'.toNat) "%26".toList :=
    .cons (m := 2) (n := 6) rfl rfl rfl .nil
  have haccent : Percent.Escapes (Utf8.encodeNat 'é'.toNat) "%c3%A9".toList :=
    .cons (m := 12) (n := 3) rfl rfl rfl (.cons (m := 10) (n := 9) rfl rfl rfl .nil)
  have hspace : Percent.Escapes (Utf8.encodeNat ' '.toNat) "%20".toList :=
    .cons (m := 2) (n := 0) rfl rfl rfl .nil
  have hvalue : Spells ['é', '&'] ("%c3%A9%26".toList) := .escaped haccent (.escaped hsign .nil)
  have hplus : Spells ['a', ' ', 'b'] ['a', '+', 'b'] :=
    .plain (by decide) (.plus (.plain (by decide) .nil))
  have hescaped : Spells ['a', ' ', 'b'] ("a%20b".toList) :=
    .plain (by decide) (.escaped hspace (.plain (by decide) .nil))
  have hwrites : Writes f body := by
    refine ⟨["a+b=%c3%A9%26".toList, ['='], "a%20b=x".toList], ?_, by decide⟩
    refine .cons ⟨_, _, hplus, hvalue, by decide⟩ (.cons ⟨[], [], .nil, .nil, rfl⟩ (.cons ?_ .nil))
    exact ⟨_, ['x'], hescaped, .plain (by decide) .nil, by decide⟩
  obtain ⟨-, m, hm, hmaps⟩ := written_read_back.2.1 f body hwrites
  obtain ⟨m', hm', -, hsame⟩ := written_read_back.2.2 [0x25, 0x7A, 0x3D, 0xFF]
  refine ⟨hwrites, ⟨m, hm, ?_, ?_⟩, m', hm', ?_⟩
  · exact (hmaps.firsts _ _).mpr ⟨[], _, rfl, by simp⟩
  · exact (hmaps.firsts _ _).mpr ⟨[("a b", "é&")], _, rfl, by simp⟩
  · rw [hsame]
    decide +kernel

end Form

end Tombola
