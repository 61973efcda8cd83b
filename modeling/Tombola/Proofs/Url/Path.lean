import Tombola.Proofs.Text.Escapes
import Tombola.Url
/-!
# What becomes of the path of an address

A path that is written into an address goes through three hands before a server sees it: it ends
where a query or a fragment begins, segments of one and of two points are resolved, and escapes are
read.  None of the three makes it longer, and each leaves it alone just if there is nothing for it
to do.  So a server sees the path that was written if and only if it is *literal* (`IsLiteral`).

Main statements:

* `removeDots_eq_iff`: the paths that keep their segments;
* `isLiteral_append_iff`: a path is literal if its parts are;
* `decodedPath_eq_iff`: the paths that a server sees as they were written;
* `parse_https`: an address of a server, with a path.
-/

namespace Tombola

namespace Text

/-- The pieces of a text are those that the library knows. -/
theorem pieces_eq_splitOnP (p : Char → Bool) (cs : List Char) : pieces p cs = cs.splitOnP p := by
  induction cs with
  | nil => rfl
  | cons c cs ih =>
    rw [List.splitOnP_cons_eq_if_modifyHead, pieces, ih]
    split
    · rfl
    · obtain ⟨w, ws, hws⟩ := List.exists_cons_of_ne_nil (List.splitOnP_ne_nil p cs)
      rw [hws]
      rfl

end Text

namespace Url

/-! ## 1. Segments -/

def segments (path : List Char) : List (List Char) := Text.pieces (· == '/') path

theorem segments_append (cs ds : List Char) :
    segments (cs ++ '/' :: ds) = segments cs ++ segments ds := by
  simp only [segments, Text.pieces_eq_splitOnP]
  exact List.splitOnP_append_cons cs ds rfl

theorem intercalate_segments (path : List Char) : ['/'].intercalate (segments path) = path := by
  rw [segments, Text.pieces_eq_splitOnP, ← List.splitOn_eq_splitOnP]
  exact List.intercalate_splitOn '/'

/-- Whether a segment is one or two points. -/
def IsDots (segment : List Char) : Prop := segment = ['.'] ∨ segment = ['.', '.']

/-- What segments weigh, each with a slash. -/
def weight : List (List Char) → Nat
  | [] => 0
  | segment :: out => segment.length + 1 + weight out

@[simp] theorem weight_nil : weight [] = 0 := rfl

@[simp] theorem weight_cons (segment : List Char) (out : List (List Char)) :
    weight (segment :: out) = segment.length + 1 + weight out := rfl

theorem weight_append (out out' : List (List Char)) :
    weight (out ++ out') = weight out + weight out' := by
  induction out with
  | nil => exact (Nat.zero_add _).symm
  | cons segment out ih =>
    rw [List.cons_append, weight_cons, weight_cons, ih]
    exact (Nat.add_assoc _ _ _).symm

theorem weight_reverse (out : List (List Char)) : weight out.reverse = weight out := by
  induction out with
  | nil => rfl
  | cons segment out ih =>
    rw [List.reverse_cons, weight_append, ih, weight_cons, weight_cons, weight_nil]
    omega

theorem weight_tail_le (out : List (List Char)) : weight out.tail ≤ weight out := by
  cases out with
  | nil => exact Nat.le_refl 0
  | cons segment out => exact Nat.le_add_left _ _

theorem length_intercalate {out : List (List Char)} (h : out ≠ []) :
    (['/'].intercalate out).length + 1 = weight out := by
  induction out with
  | nil => exact absurd rfl h
  | cons segment out ih =>
    cases out with
    | nil => simp [List.intercalate_singleton]
    | cons next out =>
      have hrest := ih (List.cons_ne_nil next out)
      rw [List.intercalate_cons_cons, weight_cons, ← hrest]
      simp only [List.length_append, List.length_singleton]
      omega

theorem weight_segments (path : List Char) : weight (segments path) = path.length + 1 := by
  have hne : segments path ≠ [] := by
    rw [segments, Text.pieces_eq_splitOnP]
    exact List.splitOnP_ne_nil _ path
  rw [← length_intercalate hne, intercalate_segments]

theorem weight_pushSegment_le (out : List (List Char)) (segment : List Char) :
    weight (pushSegment out segment) ≤ weight out + (segment.length + 1) := by
  have htail := weight_tail_le out
  unfold pushSegment
  split
  · omega
  · split
    · split <;> omega
    · rw [weight_cons]
      omega

theorem weight_pushSegment_dots (out : List (List Char)) {segment : List Char}
    (h : IsDots segment) : weight (pushSegment out segment) ≤ weight out := by
  have htail := weight_tail_le out
  rcases h with rfl | rfl
  · exact Nat.le_refl _
  · unfold pushSegment
    rw [if_neg (by decide), if_pos rfl]
    split <;> omega

theorem weight_foldl_le (path out : List (List Char)) :
    weight (path.foldl pushSegment out) ≤ weight out + weight path := by
  induction path generalizing out with
  | nil => exact Nat.le_refl _
  | cons segment path ih =>
    have hstep := weight_pushSegment_le out segment
    have hrest := ih (pushSegment out segment)
    rw [List.foldl_cons, weight_cons]
    omega

theorem weight_foldl_lt {path : List (List Char)} (h : ∃ segment ∈ path, IsDots segment)
    (out : List (List Char)) :
    weight (path.foldl pushSegment out) < weight out + weight path := by
  induction path generalizing out with
  | nil =>
    obtain ⟨segment, hmem, -⟩ := h
    cases hmem
  | cons segment path ih =>
    rw [List.foldl_cons, weight_cons]
    by_cases hdots : IsDots segment
    · have hstep := weight_pushSegment_dots out hdots
      have hrest := weight_foldl_le path (pushSegment out segment)
      omega
    · have hlater : ∃ later ∈ path, IsDots later := by
        obtain ⟨later, hmem, hlater⟩ := h
        rcases List.mem_cons.mp hmem with rfl | hmem
        · exact absurd hlater hdots
        · exact ⟨later, hmem, hlater⟩
      have hstep := weight_pushSegment_le out segment
      have hrest := ih hlater (pushSegment out segment)
      omega

theorem foldl_pushSegment_of_plain {path : List (List Char)}
    (h : ∀ segment ∈ path, ¬ IsDots segment) (out : List (List Char)) :
    path.foldl pushSegment out = path.reverse ++ out := by
  induction path generalizing out with
  | nil => rfl
  | cons segment path ih =>
    have hsegment : pushSegment out segment = segment :: out := by
      have hdots := h segment List.mem_cons_self
      rw [IsDots, not_or] at hdots
      rw [pushSegment, if_neg hdots.1, if_neg hdots.2]
    rw [List.foldl_cons, hsegment, ih fun s hs => h s (List.mem_cons_of_mem segment hs),
      List.reverse_cons, List.append_assoc, List.singleton_append]

theorem removeDots_eq (path : List Char) :
    removeDots path = ['/'].intercalate ((segments path).foldl pushSegment []).reverse :=
  rfl

/-- What is left of a path is shorter by a slash than what its segments weigh. -/
theorem length_removeDots_le_weight (path : List Char) :
    (removeDots path).length ≤ weight ((segments path).foldl pushSegment []) - 1 := by
  rw [removeDots_eq, ← weight_reverse]
  generalize ((segments path).foldl pushSegment []).reverse = kept
  by_cases hkept : kept = []
  · rw [hkept]
    exact Nat.le_refl 0
  · rw [← length_intercalate hkept]
    exact Nat.le_refl _

theorem length_removeDots_le (path : List Char) : (removeDots path).length ≤ path.length := by
  have hlength := length_removeDots_le_weight path
  have hfold := weight_foldl_le (segments path) []
  rw [weight_segments, weight_nil] at hfold
  omega

/-- Whether there is a segment of points in a path. -/
def Dotted (path : List Char) : Prop := ∃ segment ∈ segments path, IsDots segment

theorem length_removeDots_lt {path : List Char} (h : Dotted path) :
    (removeDots path).length < path.length := by
  have hlength := length_removeDots_le_weight path
  have hfold := weight_foldl_lt h []
  rw [weight_segments, weight_nil] at hfold
  have hpos : 0 < path.length := by
    refine List.length_pos_iff.mpr fun hnil => ?_
    obtain ⟨segment, hmem, hdots⟩ := h
    subst hnil
    obtain rfl := List.mem_singleton.mp hmem
    rcases hdots with hdots | hdots <;> cases hdots
  omega

theorem removeDots_of_not_dotted {path : List Char} (h : ¬ Dotted path) :
    removeDots path = path := by
  have hplain : ∀ segment ∈ segments path, ¬ IsDots segment :=
    fun segment hmem hdots => h ⟨segment, hmem, hdots⟩
  rw [removeDots_eq, foldl_pushSegment_of_plain hplain, List.append_nil, List.reverse_reverse,
    intercalate_segments]

/-- **The paths that keep their segments** are those without points. -/
theorem removeDots_eq_iff {path : List Char} : removeDots path = path ↔ ¬ Dotted path := by
  constructor
  · intro h hdotted
    have hlength := length_removeDots_lt hdotted
    rw [h] at hlength
    exact Nat.lt_irrefl _ hlength
  · exact removeDots_of_not_dotted

/-! ## 2. Literal texts -/

/-- Whether a character ends the path of an address. -/
def isMark (c : Char) : Bool := c == '?' || c == '#'

/-- **Whether a text stands for itself** where it is part of a path: no character of it begins a
query or a fragment, none of its segments is one or two points, and there is no escape in it. -/
structure IsLiteral (text : List Char) : Prop where
  unmarked : ∀ c ∈ text, isMark c = false
  undotted : ¬ Dotted text
  unescaped : ¬ Percent.Escaped text

theorem dotted_append_iff {cs ds : List Char} :
    Dotted (cs ++ '/' :: ds) ↔ Dotted cs ∨ Dotted ds := by
  simp only [Dotted, segments_append, List.mem_append, or_and_right, exists_or]

theorem beginsEscaped_append_iff {c : Char} {cs ds : List Char} :
    Percent.BeginsEscaped (c :: (cs ++ '/' :: ds)) ↔ Percent.BeginsEscaped (c :: cs) := by
  have hslash : ¬ Percent.IsHex '/' := by decide
  constructor
  · rintro ⟨x, y, rest, hx, hy, heq⟩
    obtain ⟨rfl, htail⟩ := List.cons.inj heq
    cases cs with
    | nil =>
      obtain ⟨rfl, -⟩ := List.cons.inj htail
      exact absurd hx hslash
    | cons d cs =>
      obtain ⟨rfl, hlast⟩ := List.cons.inj htail
      cases cs with
      | nil =>
        obtain ⟨rfl, -⟩ := List.cons.inj hlast
        exact absurd hy hslash
      | cons e cs =>
        obtain ⟨rfl, -⟩ := List.cons.inj hlast
        exact ⟨d, e, cs, hx, hy, rfl⟩
  · rintro ⟨x, y, rest, hx, hy, heq⟩
    obtain ⟨rfl, rfl⟩ := List.cons.inj heq
    exact ⟨x, y, rest ++ '/' :: ds, hx, hy, rfl⟩

theorem escaped_append_iff {cs ds : List Char} :
    Percent.Escaped (cs ++ '/' :: ds) ↔ Percent.Escaped cs ∨ Percent.Escaped ds := by
  induction cs with
  | nil =>
    have hslash : ¬ Percent.BeginsEscaped ('/' :: ds) := by
      rintro ⟨x, y, rest, -, -, heq⟩
      exact absurd (List.cons.inj heq).1 (by decide)
    rw [List.nil_append, Percent.escaped_cons_iff]
    simp only [hslash, Percent.not_escaped_nil]
  | cons c cs ih =>
    rw [List.cons_append, Percent.escaped_cons_iff, beginsEscaped_append_iff, ih,
      Percent.escaped_cons_iff, or_assoc]

/-- **A path is literal if its parts are.**  A slash ends a segment and no escape goes across one,
so nothing can happen at the seam. -/
theorem isLiteral_append_iff {cs ds : List Char} :
    IsLiteral (cs ++ '/' :: ds) ↔ IsLiteral cs ∧ IsLiteral ds := by
  have hmarks : (∀ c ∈ cs ++ '/' :: ds, isMark c = false) ↔
      (∀ c ∈ cs, isMark c = false) ∧ ∀ c ∈ ds, isMark c = false := by
    have hslash : isMark '/' = false := by decide
    simp only [List.mem_append, List.mem_cons, or_imp, forall_and, forall_eq, hslash, true_and]
  constructor
  · rintro ⟨hm, hd, he⟩
    rw [hmarks] at hm
    rw [dotted_append_iff, not_or] at hd
    rw [escaped_append_iff, not_or] at he
    exact ⟨⟨hm.1, hd.1, he.1⟩, ⟨hm.2, hd.2, he.2⟩⟩
  · rintro ⟨⟨hm, hd, he⟩, ⟨hm', hd', he'⟩⟩
    refine ⟨hmarks.mpr ⟨hm, hm'⟩, ?_, ?_⟩
    · rw [dotted_append_iff, not_or]
      exact ⟨hd, hd'⟩
    · rw [escaped_append_iff, not_or]
      exact ⟨he, he'⟩

/-! ## 3. Paths -/

theorem toNat_lt_of_isHex {c : Char} (h : Percent.IsHex c) : c.toNat < 128 := by
  have hle {a b : Char} (hab : a ≤ b) : a.toNat ≤ b.toNat := hab
  unfold Percent.IsHex Json.hexValue? at h
  simp only at h
  split at h
  · rename_i hc
    exact Nat.lt_of_le_of_lt (hle hc.2) (by decide)
  · split at h
    · rename_i hc
      exact Nat.lt_of_le_of_lt (hle hc.2) (by decide)
    · split at h
      · rename_i hc
        exact Nat.lt_of_le_of_lt (hle hc.2) (by decide)
      · cases h

theorem keepsEscapes_isPathSafe : Percent.KeepsEscapes isPathSafe where
  percent := by decide
  hex {c} h := by
    have hall : ∀ n < 128, Percent.IsHex (Char.ofNat n) → isPathSafe (Char.ofNat n) = true := by
      decide
    have hc := hall c.toNat (toNat_lt_of_isHex h)
    rw [Char.ofNat_toNat] at hc
    exact hc h
  ascii {c} h := by
    simp only [isPathSafe, Bool.and_eq_true, decide_eq_true_eq] at h
    omega

/-- The part of a text before its query and its fragment. -/
def pathPart (text : List Char) : List Char := text.takeWhile fun c => c ≠ '?' ∧ c ≠ '#'

theorem pathPart_isPrefix (text : List Char) : pathPart text <+: text :=
  List.takeWhile_prefix _

theorem pathPart_of_unmarked {text : List Char} (h : ∀ c ∈ text, isMark c = false) :
    pathPart text = text := by
  have hall : ∀ c ∈ text, decide (c ≠ '?' ∧ c ≠ '#') = true := by simpa [isMark] using h
  have htake := @List.takeWhile_append_of_pos _ _ text [] hall
  rwa [List.append_nil, List.takeWhile_nil, List.append_nil] at htake

theorem unmarked_of_pathPart {text : List Char} (h : pathPart text = text) :
    ∀ c ∈ text, isMark c = false := by
  intro c hc
  rw [← h] at hc
  simpa [isMark] using List.all_eq_true.mp List.all_takeWhile c hc

/-- **The paths that a server sees as they were written** are the literal ones. -/
theorem decode_path_eq_iff {text : List Char} :
    Percent.decode (encodePath (removeDots (pathPart text))) = text ↔ IsLiteral text := by
  constructor
  · intro h
    -- Nothing gets longer on the way, so nothing gets shorter either.
    have hdecode := Percent.length_decode_encode_le keepsEscapes_isPathSafe
      (removeDots (pathPart text))
    have hdots := length_removeDots_le (pathPart text)
    have hpart := (pathPart_isPrefix text).length_le
    rw [← encodePath, h] at hdecode
    have hwhole : pathPart text = text :=
      (pathPart_isPrefix text).eq_of_length (by omega)
    rw [hwhole] at h hdots hdecode
    have hundotted : ¬ Dotted text := fun hdotted => by
      have hshorter := length_removeDots_lt hdotted
      omega
    rw [removeDots_of_not_dotted hundotted] at h
    exact ⟨unmarked_of_pathPart hwhole, hundotted,
      (Percent.decode_encode_eq_iff keepsEscapes_isPathSafe).mp h⟩
  · rintro ⟨hunmarked, hundotted, hunescaped⟩
    rw [pathPart_of_unmarked hunmarked, removeDots_of_not_dotted hundotted]
    exact (Percent.decode_encode_eq_iff keepsEscapes_isPathSafe).mpr hunescaped

instance (text : List Char) : Decidable (IsLiteral text) :=
  decidable_of_iff _ decode_path_eq_iff

/-- So it is with the path of an address, which is a slash where it is empty. -/
theorem decodedPath_eq_iff {u : Url} {text : List Char}
    (hu : u.path = encodePath (removeDots (pathPart ('/' :: text)))) :
    u.decodedPath = String.ofList ('/' :: text) ↔ IsLiteral ('/' :: text) := by
  have hdecode : Percent.decode (encodePath (removeDots (pathPart ('/' :: text)))) = '/' :: text ↔
      IsLiteral ('/' :: text) := decode_path_eq_iff
  rw [← hu] at hdecode
  unfold decodedPath
  split
  · rename_i hnil
    rw [hnil] at hu hdecode
    constructor
    · intro h
      have htext : '/' :: text = ['/'] := (String.ofList_injective h).symm
      rw [htext] at hu
      exact absurd hu (by decide)
    · intro h
      cases hdecode.mpr h
  · rw [String.ofList_inj, hdecode]

/-! ## 4. Addresses -/

/-- The address of a server, if the text names one. -/
def ofServer (server : List Char) : Except Fault Url := do
  let parts := (splitLast? '@' server).getD ([], server)
  let host ← normalHost (splitHost parts.2).1
  let port ← normalPort "https" (splitHost parts.2).2
  pure ⟨"https", String.ofList parts.1, host, port, [], none⟩

/-- The address with another path and query. -/
def withPath (u : Url) (path : List Char) (query : Option (List Char)) : Url :=
  { u with path := path, query := query }

variable (u : Url) (path : List Char) (query : Option (List Char))

@[simp] theorem path_withPath : (u.withPath path query).path = path := rfl

@[simp] theorem isAbsolute_withPath : (u.withPath path query).isAbsolute = u.isAbsolute := rfl

@[simp] theorem shownHost_withPath : (u.withPath path query).shownHost = u.shownHost := rfl

@[simp] theorem authority_withPath : (u.withPath path query).authority = u.authority := rfl

/-- The query in a text. -/
def queryPart (text : List Char) : Option (List Char) :=
  match text.dropWhile fun c => c ≠ '?' ∧ c ≠ '#' with
  | '?' :: q => some (q.takeWhile (· ≠ '#'))
  | _ => none

/-- Whether a text can be the authority of an address: nothing in it ends one. -/
def IsAuthority (server : List Char) : Prop := ∀ c ∈ server, c ≠ '/' ∧ c ≠ '?' ∧ c ≠ '#'

theorem splitAuthority_append {server text : List Char} (h : IsAuthority server)
    (htext : text = [] ∨ ∃ path, text = '/' :: path) :
    splitAuthority ('/' :: '/' :: (server ++ text)) = (server, text) := by
  have hinside : ∀ c ∈ server, decide (c ≠ '/' ∧ c ≠ '?' ∧ c ≠ '#') = true :=
    fun c hc => decide_eq_true (h c hc)
  simp only [splitAuthority]
  rw [List.takeWhile_append_of_pos hinside, List.dropWhile_append_of_pos hinside]
  rcases htext with rfl | ⟨path, rfl⟩
  · rw [List.takeWhile_nil, List.dropWhile_nil, List.append_nil]
  · simp

theorem checkPath_pathPart {text : List Char} (h : text = [] ∨ ∃ path, text = '/' :: path)
    (named : Bool) : checkPath true named (pathPart text) = .ok () := by
  rcases h with rfl | ⟨path, rfl⟩
  · cases named <;> rfl
  · cases named <;> simp [checkPath, pathPart]

/-- What can be read as an address is not too long, and has no control characters. -/
theorem of_parse {s : String} {u : Url} (h : parse s = .ok u) :
    s.toList.length ≤ maxLength ∧ ∀ c ∈ s.toList, isControl c = false := by
  unfold parse at h
  simp only at h
  split at h
  · cases h
  · rename_i hlength
    split at h
    · cases h
    · rename_i hdrop
      have hwhole := List.takeWhile_append_dropWhile (p := (! isControl ·)) (l := s.toList)
      rw [hdrop, List.append_nil] at hwhole
      refine ⟨Nat.not_lt.mp hlength, fun c hc => ?_⟩
      rw [← hwhole] at hc
      simpa using List.all_eq_true.mp List.all_takeWhile c hc

/-- **The address of a server, with a path:** what comes behind the server does not matter to it,
and what becomes of the path depends on the path only. -/
theorem parse_https {s : String} {server text : List Char}
    (hs : s.toList = "https://".toList ++ (server ++ text)) (hserver : IsAuthority server)
    (htext : text = [] ∨ ∃ path, text = '/' :: path) (hl : s.toList.length ≤ maxLength)
    (hcontrol : ∀ c ∈ s.toList, isControl c = false) :
    parse s = (ofServer server).map
      (·.withPath (encodePath (removeDots (pathPart text))) (queryPart text)) := by
  have hnone : s.toList.dropWhile (! isControl ·) = [] := by
    have hall : ∀ c ∈ s.toList, (! isControl c) = true := by simpa using hcontrol
    have hdrop := @List.dropWhile_append_of_pos _ _ s.toList [] hall
    rwa [List.append_nil, List.dropWhile_nil] at hdrop
  rw [hs] at hl hnone
  have hscheme : splitScheme ("https://".toList ++ (server ++ text))
      = ("https".toList, '/' :: '/' :: (server ++ text)) := rfl
  have hgiven : String.ofList "https".toList = "https" := by decide
  have hnamed : decide ("https".toList ≠ []) = true := by decide
  have hpath : (text.takeWhile fun c => c ≠ '?' ∧ c ≠ '#') = pathPart text := rfl
  simp only [parse, hs, hnone, if_neg (Nat.not_lt.mpr hl), hscheme,
    splitAuthority_append hserver htext, hgiven, hnamed, hpath, checkPath_pathPart htext,
    Bool.true_or, if_true, ofServer]
  cases normalHost (splitHost ((splitLast? '@' server).getD ([], server)).2).1 with
  | error fault => rfl
  | ok host =>
    cases normalPort "https" (splitHost ((splitLast? '@' server).getD ([], server)).2).2 with
    | error fault => rfl
    | ok port => rfl

end Url

end Tombola
