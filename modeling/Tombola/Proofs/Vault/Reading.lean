import Tombola.Vault.Script
/-!
# What reading a secret comes to

A read ends with the secret or with an error.  An error of ours says why there is no secret:
the server cannot be reached, refuses, or answers something else.  Every other error is one
that nobody expects of a read, and there are few ways to it: the address of the secret is none,
its host cannot be shown or sent, the token of the client cannot be sent, or the address names
no server at all.  These are the ways to stumble (`Client.Stumbles`), and for exchanges that any
server may give (`Exchange.isOrdinary`) there are no others.

Main statements:

* `Client.read_error`: what a read fails with if it fails;
* `Client.Stumbles.read`: a read that stumbles fails, and with no error of ours;
* `Client.judge_of_isTooDeep`: so does one of a body that is nested too deep.
-/

namespace Tombola.Vault

/-! ## 1. Exchanges -/

/-- Whether a body is nested deeper than can be read. -/
def isTooDeep (body : List UInt8) : Bool :=
  match Encoding.read? body with
  | none => false
  | some t =>
    match Json.readWithin Client.maxDepth t with
    | .error (.depth _) => true
    | _ => false

/-- Whether an exchange is one that any server may give: no reply because the transport failed,
or a reply whose body is not nested too deep. -/
def Exchange.isOrdinary : Exchange → Bool
  | .reply _ body => ! isTooDeep body
  | .raised f => f.isTransport

/-- What a server gives that has no script. -/
def Server.unscripted : Exchange := .reply 500 []

/-- The next exchange is one of the script, if there is a script. -/
theorem Server.next_mem (s : Server) : s.next ∈ s.script ∨ s.next = unscripted := by
  unfold Server.next
  split
  · rename_i e he
    exact .inl (List.mem_of_getElem? he)
  · cases hlast : s.script.getLast? with
    | none => exact .inr rfl
    | some e => exact .inl (List.mem_of_getLast? hlast)

theorem Server.isOrdinary_next {s : Server} (h : ∀ e ∈ s.script, e.isOrdinary = true) :
    s.next.isOrdinary = true := by
  rcases s.next_mem with hmem | hnone
  · exact h _ hmem
  · rw [hnone]
    rfl

namespace Client

variable {c : Client} {name : String} {e : Exchange} {s : Server}

/-! ## 2. Requests that stumble -/

/-- **The ways in which a read stumbles:** it fails with an error that is none of ours. -/
inductive Stumbles (c : Client) (name : String) (e : Exchange) : Prop
  /-- The address of the secret is none. -/
  | address {fault : Url.Fault} (ha : Url.parse (c.secretUrl name) = .error fault)
  /-- The client's token cannot be sent. -/
  | token {url : Url} {u : Utf8.Unencodable} (ha : Url.parse (c.secretUrl name) = .ok url)
      (ht : Utf8.notAscii? (Text.ofString c.token) = some u)
  /-- The host cannot be shown. -/
  | host {url : Url} {fault : Host.Fault} (ha : Url.parse (c.secretUrl name) = .ok url)
      (habs : url.isAbsolute = true) (hh : url.shownHost = .error fault)
  /-- The host cannot be sent. -/
  | authority {url : Url} {u : Utf8.Unencodable} (ha : Url.parse (c.secretUrl name) = .ok url)
      (habs : url.isAbsolute = true) (hu : Utf8.notAscii? (Text.ofString url.authority) = some u)
  /-- The address names no server, and yet there is a reply. -/
  | serverless {url : Url} {status : Int} {body : List UInt8}
      (ha : Url.parse (c.secretUrl name) = .ok url) (habs : url.isAbsolute = false)
      (he : e = .reply status body)

theorem stumbles_of_request {f : Failure} (h : c.request name = .error f) :
    c.Stumbles name e ∧ f.isOurs = false ∧ f.isTimeout = false := by
  unfold request at h
  split at h
  · rename_i fault ha
    obtain rfl := Except.error.inj h
    exact ⟨.address ha, rfl, rfl⟩
  · rename_i url ha
    split at h
    · rename_i u ht
      obtain rfl := Except.error.inj h
      exact ⟨.token ha ht, rfl, rfl⟩
    · split at h
      · rename_i habs
        split at h
        · rename_i fault hh
          obtain rfl := Except.error.inj h
          exact ⟨.host ha habs hh, rfl, rfl⟩
        · split at h
          · rename_i u hu
            obtain rfl := Except.error.inj h
            exact ⟨.authority ha habs hu, rfl, rfl⟩
          · cases h
      · cases h

/-- A request names no server exactly if its address does not. -/
theorem isAbsolute_of_request {r : Request} (h : c.request name = .ok r) :
    ∃ url, Url.parse (c.secretUrl name) = .ok url ∧ url.isAbsolute = r.serverless.isNone := by
  unfold request at h
  split at h
  · cases h
  · rename_i url ha
    refine ⟨url, ha, ?_⟩
    split at h
    · cases h
    · split at h
      · rename_i habs
        split at h
        · cases h
        · split at h
          · cases h
          · obtain rfl := Except.ok.inj h
            exact habs
      · rename_i habs
        obtain rfl := Except.ok.inj h
        exact Bool.eq_false_iff.mpr habs

/-- A read stumbles before its request is sent, or over a reply where there is no server. -/
theorem Stumbles.request (h : c.Stumbles name e) :
    (∃ f, c.request name = .error f) ∨ ∃ r address status body,
      c.request name = .ok r ∧ r.serverless = some address ∧ e = .reply status body := by
  cases hr : c.request name with
  | error f => exact .inl ⟨f, rfl⟩
  | ok r =>
    refine .inr ?_
    -- The request can be sent, so only the address without a server is left.
    cases h with
    | address ha => simp [Client.request, ha] at hr
    | token ha ht => simp [Client.request, ha, ht] at hr
    | host ha habs hh =>
      simp only [Client.request, ha, habs, hh] at hr
      split at hr <;> cases hr
    | authority ha habs hu =>
      simp only [Client.request, ha, habs, hu] at hr
      split at hr
      · cases hr
      · simp only [if_true] at hr
        split at hr <;> cases hr
    | serverless ha habs he =>
      obtain ⟨url, ha', habs'⟩ := isAbsolute_of_request hr
      obtain rfl := Except.ok.inj (ha.symm.trans ha')
      rw [habs] at habs'
      obtain ⟨address, hserver⟩ : ∃ address, r.serverless = some address :=
        Option.isSome_iff_exists.mp (by simpa using habs'.symm)
      exact ⟨r, address, _, _, rfl, hserver, he⟩

/-- A request that can be sent to a server does not stumble. -/
theorem not_stumbles_of_request {r : Request} (hr : c.request name = .ok r)
    (hserver : r.serverless = none) : ¬ c.Stumbles name e := by
  intro h
  rcases h.request with ⟨f, hf⟩ | ⟨r', address, _, _, hr', hserver', -⟩
  · rw [hr] at hf
    cases hf
  · obtain rfl := Except.ok.inj (hr.symm.trans hr')
    rw [hserver] at hserver'
    cases hserver'

/-! ## 3. Replies -/

theorem secretIn_error {body : List UInt8} {f : Failure} (ho : isTooDeep body = false)
    (h : c.secretIn name body = .error f) : ∃ fault, f = .ours (.secret fault) := by
  unfold secretIn at h
  unfold isTooDeep at ho
  split at h
  · exact ⟨_, (Except.error.inj h).symm⟩
  · rename_i t ht
    rw [ht] at ho
    split at h
    · rename_i nest hdepth
      simp only [hdepth] at ho
      cases ho
    · exact ⟨_, (Except.error.inj h).symm⟩
    · split at h
      · exact ⟨_, (Except.error.inj h).symm⟩
      · cases h
      · exact ⟨_, (Except.error.inj h).symm⟩

/-- An ordinary exchange with a server is judged by an error of ours, or gives the secret. -/
theorem judge_error {f : Failure} (ho : e.isOrdinary = true) (h : c.judge name none e = .error f) :
    ∃ fault, f = .ours (.secret fault) := by
  cases e with
  | raised g =>
    have hg : g.isTransport = true := ho
    simp only [judge, hg, if_true] at h
    exact ⟨_, (Except.error.inj h).symm⟩
  | reply status body =>
    simp only [judge] at h
    split at h
    · exact ⟨_, (Except.error.inj h).symm⟩
    · exact secretIn_error (by simpa [Exchange.isOrdinary] using ho) h

/-! ## 4. Reads -/

/-- **What a read fails with:** an error of ours, or it stumbles. -/
theorem read_error {f : Failure} (ho : s.next.isOrdinary = true)
    (h : (c.read name s).1 = .error f) :
    (∃ fault, f = .ours (.secret fault)) ∨
      c.Stumbles name s.next ∧ f.isOurs = false ∧ f.isTimeout = false := by
  unfold read at h
  split at h
  · rename_i g hg
    obtain rfl := Except.error.inj h
    exact .inr (stumbles_of_request hg)
  · rename_i r hr
    obtain ⟨url, ha, habs⟩ := isAbsolute_of_request hr
    cases hserver : r.serverless with
    | none =>
      rw [hserver] at h
      exact .inl (judge_error ho h)
    | some address =>
      rw [hserver] at h habs
      cases he : s.next with
      | raised g =>
        -- Without a reply it does not matter that there is no server.
        rw [he] at h ho
        have hjudge : c.judge name none (.raised g) = .error f := h
        exact .inl (judge_error ho hjudge)
      | reply status body =>
        rw [he] at h
        obtain rfl := Except.error.inj h
        exact .inr ⟨.serverless ha habs rfl, rfl, rfl⟩

/-- **A read that stumbles fails,** and with no error of ours. -/
theorem Stumbles.read (h : c.Stumbles name s.next) :
    ∃ f, (c.read name s).1 = .error f ∧ f.isOurs = false ∧ f.isTimeout = false := by
  unfold Client.read
  rcases h.request with ⟨f, hr⟩ | ⟨r, address, status, body, hr, hserver, he⟩
  · rw [hr]
    exact ⟨f, rfl, (stumbles_of_request (e := s.next) hr).2⟩
  · simp only [hr, hserver, he, judge]
    exact ⟨_, rfl, rfl, rfl⟩

theorem judge_of_read {t : Text} (h : (c.read name s).1 = .ok t) :
    c.judge name none s.next = .ok t := by
  unfold read at h
  split at h
  · cases h
  · rename_i r hr
    cases hserver : r.serverless with
    | none =>
      rw [hserver] at h
      exact h
    | some address =>
      rw [hserver] at h
      cases he : s.next with
      | raised g =>
        rw [he] at h
        simp only [judge] at h
        split at h <;> cases h
      | reply status body =>
        rw [he] at h
        cases h

/-- Reads leave the script alone. -/
theorem read_script (c : Client) (name : String) (s : Server) :
    (c.read name s).2.script = s.script := by
  unfold read
  cases c.request name <;> rfl

/-! ## 5. Addresses and tokens that stumble -/

/-- Whether a text is without control characters, character by character. -/
theorem not_isControl_of_all {cs : List Char} (h : cs.all (! Url.isControl ·) = true) :
    ∀ x ∈ cs, Url.isControl x = false := by
  intro x hx
  simpa using List.all_eq_true.mp h x hx

theorem stumbles_of_control {before rest : List Char} {x : Char}
    (hs : (c.secretUrl name).toList = before ++ x :: rest)
    (hb : ∀ y ∈ before, Url.isControl y = false) (hx : Url.isControl x = true)
    (hl : (c.secretUrl name).toList.length ≤ Url.maxLength) : c.Stumbles name e :=
  .address (Url.parse_control hs hb hx hl)

theorem stumbles_of_notAscii {u : Utf8.Unencodable}
    (h : Utf8.notAscii? (Text.ofString c.token) = some u) : c.Stumbles name e := by
  cases ha : Url.parse (c.secretUrl name) with
  | error fault => exact .address ha
  | ok url => exact .token ha h

end Client

end Tombola.Vault

namespace Tombola

/-! ## 6. Bodies that are nested too deep -/

/-- Nothing but opening brackets, more than there is room for. -/
theorem Json.value_brackets {room fuel n : Nat} (hfuel : 2 * room < fuel) (hn : room < n) :
    value fuel room (List.replicate n (.char '[')) = .error (.depth .array) := by
  induction room generalizing fuel n with
  | zero =>
    obtain ⟨fuel, rfl⟩ := Nat.exists_eq_add_one_of_ne_zero (Nat.ne_of_gt hfuel)
    obtain ⟨n, rfl⟩ := Nat.exists_eq_add_one_of_ne_zero (Nat.ne_of_gt hn)
    exact value_array_full fuel _
  | succ room ih =>
    obtain ⟨fuel, rfl⟩ : ∃ k, fuel = k + 2 := ⟨fuel - 2, by omega⟩
    obtain ⟨n, rfl⟩ : ∃ k, n = k + 2 := ⟨n - 2, by omega⟩
    have hskip :
        skip (List.replicate (n + 1) (.char '[')) = List.replicate (n + 1) (.char '[') := rfl
    have hinner : value fuel room (List.replicate (n + 1) (.char '[')) = .error (.depth .array) :=
      ih (by omega) (by omega)
    have helements : elements (fuel + 1) room [] (List.replicate (n + 1) (.char '['))
        = .error (.depth .array) := by
      rw [elements, hinner]
    rw [List.replicate_succ, value, hskip]
    exact helements

theorem Json.readWithin_brackets {depth n : Nat} (h : depth < n) :
    readWithin depth (List.replicate n (.char '[')) = .error (.depth .array) := by
  obtain ⟨n, rfl⟩ : ∃ k, n = k + 1 := ⟨n - 1, by omega⟩
  have hskip : skip (List.replicate (n + 1) (.char '[')) = List.replicate (n + 1) (.char '[') := rfl
  have hvalue : value (2 * (List.replicate (n + 1) (CodePoint.char '[')).length + 2) depth
      (skip (List.replicate (n + 1) (.char '['))) = .error (.depth .array) := by
    rw [hskip]
    exact value_brackets (by rw [List.length_replicate]; omega) h
  unfold readWithin
  rw [hvalue]
  rfl

theorem Utf8.decodeText?_brackets (n : Nat) :
    decodeText? (List.replicate n 0x5B) = some (List.replicate n (.char '[')) := by
  unfold decodeText?
  induction n with
  | zero => rfl
  | succ n ih =>
    have hfirst : (step true none (0x5B : UInt8).toNat) = ([some (.char '[')], none) := by decide
    rw [List.replicate_succ, readings_cons, hfirst, List.singleton_append, List.mapM_cons, ih]
    rfl

theorem Encoding.read?_brackets (n : Nat) :
    read? (List.replicate n 0x5B) = some (List.replicate n (.char '[')) := by
  have hdetect : detect (List.replicate n 0x5B) = (.utf8, List.replicate n 0x5B) := by
    match n with
    | 0 | 1 | 2 | 3 => rfl
    | n + 4 => rfl
  simp only [read?, hdetect, decode?, Utf8.decodeText?_brackets]

/-- **More brackets than may be nested** are too deep. -/
theorem Vault.isTooDeep_brackets {n : Nat} (h : Client.maxDepth < n) :
    isTooDeep (List.replicate n 0x5B) = true := by
  simp only [isTooDeep, Encoding.read?_brackets, Json.readWithin_brackets h]

/-- **A body that is nested too deep is judged by an error that is none of ours,** if its status is
no error. -/
theorem Vault.Client.judge_of_isTooDeep {c : Client} {name : String} {status : Int}
    {body : List UInt8} (hs : ¬ 400 ≤ status) (h : isTooDeep body = true) :
    ∃ t nest, c.judge name none (.reply status body) = .error (.malformed t (.depth nest)) := by
  unfold isTooDeep at h
  split at h
  · cases h
  · rename_i t hread
    split at h
    · rename_i nest hdepth
      refine ⟨t, nest, ?_⟩
      simp only [judge, if_neg hs, secretIn, hread, hdepth]
    · cases h

end Tombola
