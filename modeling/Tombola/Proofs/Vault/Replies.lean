import Tombola.Proofs.Json.Depth
import Tombola.Proofs.Vault.Reading
/-!
# What a reply is taken for

A reply has the secret or it has not, and a read tells these apart for every reply.  A reply has
the secret if its status is no error and its body is a JSON object in which an object stands under
`data`, in that one an object under `data` again, and in that one a text under the field, which is
not empty (`Exchange.Bears`).  Whatever else comes back, the read fails with an error of ours that
names the secret, and of which the user is told nothing.

This takes a request that is sent.  An address that is none, a host or a token that cannot be sent
and an address without a server let another error out, and this is the only way to one
(`read_classified_iff`).  A port that is no number is enough for it (`port_escapes`).

Main statements:

* `fieldOf?_eq_some_iff_obj`: where a field stands, object by object;
* `judge_eq_ok_iff`, `judge_of_not_bears`: what the client makes of a reply;
* `read_classified_iff`: the reads that classify what comes back.
-/

namespace Tombola

/-! ## 1. Errors about a secret -/

/-- The errors that say what became of one secret. -/
inductive SecretFault.Concerns (name : String) : SecretFault → Prop
  | unreachable (detail : String) : Concerns name (.unreachable name detail)
  | refused (status : Int) : Concerns name (.refused name status)
  | noField (field : String) : Concerns name (.noField name field)
  | notText (field : String) : Concerns name (.notText name field)

theorem isInfix_middle (before middle behind : String) :
    middle.toList <:+: (before ++ middle ++ behind).toList :=
  ⟨before.toList, behind.toList, by simp only [String.toList_append]⟩

theorem isInfix_longer {part text : String} (h : part.toList <:+: text.toList) (rest : String) :
    part.toList <:+: (text ++ rest).toList := by
  rw [String.toList_append]
  exact h.trans (List.prefix_append text.toList rest.toList).isInfix

theorem SecretFault.Concerns.named {name : String} {fault : SecretFault}
    (h : fault.Concerns name) : (Text.quoted name).toList <:+: fault.cause.toList := by
  cases h with
  | unreachable detail => exact isInfix_longer (isInfix_middle _ _ _) detail
  | refused status => exact isInfix_longer (isInfix_middle _ _ _) (toString status)
  | noField field =>
    exact isInfix_longer (isInfix_longer (isInfix_middle _ _ _) (Text.quoted field)) _
  | notText field =>
    exact isInfix_longer (isInfix_longer (isInfix_middle _ _ _) (Text.quoted field)) _

/-- **The user is told nothing of them.** -/
theorem SecretFault.Concerns.help {name : String} {fault : SecretFault}
    (h : fault.Concerns name) : (DrawError.secret fault).help = defaultHelp := by
  cases h with
  | unreachable detail => rfl
  | refused status => rfl
  | noField field => rfl
  | notText field => rfl

namespace Json

theorem Value.field?_eq_some_iff {k : Text} {v w : Value} :
    v.field? k = some w ↔ ∃ fields, v = .obj fields ∧ Fields.get? k fields = some w := by
  cases v <;> simp [field?]

end Json

namespace Vault

open Json

/-! ## 2. Replies with the secret -/

/-- **Whether an exchange has the secret:** a reply without an error status, of which the body is
a JSON object with an object under `data` in an object under `data`, and in it the secret under
the field, a text that is not empty. -/
inductive Exchange.Bears (field : String) (secret : Text) : Exchange → Prop
  | reply {status : Int} {body : List UInt8} {t : Text} {document outer inner : Fields}
      (hstatus : status < 400) (hbody : Encoding.read? body = some t)
      (hjson : IsJson t (.obj document))
      (houter : Fields.get? (Text.ofString "data") document = some (.obj outer))
      (hinner : Fields.get? (Text.ofString "data") outer = some (.obj inner))
      (hfield : Fields.get? (Text.ofString field) inner = some (.str secret))
      (hne : secret ≠ []) : Bears field secret (.reply status body)

/-- **Where a field stands,** object by object. -/
theorem fieldOf?_eq_some_iff_obj {field : String} {v w : Value} :
    fieldOf? field v = some w ↔
      ∃ document outer inner, v = .obj document ∧
        Fields.get? (Text.ofString "data") document = some (.obj outer) ∧
        Fields.get? (Text.ofString "data") outer = some (.obj inner) ∧
        Fields.get? (Text.ofString field) inner = some w := by
  simp only [fieldOf?_eq_some_iff, Value.field?_eq_some_iff]
  constructor
  · rintro ⟨-, -, ⟨document, rfl, houter⟩, ⟨outer, rfl, hinner⟩, inner, rfl, hfield⟩
    exact ⟨document, outer, inner, rfl, houter, hinner, hfield⟩
  · rintro ⟨document, outer, inner, rfl, houter, hinner, hfield⟩
    exact ⟨_, _, ⟨document, rfl, houter⟩, ⟨outer, rfl, hinner⟩, inner, rfl, hfield⟩

/-- A body that is not nested too deep does not stop the reader. -/
theorem not_stopped_of_isTooDeep {body : List UInt8} {t : Text} (ho : isTooDeep body = false)
    (ht : Encoding.read? body = some t) : ¬ Stopped (readWithin Client.maxDepth t) := by
  rintro ⟨nest, hnest⟩
  simp only [isTooDeep, ht, hnest, Bool.true_eq_false] at ho

namespace Client

variable {c : Client} {name : String} {e : Exchange} {secret : Text}

/-- **A secret that is there is found.** -/
theorem judge_of_bears (ho : e.isOrdinary = true) (h : e.Bears c.field secret) :
    c.judge name none e = .ok secret := by
  cases h with
  | @reply status body t document outer inner hstatus hbody hjson houter hinner hfield hne =>
    have hdeep : isTooDeep body = false := by simpa [Exchange.isOrdinary] using ho
    have hread : readWithin maxDepth t = .ok (.obj document) :=
      (readWithin_eq_ok_iff (not_stopped_of_isTooDeep hdeep hbody)).mpr hjson
    have hfound : fieldOf? c.field (.obj document) = some (.str secret) :=
      fieldOf?_eq_some_iff_obj.mpr ⟨document, outer, inner, rfl, houter, hinner, hfield⟩
    obtain ⟨x, xs, rfl⟩ := List.exists_cons_of_ne_nil hne
    simp only [judge, if_neg (Int.not_le.mpr hstatus), secretIn, hbody, hread, hfound]

/-- **A secret that is not there is missed,** with an error of ours that names it: because there
was no reply, because the status was an error, or because the body does not have the field as a
text. -/
theorem judge_of_not_bears (name : String) (ho : e.isOrdinary = true)
    (h : ¬ ∃ secret, e.Bears c.field secret) :
    ∃ fault, c.judge name none e = .error (.ours (.secret fault)) ∧ fault.Concerns name := by
  cases e with
  | raised f =>
    have hf : f.isTransport = true := ho
    refine ⟨.unreachable name f.text, ?_, .unreachable f.text⟩
    simp only [judge, hf, if_true]
  | reply status body =>
    have hdeep : isTooDeep body = false := by simpa [Exchange.isOrdinary] using ho
    by_cases hstatus : 400 ≤ status
    · exact ⟨.refused name status, judge_refused body hstatus, .refused status⟩
    · simp only [judge, if_neg hstatus, secretIn]
      split
      · exact ⟨_, rfl, .noField c.field⟩
      · rename_i t hbody
        have hstopped := not_stopped_of_isTooDeep hdeep hbody
        split
        · rename_i nest hnest
          exact absurd ⟨nest, hnest⟩ hstopped
        · exact ⟨_, rfl, .noField c.field⟩
        · rename_i v hv
          split
          · exact ⟨_, rfl, .noField c.field⟩
          · rename_i x xs hfound
            obtain ⟨document, outer, inner, rfl, houter, hinner, hfield⟩ :=
              fieldOf?_eq_some_iff_obj.mp hfound
            have hjson : IsJson t (.obj document) := (readWithin_eq_ok_iff hstopped).mp hv
            exact absurd ⟨x :: xs, .reply (Int.not_le.mp hstatus) hbody hjson houter hinner
              hfield (List.cons_ne_nil x xs)⟩ h
          · exact ⟨_, rfl, .notText c.field⟩

/-- **The client finds the secret of a reply,** and no other.  The two cases of the reply, with the
secret and without it, exclude each other, so the equivalence follows from them. -/
theorem judge_eq_ok_iff (ho : e.isOrdinary = true) :
    c.judge name none e = .ok secret ↔ e.Bears c.field secret := by
  constructor
  · intro h
    by_cases hbears : ∃ other, e.Bears c.field other
    · obtain ⟨other, hother⟩ := hbears
      rw [judge_of_bears ho hother] at h
      obtain rfl := Except.ok.inj h
      exact hother
    · obtain ⟨fault, hfault, -⟩ := judge_of_not_bears name ho hbears
      rw [hfault] at h
      cases h
  · intro h
    exact judge_of_bears ho h

/-! ## 3. Reads -/

/-- **Whether a read classifies what comes back:** it makes one request, it gives the secret just
if that is there, and else it fails with an error of ours that names the secret and tells the user
nothing. -/
structure Classifies (c : Client) (name : String) (s : Server) : Prop where
  asked : ∃ r, c.request name = .ok r ∧ (c.read name s).2.seen = s.seen ++ [r]
  found : ∀ secret, (c.read name s).1 = .ok secret ↔ s.next.Bears c.field secret
  missed : (¬ ∃ secret, s.next.Bears c.field secret) →
    ∃ fault, (c.read name s).1 = .error (.ours (.secret fault)) ∧
      (Text.quoted name).toList <:+: fault.cause.toList ∧
      (DrawError.secret fault).help = defaultHelp

variable {s : Server}

/-- A request that does not stumble is sent, and what comes back is judged as from a server. -/
theorem read_of_not_stumbles (h : ¬ c.Stumbles name s.next) :
    ∃ r, c.request name = .ok r ∧ c.read name s = (c.judge name none s.next, s.note r) := by
  cases hr : c.request name with
  | error f => exact absurd (stumbles_of_request hr).1 h
  | ok r =>
    refine ⟨r, rfl, ?_⟩
    simp only [read, hr]
    cases hserver : r.serverless with
    | none => rfl
    | some address =>
      obtain ⟨url, ha, habs⟩ := isAbsolute_of_request hr
      rw [hserver] at habs
      cases he : s.next with
      | raised f => rfl
      | reply status body => exact absurd (.serverless ha habs he) h

/-- **Every reply is classified,** whatever its status and its body, if the request for the secret
can be sent to a server: one request is made, the secret is found exactly if the reply bears it,
and what does not bear it is missed with an error of ours that names the secret.  If the request
stumbles, the read is no such one.  The exchange may be any that a server may give: a failure of
the transport, or a reply that is not nested too deep. -/
theorem read_classified_iff (ho : s.next.isOrdinary = true) :
    c.Classifies name s ↔ ¬ c.Stumbles name s.next := by
  constructor
  · intro h hstumbles
    obtain ⟨f, hf, hours, -⟩ := hstumbles.read
    by_cases hbears : ∃ secret, s.next.Bears c.field secret
    · obtain ⟨secret, hsecret⟩ := hbears
      rw [(h.found secret).mpr hsecret] at hf
      cases hf
    · obtain ⟨fault, hfault, -⟩ := h.missed hbears
      rw [hfault] at hf
      obtain rfl := Except.error.inj hf
      cases hours
  · intro h
    obtain ⟨r, hr, hread⟩ := read_of_not_stumbles h
    refine ⟨⟨r, hr, by rw [hread]; rfl⟩, fun secret => ?_, fun hnone => ?_⟩
    · rw [hread]
      exact judge_eq_ok_iff ho
    · obtain ⟨fault, hfault, hconcerns⟩ := judge_of_not_bears name ho hnone
      exact ⟨fault, by rw [hread]; exact hfault, hconcerns.named, hconcerns.help⟩

def keyholder : Client := ⟨"https://vault", "secret", "value", "v"⟩

def plainBody : List UInt8 :=
  Utf8.encode "\x7b\"data\":\x7b\"data\":\x7b\"value\":\"x\"\x7d\x7d\x7d"

theorem read_classified_plain :
    let s := Server.init [.reply 200 plainBody]
    s.next.isOrdinary = true ∧ keyholder.Classifies "slack" s ∧
      (keyholder.read "slack" s).1.toOption = some (Text.ofString "x") := by
  intro s
  have ho : s.next.isOrdinary = true := by decide +kernel
  have hsent : keyholder.request "slack" = .ok ⟨"/v1/secret/data/slack", "vault", "v", none⟩ :=
    ok_of_toOption (by decide +kernel)
  exact ⟨ho, (read_classified_iff ho).mpr (not_stumbles_of_request hsent rfl), by decide +kernel⟩

/-- A client whose address has a port that is no number. -/
def portClient : Client := ⟨"https://vault:port", "secret", "value", "v"⟩

/-- **The port escapes:** nothing is asked, though nothing in the address or in the token is a
control character or beyond ASCII and the server has the secret, and the error is none of ours. -/
theorem port_escapes :
    let s := Server.init [.reply 200 plainBody]
    (∀ x ∈ (portClient.secretUrl "slack").toList, Url.isControl x = false) ∧
      Utf8.notAscii? (Text.ofString portClient.token) = none ∧
      s.next.Bears portClient.field (Text.ofString "x") ∧
      (∃ f, portClient.read "slack" s = (.error f, s) ∧ f.isOurs = false) ∧
      ¬ portClient.Classifies "slack" s := by
  intro s
  have ho : s.next.isOrdinary = true := by decide +kernel
  have hjudge : portClient.judge "slack" none s.next = .ok (Text.ofString "x") :=
    ok_of_toOption (by decide +kernel)
  obtain ⟨f, hf⟩ := error_of_toOption
    (show (portClient.request "slack").toOption = none by decide +kernel)
  obtain ⟨hstumbles, hours, -⟩ := stumbles_of_request (e := s.next) hf
  refine ⟨not_isControl_of_all (by decide +kernel), by decide +kernel,
    (judge_eq_ok_iff ho).mp hjudge, ⟨f, by simp only [read, hf], hours⟩, fun h => ?_⟩
  exact (read_classified_iff ho).mp h hstumbles

end Client

end Vault

end Tombola
