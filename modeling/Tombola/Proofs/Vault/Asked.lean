import Tombola.Proofs.Url.Path
import Tombola.Proofs.Vault.Reading
/-!
# Which secret is asked for

A client writes the name of a secret into an address as it is, and the address is read again when
the request is made.  So the request is for the secret of that name if the name stands for itself in
a path (`Url.IsLiteral`), and for another secret if it does not: a question mark or a number sign
cuts the name short, points lead out of the place of the secrets, and an escape is read.  The same
holds of the place of the secrets.  Nothing of this fails; the client shows its token and is told
another secret.

Main statements:

* `seen_read_iff`, `sends_iff`: the reads that send a request;
* `path_eq_iff`: the names whose request is for the secret of that name;
* `asks_for_named_secret`: both, for any server, and that such names are told apart;
* `question_mark_cuts`: a name that is cut short.
-/

namespace Tombola.Vault

/-- Whether a text names a server that requests can be sent to. -/
structure IsServer (server : String) : Prop where
  nonempty : server ≠ ""
  authority : Url.IsAuthority server.toList
  named : ∃ u shown, Url.parse ("https://" ++ server) = .ok u ∧ u.isAbsolute = true ∧
    u.shownHost = .ok shown ∧ Utf8.notAscii? (Text.ofString u.authority) = none

namespace Client

def ofServer (server token mount field : String) : Client :=
  create ("https://" ++ server) token mount field

/-- Where a secret is to be found on the server. -/
def place (mount name : String) : String :=
  "/v1/" ++ Text.trimmed isSlash mount ++ "/data/" ++ Text.trimmed isSlash name

/-- Whether the address of a secret can be sent, and the token. -/
structure Sendable (c : Client) (name : String) : Prop where
  short : (c.secretUrl name).toList.length ≤ Url.maxLength
  printable : ∀ x ∈ (c.secretUrl name).toList, Url.isControl x = false
  token : Utf8.notAscii? (Text.ofString c.token) = none

/-- Whether a secret can be asked for by its name: what is written into the address of it stands for
itself there. -/
def IsNamed (mount name : String) : Prop :=
  Url.IsLiteral (Text.trimmed isSlash mount).toList ∧
    Url.IsLiteral (Text.trimmed isSlash name).toList

instance (mount name : String) : Decidable (IsNamed mount name) :=
  inferInstanceAs (Decidable (_ ∧ _))

variable {server token mount field name : String} {c : Client}

/-! ## 1. Places -/

theorem address_ofServer (h : IsServer server) :
    (ofServer server token mount field).address = "https://" ++ server := by
  have hslash : ∀ c ∈ server.toList, isSlash c = false := by
    intro c hc
    simpa [isSlash] using (h.authority c hc).1
  obtain ⟨c, hc⟩ := List.exists_mem_of_ne_nil server.toList (by simpa using h.nonempty)
  have htrim :
      Text.trimEnd isSlash ("https://" ++ server).toList = ("https://" ++ server).toList := by
    rw [String.toList_append, Text.trimEnd_append_of_mem hc (hslash c hc),
      Text.trimEnd_eq_self hslash]
  rw [ofServer, create, htrim, String.ofList_toList]

theorem secretUrl_ofServer (h : IsServer server) :
    ((ofServer server token mount field).secretUrl name).toList =
      "https://".toList ++ (server.toList ++ (place mount name).toList) := by
  rw [secretUrl, address_ofServer h]
  simp only [ofServer, create, place, String.toList_append, List.append_assoc]

theorem place_toList (mount name : String) :
    (place mount name).toList = '/' :: ("v1".toList ++ '/' ::
      ((Text.trimmed isSlash mount).toList ++ '/' ::
        ("data".toList ++ '/' :: (Text.trimmed isSlash name).toList))) := by
  have hversion : "/v1/".toList = '/' :: ("v1".toList ++ ['/']) := by decide
  have hdata : "/data/".toList = '/' :: ("data".toList ++ ['/']) := by decide
  simp only [place, String.toList_append, hversion, hdata, List.append_assoc, List.cons_append,
    List.nil_append]

/-- **A place is literal** if the place of the secrets and the name are. -/
theorem isLiteral_place_iff : Url.IsLiteral (place mount name).toList ↔ IsNamed mount name := by
  have hnil : Url.IsLiteral [] := by decide +kernel
  have hversion : Url.IsLiteral "v1".toList := by decide +kernel
  have hdata : Url.IsLiteral "data".toList := by decide +kernel
  rw [place_toList, ← List.nil_append ('/' :: _)]
  simp only [Url.isLiteral_append_iff, hnil, hversion, hdata, true_and, IsNamed]

/-! ## 2. Requests -/

/-- The address of a secret on a server, with the path that is written into it. -/
theorem parse_secretUrl (h : IsServer server)
    (hsend : (ofServer server token mount field).Sendable name) :
    ∃ u shown, Url.parse ((ofServer server token mount field).secretUrl name) = .ok u ∧
      u.isAbsolute = true ∧ u.shownHost = .ok shown ∧
      Utf8.notAscii? (Text.ofString u.authority) = none ∧
      u.path = Url.encodePath (Url.removeDots (Url.pathPart (place mount name).toList)) := by
  obtain ⟨u, shown, hparse, habs, hshown, hauthority⟩ := h.named
  have hserver : ("https://" ++ server).toList = "https://".toList ++ (server.toList ++ []) := by
    rw [String.toList_append, List.append_nil]
  -- The server alone and the server with the path are read alike up to the path.
  rw [Url.parse_https hserver h.authority (.inl rfl) (Url.of_parse hparse).1
    (Url.of_parse hparse).2] at hparse
  rw [Url.parse_https (secretUrl_ofServer h) h.authority (.inr ⟨_, place_toList mount name⟩)
    hsend.short hsend.printable]
  cases hv : Url.ofServer server.toList with
  | error fault =>
    rw [hv] at hparse
    cases hparse
  | ok v =>
    rw [hv] at hparse
    obtain rfl := Except.ok.inj hparse
    simp only [Url.isAbsolute_withPath, Url.shownHost_withPath, Url.authority_withPath]
      at habs hshown hauthority
    refine ⟨v.withPath _ _, shown, rfl, ?_, ?_, ?_, ?_⟩
    · rw [Url.isAbsolute_withPath, habs]
    · rw [Url.shownHost_withPath, hshown]
    · rw [Url.authority_withPath, hauthority]
    · rw [Url.path_withPath]

/-- **What is requested** where the address and the token can be sent. -/
theorem request_of_sendable (h : IsServer server)
    (hsend : (ofServer server token mount field).Sendable name) :
    ∃ r, (ofServer server token mount field).request name = .ok r ∧
      (r.path = place mount name ↔ IsNamed mount name) := by
  obtain ⟨u, shown, hparse, habs, hshown, hauthority, hpath⟩ := parse_secretUrl h hsend
  refine ⟨⟨u.decodedPath, shown, token, none⟩, ?_, ?_⟩
  · have htoken : Utf8.notAscii? (Text.ofString token) = none := hsend.token
    have hclient : (ofServer server token mount field).token = token := rfl
    simp only [request, hparse, hclient, htoken, habs, hshown, hauthority, if_true]
  · rw [place_toList] at hpath
    have hiff := Url.decodedPath_eq_iff hpath
    rw [← place_toList, String.ofList_toList, isLiteral_place_iff] at hiff
    exact hiff

/-- **What a read sends** is the request for the secret, if there is one. -/
theorem seen_read_iff {s : Server} {r : Request} :
    (c.read name s).2.seen = s.seen ++ [r] ↔ c.request name = .ok r := by
  unfold read
  cases c.request name with
  | error f => simp
  | ok sent => simp [Server.note]

/-- **The reads that send a request** are those whose address and token can be sent. -/
theorem sends_iff (h : IsServer server) {s : Server} :
    (∃ r, ((ofServer server token mount field).read name s).2.seen = s.seen ++ [r]) ↔
      (ofServer server token mount field).Sendable name := by
  simp only [seen_read_iff]
  constructor
  · rintro ⟨r, hr⟩
    obtain ⟨u, hparse, -⟩ := isAbsolute_of_request hr
    obtain ⟨hshort, hprintable⟩ := Url.of_parse hparse
    refine ⟨hshort, hprintable, ?_⟩
    cases ht : Utf8.notAscii? (Text.ofString (ofServer server token mount field).token) with
    | none => rfl
    | some beyond => simp only [request, hparse, ht, reduceCtorEq] at hr
  · intro hsend
    obtain ⟨r, hr, -⟩ := request_of_sendable h hsend
    exact ⟨r, hr⟩

/-- **The names whose request is for the secret of that name:** what is
written into the address stands for itself there, both the place of the secrets and the name. -/
theorem path_eq_iff (h : IsServer server) {s : Server} {r : Request}
    (hr : ((ofServer server token mount field).read name s).2.seen = s.seen ++ [r]) :
    r.path = place mount name ↔ IsNamed mount name := by
  obtain ⟨sent, hsent, hpath⟩ := request_of_sendable h ((sends_iff h).mp ⟨r, hr⟩)
  obtain rfl := Except.ok.inj (hsent.symm.trans (seen_read_iff.mp hr))
  exact hpath

theorem place_eq_iff {other : String} :
    place mount name = place mount other ↔
      Text.trimmed isSlash name = Text.trimmed isSlash other := by
  constructor
  · intro h
    have hlists := congrArg String.toList h
    simp only [place, String.toList_append] at hlists
    exact String.toList_injective (List.append_cancel_left hlists)
  · intro h
    rw [place, place, h]

/-- **How a client asks for secrets:** a request is sent exactly if its address and its token can be
sent; it is for the secret of the name exactly if the name and the place of the secrets stand for
themselves in a path; and so names that do are told apart, up to the slashes around them. -/
structure AsksByName (c : Client) (mount : String) : Prop where
  sends : ∀ name s, (∃ r, (c.read name s).2.seen = s.seen ++ [r]) ↔ c.Sendable name
  named : ∀ name s r, (c.read name s).2.seen = s.seen ++ [r] →
    (r.path = place mount name ↔ IsNamed mount name)
  apart : ∀ name s r other s' r', (c.read name s).2.seen = s.seen ++ [r] →
    (c.read other s').2.seen = s'.seen ++ [r'] → IsNamed mount name → IsNamed mount other →
      (r.path = r'.path ↔ Text.trimmed isSlash name = Text.trimmed isSlash other)

/-- **Every client of a server asks for the secret that is named, if the name can stand in a path.**
Whatever its token, its field and its place are: it sends a request exactly if the address and the
token can be sent; the path of the request, as the server decodes it, is the place of the secret
exactly if the place of the secrets and the name are literal; and two such names are asked for under
one path just if they are the same but for the slashes around them. -/
theorem asks_for_named_secret (h : IsServer server) (token mount field : String) :
    (ofServer server token mount field).AsksByName mount where
  sends name s := sends_iff h
  named name s r hr := path_eq_iff h hr
  apart name s r other s' r' hr hr' hname hother := by
    rw [(path_eq_iff h hr).mpr hname, (path_eq_iff h hr').mpr hother, place_eq_iff]

theorem isServer_vault : IsServer "vault" where
  nonempty := by decide
  authority := by
    intro c hc
    have hall : "vault".toList.all (fun c => decide (c ≠ '/' ∧ c ≠ '?' ∧ c ≠ '#')) = true := by
      decide
    exact of_decide_eq_true (List.all_eq_true.mp hall c hc)
  named := by
    have hread : (Url.parse ("https://" ++ "vault")).toOption.map (fun u =>
        (u.isAbsolute, u.shownHost.toOption, Utf8.notAscii? (Text.ofString u.authority)))
          = some (true, some "vault", none) := by decide +kernel
    obtain ⟨u, hu, hparts⟩ := Option.map_eq_some_iff.mp hread
    obtain ⟨habs, hrest⟩ := Prod.mk.inj hparts
    obtain ⟨hshown, hauthority⟩ := Prod.mk.inj hrest
    exact ⟨u, "vault", ok_of_toOption hu, habs, ok_of_toOption hshown, hauthority⟩

def teamClient : Client := ofServer "vault" "v" "/team/" "value"

theorem asks_for_named_secret_slack :
    IsServer "vault" ∧ teamClient.AsksByName "/team/" ∧
      ∀ s : Server, ∃ r, (teamClient.read "slack" s).2.seen = s.seen ++ [r] ∧
        r.path = "/v1/team/data/slack" := by
  have hasks : teamClient.AsksByName "/team/" :=
    asks_for_named_secret isServer_vault "v" "/team/" "value"
  have hsend : teamClient.Sendable "slack" :=
    ⟨by decide +kernel, not_isControl_of_all (by decide +kernel), by decide +kernel⟩
  refine ⟨isServer_vault, hasks, fun s => ?_⟩
  obtain ⟨r, hr⟩ := (hasks.sends "slack" s).mpr hsend
  have hpath : r.path = place "/team/" "slack" :=
    (hasks.named "slack" s r hr).mpr (by decide +kernel)
  exact ⟨r, hr, hpath.trans (by decide +kernel)⟩

/-- **A question mark cuts a name short:** the address can be sent and there is no control character
in it, and the request is the one for another secret. -/
theorem question_mark_cuts :
    teamClient.Sendable "a?b" ∧ teamClient.request "a?b" = teamClient.request "a" ∧
      ∀ s : Server, ∃ r, (teamClient.read "a?b" s).2.seen = s.seen ++ [r] ∧
        r.path = "/v1/team/data/a" ∧ place "/team/" "a?b" = "/v1/team/data/a?b" := by
  have hone : teamClient.request "a?b" = .ok ⟨"/v1/team/data/a", "vault", "v", none⟩ :=
    ok_of_toOption (by decide +kernel)
  have hother : teamClient.request "a" = .ok ⟨"/v1/team/data/a", "vault", "v", none⟩ :=
    ok_of_toOption (by decide +kernel)
  refine ⟨⟨by decide +kernel, not_isControl_of_all (by decide +kernel), by decide +kernel⟩,
    hone.trans hother.symm, ?_⟩
  intro s
  exact ⟨_, seen_read_iff.mpr hone, rfl, by decide +kernel⟩

end Client

end Tombola.Vault
