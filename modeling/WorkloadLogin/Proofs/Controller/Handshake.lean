import WorkloadLogin.Config
import WorkloadLogin.Proofs.Controller.RecordAddress
import WorkloadLogin.Proofs.Controller.TokenProtocol

/-! # Connecting to a controller

A connection is made in stages: the settings name an address and an account, the controller names
the place where tokens are handed out, and a token is handed out there. Each stage is tried only
after the ones before it, and the first that fails says of which kind the failure is.
-/
namespace WorkloadLogin.Controller
open Http Platform
variable {α : Type} {settings : Settings} {ts : List Turn} {c : Credentials} {raw : String}
  {q : Request} {d : Json.Decoder α}

/-! ## Addresses and accounts -/

/-- The text is an address of the web. -/
def Addresses (raw : String) (u : Url) : Prop := Url.read raw = .ok (.web u)

/-- The text is no address of the web. -/
inductive Unusable : String → Platform.Error → Prop
  | unread {raw : String} {f : AddressFault} (h : Url.read raw = .error f) :
      Unusable raw (.invalidSettings ("address " ++ Text.quote raw ++ ": " ++ f.message))
  | elsewhere {raw : String} (h : Url.read raw = .ok .elsewhere) :
      Unusable raw (.invalidSettings ("address " ++ Text.quote raw ++ " is not an http(s) URL"))

/-- With whom and how tokens are asked for. A user logs in through the command line tool's client
unless another one is named; a client alone logs in for itself. -/
inductive Account (s : Settings) : Credentials → Prop
  | tool (hu : s.username ≠ "") (hc : s.clientId = "") :
      Account s ⟨"cf",s.clientSecret.getD "",.password s.username (s.password.getD "")⟩
  | user (hu : s.username ≠ "") (hc : s.clientId ≠ "") :
      Account s ⟨s.clientId,s.clientSecret.getD "",.password s.username (s.password.getD "")⟩
  | client (hu : s.username = "") (hc : s.clientId ≠ "") :
      Account s ⟨s.clientId,s.clientSecret.getD "",.clientCredentials⟩

theorem baseAddress_cases (raw : String) :
    (∃ u, baseAddress raw = .ok u ∧ Addresses raw u) ∨
      ∃ f, baseAddress raw = .error f ∧ Unusable raw f.toError := by
  unfold baseAddress
  cases h : Url.read raw with
  | error f => exact .inr ⟨_,rfl,.unread h⟩
  | ok target =>
    cases target with
    | elsewhere => exact .inr ⟨_,rfl,.elsewhere h⟩
    | web u => exact .inl ⟨u,rfl,h⟩

theorem ofSettings_cases (s : Settings) :
    (∃ c, Credentials.ofSettings s = .ok c ∧ Account s c) ∨
      Credentials.ofSettings s = .error .noAccount ∧ s.username = "" ∧ s.clientId = "" := by
  unfold Credentials.ofSettings
  by_cases hu : s.username = ""
  · by_cases hc : s.clientId = ""
    · exact .inr (by simp [hu,hc])
    · exact .inl ⟨_,by simp [hu,hc],.client hu hc⟩
  · by_cases hc : s.clientId = ""
    · exact .inl ⟨_,by simp [hu,hc,toolClientId],.tool hu hc⟩
    · exact .inl ⟨_,by simp [hu,hc],.user hu hc⟩

/-- Settings have an account unless they name neither a user nor a client. -/
theorem exists_account_iff {s : Settings} :
    (∃ c, Account s c) ↔ s.username ≠ "" ∨ s.clientId ≠ "" := by
  constructor
  · rintro ⟨_,h⟩
    cases h with
    | tool hu _ => exact .inl hu
    | user hu _ => exact .inl hu
    | client _ hc => exact .inr hc
  · intro h
    rcases ofSettings_cases s with ⟨c,-,hc⟩ | ⟨-,hu,hc⟩
    · exact ⟨c,hc⟩
    · exact absurd h (by simp [hu,hc])

/-- A complete configuration has an account, and one that is told to lack an account has none. -/
theorem account_of_gap? (config : Config) :
    (config.gap? = none → ∃ c, Account config.platformSettings c) ∧
      (config.gap? = some .account → ∀ c, ¬ Account config.platformSettings c) := by
  have hiff := exists_account_iff (s := config.platformSettings)
  have hsame : config.platformSettings.username = config.username ∧
      config.platformSettings.clientId = config.clientId := ⟨rfl,rfl⟩
  rw [hsame.1,hsame.2] at hiff
  unfold Config.gap?
  constructor
  · intro h
    refine hiff.mpr ?_
    split at h
    · cases h
    · split at h
      · cases h
      · split at h
        · cases h
        · rename_i hnamed
          by_cases hu : config.username = ""
          · exact .inr fun hc => hnamed (by simp [hu,hc])
          · exact .inl hu
  · intro h c hc
    have hnamed := hiff.mp ⟨c,hc⟩
    split at h
    · cases h
    · split at h
      · cases h
      · split at h
        · rename_i hnone
          simp only [Bool.and_eq_true,String.isEmpty_iff] at hnone
          exact absurd hnamed (by simp [hnone])
        · cases h

/-! ## Stages -/

/-- A request is sent and its reply is to carry a value. An address that cannot be put into a
request, for its host or its length, fails it on its way, so that the controller does not see it. -/
inductive Stage (q : Request) (d : Json.Decoder α) :
    List Turn → Except Platform.Error α → Prop
  | held (h : q.url.canBeSent = false) :
      Stage q d [] (.error (.transport ("builder error for url (" ++ q.url.render ++ ")")))
  | sent {reply : Option Reply} {r : Except Platform.Error α} (h : q.url.canBeSent = true)
      (hr : Fetches q.url d reply r) : Stage q d [⟨q,reply⟩] r

/-- Where the controller is asked for the place of its tokens. -/
def infoRequest (api : Url) : Request := { method := .get, url := api.behind "v2" "info" }

/-- Where tokens are handed out below an address. -/
def tokenPlace (base : Url) : Url := base.behind "oauth" "token"

/-- A connection attempt: its requests, each with the reply that came, and how it ends. -/
inductive Handshake (s : Settings) : List Turn → Except Platform.Error Client → Prop
  | noAddress {e : Platform.Error} (h : Unusable s.apiAddress e) : Handshake s [] (.error e)
  | noAccount {api : Url} (ha : Addresses s.apiAddress api) (hu : s.username = "")
      (hc : s.clientId = "") :
      Handshake s []
        (.error (.invalidSettings "either a username or a client id is required"))
  | undiscovered {api : Url} {c : Credentials} {ts : List Turn} {e : Platform.Error}
      (ha : Addresses s.apiAddress api) (hc : Account s c)
      (hi : Stage (infoRequest api) Wire.tokenEndpoint.decode ts (.error e)) :
      Handshake s ts (.error e)
  | misdirected {api : Url} {c : Credentials} {ts : List Turn} {raw : String}
      {e : Platform.Error} (ha : Addresses s.apiAddress api) (hc : Account s c)
      (hi : Stage (infoRequest api) Wire.tokenEndpoint.decode ts (.ok raw))
      (hr : Unusable raw e) : Handshake s ts (.error e)
  | untokened {api base : Url} {c : Credentials} {ts us : List Turn} {raw : String}
      {e : Platform.Error} (ha : Addresses s.apiAddress api) (hc : Account s c)
      (hi : Stage (infoRequest api) Wire.tokenEndpoint.decode ts (.ok raw))
      (hb : Addresses raw base)
      (ht : Stage (tokenRequest (tokenPlace base) c) Wire.accessToken.decode us (.error e)) :
      Handshake s (ts ++ us) (.error e)
  | connected {api base : Url} {c : Credentials} {ts us : List Turn} {raw token : String}
      (ha : Addresses s.apiAddress api) (hc : Account s c)
      (hi : Stage (infoRequest api) Wire.tokenEndpoint.decode ts (.ok raw))
      (hb : Addresses raw base)
      (ht : Stage (tokenRequest (tokenPlace base) c) Wire.accessToken.decode us (.ok token)) :
      Handshake s (ts ++ us) (.ok ⟨api,tokenPlace base,c,token⟩)

theorem below_info (u : Url) : u.below ["v2","info"] = u.behind "v2" "info" :=
  u.below_pair (by decide +kernel) (by decide +kernel) (by decide +kernel) (by decide)

theorem below_token (u : Url) : u.below ["oauth","token"] = tokenPlace u :=
  u.below_pair (by decide +kernel) (by decide +kernel) (by decide +kernel) (by decide)

theorem transcript_send_held (hu : q.url.userInfo = none)
    (hl : ∀ a ∈ q.authorizations, a.isLegal = true) (hh : q.url.canBeSent = false)
    {r : Except Fault Reply} (h : Transcript (send q).run ts r) :
    ts = [] ∧ r = .error (.failed (.unsendable q.url)) := by
  unfold send at h
  rcases h.of_bind_except with ⟨e,rfl,hlift⟩ | ⟨first,rest,a,rfl,hlift,hrest⟩
  · obtain ⟨_,_,_,-,-,hend⟩ := Transcript.of_bind (x := q.exchange) hlift
    obtain ⟨-,he⟩ := hend.of_pure
    cases he
  · obtain ⟨_,_,_,rfl,hexchange,hend⟩ := Transcript.of_bind (x := q.exchange) hlift
    obtain ⟨rfl,he⟩ := hend.of_pure
    cases he
    obtain ⟨rfl,rfl⟩ := hexchange.of_exchange_held hu hl hh
    obtain ⟨rfl,rfl⟩ := Transcript.of_pure hrest
    exact ⟨rfl,rfl⟩

/-- A request and the reading of its reply are one stage. -/
theorem stage_of_send (hu : q.url.userInfo = none)
    (hl : ∀ a ∈ q.authorizations, a.isLegal = true) {r : Except Fault Reply}
    (h : Transcript (send q).run ts r) :
    Stage q d ts ((r.bind (readReply q.url d)).mapError Fault.toError) := by
  cases hh : q.url.canBeSent with
  | false =>
    obtain ⟨rfl,rfl⟩ := transcript_send_held hu hl hh h
    exact .held hh
  | true =>
    obtain ⟨reply,rfl,rfl⟩ := transcript_send ⟨hu,hl,hh⟩ h
    exact .sent hh ((fetches_iff rfl).mpr rfl)

/-! ## The handshake -/

theorem orFail_ok_bind {β : Type} (a : α) (f : α → Action β) : (orFail (.ok a) >>= f) = f a := rfl

theorem orFail_error_bind {β : Type} (e : Fault) (f : α → Action β) :
    (orFail (.error e) >>= f) = throw e := rfl

/-- No reply names a place for tokens with user information in its address. -/
def PlainPlaces (ts : List Turn) : Prop :=
  ∀ t ∈ ts, ∀ reply ∈ t.reply, ∀ raw, Carries Wire.tokenEndpoint.decode reply.body raw →
    ∀ u, Addresses raw u → u.userInfo = none

/-- The addresses that a reply names as the place for tokens. -/
def place? (t : Turn) : Option Url := do
  let reply ← t.reply
  let v ← Json.read? reply.body
  let raw ← (Wire.tokenEndpoint.decode .refused v).toOption
  match Url.read raw with
  | .ok (.web u) => some u
  | _ => none

theorem place?_eq_some_iff {t : Turn} {u : Url} : place? t = some u ↔
    ∃ reply ∈ t.reply, ∃ raw, Carries Wire.tokenEndpoint.decode reply.body raw ∧
      Addresses raw u := by
  have hread : ∀ raw : String, (match Url.read raw with
      | .ok (.web u) => some u
      | _ => none) = some u ↔ Addresses raw u := by
    intro raw
    unfold Addresses
    split <;> simp_all
  have hvalue : ∀ {x : Except Json.DecodeError String} {raw},
      x.toOption = some raw ↔ x = .ok raw := by
    intro x raw
    cases x <;> simp [Except.toOption]
  simp only [place?,Option.bind_eq_bind,Option.bind_eq_some_iff,hread,hvalue,Carries,Option.mem_def]
  constructor
  · rintro ⟨reply,hreply,v,hv,raw,hraw,hu⟩
    exact ⟨reply,hreply,raw,⟨v,hv,hraw⟩,hu⟩
  · rintro ⟨reply,hreply,raw,⟨v,hv,hraw⟩,hu⟩
    exact ⟨reply,hreply,v,hv,raw,hraw,hu⟩

theorem plainPlaces_iff : PlainPlaces ts ↔ ∀ t ∈ ts, ∀ u ∈ place? t, u.userInfo = none := by
  simp only [Option.mem_def (b := place? _),place?_eq_some_iff]
  constructor
  · rintro h t ht u ⟨reply,hreply,raw,hraw,hu⟩
    exact h t ht reply hreply raw hraw u hu
  · intro h t ht reply hreply raw hraw u hu
    exact h t ht u ⟨reply,hreply,raw,hraw,hu⟩

instance decidablePlainPlaces (ts : List Turn) : Decidable (PlainPlaces ts) :=
  decidable_of_iff' _ plainPlaces_iff

theorem Stage.carries {a : α} (h : Stage q d ts (.ok a)) :
    ∃ reply, ts = [⟨q,some reply⟩] ∧ (200 ≤ reply.status ∧ reply.status < 300) ∧
      Carries d reply.body a := by
  cases h with
  | sent _ hr =>
    cases hr with
    | answered hr =>
      obtain _ | _ | _ | ⟨hs,hd⟩ := hr
      exact ⟨_,rfl,hs,hd⟩

theorem tokenRequest_legal (u : Url) (c : Credentials) :
    ∀ a ∈ (tokenRequest u c).authorizations, a.isLegal = true := by
  intro a ha
  obtain rfl := List.mem_singleton.mp ha
  rfl

/-- The stage in which a token is fetched. -/
theorem stage_of_fetchToken {u : Url} {r : Except Fault String} (hu : u.userInfo = none)
    (h : Transcript (fetchToken u c).run ts r) :
    Stage (tokenRequest u c) Wire.accessToken.decode ts (r.mapError Fault.toError) := by
  unfold fetchToken at h
  rcases h.of_bind_except with ⟨e,rfl,hsend⟩ | ⟨first,rest,reply,rfl,hsend,hread⟩
  · exact stage_of_send (q := tokenRequest u c) hu (tokenRequest_legal u c) hsend
  · obtain ⟨rfl,rfl⟩ := transcript_orFail hread
    rw [List.append_nil]
    exact stage_of_send (q := tokenRequest u c) hu (tokenRequest_legal u c) hsend

theorem infoRequest_legal (u : Url) : ∀ a ∈ (infoRequest u).authorizations, a.isLegal = true :=
  nofun

/-- What comes of a connection once its address and its account are settled. -/
theorem handshake_of_discovery {api : Url} {r : Except Fault Client}
    (ha : Addresses settings.apiAddress api) (hc : Account settings c)
    (hplain : api.userInfo = none) (hplaces : PlainPlaces ts)
    (h : Transcript (do
      let reply ← send (infoRequest api)
      let raw ← orFail (readReply (infoRequest api).url Wire.tokenEndpoint.decode reply)
      let base ← orFail (baseAddress raw)
      let token ← fetchToken (tokenPlace base) c
      return { api, tokenUrl := tokenPlace base, credentials := c, token } :
        Action Client).run ts r) :
    Handshake settings ts (r.mapError Fault.toError) := by
  have hstage : ∀ {us r'}, Transcript (send (infoRequest api)).run us r' →
      Stage (infoRequest api) Wire.tokenEndpoint.decode us
        ((r'.bind (readReply (infoRequest api).url Wire.tokenEndpoint.decode)).mapError
          Fault.toError) := fun h => stage_of_send hplain (infoRequest_legal api) h
  rcases h.of_bind_except with ⟨e,rfl,hsend⟩ | ⟨first,_,reply,rfl,hsend,hreplied⟩
  · exact .undiscovered ha hc (hstage hsend)
  have hinfo := hstage hsend
  rcases hreplied.of_bind_except with ⟨e,rfl,hread⟩ | ⟨_,us,raw,rfl,hread,htold⟩
  · obtain ⟨rfl,hvalue⟩ := transcript_orFail hread
    rw [Except.bind, ← hvalue] at hinfo
    rw [List.append_nil]
    exact .undiscovered ha hc hinfo
  obtain ⟨rfl,hvalue⟩ := transcript_orFail hread
  rw [Except.bind, ← hvalue] at hinfo
  rw [List.nil_append] at hplaces ⊢
  obtain ⟨base,hbase,hb⟩ | ⟨f,hbase,hu⟩ := baseAddress_cases raw
  · rw [hbase,orFail_ok_bind] at htold
    have hbaseplain : base.userInfo = none := by
      obtain ⟨reply,rfl,-,hcarries⟩ := hinfo.carries
      exact hplaces ⟨infoRequest api,some reply⟩ (by simp) reply rfl raw hcarries base hb
    rcases htold.of_bind_except with ⟨e,rfl,hfetch⟩ | ⟨_,_,token,rfl,hfetch,hend⟩
    · exact .untokened ha hc hinfo hb (stage_of_fetchToken (u := tokenPlace base) hbaseplain hfetch)
    · obtain ⟨rfl,rfl⟩ := Transcript.of_pure hend
      rw [List.append_nil]
      exact .connected ha hc hinfo hb (stage_of_fetchToken (u := tokenPlace base) hbaseplain hfetch)
  · rw [hbase,orFail_error_bind] at htold
    obtain ⟨rfl,rfl⟩ := Transcript.of_pure htold
    rw [List.append_nil]
    exact .misdirected ha hc hinfo hu

theorem checkTrust_of_nil (h : settings.trustedCertificates = []) :
    checkTrust settings = .ok () := by
  simp [checkTrust,h]

theorem handshake_of_transcript {r : Except Fault Client}
    (htrust : settings.trustedCertificates = [])
    (hplain : ∀ u, Addresses settings.apiAddress u → u.userInfo = none)
    (hplaces : PlainPlaces ts) (h : Transcript (connect settings).run ts r) :
    Handshake settings ts (r.mapError Fault.toError) := by
  unfold connect at h
  obtain ⟨api,hapi,ha⟩ | ⟨f,hapi,hu⟩ := baseAddress_cases settings.apiAddress
  · rw [hapi,orFail_ok_bind] at h
    obtain ⟨c,haccount,hc⟩ | ⟨haccount,hu,hc⟩ := ofSettings_cases settings
    · simp only [haccount,orFail_ok_bind,checkTrust_of_nil htrust,below_info,below_token] at h
      exact handshake_of_discovery ha hc (hplain api ha) hplaces h
    · rw [haccount,orFail_error_bind] at h
      obtain ⟨rfl,rfl⟩ := Transcript.of_pure h
      exact .noAccount ha hu hc
  · rw [hapi,orFail_error_bind] at h
    obtain ⟨rfl,rfl⟩ := Transcript.of_pure h
    exact .noAddress hu

/-! ## What a handshake sends -/

variable {res : Except Platform.Error Client} {r : Except Fault Client}

theorem Stage.turns {e : Except Platform.Error α} (h : Stage q d ts e) :
    ts = [] ∨ ∃ reply, ts = [⟨q,reply⟩] := by
  cases h with
  | held => exact .inl rfl
  | sent => exact .inr ⟨_,rfl⟩

theorem Stage.requestsBy_le {e : Except Platform.Error α} {m : Method} (h : Stage q d ts e) :
    requestsBy m ts ≤ 1 := by
  rcases h.turns with rfl | ⟨reply,rfl⟩
  · exact Nat.zero_le _
  · exact List.countP_le_length

theorem Stage.requestsBy_of_ne {e : Except Platform.Error α} {m : Method} (h : Stage q d ts e)
    (hm : q.method ≠ m) : requestsBy m ts = 0 := by
  rcases h.turns with rfl | ⟨reply,rfl⟩
  · rfl
  · simp [requestsBy,hm]

theorem requestsBy_append (m : Method) (ts us : List Turn) :
    requestsBy m (ts ++ us) = requestsBy m ts + requestsBy m us := List.countP_append

/-- One request of either kind is sent at most. -/
theorem Handshake.bounded (h : Handshake settings ts res) :
    requestsBy .get ts ≤ 1 ∧ requestsBy .post ts ≤ 1 := by
  have hpair : ∀ {api u : Url} {c : Credentials} {us vs : List Turn}
      {x y : Except Platform.Error String},
      Stage (infoRequest api) Wire.tokenEndpoint.decode us x →
      Stage (tokenRequest u c) Wire.accessToken.decode vs y →
      requestsBy .get (us ++ vs) ≤ 1 ∧ requestsBy .post (us ++ vs) ≤ 1 := by
    intro api u c us vs x y hi ht
    have hinfo : (infoRequest api).method ≠ .post := nofun
    have htoken : (tokenRequest u c).method ≠ .get := nofun
    rw [requestsBy_append,requestsBy_append,hi.requestsBy_of_ne hinfo,
      ht.requestsBy_of_ne htoken,Nat.add_zero,Nat.zero_add]
    exact ⟨hi.requestsBy_le,ht.requestsBy_le⟩
  cases h with
  | noAddress | noAccount => exact ⟨Nat.zero_le _,Nat.zero_le _⟩
  | undiscovered _ _ hi | misdirected _ _ hi => exact ⟨hi.requestsBy_le,hi.requestsBy_le⟩
  | untokened _ _ hi _ ht | connected _ _ hi _ ht => exact hpair hi ht

theorem Stage.not_handsOut {e : Except Platform.Error α} {token : String} (h : Stage q d ts e)
    (hq : q.method = .get) : ∀ t ∈ ts, ¬ HandsOut t token := by
  rcases h.turns with rfl | ⟨reply,rfl⟩
  · exact fun t ht => absurd ht List.not_mem_nil
  · intro t ht
    obtain rfl := List.mem_singleton.mp ht
    exact not_handsOut_get hq

/-- A token is the value of the stage exactly when it is handed out in it. -/
theorem Stage.handsOut_iff {u : Url} {e : Except Platform.Error String} {token : String}
    (h : Stage (tokenRequest u c) Wire.accessToken.decode ts e) :
    (∃ t ∈ ts, HandsOut t token) ↔ e = .ok token := by
  constructor
  · rintro ⟨t,ht,-,reply,hreply,hs,hd⟩
    cases h with
    | held => cases ht
    | sent _ hf =>
      obtain rfl := List.mem_singleton.mp ht
      cases hreply
      cases hf with
      | answered hr => exact (reads_iff.mp hr).trans (reads_iff.mp (.value hs hd)).symm
  · rintro rfl
    obtain ⟨reply,rfl,hs,hd⟩ := h.carries
    exact ⟨_,List.mem_singleton_self _,rfl,reply,rfl,hs,hd⟩

/-- The client that is connected has the token that was handed out, and there is one only then. -/
theorem Handshake.connects_iff {token : String} (h : Handshake settings ts res) :
    (∃ client, res = .ok client ∧ client.token = token) ↔ ∃ t ∈ ts, HandsOut t token := by
  have hsplit : ∀ {api u : Url} {c : Credentials} {us vs : List Turn}
      {x y : Except Platform.Error String},
      Stage (infoRequest api) Wire.tokenEndpoint.decode us x →
      Stage (tokenRequest u c) Wire.accessToken.decode vs y →
      ((∃ t ∈ us ++ vs, HandsOut t token) ↔ y = .ok token) := by
    intro api u c us vs x y hi ht
    rw [← ht.handsOut_iff]
    constructor
    · rintro ⟨t,hmem,hout⟩
      rcases List.mem_append.mp hmem with hmem | hmem
      · exact absurd hout (hi.not_handsOut rfl t hmem)
      · exact ⟨t,hmem,hout⟩
    · rintro ⟨t,hmem,hout⟩
      exact ⟨t,List.mem_append_right _ hmem,hout⟩
  cases h with
  | noAddress | noAccount => simp
  | undiscovered _ _ hi | misdirected _ _ hi =>
    have hnone : ∀ t ∈ _, ¬ HandsOut t token := hi.not_handsOut rfl
    simpa using hnone
  | untokened _ _ hi _ ht | connected _ _ hi _ ht =>
    rw [hsplit hi ht]
    simp

/-- Without further trusted certificates and without user information in addresses, a connection is
made stage by stage, whoever answers: nothing is sent before the address and the account are
settled, then the place of the tokens is asked for, and only with a place a token. An address that
cannot be put into a request ends its stage unasked. There is a client exactly when a token was
handed out, and it has that token. A complete configuration has an account. -/
theorem connects_by_handshake (htrust : settings.trustedCertificates = [])
    (hplain : ∀ u, Addresses settings.apiAddress u → u.userInfo = none)
    (hplaces : PlainPlaces ts) (h : Transcript (connect settings).run ts r) :
    Handshake settings ts (r.mapError Fault.toError) ∧
      (requestsBy .get ts ≤ 1 ∧ requestsBy .post ts ≤ 1) ∧
      (∀ token, (∃ client, r = .ok client ∧ client.token = token) ↔ ∃ t ∈ ts, HandsOut t token) ∧
      ∀ config : Config, (config.gap? = none → ∃ c, Account config.platformSettings c) ∧
        (config.gap? = some .account → ∀ c, ¬ Account config.platformSettings c) := by
  have hshake := handshake_of_transcript htrust hplain hplaces h
  refine ⟨hshake,hshake.bounded,fun token => ?_,account_of_gap?⟩
  have hconnects : (∃ client, r.mapError Fault.toError = .ok client ∧ client.token = token) ↔
      ∃ t ∈ ts, HandsOut t token := hshake.connects_iff
  simpa only [mapError_ok_iff] using hconnects

/-- A user without a client of their own, and an address with a path. -/
def pathSettings : Settings :=
  { apiAddress := "http://[::1]/cf/", username := "admin", password := some "pw" }

def pathRoutes : Routes where
  routes := [
    ⟨.get,"http://[::1]/cf/v2/info",[some ⟨200,"\x7b\"token_endpoint\":\"http://[::2]\"\x7d"⟩]⟩,
    ⟨.post,"http://[::2]/oauth/token",[some ⟨200,"\x7b\"access_token\":\"first\"\x7d"⟩]⟩]

theorem connects_by_handshake_path :
    Handshake pathSettings (Routes.peer.turns (connect pathSettings).run pathRoutes)
      (.ok {
        api := { scheme := .http, host := .v6 1, path := ["cf",""] }
        tokenUrl := { scheme := .http, host := .v6 2, path := ["oauth","token"] }
        credentials := ⟨"cf","",.password "admin" "pw"⟩
        token := "first" }) ∧
      (Routes.peer.turns (connect pathSettings).run pathRoutes).map (fun t =>
        (t.request.url.render,t.request.authorizations.map Authorization.render)) =
        [("http://[::1]/cf/v2/info",[]),("http://[::2]/oauth/token",["Basic Y2Y6"])] := by
  have hend : (Routes.peer.talk (connect pathSettings).run pathRoutes).1 = .ok {
      api := { scheme := .http, host := .v6 1, path := ["cf",""] }
      tokenUrl := { scheme := .http, host := .v6 2, path := ["oauth","token"] }
      credentials := ⟨"cf","",.password "admin" "pw"⟩
      token := "first" } := by decide +kernel
  have htalk := transcript_talk Routes.peer (connect pathSettings).run pathRoutes
  rw [hend] at htalk
  refine ⟨(connects_by_handshake rfl ?_ (by decide +kernel) htalk).1,by decide +kernel⟩
  intro u hu
  have hread : Addresses pathSettings.apiAddress
      { scheme := .http, host := .v6 1, path := ["cf",""] } := rfl
  cases hread.symm.trans hu
  rfl

/-! ## A host that is not asked -/

/-- An address of the web whose host has no place in a request. -/
def bracedHost : Url := { scheme := .http, host := .name "a\x7bb" }

def bracedSettings : Settings := { apiAddress := "http://a\x7bb", clientId := "broker" }

theorem transcript_connect_braced (h : Transcript (connect bracedSettings).run ts r) :
    ts = [] ∧ r = .error (.failed (.unsendable (infoRequest bracedHost).url)) := by
  have hbase : baseAddress bracedSettings.apiAddress = .ok bracedHost := by decide +kernel
  have haccount : Credentials.ofSettings bracedSettings =
      .ok ⟨"broker","",.clientCredentials⟩ := by decide +kernel
  have htrust : checkTrust bracedSettings = .ok () := checkTrust_of_nil rfl
  have hheld : (infoRequest bracedHost).url.canBeSent = false := by decide +kernel
  have hsent : ∀ {us} {r' : Except Fault Reply},
      Transcript (send (infoRequest bracedHost)).run us r' →
        us = [] ∧ r' = .error (.failed (.unsendable (infoRequest bracedHost).url)) :=
    fun hsend => transcript_send_held rfl (infoRequest_legal bracedHost) hheld hsend
  unfold connect at h
  simp only [hbase,haccount,htrust,orFail_ok_bind,below_info] at h
  rcases h.of_bind_except with ⟨e,rfl,hsend⟩ | ⟨_,_,_,rfl,hsend,-⟩
  · obtain ⟨rfl,he⟩ := hsent hsend
    cases he
    exact ⟨rfl,rfl⟩
  · cases (hsent hsend).2

/-- Controllers, one of them at such a host, that name such a host as the place for tokens. -/
def bracedRoutes : Routes where
  routes := ["http://[::1]/v2/info","http://a\x7bb/v2/info"].map fun url =>
    ⟨.get,url,[some ⟨200,"\x7b\"token_endpoint\":\"http://a\x7bb\"\x7d"⟩]⟩

/-- An address of the web and an account are not enough for a request: no controller of that host is
asked for the place of its tokens, and nobody for a token at that host. -/
theorem braced_host_unasked :
    (bracedSettings.trustedCertificates = [] ∧ Addresses bracedSettings.apiAddress bracedHost ∧
      bracedHost.userInfo = none ∧ Account bracedSettings ⟨"broker","",.clientCredentials⟩ ∧
      ∀ ts r, Transcript (connect bracedSettings).run ts r → ts = [] ∧
        r.mapError Fault.toError =
          .error (.transport "builder error for url (http://a\x7bb/v2/info)")) ∧
      Routes.peer.turns (connect bracedSettings).run bracedRoutes = [] ∧
      Addresses "http://a\x7bb" bracedHost ∧
      (Routes.peer.turns (connect sampleSettings).run bracedRoutes).map Turn.request =
        [infoRequest sampleClient.api] := by
  have haddress : Addresses "http://a\x7bb" bracedHost := by
    unfold Addresses
    decide +kernel
  have hasked := transcript_talk Routes.peer (connect bracedSettings).run bracedRoutes
  refine ⟨⟨rfl,haddress,rfl,.client rfl (by decide),fun ts r h => ?_⟩,
    (transcript_connect_braced hasked).1,haddress,by decide +kernel⟩
  obtain ⟨rfl,rfl⟩ := transcript_connect_braced h
  exact ⟨rfl,by decide +kernel⟩

end WorkloadLogin.Controller
