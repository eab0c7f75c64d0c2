import WorkloadLogin.Proofs.Controller.TokenProtocol
import WorkloadLogin.Proofs.Http.Lockstep

/-! # Secrets do not show

A client that connects with other secrets and is given the same replies asks for the same things at
the same addresses with the same tokens, and comes to the same results. All that can tell the two
apart is in the requests for a token: the password of the client's authorization and, for a user who
logs in, the password of the form.
-/
namespace WorkloadLogin.Controller
open Http Platform
variable {c c' : Client} {d d' : Credentials} {kind : Kind} {guid : String}

/-- A field of a form that is the same in both, unless it holds the password. -/
def SameField (f f' : String × String) : Prop := f.1 = f'.1 ∧ (f.1 ≠ "password" → f.2 = f'.2)

/-- The requests are the same, or both ask for a token and differ in nothing but the password of
the last authorization and that of the form. -/
inductive SameButSecrets : Request → Request → Prop
  | same (q : Request) : SameButSecrets q q
  | token {url : Url} {before : List Authorization} {user secret secret' : String}
      {form form' : List (String × String)} (h : List.Forall₂ SameField form form') :
      SameButSecrets
        { method := .post, url := url, authorizations := before ++ [.basic user secret]
          form := some form }
        { method := .post, url := url, authorizations := before ++ [.basic user secret']
          form := some form' }

/-- The tokens that a request is sent with. -/
def bearerTokens (q : Request) : List String :=
  q.authorizations.filterMap fun
    | .bearer token => some token
    | .basic _ _ => none

theorem SameButSecrets.url_eq {q q' : Request} (h : SameButSecrets q q') : q.url = q'.url := by
  cases h <;> rfl

theorem SameButSecrets.bearerTokens_eq {q q' : Request} (h : SameButSecrets q q') :
    bearerTokens q = bearerTokens q' := by
  cases h with
  | same => rfl
  | token _ => simp [bearerTokens]

/-! ## Credentials and clients that differ in secrets only -/

inductive Grant.Alike : Grant → Grant → Prop
  | password (username p p' : String) : Alike (.password username p) (.password username p')
  | clientCredentials : Alike .clientCredentials .clientCredentials

structure Credentials.Alike (d d' : Credentials) : Prop where
  clientId : d.clientId = d'.clientId
  grant : d.grant.Alike d'.grant

structure Client.Alike (c c' : Client) : Prop where
  api : c.api = c'.api
  tokenUrl : c.tokenUrl = c'.tokenUrl
  credentials : c.credentials.Alike c'.credentials
  token : c.token = c'.token

theorem matches_ofSettings (settings : Settings) (password clientSecret : Option String) :
    Matches Credentials.Alike (Credentials.ofSettings settings)
      (Credentials.ofSettings { settings with password, clientSecret }) := by
  unfold Credentials.ofSettings
  dsimp only
  split
  · exact .ok ⟨rfl,.password ..⟩
  · split
    · exact .ok ⟨rfl,.clientCredentials⟩
    · exact .error _

theorem Credentials.Alike.form (h : d.Alike d') : List.Forall₂ SameField d.form d'.form := by
  have hsame : ∀ f, SameField f f := fun f => ⟨rfl,fun _ => rfl⟩
  obtain ⟨id,secret,grant⟩ := d
  obtain ⟨id',secret',grant'⟩ := d'
  obtain ⟨-,hgrant⟩ := h
  cases hgrant with
  | password username p p' =>
    exact .cons (hsame _) (.cons (hsame _) (.cons ⟨rfl,fun hne => absurd rfl hne⟩ .nil))
  | clientCredentials => exact .cons (hsame _) .nil

/-! ## Requests for a token -/

theorem lockstep_exchange_tokenRequest (url : Url) (h : d.Alike d') :
    Lockstep SameButSecrets Eq (tokenRequest url d).exchange (tokenRequest url d').exchange := by
  obtain ⟨sent,before,hsent⟩ := Request.exists_withoutUserInfo url
  have hd := hsent (tokenRequest url d) rfl
  have hd' := hsent (tokenRequest url d') rfl
  refine .exchange ?_ ?_ ?_
  · rw [hd, hd']
    simp only [tokenRequest, ← h.clientId]
    exact .token h.form
  · rw [hd, hd']
  · rw [hd, hd']
    simp [tokenRequest, Authorization.isLegal]

theorem lockstep_send {q q' : Request}
    (h : Lockstep SameButSecrets Eq q.exchange q'.exchange) :
    Lockstep SameButSecrets (Matches Eq) (send q).run (send q').run := by
  refine h.lift.bind_except ?_
  rintro r _ rfl
  cases r with
  | ok reply => exact .done (.ok rfl)
  | error f => exact .done (.error _)

theorem lockstep_orFail {α β : Type} {E : α → β → Prop} {r : Except Fault α} {r' : Except Fault β}
    (h : Matches E r r') : Lockstep SameButSecrets (Matches E) (orFail r).run (orFail r').run := by
  cases h with
  | error e => exact .done (.error e)
  | ok h => exact .done (.ok h)

theorem lockstep_fetchToken (url : Url) (h : d.Alike d') :
    Lockstep SameButSecrets (Matches Eq) (fetchToken url d).run (fetchToken url d').run := by
  refine (lockstep_send (lockstep_exchange_tokenRequest url h)).bind_except ?_
  rintro reply _ rfl
  exact lockstep_orFail (matches_refl _)

/-! ## Connecting and looking up -/

theorem lockstep_connect (settings : Settings) (password clientSecret : Option String) :
    Lockstep SameButSecrets (Matches Client.Alike) (connect settings).run
      (connect { settings with password, clientSecret }).run := by
  refine (lockstep_orFail (matches_refl _)).bind_except ?_
  rintro api _ rfl
  refine (lockstep_orFail (matches_ofSettings settings password clientSecret)).bind_except ?_
  intro d d' hd
  refine (lockstep_orFail (matches_refl (checkTrust settings))).bind_except ?_
  rintro _ _ rfl
  refine (lockstep_send (.refl .same _)).bind_except ?_
  rintro reply _ rfl
  refine (lockstep_orFail (matches_refl _)).bind_except ?_
  rintro endpoint _ rfl
  refine (lockstep_orFail (matches_refl _)).bind_except ?_
  rintro base _ rfl
  refine (lockstep_fetchToken _ hd).bind_except ?_
  rintro token _ rfl
  exact .done (.ok ⟨rfl,rfl,hd,rfl⟩)

theorem Client.Alike.requestRecord (h : c.Alike c') (kind : Kind) (guid : String) :
    c.requestRecord kind guid = c'.requestRecord kind guid := by
  unfold Client.requestRecord Client.recordUrl
  rw [h.api, h.token]

theorem Client.Alike.settle (h : c.Alike c') (kind : Kind) (guid : String) :
    c.settle kind guid = c'.settle kind guid := by
  funext r
  unfold Client.settle Client.recordUrl
  rw [h.api]

theorem Client.Alike.describe (h : c.Alike c') : c.describe = c'.describe := by
  unfold Client.describe
  rw [h.api, h.tokenUrl]

/-- Both find the same and are left with the same token. -/
theorem lockstep_lookup (h : c.Alike c') (kind : Kind) (guid : String) :
    Lockstep SameButSecrets (fun r r' => r.1 = r'.1 ∧ r.2.Alike r'.2) (c.lookup kind guid)
      (c'.lookup kind guid) := by
  unfold Client.lookup
  rw [h.requestRecord, h.settle]
  refine (Lockstep.refl .same _).bind ?_
  rintro first _ rfl
  by_cases hrefused : Client.refusesToken first = true
  · have hfetch : Lockstep SameButSecrets (Matches Eq) (fetchToken c.tokenUrl c.credentials).run
        (fetchToken c'.tokenUrl c'.credentials).run := by
      rw [h.tokenUrl]
      exact lockstep_fetchToken _ h.credentials
    simp only [hrefused, if_true]
    refine hfetch.bind ?_
    intro fetched fetched' hfetched
    cases hfetched with
    | error f => exact .done ⟨rfl,h⟩
    | ok htoken =>
      subst htoken
      have hrenewed : ∀ token, ({ c with token } : Client).Alike { c' with token } :=
        fun _ => ⟨h.api,h.tokenUrl,h.credentials,rfl⟩
      dsimp only
      rw [(hrenewed _).requestRecord, (hrenewed _).settle]
      refine (Lockstep.refl .same _).bind ?_
      rintro second _ rfl
      exact .done ⟨rfl,hrenewed _⟩
  · simp only [hrefused]
    exact .done ⟨rfl,h⟩

/-- What one lookup of a run has found. -/
abbrev Finding : Type := (kind : Kind) × Found kind

/-- Lookups one after another, each with the client that the one before has left. -/
def Client.lookups (c : Client) : List (Kind × String) → Talk (List Finding)
  | [] => return []
  | (kind,guid) :: wanted => do
    let (found,c) ← c.lookup kind guid
    let findings ← c.lookups wanted
    return ⟨kind,found.mapError Fault.toError⟩ :: findings

theorem lockstep_lookups (h : c.Alike c') (wanted : List (Kind × String)) :
    Lockstep SameButSecrets Eq (c.lookups wanted) (c'.lookups wanted) := by
  induction wanted generalizing c c' with
  | nil => exact .done rfl
  | cons want wanted ih =>
    obtain ⟨kind,guid⟩ := want
    refine (lockstep_lookup h kind guid).bind ?_
    rintro ⟨found,d⟩ ⟨_,d'⟩ ⟨rfl,hd⟩
    refine (ih hd).bind ?_
    rintro findings _ rfl
    exact .done rfl

/-- What comes of connecting and of the lookups after it: a client as it may be shown. -/
structure Session where
  client : String
  findings : List Finding

/-- Connects and makes the lookups. -/
def session (settings : Settings) (wanted : List (Kind × String)) :
    Talk (Except Platform.Error Session) := do
  match ← (connect settings).run with
  | .error f => return .error f.toError
  | .ok c => return .ok ⟨c.describe,← c.lookups wanted⟩

theorem lockstep_session (settings : Settings) (password clientSecret : Option String)
    (wanted : List (Kind × String)) :
    Lockstep SameButSecrets Eq (session settings wanted)
      (session { settings with password, clientSecret } wanted) := by
  refine (lockstep_connect settings password clientSecret).bind ?_
  intro r r' hr
  cases hr with
  | error f => exact .done rfl
  | ok hc =>
    refine (lockstep_lookups hc wanted).bind ?_
    rintro findings _ rfl
    rw [hc.describe]
    exact .done rfl

theorem map_eq_of_forall₂ {α : Type} {f : Request → α} {ts us : List Turn}
    (h : List.Forall₂ (fun t u => SameButSecrets t.request u.request) ts us)
    (hf : ∀ q q', SameButSecrets q q' → f q = f q') :
    (ts.map fun t => f t.request) = us.map fun u => f u.request := by
  induction h with
  | nil => rfl
  | cons hhead _ ih => rw [List.map_cons, List.map_cons, hf _ _ hhead, ih]

/-- Two sessions that differ in the secrets of their settings and are given the same replies come
to the same results and make the same requests, secrets of token requests apart. -/
theorem secrets_do_not_show (settings : Settings) (password clientSecret : Option String)
    (wanted : List (Kind × String)) {ts us : List Turn} {r r' : Except Platform.Error Session}
    (h : Transcript (session settings wanted) ts r)
    (h' : Transcript (session { settings with password, clientSecret } wanted) us r')
    (hreplies : SameReplies ts us) :
    r = r' ∧ (ts.map fun t => t.request.url) = (us.map fun u => u.request.url) ∧
      (ts.map fun t => bearerTokens t.request) = (us.map fun u => bearerTokens u.request) ∧
      List.Forall₂ (fun t u => SameButSecrets t.request u.request) ts us := by
  have hstep := lockstep_session settings password clientSecret wanted
  obtain ⟨hresult,hturns⟩ := hstep.transcripts h h' hreplies
  refine ⟨hresult,?_,?_,hturns⟩
  · exact map_eq_of_forall₂ hturns fun _ _ hq => hq.url_eq
  · exact map_eq_of_forall₂ hturns fun _ _ hq => hq.bearerTokens_eq

def operatorSettings : Settings :=
  { apiAddress := "http://[::1]", username := "operator", password := some "first" }

/-- A record whose first request is refused, so that another token is asked for, and a missing
one. -/
def operatorTalk (settings : Settings) : Talk (Except Platform.Error Session) :=
  session settings [(.org,"o1"),(.app,"a1")]

theorem secrets_do_not_show_sample :
    let changed := { operatorSettings with password := some "second", clientSecret := some "third" }
    let ts := Routes.peer.turns (operatorTalk operatorSettings) sampleRoutes
    let us := Routes.peer.turns (operatorTalk changed) sampleRoutes
    ts.map Turn.reply = us.map Turn.reply ∧ ts.map Turn.request ≠ us.map Turn.request ∧
      (Routes.peer.talk (operatorTalk operatorSettings) sampleRoutes).1 =
        (Routes.peer.talk (operatorTalk changed) sampleRoutes).1 ∧
      List.Forall₂ (fun t u => SameButSecrets t.request u.request) ts us := by
  intro changed ts us
  have hreplies : ts.map Turn.reply = us.map Turn.reply := by decide +kernel
  have hrequests : ts.map Turn.request ≠ us.map Turn.request := by decide +kernel
  obtain ⟨hresult,-,-,hturns⟩ := secrets_do_not_show operatorSettings (some "second")
    (some "third") _ (transcript_talk Routes.peer (operatorTalk operatorSettings) sampleRoutes)
    (transcript_talk Routes.peer (operatorTalk changed) sampleRoutes)
    (sameReplies_of_map_eq hreplies)
  exact ⟨hreplies,hrequests,hresult,hturns⟩

end WorkloadLogin.Controller
