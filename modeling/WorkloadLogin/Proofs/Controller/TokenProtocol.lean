import WorkloadLogin.Http.Routes
import WorkloadLogin.Proofs.Controller.Replies

/-! # Tokens in lookups

A lookup sends its request with the token at hand. Only when that token is refused does it ask for
another one, once, and send the request again. Along a run of lookups the token at hand is always
the one that was handed out last, and the last reply alone decides what a lookup finds.
-/
namespace WorkloadLogin.Controller
open Http Platform
variable {α : Type} {ts past : List Turn} {c c' : Client} {kind : Kind} {guid : String}

/-! ## Tokens handed out -/

/-- In this turn the token was handed out. -/
def HandsOut (t : Turn) (token : String) : Prop :=
  t.request.method = .post ∧ ∃ reply, t.reply = some reply ∧
    (200 ≤ reply.status ∧ reply.status < 300) ∧ Carries Wire.accessToken.decode reply.body token

/-- The token that was handed out in a turn. -/
def token? (t : Turn) : Option String :=
  if t.request.method = .post then
    t.reply.bind fun reply =>
      (readReply t.request.url Wire.accessToken.decode reply).toOption
  else none

theorem handsOut_iff {t : Turn} {token : String} : HandsOut t token ↔ token? t = some token := by
  constructor
  · rintro ⟨hpost,reply,hreply,hs,hd⟩
    have hread : readReply t.request.url Wire.accessToken.decode reply = .ok token :=
      reads_ok_iff.mp (.value hs hd)
    simp [token?,hpost,hreply,hread,Except.toOption]
  · intro h
    unfold token? at h
    split at h
    · rename_i hpost
      obtain ⟨reply,hreply,hvalue⟩ := Option.bind_eq_some_iff.mp h
      cases hread : readReply t.request.url Wire.accessToken.decode reply with
      | error f => simp [hread,Except.toOption] at hvalue
      | ok a =>
        obtain rfl : a = token := by simpa [hread,Except.toOption] using hvalue
        obtain _ | _ | _ | ⟨hs,hd⟩ := reads_ok_iff.mpr hread
        exact ⟨hpost,reply,hreply,hs,hd⟩
    · cases h

/-- The last token that was handed out. -/
def Latest (ts : List Turn) (token : String) : Prop :=
  ∃ before t after, ts = before ++ t :: after ∧ HandsOut t token ∧
    ∀ u ∈ after, ∀ other, ¬ HandsOut u other

theorem Latest.concat {t : Turn} {token : String} (h : HandsOut t token) :
    Latest (past ++ [t]) token :=
  ⟨past,t,[],rfl,h,by simp⟩

theorem Latest.append {token : String} (h : Latest past token)
    (hts : ∀ u ∈ ts, ∀ other, ¬ HandsOut u other) : Latest (past ++ ts) token := by
  obtain ⟨before,t,after,rfl,ht,hafter⟩ := h
  refine ⟨before,t,after ++ ts,by simp,ht,?_⟩
  intro u hu
  rcases List.mem_append.mp hu with hu | hu
  · exact hafter u hu
  · exact hts u hu

/-- Every record is asked for with the last token that was handed out before. -/
def Current (past ts : List Turn) : Prop :=
  ∀ before t after, ts = before ++ t :: after → t.request.method = .get →
    ∃ token, t.request.authorizations = [.bearer token] ∧ Latest (past ++ before) token

theorem Current.nil : Current past [] := by
  intro before t after h
  simp at h

theorem Current.cons {t : Turn} (h : t.request.method = .get →
      ∃ token, t.request.authorizations = [.bearer token] ∧ Latest past token)
    (hts : Current (past ++ [t]) ts) : Current past (t :: ts) := by
  intro before u after heq hu
  cases before with
  | nil =>
    obtain ⟨rfl,-⟩ := List.cons.inj heq
    simpa using h hu
  | cons b before =>
    obtain ⟨rfl,rfl⟩ := List.cons.inj heq
    obtain ⟨token,htoken,hlatest⟩ := hts before u after rfl hu
    exact ⟨token,htoken,by simpa using hlatest⟩

theorem Current.append {us : List Turn} (h : Current past ts) (hus : Current (past ++ ts) us) :
    Current past (ts ++ us) := by
  induction ts generalizing past with
  | nil => simpa using hus
  | cons t ts ih =>
    refine .cons (fun ht => ?_) (ih ?_ (by simpa using hus))
    · simpa using h [] t ts rfl ht
    · intro before u after heq hu
      subst heq
      simpa using h (t :: before) u after rfl hu

/-! ## Requests of a client -/

def Client.recordRequest (c : Client) (kind : Kind) (guid : String) : Request :=
  { method := .get, url := c.recordUrl kind guid, authorizations := [.bearer c.token] }

/-- A token is asked for in the name of the client that was configured. -/
def tokenRequest (tokenUrl : Url) (credentials : Credentials) : Request :=
  { method := .post
    url := tokenUrl
    authorizations := [.basic credentials.clientId credentials.clientSecret]
    form := some credentials.form }

/-- A lookup with this client, the turns it takes, what it finds and the client after it. -/
inductive Obeys (c : Client) (kind : Kind) (guid : String) :
    List Turn → Found kind → Client → Prop
  | settled {reply : Option Reply} {found : Found kind} (h : ∀ r ∈ reply, r.status ≠ 401)
      (hf : Finds c kind guid reply found) :
      Obeys c kind guid [⟨c.recordRequest kind guid,reply⟩] found c
  | unrenewed {first : Reply} {reply : Option Reply} {e : Platform.Error} (h : first.status = 401)
      (ht : Fetches c.tokenUrl Wire.accessToken.decode reply (.error e)) :
      Obeys c kind guid
        [⟨c.recordRequest kind guid,some first⟩,⟨tokenRequest c.tokenUrl c.credentials,reply⟩]
        (.error e) c
  | renewed {first : Reply} {answer reply : Option Reply} {token : String} {found : Found kind}
      (h : first.status = 401) (ht : Fetches c.tokenUrl Wire.accessToken.decode answer (.ok token))
      (hf : Finds c kind guid reply found) :
      Obeys c kind guid
        [⟨c.recordRequest kind guid,some first⟩,⟨tokenRequest c.tokenUrl c.credentials,answer⟩,
          ⟨{ c with token }.recordRequest kind guid,reply⟩]
        found { c with token }

/-- A lookup whose request the transport does not take, for the length of its address: this is a
failure of the transport, and nothing else is asked for. -/
structure Withheld (c : Client) (kind : Kind) (guid : String) (ts : List Turn) (found : Found kind)
    (c' : Client) : Prop where
  turns : ts = []
  found : found = .error (.transport
    ("builder error for url (" ++ (c.recordUrl kind guid).render ++ ")"))
  after : c' = c

/-- Nothing of what the client sends is held back or changed on its way, if its address is not too
long. -/
structure Client.Plain (c : Client) : Prop where
  api : c.api.userInfo = none
  tokenUrl : c.tokenUrl.userInfo = none
  apiHost : c.api.host.canBeSent = true
  tokenPlace : c.tokenUrl.canBeSent = true
  token : (Authorization.bearer c.token).isLegal = true

theorem Client.Plain.recordRequest (h : c.Plain) (hfits : (c.recordUrl kind guid).fits = true) :
    (c.recordRequest kind guid).Sendable where
  userInfo := h.api
  legal a ha := by
    obtain rfl := List.mem_singleton.mp ha
    exact h.token
  url := (Bool.and_eq_true ..).mpr ⟨h.apiHost,hfits⟩

theorem tokenRequest_sendable {tokenUrl : Url} {credentials : Credentials}
    (hu : tokenUrl.userInfo = none) (hsent : tokenUrl.canBeSent = true) :
    (tokenRequest tokenUrl credentials).Sendable where
  userInfo := hu
  legal a ha := by
    obtain rfl := List.mem_singleton.mp ha
    rfl
  url := hsent

theorem transcript_send {q : Request} (hq : q.Sendable) {r : Except Fault Reply}
    (h : Transcript (send q).run ts r) :
    ∃ reply, ts = [⟨q,reply⟩] ∧ r = (q.outcome reply).mapError Fault.failed := by
  unfold send at h
  rcases h.of_bind_except with ⟨e,rfl,hlift⟩ | ⟨first,rest,a,rfl,hlift,hrest⟩
  · obtain ⟨_,_,_,-,-,hend⟩ := Transcript.of_bind (x := q.exchange) hlift
    obtain ⟨-,he⟩ := hend.of_pure
    cases he
  · obtain ⟨_,_,_,rfl,hexchange,hend⟩ := Transcript.of_bind (x := q.exchange) hlift
    obtain ⟨rfl,he⟩ := hend.of_pure
    cases he
    obtain ⟨reply,rfl,rfl⟩ := hexchange.of_exchange hq
    cases reply with
    | none =>
      obtain ⟨rfl,rfl⟩ := Transcript.of_pure hrest
      exact ⟨none,rfl,rfl⟩
    | some reply =>
      obtain ⟨rfl,rfl⟩ := Transcript.of_pure hrest
      exact ⟨some reply,rfl,rfl⟩

theorem transcript_orFail {x r : Except Fault α} (h : Transcript (orFail x).run ts r) :
    ts = [] ∧ r = x := by
  cases x with
  | ok a => exact Transcript.of_pure h
  | error f => exact Transcript.of_pure h

theorem transcript_fetchToken {tokenUrl : Url} {credentials : Credentials}
    (hq : (tokenRequest tokenUrl credentials).Sendable) {r : Except Fault String}
    (h : Transcript (fetchToken tokenUrl credentials).run ts r) :
    ∃ reply, ts = [⟨tokenRequest tokenUrl credentials,reply⟩] ∧
      Fetches tokenUrl Wire.accessToken.decode reply (r.mapError Fault.toError) := by
  unfold fetchToken at h
  rcases h.of_bind_except with ⟨e,rfl,hsend⟩ | ⟨first,rest,a,rfl,hsend,hread⟩
  · obtain ⟨reply,rfl,he⟩ := transcript_send hq hsend
    refine ⟨reply,rfl,(fetches_iff (q := tokenRequest tokenUrl credentials) rfl).mpr ?_⟩
    rw [← he]
    rfl
  · obtain ⟨reply,rfl,he⟩ := transcript_send hq hsend
    obtain ⟨rfl,rfl⟩ := transcript_orFail hread
    refine ⟨reply,rfl,(fetches_iff (q := tokenRequest tokenUrl credentials) rfl).mpr ?_⟩
    rw [← he]
    rfl

theorem finds_settle {reply : Option Reply} :
    Finds c kind guid reply ((c.settle kind guid
      ((c.recordRequest kind guid).outcome reply)).mapError Fault.toError) := by
  cases reply with
  | none => exact .fetched (by simp) .unanswered
  | some reply =>
    by_cases h : reply.status = 404
    · have hs : c.settle kind guid (.ok reply) = .error (.missing kind guid) := if_pos h
      simp only [Request.outcome, hs]
      exact .missing h
    · have hs : c.settle kind guid (.ok reply) =
          readReply (c.recordUrl kind guid) (Wire.resource kind).decode reply := if_neg h
      simp only [Request.outcome, hs]
      exact .fetched (by simpa using h) (.answered (reads_iff.mpr rfl))

theorem refusesToken_outcome {q : Request} {reply : Option Reply} :
    Client.refusesToken (q.outcome reply) = true ↔ ∃ r, reply = some r ∧ r.status = 401 := by
  cases reply with
  | none => simp [Request.outcome, Client.refusesToken]
  | some reply => simp [Request.outcome, Client.refusesToken, Status.unauthorized]

/-! ## Lookups -/

/-- Every token that is handed out in these turns can be sent. -/
def Sound (ts : List Turn) : Prop :=
  ∀ t ∈ ts, ∀ token, HandsOut t token → (Authorization.bearer token).isLegal = true

theorem sound_iff :
    Sound ts ↔ ∀ t ∈ ts, ∀ token ∈ token? t, (Authorization.bearer token).isLegal = true := by
  simp only [Sound,handsOut_iff,Option.mem_def]

instance decidableSound (ts : List Turn) : Decidable (Sound ts) := decidable_of_iff' _ sound_iff

theorem handsOut_of_fetches {tokenUrl : Url} {credentials : Credentials} {reply : Option Reply}
    {token : String} (h : Fetches tokenUrl Wire.accessToken.decode reply (.ok token)) :
    HandsOut ⟨tokenRequest tokenUrl credentials,reply⟩ token := by
  rcases h with _ | h
  rcases h with _ | _ | _ | ⟨hs,hd⟩
  exact ⟨rfl,_,rfl,hs,hd⟩

theorem transcript_lookup (hc : c.Plain) (hfits : (c.recordUrl kind guid).fits = true)
    (hs : Sound ts) {r : Except Fault kind.Record}
    (h : Transcript (c.lookup kind guid) ts (r,c')) :
    Obeys c kind guid ts (r.mapError Fault.toError) c' ∧ c'.Plain := by
  have htoken : (tokenRequest c.tokenUrl c.credentials).Sendable :=
    tokenRequest_sendable hc.tokenUrl hc.tokenPlace
  unfold Client.lookup at h
  obtain ⟨_,_,_,rfl,hfirst,hrest⟩ := h.of_bind
  obtain ⟨first,rfl,rfl⟩ := hfirst.of_exchange (hc.recordRequest hfits)
  split at hrest
  · rename_i hrefused
    obtain ⟨first,rfl,hstatus⟩ := refusesToken_outcome.mp hrefused
    obtain ⟨_,_,fetched,rfl,hfetch,hrenew⟩ := hrest.of_bind
    obtain ⟨answer,rfl,hanswer⟩ := transcript_fetchToken htoken hfetch
    cases fetched with
    | error f =>
      obtain ⟨rfl,he⟩ := hrenew.of_pure
      cases he
      exact ⟨.unrenewed hstatus hanswer,hc⟩
    | ok token =>
      have hout : HandsOut ⟨tokenRequest c.tokenUrl c.credentials,answer⟩ token :=
        handsOut_of_fetches hanswer
      have hplain : ({ c with token } : Client).Plain :=
        { hc with token := hs _ (by simp) token hout }
      obtain ⟨_,_,_,rfl,hsecond,hend⟩ := hrenew.of_bind
      obtain ⟨second,rfl,rfl⟩ := hsecond.of_exchange (hplain.recordRequest hfits)
      obtain ⟨rfl,he⟩ := hend.of_pure
      cases he
      exact ⟨.renewed hstatus hanswer finds_settle,hplain⟩
  · rename_i hkept
    obtain ⟨rfl,he⟩ := hrest.of_pure
    cases he
    refine ⟨.settled ?_ finds_settle,hc⟩
    intro reply hreply hstatus
    exact hkept (refusesToken_outcome.mpr ⟨reply,hreply,hstatus⟩)

theorem withheld_of_transcript (hc : c.Plain) (hlong : (c.recordUrl kind guid).fits = false)
    {r : Except Fault kind.Record} (h : Transcript (c.lookup kind guid) ts (r,c')) :
    Withheld c kind guid ts (r.mapError Fault.toError) c' := by
  have hheld : (c.recordUrl kind guid).canBeSent = false := by simp [Url.canBeSent,hlong]
  have hlegal : ∀ a ∈ (c.recordRequest kind guid).authorizations, a.isLegal = true := by
    intro a ha
    obtain rfl := List.mem_singleton.mp ha
    exact hc.token
  unfold Client.lookup at h
  obtain ⟨_,_,_,rfl,hfirst,hrest⟩ := h.of_bind
  obtain ⟨rfl,rfl⟩ := hfirst.of_exchange_held (r := c.recordRequest kind guid) hc.api hlegal hheld
  obtain ⟨rfl,hend⟩ := hrest.of_pure
  cases hend
  exact ⟨rfl,rfl,rfl⟩

theorem not_handsOut_get {q : Request} {reply : Option Reply} {token : String}
    (hq : q.method = .get) : ¬ HandsOut ⟨q,reply⟩ token := by
  rintro ⟨hpost,-⟩
  cases hq.symm.trans hpost

theorem not_handsOut_of_fetches {tokenUrl : Url} {credentials : Credentials}
    {reply : Option Reply} {e : Platform.Error} {token : String}
    (h : Fetches tokenUrl Wire.accessToken.decode reply (.error e)) :
    ¬ HandsOut ⟨tokenRequest tokenUrl credentials,reply⟩ token := by
  rintro ⟨-,reply,rfl,hs,hd⟩
  rcases h with _ | h
  cases (reads_iff.mp h).trans (reads_iff.mp (.value hs hd)).symm

/-- A lookup asks with the latest token and keeps the latest token. -/
theorem Obeys.current {found : Found kind} (h : Obeys c kind guid ts found c')
    (hp : Latest past c.token) : Current past ts ∧ Latest (past ++ ts) c'.token := by
  cases h with
  | settled h hf =>
    refine ⟨.cons (fun _ => ⟨_,rfl,hp⟩) .nil,hp.append ?_⟩
    intro u hu
    obtain rfl := List.mem_singleton.mp hu
    exact fun _ => not_handsOut_get rfl
  | @unrenewed first reply e h ht =>
    refine ⟨.cons (fun _ => ⟨_,rfl,hp⟩) (.cons (fun hpost => by cases hpost) .nil),hp.append ?_⟩
    intro u hu token
    rcases List.mem_cons.mp hu with rfl | hu
    · exact not_handsOut_get rfl
    · obtain rfl := List.mem_singleton.mp hu
      exact not_handsOut_of_fetches ht
  | @renewed first answer reply token found h ht hf =>
    have hrenewed : Latest (past ++ [⟨c.recordRequest kind guid,some first⟩] ++
        [⟨tokenRequest c.tokenUrl c.credentials,answer⟩]) token :=
      .concat (handsOut_of_fetches ht)
    have hlast : ∀ u ∈ [(⟨({ c with token } : Client).recordRequest kind guid,reply⟩ : Turn)],
        ∀ other, ¬ HandsOut u other := by
      intro u hu
      obtain rfl := List.mem_singleton.mp hu
      exact fun _ => not_handsOut_get rfl
    constructor
    · refine .cons (fun _ => ⟨_,rfl,hp⟩) (.cons (fun hpost => by cases hpost) (.cons ?_ .nil))
      exact fun _ => ⟨_,rfl,hrenewed⟩
    · simpa using hrenewed.append hlast

/-- The requests of a kind among these turns. -/
def requestsBy (m : Method) (ts : List Turn) : Nat := ts.countP fun t => t.request.method = m

theorem Obeys.bounded {found : Found kind} (h : Obeys c kind guid ts found c') :
    requestsBy .get ts ≤ 2 ∧ requestsBy .post ts ≤ 1 := by
  cases h <;> simp [requestsBy,Client.recordRequest,tokenRequest]

/-! ## Runs of lookups -/

structure Round where
  before : Client
  kind : Kind
  guid : String
  turns : List Turn
  found : Found kind
  after : Client

/-- What happened in the round is a lookup. -/
def Round.IsLookup (round : Round) : Prop :=
  ∃ r, Transcript (round.before.lookup round.kind round.guid) round.turns (r,round.after) ∧
    round.found = r.mapError Fault.toError

def Round.Obeys (round : Round) : Prop :=
  Controller.Obeys round.before round.kind round.guid round.turns round.found round.after

def Round.Withheld (round : Round) : Prop :=
  Controller.Withheld round.before round.kind round.guid round.turns round.found round.after

/-- The transport takes the request of the round. -/
def Round.fits (round : Round) : Bool := (round.before.recordUrl round.kind round.guid).fits

/-- The round goes by the protocol as far as the transport takes its requests. -/
structure Round.Follows (round : Round) : Prop where
  obeys : round.fits = true → round.Obeys
  withheld : round.fits = false → round.Withheld

/-- Lookups one after another, each with the client that the one before has left. -/
inductive Rounds : Client → List Round → Client → Prop
  | nil (c : Client) : Rounds c [] c
  | cons {round : Round} {rounds : List Round} {c' : Client} (h : round.IsLookup)
      (hs : Rounds round.after rounds c') : Rounds round.before (round :: rounds) c'

def turnsOf (rounds : List Round) : List Turn := rounds.flatMap Round.turns

theorem Round.IsLookup.follows {round : Round} (h : round.IsLookup) (hc : round.before.Plain)
    (hs : Sound round.turns) : round.Follows ∧ round.after.Plain := by
  obtain ⟨r,htalk,hfound⟩ := h
  cases hfits : round.fits with
  | true =>
    obtain ⟨hobeys,hplain⟩ := transcript_lookup hc hfits hs htalk
    rw [← hfound] at hobeys
    exact ⟨⟨fun _ => hobeys,fun hlong => by simp [hfits] at hlong⟩,hplain⟩
  | false =>
    have hwithheld := withheld_of_transcript hc hfits htalk
    rw [← hfound] at hwithheld
    exact ⟨⟨fun hshort => by simp [hfits] at hshort,fun _ => hwithheld⟩,hwithheld.after ▸ hc⟩

/-- Who the client is stays the same over a lookup; only its token may change. -/
theorem Obeys.same {found : Found kind} (h : Obeys c kind guid ts found c') :
    c' = { c with token := c'.token } := by
  cases h <;> rfl

theorem Round.Follows.same {round : Round} (h : round.Follows) :
    round.after = { round.before with token := round.after.token } := by
  cases hfits : round.fits with
  | true => exact Obeys.same (h.obeys hfits)
  | false => rw [(h.withheld hfits).after]

theorem Round.Follows.current {round : Round} (h : round.Follows)
    (hp : Latest past round.before.token) :
    Current past round.turns ∧ Latest (past ++ round.turns) round.after.token := by
  cases hfits : round.fits with
  | true => exact Obeys.current (h.obeys hfits) hp
  | false =>
    obtain ⟨hturns,-,hafter⟩ := h.withheld hfits
    rw [hturns,hafter,List.append_nil]
    exact ⟨.nil,hp⟩

theorem Round.Follows.bounded {round : Round} (h : round.Follows) :
    requestsBy .get round.turns ≤ 2 ∧ requestsBy .post round.turns ≤ 1 := by
  cases hfits : round.fits with
  | true => exact Obeys.bounded (h.obeys hfits)
  | false =>
    rw [(h.withheld hfits).turns]
    exact ⟨Nat.zero_le _,Nat.zero_le _⟩

theorem Rounds.obey {rounds : List Round} (h : Rounds c rounds c') (hc : c.Plain)
    (hs : Sound (turnsOf rounds)) (hp : Latest past c.token) :
    (∀ round ∈ rounds, round.Follows ∧ round.before = { c with token := round.before.token }) ∧
      Current past (turnsOf rounds) ∧ Latest (past ++ turnsOf rounds) c'.token := by
  induction h generalizing past with
  | nil c => exact ⟨by simp,.nil,by simpa [turnsOf] using hp⟩
  | @cons round rounds c' h hrest ih =>
    have hsound : Sound round.turns := fun t ht => hs t (by simp [turnsOf,ht])
    have hlater : Sound (turnsOf rounds) := fun t ht => hs t (by
      rw [turnsOf,List.flatMap_cons]
      exact List.mem_append_right _ ht)
    obtain ⟨hfollows,hafter⟩ := h.follows hc hsound
    obtain ⟨hcurrent,hlatest⟩ := hfollows.current hp
    obtain ⟨hall,hcurrents,hlatests⟩ := ih hafter hlater hlatest
    refine ⟨?_,hcurrent.append hcurrents,by simpa [turnsOf] using hlatests⟩
    intro r hr
    rcases List.mem_cons.mp hr with rfl | hr
    · exact ⟨hfollows,rfl⟩
    · obtain ⟨hr,hbefore⟩ := hall r hr
      refine ⟨hr,?_⟩
      rw [hbefore,hfollows.same]

/-! ## Connecting -/

theorem transcript_send_ok {q : Request} {reply : Reply}
    (h : Transcript (send q).run ts (.ok reply)) :
    ts = [⟨q.withoutUserInfo,some reply⟩] ∧ q.withoutUserInfo.url.canBeSent = true := by
  unfold send at h
  obtain ⟨_,_,answer,rfl,hlift,hend⟩ := h.of_bind_ok
  obtain ⟨_,_,_,rfl,hexchange,hlifted⟩ := Transcript.of_bind (x := q.exchange) hlift
  obtain ⟨rfl,he⟩ := hlifted.of_pure
  cases he
  cases answer with
  | error f =>
    obtain ⟨-,he⟩ := Transcript.of_pure hend
    cases he
  | ok answer =>
    obtain ⟨rfl,he⟩ := Transcript.of_pure hend
    cases he
    simpa using hexchange.of_exchange_ok

theorem transcript_fetchToken_ok {tokenUrl : Url} {credentials : Credentials} {token : String}
    (h : Transcript (fetchToken tokenUrl credentials).run ts (.ok token)) :
    (tokenRequest tokenUrl credentials).withoutUserInfo.url.canBeSent = true ∧
      ∃ t, ts = [t] ∧ HandsOut t token := by
  unfold fetchToken at h
  obtain ⟨_,_,reply,rfl,hsend,hread⟩ := h.of_bind_ok
  obtain ⟨rfl,hsent⟩ := transcript_send_ok hsend
  obtain ⟨rfl,hvalue⟩ := transcript_orFail hread
  have hreads : Reads tokenUrl Wire.accessToken.decode reply (.ok token) :=
    reads_iff.mpr (by rw [← hvalue]; rfl)
  obtain _ | _ | _ | ⟨hs,hd⟩ := hreads
  exact ⟨hsent,_,rfl,Request.withoutUserInfo_method _,reply,rfl,hs,hd⟩

/-- What connecting leaves is ready for lookups: its token is the last that was handed out. -/
theorem transcript_connect {settings : Settings}
    (h : Transcript (connect settings).run ts (.ok c)) :
    Credentials.ofSettings settings = .ok c.credentials ∧ c.api.host.canBeSent = true ∧
      (tokenRequest c.tokenUrl c.credentials).withoutUserInfo.url.canBeSent = true ∧
      Latest ts c.token := by
  unfold connect at h
  obtain ⟨_,_,api,rfl,hapi,h⟩ := h.of_bind_ok
  obtain ⟨_,_,credentials,rfl,hcredentials,h⟩ := h.of_bind_ok
  obtain ⟨_,_,_,rfl,htrust,h⟩ := h.of_bind_ok
  obtain ⟨_,_,reply,rfl,hsend,h⟩ := h.of_bind_ok
  obtain ⟨_,_,endpoint,rfl,hread,h⟩ := h.of_bind_ok
  obtain ⟨_,_,base,rfl,hbase,h⟩ := h.of_bind_ok
  obtain ⟨_,_,token,rfl,hfetch,h⟩ := h.of_bind_ok
  obtain ⟨rfl,he⟩ := Transcript.of_pure h
  cases he
  obtain ⟨-,hsent⟩ := transcript_send_ok hsend
  have hhost := ((Bool.and_eq_true ..).mp hsent).1
  rw [Request.withoutUserInfo_host] at hhost
  obtain ⟨htoken,t,rfl,hout⟩ := transcript_fetchToken_ok hfetch
  refine ⟨(transcript_orFail hcredentials).2.symm,hhost,htoken,?_⟩
  simpa only [List.append_nil, ← List.append_assoc] using Latest.concat hout

/-- Along every run of lookups with a client that was connected, whoever answers: a round whose
request the transport takes sends it with the token at hand, asks for a token exactly when this one
is refused, sends the request again exactly when it gets one, and finds what the last reply says. So
each record is asked for with the token that was handed out last. A request that the transport does
not take, for the length of its address, fails there: it is the only one of its round, and the token
stays. -/
theorem lookups_follow_protocol {settings : Settings} {opening : List Turn} {rounds : List Round}
    (hconnect : Transcript (connect settings).run opening (.ok c)) (hrun : Rounds c rounds c')
    (hapi : c.api.userInfo = none) (htoken : c.tokenUrl.userInfo = none)
    (hsound : Sound (opening ++ turnsOf rounds)) :
    (∀ round ∈ rounds, (round.fits = true → round.Obeys) ∧
      (round.fits = false → round.Withheld) ∧
      Credentials.ofSettings settings = .ok round.before.credentials ∧
      requestsBy .get round.turns ≤ 2 ∧ requestsBy .post round.turns ≤ 1) ∧
      Current opening (turnsOf rounds) ∧ Latest (opening ++ turnsOf rounds) c'.token := by
  obtain ⟨hcredentials,hapiHost,hsent,hlatest⟩ := transcript_connect hconnect
  have htokenPlace : c.tokenUrl.canBeSent = true := by
    simpa [Request.withoutUserInfo,tokenRequest,htoken] using hsent
  have hlegal : (Authorization.bearer c.token).isLegal = true := by
    obtain ⟨before,t,after,rfl,ht,-⟩ := hlatest
    exact hsound t (by simp) c.token ht
  have hplain : c.Plain := ⟨hapi,htoken,hapiHost,htokenPlace,hlegal⟩
  have hrounds : Sound (turnsOf rounds) := fun t ht => hsound t (List.mem_append_right _ ht)
  obtain ⟨hall,hcurrent,hlast⟩ := hrun.obey hplain hrounds hlatest
  refine ⟨?_,hcurrent,hlast⟩
  intro round hround
  obtain ⟨hfollows,hbefore⟩ := hall round hround
  refine ⟨hfollows.obeys,hfollows.withheld,?_,hfollows.bounded⟩
  rw [hbefore]
  exact hcredentials

def sampleSettings : Settings := { apiAddress := "http://[::1]", clientId := "login" }

/-- A controller that refuses the first token once it is used. -/
def sampleRoutes : Routes where
  routes := [
    ⟨.get,"http://[::1]/v2/info",[some ⟨200,"\x7b\"token_endpoint\":\"http://[::2]\"\x7d"⟩]⟩,
    ⟨.post,"http://[::2]/oauth/token",[some ⟨200,"\x7b\"access_token\":\"first\"\x7d"⟩,
      some ⟨200,"\x7b\"access_token\":\"second\"\x7d"⟩]⟩,
    ⟨.get,"http://[::1]/v2/organizations/o1",[some ⟨401,""⟩,
      some ⟨200,"\x7b\"metadata\":\x7b\"guid\":\"o1\"\x7d," ++
        "\"entity\":\x7b\"name\":\"main\"\x7d\x7d"⟩]⟩]

def sampleClient : Client where
  api := { scheme := .http, host := .v6 1 }
  tokenUrl := { scheme := .http, host := .v6 2, path := ["oauth","token"] }
  credentials := ⟨"login","",.clientCredentials⟩
  token := "first"

def sampleOpening : List Turn := Routes.peer.turns (connect sampleSettings).run sampleRoutes

def sampleRound : Round where
  before := sampleClient
  kind := .org
  guid := "o1"
  turns := Routes.peer.turns (sampleClient.lookup .org "o1")
    (Routes.peer.talk (connect sampleSettings).run sampleRoutes).2
  found := .ok ⟨"o1","main"⟩
  after := { sampleClient with token := "second" }

theorem lookups_follow_protocol_sample :
    sampleRound.Obeys ∧ requestsBy .get sampleRound.turns = 2 ∧
      Current sampleOpening sampleRound.turns ∧
      Latest (sampleOpening ++ sampleRound.turns) "second" := by
  have hconnect : Transcript (connect sampleSettings).run sampleOpening (.ok sampleClient) := by
    have hend : (Routes.peer.talk (connect sampleSettings).run sampleRoutes).1 =
      .ok sampleClient := by decide +kernel
    rw [← hend]
    exact transcript_talk ..
  have hlookup : sampleRound.IsLookup := by
    refine ⟨.ok ⟨"o1","main"⟩,?_,rfl⟩
    have hend : (Routes.peer.talk (sampleClient.lookup .org "o1")
      (Routes.peer.talk (connect sampleSettings).run sampleRoutes).2).1 =
        (.ok ⟨"o1","main"⟩,{ sampleClient with token := "second" }) := by decide +kernel
    have htalk := transcript_talk Routes.peer (sampleClient.lookup .org "o1")
      (Routes.peer.talk (connect sampleSettings).run sampleRoutes).2
    rw [hend] at htalk
    exact htalk
  have hsound : Sound (sampleOpening ++ turnsOf [sampleRound]) := by decide +kernel
  obtain ⟨hrounds,hcurrent,hlatest⟩ :=
    lookups_follow_protocol hconnect (.cons hlookup (.nil _)) rfl rfl hsound
  have hturns : turnsOf [sampleRound] = sampleRound.turns := by simp [turnsOf]
  rw [hturns] at hcurrent hlatest
  have hobeys := (hrounds sampleRound (by simp)).1 (by decide +kernel)
  exact ⟨hobeys,by decide +kernel,hcurrent,hlatest⟩

end WorkloadLogin.Controller
