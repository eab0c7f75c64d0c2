import WorkloadLogin.Http.Exchange

/-! # Transcripts of conversations

The transcript of a conversation is the row of its requests, each with the reply that came or with
none. Nothing is said of who replies: a conversation with any peer has a transcript, so what holds
of all transcripts holds whoever answers.
-/
namespace WorkloadLogin.Http
variable {σ α β ε : Type}

structure Turn where
  request : Request
  reply : Option Reply

inductive Transcript : Talk α → List Turn → α → Prop
  | done (a : α) : Transcript (.done a) [] a
  | ask {q : Request} {next : Option Reply → Talk α} {ts : List Turn} {a : α}
      (reply : Option Reply) (h : Transcript (next reply) ts a) :
      Transcript (.ask q next) (⟨q,reply⟩ :: ts) a

variable {ts : List Turn}

/-- The transcript of a conversation with a peer. -/
def Peer.turns (p : Peer σ) : Talk α → σ → List Turn
  | .done _, _ => []
  | .ask q next, s => ⟨q,(p.answer q s).1⟩ :: p.turns (next (p.answer q s).1) (p.answer q s).2

theorem transcript_talk (p : Peer σ) (x : Talk α) (s : σ) :
    Transcript x (p.turns x s) (p.talk x s).1 := by
  induction x generalizing s with
  | done a => exact .done a
  | ask q next ih => exact .ask _ (ih (p.answer q s).1 (p.answer q s).2)

theorem Transcript.of_pure {a b : α} (h : Transcript (pure a) ts b) : ts = [] ∧ b = a := by
  change Transcript (.done a) ts b at h
  cases h
  exact ⟨rfl,rfl⟩

theorem Transcript.of_bind {x : Talk α} {f : α → Talk β} {b : β}
    (h : Transcript (x >>= f) ts b) :
    ∃ first rest a, ts = first ++ rest ∧ Transcript x first a ∧ Transcript (f a) rest b := by
  change Transcript (x.bind f) ts b at h
  induction x generalizing ts with
  | done a => exact ⟨[],ts,a,rfl,.done a,h⟩
  | ask q next ih =>
    cases h with
    | ask reply h =>
      obtain ⟨first,rest,a,rfl,hx,hf⟩ := ih reply h
      exact ⟨_,rest,a,rfl,.ask reply hx,hf⟩

theorem Transcript.of_question {q : Request} {reply : Option Reply}
    (h : Transcript (Dialogue.question (A := fun _ => Option Reply) q) ts reply) :
    ts = [⟨q,reply⟩] := by
  cases h with
  | ask _ hdone =>
    cases hdone
    rfl

/-- What may fail goes on exactly with a value. -/
theorem Transcript.of_bind_except {x : ExceptT ε Talk α} {f : α → ExceptT ε Talk β}
    {r : Except ε β} (h : Transcript (x >>= f).run ts r) :
    (∃ e, r = .error e ∧ Transcript x.run ts (.error e)) ∨
      ∃ first rest a, ts = first ++ rest ∧ Transcript x.run first (.ok a) ∧
        Transcript (f a).run rest r := by
  change Transcript (x.run >>= ExceptT.bindCont f) ts r at h
  obtain ⟨first,rest,y,rfl,hx,hf⟩ := h.of_bind
  cases y with
  | error e =>
    obtain ⟨rfl,rfl⟩ := hf.of_pure
    exact .inl ⟨e,rfl,by simpa using hx⟩
  | ok a => exact .inr ⟨first,rest,a,rfl,hx,hf⟩

theorem Transcript.of_bind_ok {x : ExceptT ε Talk α} {f : α → ExceptT ε Talk β} {b : β}
    (h : Transcript (x >>= f).run ts (.ok b)) :
    ∃ first rest a, ts = first ++ rest ∧ Transcript x.run first (.ok a) ∧
      Transcript (f a).run rest (.ok b) := by
  rcases h.of_bind_except with ⟨e,he,-⟩ | h
  · cases he
  · exact h

/-! ## Exchanges -/

/-- The request goes out as it stands. -/
structure Request.Sendable (r : Request) : Prop where
  userInfo : r.url.userInfo = none
  legal : ∀ a ∈ r.authorizations, a.isLegal = true
  url : r.url.canBeSent = true

/-- What an exchange makes of the reply. -/
def Request.outcome (r : Request) : Option Reply → Except Failure Reply
  | some reply => .ok reply
  | none => .error (.unanswered r.url)

theorem Request.withoutUserInfo_method (r : Request) : r.withoutUserInfo.method = r.method := by
  unfold Request.withoutUserInfo
  split
  · rfl
  · split
    · rfl
    · split <;> rfl

theorem Request.withoutUserInfo_host (r : Request) :
    r.withoutUserInfo.url.host = r.url.host := by
  unfold Request.withoutUserInfo
  split
  · rfl
  · split
    · rfl
    · split <;> rfl

theorem Request.Sendable.withoutUserInfo_eq {r : Request} (hr : r.Sendable) :
    r.withoutUserInfo = r := by
  simp [Request.withoutUserInfo, hr.userInfo]

theorem Transcript.of_exchange {r : Request} (hr : r.Sendable) {res : Except Failure Reply}
    (h : Transcript r.exchange ts res) : ∃ reply, ts = [⟨r,reply⟩] ∧ res = r.outcome reply := by
  have hlegal : r.authorizations.all Authorization.isLegal = true := by
    simpa using hr.legal
  unfold Request.exchange at h
  simp only [hr.withoutUserInfo_eq, hlegal, hr.url] at h
  obtain ⟨_,_,reply,rfl,hask,hend⟩ := Transcript.of_bind h
  obtain rfl := hask.of_question
  cases reply with
  | none =>
    obtain ⟨rfl,rfl⟩ := hend.of_pure
    exact ⟨none,rfl,rfl⟩
  | some reply =>
    obtain ⟨rfl,rfl⟩ := hend.of_pure
    exact ⟨some reply,rfl,rfl⟩

/-- A request that cannot be sent as it stands is not, and nothing is sent for it. -/
theorem Transcript.of_exchange_held {r : Request} (hu : r.url.userInfo = none)
    (hl : ∀ a ∈ r.authorizations, a.isLegal = true) (hheld : r.url.canBeSent = false)
    {res : Except Failure Reply} (h : Transcript r.exchange ts res) :
    ts = [] ∧ res = .error (.unsendable r.url) := by
  have hsame : r.withoutUserInfo = r := by simp [Request.withoutUserInfo, hu]
  have hlegal : r.authorizations.all Authorization.isLegal = true := by simpa using hl
  unfold Request.exchange at h
  simp only [hsame, hlegal, hheld] at h
  exact h.of_pure

/-- A reply comes only from an address that can be sent to, and to one request. -/
theorem Transcript.of_exchange_ok {r : Request} {reply : Reply}
    (h : Transcript r.exchange ts (.ok reply)) :
    ts = [⟨r.withoutUserInfo,some reply⟩] ∧ r.withoutUserInfo.url.canBeSent = true := by
  unfold Request.exchange at h
  dsimp only at h
  split at h
  · obtain ⟨-,he⟩ := h.of_pure
    cases he
  · split at h
    · obtain ⟨-,he⟩ := h.of_pure
      cases he
    · rename_i hurl
      obtain ⟨_,_,answer,rfl,hask,hend⟩ := Transcript.of_bind h
      obtain rfl := hask.of_question
      cases answer with
      | none =>
        obtain ⟨-,he⟩ := hend.of_pure
        cases he
      | some answer =>
        obtain ⟨rfl,he⟩ := hend.of_pure
        cases he
        exact ⟨rfl,by simpa using hurl⟩

end WorkloadLogin.Http
