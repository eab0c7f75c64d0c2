import WorkloadLogin.Proofs.Service.Protocol

/-! # Coming by a client, step by step

A task that asks for the client looks at the cache, waits for the connection lock, looks again, and
connects only if it still finds nothing. Tainting is one step outside the lock, and the cache is
emptied under it.
-/
namespace WorkloadLogin.Service
variable {q : Request} {a : q.Answer}

/-- How far a task has come, and the client that it has come by, if any. -/
inductive Flight where
  | idle (got : Option ClientId)
  | waiting
  | holding (got : Option ClientId)
  /-- Under the lock the cache was found without a fresh client. -/
  | clear
  | connecting
  | delivered (client : ClientId)
  deriving DecidableEq

namespace Flight

def got : Flight → Option ClientId
  | idle got | holding got => got
  | delivered client => some client
  | _ => none

def place (φ : Flight) : Lock → Place
  | .config => .outside
  | .connect =>
    match φ with
    | idle _ => .outside
    | waiting => .waiting .exclusive
    | _ => .holding .exclusive

/-- The stance under the lock after a look at the cache. -/
def looked : Option ClientId → Flight
  | some client => .holding (some client)
  | none => .clear

inductive Moves : Flight → (q : Request) → q.Answer → Flight → Prop
  | look {φ : Flight} (r : Option ClientId) (h : φ = .idle none) : Moves φ .cached r (.idle r)
  | join {φ : Flight} (h : φ = .idle none) : Moves φ (.join .connect .exclusive) () .waiting
  | obtain {φ : Flight} (h : φ = .waiting) : Moves φ (.obtain .connect) () (.holding none)
  | relook {φ : Flight} (r : Option ClientId) (h : φ = .holding none) : Moves φ .cached r (looked r)
  | start {φ : Flight} (settings : Platform.Settings) (h : φ = .clear) :
      Moves φ (.startConnect settings) () .connecting
  | fail {φ : Flight} (e : Platform.Error) (h : φ = .connecting) :
      Moves φ .awaitConnect (.error e) (.holding none)
  | deliver {φ : Flight} (client : ClientId) (h : φ = .connecting) :
      Moves φ .awaitConnect (.ok client) (.delivered client)
  | keep {φ : Flight} {client : ClientId} (h : φ = .delivered client) :
      Moves φ (.keep client) () (.holding (some client))
  | forget {φ : Flight} (dropped : Bool) (h : φ = .holding none) :
      Moves φ .forget dropped (.holding none)
  | taint {φ : Flight} (client : ClientId) (changed : Bool) (h : φ = .idle none) :
      Moves φ (.taint client) changed (.idle none)
  | leave {φ : Flight} {got : Option ClientId} (h : φ = .holding got) :
      Moves φ (.leave .connect) () (.idle got)

theorem place_eq_update (φ ψ : Flight) :
    ψ.place = Function.update φ.place .connect (ψ.place .connect) := by
  funext lock
  cases lock <;> simp [place]

theorem place_eq_of_connect {φ χ ψ : Flight} (h : φ = χ)
    (hc : ψ.place .connect = χ.place .connect) : ψ.place = φ.place := by
  rw [place_eq_update φ ψ, hc, h, Function.update_eq_self]

theorem Moves.relocates {φ ψ : Flight} (h : Moves φ q a ψ) : q.Relocates φ.place ψ.place := by
  cases h with
  | join h => exact ⟨by rw [h]; rfl,place_eq_update φ _⟩
  | obtain h => exact ⟨.exclusive,by rw [h]; rfl,place_eq_update φ _⟩
  | leave h => exact ⟨⟨.exclusive,by rw [h]; rfl⟩,place_eq_update φ _⟩
  | relook r h => cases r <;> exact place_eq_of_connect h rfl
  | look r h => exact place_eq_of_connect h rfl
  | start settings h => exact place_eq_of_connect h rfl
  | fail e h => exact place_eq_of_connect h rfl
  | deliver client h => exact place_eq_of_connect h rfl
  | keep h => exact place_eq_of_connect h rfl
  | forget dropped h => exact place_eq_of_connect h rfl
  | taint client changed h => exact place_eq_of_connect h rfl

end Flight

def flight : Protocol where
  Stance := Flight
  place := Flight.place
  Moves := Flight.Moves
  relocates := Flight.Moves.relocates

/-! ## Calls on the cache -/

inductive CacheCall where
  | getOrConnect (settings : Platform.Settings)
  | taint (client : ClientId)
  | reset

inductive CacheReply where
  | client (r : Except Error ClientId)
  | tainted (r : Except Error Bool)
  | dropped (r : Except Error Bool)

def CacheReply.client? : CacheReply → Option ClientId
  | client r => r.toOption
  | _ => none

/-- The stance in which a call ends: outside the lock, with the client that it returns, if any. -/
def CacheReply.Ends (r : CacheReply) (ψ : Flight) : Prop := ψ = .idle r.client?

def CacheCall.talk : CacheCall → Talk CacheReply
  | getOrConnect settings => do return .client (← (Service.getOrConnect settings).run)
  | taint client => do return .tainted (← (ask (.taint client)).run)
  | reset => do return .dropped (← forgetClient.run)

theorem follows_connect_flight (settings : Platform.Settings) :
    Follows flight (connect settings).run .clear fun r ψ => ψ = .holding r.toOption := by
  refine Follows.ask_bind fun _ => ⟨_,.start settings rfl,?_⟩
  refine Follows.ask_bind fun r => ?_
  cases r with
  | error e => exact ⟨_,.fail e rfl,Follows.orFail_bind nofun fun _ _ => rfl⟩
  | ok client =>
    refine ⟨_,.deliver client rfl,Follows.orFail_bind (fun c hc => ?_) nofun⟩
    cases hc
    exact Follows.ask_bind fun _ => ⟨_,.keep rfl,rfl⟩

theorem follows_getOrConnect_flight (settings : Platform.Settings) :
    Follows flight (getOrConnect settings).run (.idle none) fun r ψ => ψ = .idle r.toOption := by
  refine Follows.ask_bind fun r => ⟨_,.look r rfl,?_⟩
  cases r with
  | some client => rfl
  | none =>
    refine Follows.holding (.join rfl) (.obtain rfl) (Follows.ask_bind fun r =>
      ⟨_,.relook r rfl,?_⟩)
    cases r with
    | some client => exact ⟨_,.leave rfl,rfl⟩
    | none =>
      refine (follows_connect_flight settings).mono fun r ψ hψ => ?_
      subst hψ
      exact ⟨_,.leave rfl,rfl⟩

theorem follows_forgetClient_flight :
    Follows flight forgetClient.run (.idle none) fun _ ψ => ψ = .idle none :=
  Follows.holding (.join rfl) (.obtain rfl) (Follows.ask fun dropped =>
    ⟨_,.forget dropped rfl,_,.leave rfl,rfl⟩)

theorem follows_cacheCall (call : CacheCall) :
    Follows flight call.talk (.idle none) CacheReply.Ends := by
  cases call with
  | getOrConnect settings =>
    exact Follows.bind ((follows_getOrConnect_flight settings).mono fun _ _ hψ => hψ)
  | taint client =>
    exact Follows.bind (Follows.ask fun changed => ⟨_,.taint client changed rfl,rfl⟩)
  | reset => exact Follows.bind (follows_forgetClient_flight.mono fun _ _ hψ => hψ)

end WorkloadLogin.Service
