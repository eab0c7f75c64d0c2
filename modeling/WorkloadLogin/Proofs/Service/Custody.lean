import WorkloadLogin.Proofs.Service.Protocol

/-! # What calls do with the configuration and the client

A call looks at the cache only while it relies on a configuration that it has read, connects only
with the settings of that configuration, and uses no client but one that it came by in this way. A
call that stores a configuration does not let go of the lock before it has reset the cache.
-/
namespace WorkloadLogin.Service
variable {q : Request} {a : q.Answer}

/-- Requests that have to do with neither. -/
def Request.Neutral : Request → Prop
  | .now | .readRole _ | .taint _ | .extract _ | .checkSignature _ _ | .checkChain _ _ _ _
  | .identify _ => True
  | _ => False

/-- What a task holds and has got hold of, since it took the configuration lock. -/
structure Custody where
  config : Place := .outside
  connect : Place := .outside
  read : Option Config := none
  /-- The settings of the connection attempt that the task waits for. -/
  attempt : Option Platform.Settings := none
  client : Option ClientId := none
  /-- The task has stored a configuration and has not yet reset the cache. -/
  unreset : Bool := false

namespace Custody

def place (φ : Custody) : Lock → Place
  | .config => φ.config
  | .connect => φ.connect

/-- The configuration that a read found. -/
def found : Except String (Option Config) → Option Config
  | .ok config => config
  | .error _ => none

inductive Moves : Custody → (q : Request) → q.Answer → Custody → Prop
  | joinConfig {φ : Custody} (access : Access) (hc : φ.config = .outside)
      (hn : φ.connect = .outside) :
      Moves φ (.join .config access) () { φ with config := .waiting access }
  | obtainConfig {φ : Custody} {access : Access} (hc : φ.config = .waiting access) :
      Moves φ (.obtain .config) () { φ with config := .holding access }
  | leaveConfig {φ : Custody} {access : Access} (hc : φ.config = .holding access)
      (hn : φ.connect = .outside) (hu : φ.unreset = false) : Moves φ (.leave .config) () {}
  | joinConnect {φ : Custody} (access : Access) (hn : φ.connect = .outside) :
      Moves φ (.join .connect access) () { φ with connect := .waiting access }
  | obtainConnect {φ : Custody} {access : Access} (hn : φ.connect = .waiting access) :
      Moves φ (.obtain .connect) () { φ with connect := .holding access }
  | leaveConnect {φ : Custody} {access : Access} (hn : φ.connect = .holding access) :
      Moves φ (.leave .connect) () { φ with connect := .outside, attempt := none }
  | readConfig {φ : Custody} (r : Except String (Option Config))
      (hc : φ.config = .holding .shared) (hr : φ.read = none) :
      Moves φ .readConfig r { φ with read := found r }
  | storeConfig {φ : Custody} (c : Config) (r : Except String Unit)
      (hc : φ.config = .holding .exclusive) :
      Moves φ (.storeConfig c) r { φ with unreset := φ.unreset || r.isOk }
  | cached {φ : Custody} {config : Config} (client : Option ClientId)
      (hr : φ.read = some config) : Moves φ .cached client { φ with client := client }
  | startConnect {φ : Custody} {config : Config} (hn : φ.connect = .holding .exclusive)
      (hr : φ.read = some config) : Moves φ (.startConnect config.platformSettings) ()
        { φ with attempt := some config.platformSettings }
  | awaitConnect {φ : Custody} {settings : Platform.Settings}
      (r : Except Platform.Error ClientId) (ha : φ.attempt = some settings) :
      Moves φ .awaitConnect r { φ with attempt := none, client := r.toOption }
  | keep {φ : Custody} {client : ClientId} (hcl : φ.client = some client) :
      Moves φ (.keep client) () φ
  | forget {φ : Custody} (dropped : Bool) (hc : φ.config = .holding .exclusive)
      (hn : φ.connect = .holding .exclusive) : Moves φ .forget dropped { φ with unreset := false }
  | lookup {φ : Custody} {client : ClientId} (kind : Platform.Kind) (guid : String)
      (r : Platform.Found kind) (hcl : φ.client = some client) :
      Moves φ (.lookup client kind guid) r φ
  | neutral {φ : Custody} {q : Request} (a : q.Answer) (hq : q.Neutral) : Moves φ q a φ

theorem place_with_config (φ : Custody) (p : Place) :
    place { φ with config := p } = Function.update φ.place .config p := by
  funext lock
  cases lock <;> simp [place]

theorem place_with_connect (φ : Custody) (p : Place) :
    place { φ with connect := p } = Function.update φ.place .connect p := by
  funext lock
  cases lock <;> simp [place]

theorem Moves.relocates {φ ψ : Custody} (h : Moves φ q a ψ) : q.Relocates φ.place ψ.place := by
  cases h with
  | joinConfig access hc hn => exact ⟨hc,place_with_config φ _⟩
  | obtainConfig hc => exact ⟨_,hc,place_with_config φ _⟩
  | leaveConfig hc hn hu =>
    refine ⟨⟨_,hc⟩,?_⟩
    rw [← place_with_config]
    funext lock
    cases lock
    · rfl
    · exact hn.symm
  | joinConnect access hn => exact ⟨hn,place_with_connect φ _⟩
  | obtainConnect hn => exact ⟨_,hn,place_with_connect φ _⟩
  | leaveConnect hn => exact ⟨⟨_,hn⟩,place_with_connect φ _⟩
  | neutral a hq => cases q <;> first | rfl | exact hq.elim
  | _ => rfl

end Custody

def custody : Protocol where
  Stance := Custody
  place := Custody.place
  Moves := Custody.Moves
  relocates := Custody.Moves.relocates

end WorkloadLogin.Service
