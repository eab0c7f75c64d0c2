import WorkloadLogin.Dialogue
import WorkloadLogin.Service.Error

/-! # What the service asks of its surroundings

Every step of the service that depends on shared state, on storage, on the verifier or on the
platform is one request. Between two requests of a task any other task may take steps. -/
namespace WorkloadLogin.Service

/-- Clients of the platform are known by number. -/
abbrev ClientId := Nat

inductive Lock where
  /-- Held while the stored configuration is relied on, exclusively to replace it. -/
  | config
  /-- Held while a client is connected or dropped. -/
  | connect
  deriving DecidableEq, Repr

inductive Access where
  | shared
  | exclusive
  deriving DecidableEq, Repr

inductive Request where
  | now
  | readRole (name : String)
  | readConfig
  | storeConfig (c : Config)
  /-- Takes a place in the queue of a lock. -/
  | join (lock : Lock) (access : Access)
  /-- Waits until the place in the queue holds the lock. -/
  | obtain (lock : Lock)
  | leave (lock : Lock)
  /-- The cached client, if the cache is fresh. -/
  | cached
  | keep (client : ClientId)
  /-- Marks the cached client unusable if it is this one. -/
  | taint (client : ClientId)
  /-- Empties the cache. -/
  | forget
  | extract (bundle : String)
  | checkSignature (signature : String) (data : SignatureData)
  | checkChain (caTexts : List String) (certs : InstanceCertificates) (signing : Certificate)
      (now : Timestamp)
  | identify (c : Certificate)
  | startConnect (settings : Platform.Settings)
  | awaitConnect
  | lookup (client : ClientId) (kind : Platform.Kind) (guid : String)
  deriving DecidableEq, Repr

abbrev Request.Answer : Request → Type
  | .now => Timestamp
  | .readRole _ => Except String (Option Role)
  | .readConfig => Except String (Option Config)
  | .storeConfig _ => Except String Unit
  | .join _ _ | .obtain _ | .leave _ | .keep _ | .startConnect _ => Unit
  | .cached => Option ClientId
  | .taint _ | .forget => Bool
  | .extract _ => Except Verifier.Fault InstanceCertificates
  | .checkSignature _ _ => Except Verifier.Fault Certificate
  | .checkChain _ _ _ _ => Except Verifier.Fault Unit
  | .identify _ => Except Verifier.Fault Identity
  | .awaitConnect => Except Platform.Error ClientId
  | .lookup _ kind _ => Platform.Found kind

abbrev Talk : Type → Type := Dialogue Request Request.Answer

/-- A dialogue that may end in an error of the service. -/
abbrev Action : Type → Type := ExceptT Error Talk

def ask (r : Request) : Action r.Answer := ExceptT.lift (Dialogue.question r)

/-- The value of an outcome, or the error that its failure stands for. -/
def orFail {ε α : Type} (failure : ε → Error) : Except ε α → Action α
  | .ok a => pure a
  | .error e => throw (failure e)

/-- An action under a lock, which is left again however the action ends. -/
def holding {α : Type} (lock : Lock) (access : Access) (body : Action α) : Action α :=
  ExceptT.mk do
    let _ ← Dialogue.question (.join lock access)
    let _ ← Dialogue.question (.obtain lock)
    let r ← body.run
    let _ ← Dialogue.question (.leave lock)
    return r

end WorkloadLogin.Service
