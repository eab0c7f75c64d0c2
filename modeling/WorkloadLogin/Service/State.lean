import WorkloadLogin.Service.Request
import WorkloadLogin.Service.Store

/-! # Shared state and the answers to requests

The state is what all tasks of a service share. Locks are queues: a place holds its lock when
every place before it, and the place itself, asks for shared access, or when it is the first. A
request is answered in one step, or not yet: while a lock is held by others and while a connection
is being made. -/
namespace WorkloadLogin.Service

inductive Cache where
  | absent
  | fresh (client : ClientId)
  | tainted
  deriving DecidableEq, Repr

namespace Cache

def client? : Cache → Option ClientId
  | fresh c => some c
  | _ => none

theorem client?_eq_some_iff {cache : Cache} {client : ClientId} :
    cache.client? = some client ↔ cache = fresh client := by
  cases cache <;> simp [client?]

/-- The cache after `client` was found bad; one that has another client stays. -/
def taint (client : ClientId) (cache : Cache) : Bool × Cache :=
  if cache = fresh client then (true, tainted) else (false, cache)

end Cache

abbrev TaskId := Nat

/-- A place in the queue of a lock. -/
structure Ticket where
  task : TaskId
  access : Access
  deriving DecidableEq, Repr

abbrev Queue := List Ticket

namespace Queue

/-- Whether the place of a task holds the lock. -/
def holds (task : TaskId) : Queue → Bool
  | [] => false
  | t :: ts =>
    t.task == task || (t.access == .shared && sharedUpTo task ts)
where
  /-- The task's place and all before it ask for shared access. -/
  sharedUpTo (task : TaskId) : Queue → Bool
    | [] => false
    | t :: ts => t.access == .shared && (t.task == task || sharedUpTo task ts)

def leave (task : TaskId) (q : Queue) : Queue := q.filter fun t => t.task != task

end Queue

/-- The operations of storage that can fail. -/
inductive StorageCall where
  | getRole
  | getConfig
  | putConfig
  deriving DecidableEq, Repr

/-- What surrounds a service: clock, storage faults, verifier and platform, with a state of
their own. -/
structure World (σ : Type) where
  now : σ → Timestamp
  /-- The text of the failure that a storage operation meets instead of being done. -/
  storageFault : σ → StorageCall → Option String
  verifier : σ → Verifier
  startConnect : Platform.Settings → σ → σ
  /-- The outcome of the attempt that was started, once there is one. -/
  awaitConnect : σ → Option (Except Platform.Error ClientId × σ)
  lookup : ClientId → (kind : Platform.Kind) → String → σ → Platform.Found kind × σ

structure State (σ : Type) where
  store : Store := {}
  cache : Cache := .absent
  configQueue : Queue := []
  connectQueue : Queue := []
  /-- Requests that were answered, latest first. -/
  log : List Request := []
  world : σ

namespace State
variable {σ : Type}

def queue (s : State σ) : Lock → Queue
  | .config => s.configQueue
  | .connect => s.connectQueue

def setQueue (s : State σ) (lock : Lock) (q : Queue) : State σ :=
  match lock with
  | .config => { s with configQueue := q }
  | .connect => { s with connectQueue := q }

/-- Storage is asked unless it fails. -/
def stored {α : Type} (w : World σ) (s : State σ) (call : StorageCall) (a : α) (t : State σ) :
    Option (Except String α × State σ) :=
  match w.storageFault s.world call with
  | some text => some (.error text, s)
  | none => some (.ok a, t)

def reply (w : World σ) (task : TaskId) :
    (r : Request) → State σ → Option (r.Answer × State σ)
  | .now, s => some (w.now s.world, s)
  | .readRole name, s => stored w s .getRole (s.store.role? name) s
  | .readConfig, s => stored w s .getConfig s.store.config s
  | .storeConfig c, s =>
    stored w s .putConfig () { s with store := s.store.setConfig (some c) }
  | .join lock access, s => some ((), s.setQueue lock (s.queue lock ++ [⟨task, access⟩]))
  | .obtain lock, s => if (s.queue lock).holds task then some ((), s) else none
  | .leave lock, s => some ((), s.setQueue lock ((s.queue lock).leave task))
  | .cached, s => some (s.cache.client?, s)
  | .keep client, s => some ((), { s with cache := .fresh client })
  | .taint client, s =>
    let (changed, cache) := s.cache.taint client
    some (changed, { s with cache := cache })
  | .forget, s => some (s.cache.client?.isSome, { s with cache := .absent })
  | .extract bundle, s => some ((w.verifier s.world).extract bundle, s)
  | .checkSignature signature data, s =>
    some ((w.verifier s.world).checkSignature signature data, s)
  | .checkChain caTexts certs signing now, s =>
    some ((w.verifier s.world).checkChain caTexts certs signing now, s)
  | .identify c, s => some ((w.verifier s.world).identify c, s)
  | .startConnect settings, s => some ((), { s with world := w.startConnect settings s.world })
  | .awaitConnect, s =>
    (w.awaitConnect s.world).map fun (r, world) => (r, { s with world := world })
  | .lookup client kind guid, s =>
    let (r, world) := w.lookup client kind guid s.world
    some (r, { s with world := world })

/-- The answer to a request of a task, entered in the log. -/
def answer (w : World σ) (task : TaskId) (r : Request) (s : State σ) :
    Option (r.Answer × State σ) :=
  (reply w task r s).map fun (a, s) => (a, { s with log := r :: s.log })

/-- Runs a task as far as it gets. -/
def advance {α : Type} (w : World σ) (task : TaskId) (x : Talk α) (s : State σ) :
    Talk α × State σ :=
  x.advance (answer w task) s

end State
end WorkloadLogin.Service
