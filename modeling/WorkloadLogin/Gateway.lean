import WorkloadLogin.Controller.Client
import WorkloadLogin.Platform.Directory
import WorkloadLogin.Service.Login
import WorkloadLogin.Service.Schedule
import WorkloadLogin.X509.Verifier

/-! # The gateway

A gateway is a service with storage that does not fail, certificates for proof, and a directory or
a controller for platform. Each of its parts is set up once. -/
namespace WorkloadLogin
open Service

/-- Where platform records come from. -/
inductive Connector where
  | directory (d : Platform.Directory)
  | controller

/-- What surrounds the service of a gateway; `τ` is the state of the controller's peer. -/
structure Surroundings (τ : Type) where
  now : Timestamp
  connector : Connector
  peer : τ
  /-- The controller clients, each at the place of its number. -/
  clients : List Controller.Client := []
  connected : Option (Except Platform.Error ClientId) := none

namespace Surroundings
variable {τ : Type}

/-- Makes a connection. A directory has one client for all. -/
def connect (p : Http.Peer τ) (settings : Platform.Settings) (s : Surroundings τ) :
    Surroundings τ :=
  match s.connector with
  | .directory _ => { s with connected := some (.ok 0) }
  | .controller =>
    match p.talk (Controller.connect settings).run s.peer with
    | (.ok c, peer) =>
      { s with peer, clients := s.clients ++ [c], connected := some (.ok s.clients.length) }
    | (.error f, peer) => { s with peer, connected := some (.error f.toError) }

def lookup (p : Http.Peer τ) (client : ClientId) (kind : Platform.Kind) (guid : String)
    (s : Surroundings τ) : Platform.Found kind × Surroundings τ :=
  match s.connector with
  | .directory d => (d.lookup kind guid, s)
  | .controller =>
    match s.clients[client]? with
    | none => (.error (.notFound kind guid), s)
    | some c =>
      let ((r, c), peer) := p.talk (c.lookup kind guid) s.peer
      (r.mapError Controller.Fault.toError,
        { s with peer, clients := s.clients.set client c })

def world (p : Http.Peer τ) : World (Surroundings τ) where
  now s := s.now
  storageFault _ _ := none
  verifier _ := X509.verifier
  startConnect settings s := s.connect p settings
  awaitConnect s := s.connected.map fun r => (r, s)
  lookup client kind guid s := s.lookup p client kind guid

end Surroundings

structure Gateway (τ : Type) where
  /-- Where the service that is still to be started gets its records. -/
  connector : Option Connector := none
  hasDirectory : Bool := false
  service : Option (State (Surroundings τ)) := none

namespace Gateway
variable {τ α : Type}

inductive SetupFault where
  | alreadyInitialized
  | noConnector
  deriving DecidableEq, Repr

def SetupFault.message : SetupFault → String
  | .alreadyInitialized => "Service already initialized"
  | .noConnector => "no platform to connect to"

def setDirectory (d : Platform.Directory) (g : Gateway τ) : Except SetupFault (Gateway τ) :=
  if g.hasDirectory then .error .alreadyInitialized
  else .ok { g with connector := some (.directory d), hasDirectory := true }

def setController (g : Gateway τ) : Gateway τ := { g with connector := some .controller }

/-- Starts the service with a stopped clock. -/
def start (config : ModuleConfig) (now : Timestamp) (peer : τ) (g : Gateway τ) :
    Except SetupFault (Gateway τ) :=
  match g.service, g.connector with
  | some _, _ => .error .alreadyInitialized
  | none, none => .error .noConnector
  | none, some connector =>
    .ok { g with
      service := some { store := .ofModuleConfig config, world := { now, connector, peer } } }

/-- The state of the client cache, once the service has been started. -/
def status (g : Gateway τ) : Option Cache := g.service.map State.cache

/-- Lets the service do something by itself. There is no outcome before it has been started. -/
def perform (p : Http.Peer τ) (action : Action α) (g : Gateway τ) :
    Option (Except Error α) × Gateway τ :=
  match g.service with
  | none => (none, g)
  | some s =>
    let (r, s) := Schedule.alone (Surroundings.world p) action.run s
    (r, { g with service := some s })

end Gateway
end WorkloadLogin
