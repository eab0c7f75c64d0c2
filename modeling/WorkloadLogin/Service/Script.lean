import WorkloadLogin.Platform.Directory
import WorkloadLogin.Service.State

/-! # Scripted surroundings

A world whose clock, storage, verifier and platform do what they were last told. Connections hand
out new clients over the same records; a slow connection keeps its task waiting until it is
released. -/
namespace WorkloadLogin.Service

inductive VerifierStep where
  | extract
  | signature
  | chain
  | identity
  deriving DecidableEq, Repr

/-- The verifier of a script: a given one, or one that accepts everything but for one step. -/
inductive VerifierScript where
  | given (v : Verifier)
  | accepting (failing : Option (VerifierStep × Verifier.Fault))

/-- Records under the keys by which they are looked up. -/
structure Records where
  apps : List (String × Platform.App) := []
  orgs : List (String × Platform.Org) := []
  spaces : List (String × Platform.Space) := []

namespace Records

def table (r : Records) : (kind : Platform.Kind) → List (String × kind.Record)
  | .app => r.apps
  | .org => r.orgs
  | .space => r.spaces

def setTable (r : Records) : (kind : Platform.Kind) → List (String × kind.Record) → Records
  | .app, t => { r with apps := t }
  | .org, t => { r with orgs := t }
  | .space, t => { r with spaces := t }

def find (r : Records) (kind : Platform.Kind) (key : String) : Platform.Found kind :=
  match (r.table kind).find? fun e => e.1 == key with
  | some (_, record) => .ok record
  | none => .error (.notFound kind key)

/-- The records with one put under a key, or with the key removed. -/
def put (r : Records) (kind : Platform.Kind) (key : String) (record : Option kind.Record) :
    Records :=
  let others := (r.table kind).filter fun e => e.1 != key
  r.setTable kind ((record.map fun x => (key, x)).toList ++ others)

end Records

structure Script where
  now : Timestamp
  storageFaults : List (StorageCall × String) := []
  verifier : VerifierScript := .accepting none
  identity : Identity := default
  records : Records := {}
  connectFault : Option Platform.Error := none
  /-- The lookup that is to fail, counted from the next one, which has number one. -/
  lookupFault : Option (Nat × Platform.Error) := none
  clients : ClientId := 0
  /-- Connections wait to be released. -/
  slow : Bool := false
  waiting : Bool := false

namespace Script

def failingAt (failing : Option (VerifierStep × Verifier.Fault)) (step : VerifierStep) {α : Type}
    (a : α) : Except Verifier.Fault α :=
  match failing with
  | some (s, fault) => if s = step then .error fault else .ok a
  | none => .ok a

def asVerifier (s : Script) : Verifier :=
  match s.verifier with
  | .given v => v
  | .accepting failing =>
    { extract := fun _ => failingAt failing .extract default
      checkSignature := fun _ _ => failingAt failing .signature default
      checkChain := fun _ _ _ _ => failingAt failing .chain ()
      identify := fun _ => failingAt failing .identity s.identity }

def release (s : Script) : Script := { s with waiting := false }

def endConnect (s : Script) : Option (Except Platform.Error ClientId × Script) :=
  if s.waiting then none
  else
    match s.connectFault with
    | some e => some (.error e, s)
    | none => some (.ok s.clients, { s with clients := s.clients + 1 })

def find (s : Script) (kind : Platform.Kind) (guid : String) : Platform.Found kind × Script :=
  match s.lookupFault with
  | some (n, e) =>
    if n ≤ 1 then (.error e, { s with lookupFault := none })
    else (s.records.find kind guid, { s with lookupFault := some (n - 1, e) })
  | none => (s.records.find kind guid, s)

def world : World Script where
  now s := s.now
  storageFault s call := (s.storageFaults.find? fun f => f.1 == call).map Prod.snd
  verifier := asVerifier
  startConnect _ s := { s with waiting := s.slow }
  awaitConnect := endConnect
  lookup _ kind guid s := s.find kind guid

end Script
end WorkloadLogin.Service
