import WorkloadLogin.Json.Decode
import WorkloadLogin.Nanos

/-! # Durations

A duration is a count of whole seconds and a rest of less than a second. -/
namespace WorkloadLogin

structure Duration where
  secs : UInt64 := 0
  nanos : Nanos := .zero
  deriving DecidableEq, Repr, Inhabited

namespace Duration
open Json

def ofSeconds (n : UInt64) : Duration := { secs := n }

/-- The length in nanoseconds. -/
def toNanos (d : Duration) : Nat := d.secs.toNat * 1000000000 + d.nanos.val

/-- The duration of `secs` seconds and `nanos` nanoseconds, whole seconds among the nanoseconds
carried over; there is none past the last representable second. -/
def ofParts? (secs nanos : Nat) : Option Duration :=
  let total := secs + nanos / 1000000000
  if total < UInt64.size then
    some ⟨UInt64.ofNat total, .ofNat nanos⟩
  else none

structure Draft where
  secs : Option Nat := none
  nanos : Option Nat := none

def shape : Shape Draft (Nat × Nat) where
  blank := {}
  fields := [
    .of "secs" (Decode.wholeBetween 0 0xffffffffffffffff) fun d n =>
      { d with secs := some n.toNat },
    .of "nanos" (Decode.wholeBetween 0 0xffffffff) fun d n => { d with nanos := some n.toNat }]
  close d := do
    let secs ← needed "secs" d.secs
    let nanos ← needed "nanos" d.nanos
    return (secs, nanos)

def decode : Decoder Duration := fun surplus v =>
  match shape.decode surplus v with
  | .error e => .error e
  | .ok (secs, nanos) =>
    match ofParts? secs nanos with
    | some d => .ok d
    | none => Decode.fail .unreadable

def encode (d : Duration) : Json :=
  .object [("secs", .nat d.secs.toNat), ("nanos", .nat d.nanos.val)]

/-- A number of whole seconds. -/
def decodeSeconds : Decoder Duration := fun surplus v => (Decode.word64 surplus v).map ofSeconds

/-- The whole seconds; what is left of another one is not written. -/
def encodeSeconds (d : Duration) : Json := .nat d.secs.toNat

end Duration
end WorkloadLogin
