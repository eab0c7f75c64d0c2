import WorkloadLogin.Calendar.Timestamp
import WorkloadLogin.Duration

/-! # The signing window

A signing time is accepted from `maxAge` before the present to `maxSkew` after it, both ends
included. A bound that lies beyond the calendar bounds nothing. -/
namespace WorkloadLogin
open Text

structure SigningWindow where
  maxAge : Duration
  maxSkew : Duration
  deriving DecidableEq, Repr

namespace SigningWindow

inductive Side where
  | tooOld
  | tooFarInFuture
  deriving DecidableEq, Repr

structure Violation where
  side : Side
  signedAt : Timestamp
  receivedAt : Timestamp
  allowedSecs : UInt64
  deriving DecidableEq, Repr

def Violation.message (v : Violation) : String :=
  let what := match v.side with
    | .tooOld => "too old"
    | .tooFarInFuture => "too far in the future"
  let bound := match v.side with
    | .tooOld => "old"
    | .tooFarInFuture => "in the future"
  "request is " ++ what ++ "; signed at " ++ v.signedAt.display ++ " but received request at " ++
    v.receivedAt.display ++ "; allowable seconds " ++ bound ++ " is " ++
    decimal v.allowedSecs.toNat

/-- A signed length: durations of 2^63 seconds or more have none. -/
def signedNanos? (d : Duration) : Option Int :=
  if d.secs.toNat < 0x8000000000000000 then some d.toNanos else none

def earliest? (w : SigningWindow) (now : Timestamp) : Option Timestamp :=
  (signedNanos? w.maxAge).bind fun n => now.shift? (-n)

def latest? (w : SigningWindow) (now : Timestamp) : Option Timestamp :=
  (signedNanos? w.maxSkew).bind fun n => now.shift? n

def check (w : SigningWindow) (signedAt now : Timestamp) : Except Violation Unit :=
  if (w.earliest? now).any fun t => signedAt.instant.toNanos < t.instant.toNanos then
    .error ⟨.tooOld, signedAt, now, w.maxAge.secs⟩
  else if (w.latest? now).any fun t => t.instant.toNanos < signedAt.instant.toNanos then
    .error ⟨.tooFarInFuture, signedAt, now, w.maxSkew.secs⟩
  else .ok ()

end SigningWindow
end WorkloadLogin
