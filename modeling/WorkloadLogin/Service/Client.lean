import WorkloadLogin.Service.Request

/-! # The shared platform client

All logins and renewals share one client. Connecting is done by one task at a time: those that
find no fresh client queue up and look again when their turn comes. A failed attempt changes
nothing, so that the next task in the queue tries again. -/
namespace WorkloadLogin.Service

/-- Connects and keeps the new client. -/
def connect (settings : Platform.Settings) : Action ClientId := do
  let _ ← ask (.startConnect settings)
  let client ← orFail .platform (← ask .awaitConnect)
  let _ ← ask (.keep client)
  return client

/-- The fresh client, or a new one. -/
def getOrConnect (settings : Platform.Settings) : Action ClientId := do
  match ← ask .cached with
  | some client => return client
  | none =>
    holding .connect .exclusive do
      match ← ask .cached with
      | some client => return client
      | none => connect settings

/-- Drops the client; tells whether there was a fresh one. -/
def forgetClient : Action Bool := holding .connect .exclusive (ask .forget)

end WorkloadLogin.Service
