import WorkloadLogin.Http.Exchange

/-! # Peers that answer from routes

A route has the replies to one kind of request. They are used up in order and the last one stays;
a request without a route is answered as not found. Only plain connections are taken. -/
namespace WorkloadLogin.Http

structure Route where
  method : Method := .get
  /-- The whole address, without a fragment. -/
  url : String
  /-- Replies in order; none ends the connection instead. -/
  replies : List (Option Reply)
  deriving DecidableEq, Repr

structure Routes where
  routes : List Route
  /-- The requests that arrived, latest first. -/
  arrived : List Request := []
  deriving DecidableEq, Repr

namespace Route

def serves (r : Request) (route : Route) : Bool :=
  route.method == r.method && route.url == r.url.withoutFragment.render

def nextReply (route : Route) : Option Reply := route.replies.head?.getD (some ⟨.notFound, ""⟩)

def afterReply (route : Route) : Route :=
  if route.replies.length > 1 then { route with replies := route.replies.tail } else route

end Route

namespace Routes

/-- The reply of the first route that serves a request, and the routes after it. -/
def replyTo (r : Request) : List Route → Option Reply × List Route
  | [] => (some ⟨.notFound, ""⟩, [])
  | route :: rest =>
    if route.serves r then (route.nextReply, route.afterReply :: rest)
    else
      let (reply, rest) := replyTo r rest
      (reply, route :: rest)

def peer : Peer Routes where
  answer r s :=
    match r.url.scheme with
    | .https => (none, s)
    | .http =>
      let (reply, routes) := replyTo r s.routes
      (reply, ⟨routes, r :: s.arrived⟩)

end Routes
end WorkloadLogin.Http
