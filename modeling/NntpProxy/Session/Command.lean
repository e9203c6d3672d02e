import NntpProxy.Protocol.Request
import NntpProxy.Protocol.Responses

/-!
# Command plans

A parsed request becomes a plan: it is answered locally, forwarded to a backend
or makes the session stateful.  The plan depends on the request, on whether the
client may reach a backend, and on the routing mode.
-/

namespace NntpProxy.Session

open Protocol

/-- What the client may do. -/
inductive AuthenticationAccess where
  | required
  | authenticated
  | unrestricted
  deriving DecidableEq, Repr

variable {access : AuthenticationAccess}

namespace AuthenticationAccess

def fromAuthEnabled (authEnabled : Bool) : AuthenticationAccess :=
  if authEnabled then .required else .unrestricted

def canAccessBackend (access : AuthenticationAccess) : Bool :=
  access != .required

def authEnabled (access : AuthenticationAccess) : Bool :=
  access != .unrestricted

def afterSuccess : AuthenticationAccess → AuthenticationAccess
  | .required => .authenticated
  | other => other

theorem afterSuccess_of_canAccessBackend
    (allowed : access.canAccessBackend = true) : access.afterSuccess = access := by
  cases access with
  | required => simp [canAccessBackend] at allowed
  | authenticated => rfl
  | unrestricted => rfl

end AuthenticationAccess

/-- How requests are distributed over backends. -/
inductive RoutingMode where
  | stateful
  | perCommand
  | hybrid
  deriving DecidableEq, Repr

/-- What an `AUTHINFO` command asks for.  A name is given by its code points, a
password by its octets. -/
inductive AuthAction where
  | requestPassword (username : List Nat)
  | validateAndRespond (password : Bytes)
  | unknownSubcommand
  deriving DecidableEq, Repr

/-- What happens to a request. -/
inductive CommandPlan where
  | interceptAuth (action : AuthAction)
  | reject (response : Bytes)
  | forward
  | requireAuth
  | switchToStateful (request : RequestContext)
  | interceptCapabilities
  deriving DecidableEq, Repr

/-- The argument of an `AUTHINFO` subcommand when the arguments name it and the
rest is UTF-8. -/
def stripAuthinfoArg (args subcommand : Bytes) : Option (Bytes × List Nat) :=
  let args := trimAscii args
  let head := args.takeWhile fun byte => !isAsciiWhitespace byte
  let tail := trimAscii (args.dropWhile fun byte => !isAsciiWhitespace byte)
  if eqIgnoreAsciiCase head subcommand then (decodeUtf8 tail).map (tail, ·) else none

/-- The action of an `AUTHINFO` command. -/
def classifyAuth (args : Bytes) : AuthAction :=
  match stripAuthinfoArg args (ascii "USER") with
  | some (_, username) => .requestPassword username
  | none =>
    match stripAuthinfoArg args (ascii "PASS") with
    | some (password, _) => .validateAndRespond password
    | none => .unknownSubcommand

/-- The text with which a request is rejected. -/
def rejectionFor (request : RequestContext) : Bytes :=
  match request.kind with
  | .post => postingNotPermitted
  | .ihave => transitReject
  | .compress | .startTls => transportReject
  | _ =>
    match request.routeClass with
    | .stateful => statefulReject
    | _ => transitReject

/-- Classify a parsed request. -/
def classifyRequest (request : RequestContext) (access : AuthenticationAccess)
    (mode : RoutingMode) : CommandPlan :=
  match request.kind with
  | .authInfo => .interceptAuth (classifyAuth request.args)
  | .capabilities => .interceptCapabilities
  | .quit => .forward
  | _ =>
    match request.routeClass with
    | .articleByMessageId | .stateless =>
      if access.canAccessBackend then .forward else .requireAuth
    | .stateful =>
      if mode = .hybrid then
        if access.canAccessBackend then .switchToStateful request else .requireAuth
      else if access.canAccessBackend then .reject (rejectionFor request)
      else .requireAuth
    | .reject =>
      if access.canAccessBackend then .reject (rejectionFor request) else .requireAuth
    | .localReply => if mode = .stateful then .forward else .reject transitReject

/-- What the plan of a request says about it: `AUTHINFO` is intercepted and nothing else is,
and only a client that may reach a backend has requests forwarded, `QUIT` apart, or becomes
stateful. -/
structure Planned (request : RequestContext) (access : AuthenticationAccess)
    (plan : CommandPlan) : Prop where
  auth : request.kind = .authInfo → plan = .interceptAuth (classifyAuth request.args)
  onlyAuth : ∀ action, plan = .interceptAuth action → request.kind = .authInfo
  forward : plan = .forward → request.kind = .quit ∨ access.canAccessBackend = true
  stateful : ∀ handed, plan = .switchToStateful handed → access.canAccessBackend = true

section

variable {request : RequestContext} {plan : CommandPlan} (notAuth : request.kind ≠ .authInfo)

include notAuth

theorem Planned.of_allowed (notIntercepted : ∀ action, plan ≠ .interceptAuth action)
    (allowed : access.canAccessBackend = true) : Planned request access plan where
  auth isAuth := absurd isAuth notAuth
  onlyAuth action intercepted := absurd intercepted (notIntercepted action)
  forward _ := Or.inr allowed
  stateful _ _ := allowed

theorem Planned.of_reply (isReply : plan = .requireAuth ∨ plan = .interceptCapabilities ∨
      ∃ response, plan = .reject response) : Planned request access plan := by
  rcases isReply with rfl | rfl | ⟨response, rfl⟩ <;>
    exact ⟨fun isAuth => absurd isAuth notAuth, by simp, by simp, by simp⟩

end

theorem classifyRequest_planned (request : RequestContext) (access : AuthenticationAccess)
    (mode : RoutingMode) : Planned request access (classifyRequest request access mode) := by
  unfold classifyRequest
  split
  next isAuth => exact ⟨fun _ => rfl, fun _ _ => isAuth, by simp, by simp⟩
  next isCapabilities => exact .of_reply (by simp [isCapabilities]) (by simp)
  next isQuit =>
    exact ⟨by simp [isQuit], by simp, fun _ => Or.inl isQuit, by simp⟩
  next notAuth notCapabilities notQuit =>
    cases allowed : access.canAccessBackend with
    | true =>
      apply Planned.of_allowed notAuth _ allowed
      split
      · simp
      · simp
      · split <;> simp
      · simp
      · split <;> simp
    | false =>
      cases routeEq : request.routeClass with
      | localReply =>
        rcases RequestContext.kind_of_localReply routeEq with isKind | isKind | isKind
        · exact absurd isKind notCapabilities
        · exact absurd isKind notQuit
        · exact absurd isKind notAuth
      | _ => exact .of_reply notAuth (by simp)

end NntpProxy.Session
