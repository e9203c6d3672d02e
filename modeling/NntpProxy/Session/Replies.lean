import NntpProxy.Framing.Exchange
import NntpProxy.Session.Auth

/-!
# Local replies as responses

Every line that the proxy itself sends in place of a backend is a well-formed response to the
request that it answers.  An error line is one for every request.  Responses can be told apart
where they follow one another: octets are a sequence of replies in at most one way.
-/

namespace NntpProxy.Session

open Protocol Framing NntpProxy.Stream

/-! ## Replies -/

/-- The octets are one response to a request of this kind. -/
def IsReply (kind : RequestKind) (reply : Bytes) : Prop :=
  ∃ response : Response kind, response.bytes = reply

variable {kind : RequestKind} {kinds : List RequestKind}

theorem IsReply.ne_nil {reply : Bytes} (isReply : IsReply kind reply) : reply ≠ [] := by
  rcases isReply with ⟨response, rfl⟩
  simp [Response.bytes]

/-- Octets start with the replies to requests in at most one way. -/
theorem replies_unique {replies others : List Bytes} {rest otherRest : Bytes}
    (isReplies : List.Forall₂ IsReply kinds replies) (areOthers : List.Forall₂ IsReply kinds others)
    (joined : replies.flatten ++ rest = others.flatten ++ otherRest) :
    replies = others ∧ rest = otherRest := by
  induction isReplies generalizing others with
  | nil =>
    cases areOthers
    exact ⟨rfl, joined⟩
  | cons isReply _ ih =>
    cases areOthers with
    | cons isOther areOthers =>
      rcases isReply with ⟨response, rfl⟩
      rcases isOther with ⟨other, rfl⟩
      rw [List.flatten_cons, List.flatten_cons, List.append_assoc, List.append_assoc] at joined
      rcases Response.bytes_append_inj joined with ⟨rfl, tail⟩
      rcases ih areOthers tail with ⟨rfl, restEq⟩
      exact ⟨rfl, restEq⟩

/-! ## Lines -/

/-- A line with a status code. -/
structure IsStatusLine (reply : Bytes) (status : StatusCode) : Prop where
  oneLine : lf ∉ reply.rdrop crlf.length
  closed : crlf <:+ reply
  code : StatusCode.parse reply = some status

instance (reply : Bytes) (status : StatusCode) : Decidable (IsStatusLine reply status) :=
  decidable_of_iff (lf ∉ reply.rdrop crlf.length ∧ crlf <:+ reply ∧
    StatusCode.parse reply = some status)
    ⟨fun ⟨oneLine, closed, code⟩ => ⟨oneLine, closed, code⟩,
      fun ⟨oneLine, closed, code⟩ => ⟨oneLine, closed, code⟩⟩

theorem IsStatusLine.isReply {reply : Bytes} {status : StatusCode}
    (isLine : IsStatusLine reply status)
    (noBody : requestKindHasResponseBody kind status = false) : IsReply kind reply := by
  rcases isLine with ⟨oneLine, ⟨text, rfl⟩, code⟩
  rw [List.rdrop_append_length] at oneLine
  refine ⟨⟨text, status, [], oneLine, code, ?_⟩, List.append_nil _⟩
  rw [noBody]
  rfl

/-- A line that reports an error. -/
def IsErrorLine (reply : Bytes) : Prop :=
  ∃ status : StatusCode, status.isError = true ∧ IsStatusLine reply status

theorem IsErrorLine.isReply {reply : Bytes} (isError : IsErrorLine reply) (kind : RequestKind) :
    IsReply kind reply := by
  rcases isError with ⟨status, error, isLine⟩
  exact isLine.isReply (requestKindHasResponseBody_of_isError error)

/-- What is answered for the backends when none has an answer. -/
theorem isErrorLine_noSuchArticle : IsErrorLine noSuchArticle :=
  ⟨⟨430, by decide, by decide⟩, by decide +kernel⟩

theorem isErrorLine_backendError : IsErrorLine backendError :=
  ⟨⟨503, by decide, by decide⟩, by decide +kernel⟩

/-! ## Commands that are answered locally -/

theorem isErrorLine_authRequiredForCommand : IsErrorLine authRequiredForCommand :=
  ⟨⟨480, by decide, by decide⟩, by decide +kernel⟩

theorem isErrorLine_transitReject : IsErrorLine transitReject :=
  ⟨⟨503, by decide, by decide⟩, by decide +kernel⟩

theorem isErrorLine_rejectionFor (request : RequestContext) :
    IsErrorLine (rejectionFor request) := by
  have posting : IsErrorLine postingNotPermitted :=
    ⟨⟨440, by decide, by decide⟩, by decide +kernel⟩
  have transport : IsErrorLine transportReject := ⟨⟨503, by decide, by decide⟩, by decide +kernel⟩
  have stateful : IsErrorLine statefulReject := ⟨⟨503, by decide, by decide⟩, by decide +kernel⟩
  unfold rejectionFor
  split
  · exact posting
  · exact isErrorLine_transitReject
  · exact transport
  · exact transport
  · split
    · exact stateful
    · exact isErrorLine_transitReject

theorem isErrorLine_of_reject {request : RequestContext} {access : AuthenticationAccess}
    {mode : RoutingMode} {response : Bytes}
    (rejected : classifyRequest request access mode = .reject response) : IsErrorLine response := by
  unfold classifyRequest at rejected
  split at rejected
  · cases rejected
  · cases rejected
  · cases rejected
  · split at rejected
    · split at rejected <;> cases rejected
    · split at rejected <;> cases rejected
    · split at rejected
      · split at rejected <;> cases rejected
      · split at rejected
        · cases rejected
          exact isErrorLine_rejectionFor request
        · cases rejected
    · split at rejected
      · cases rejected
        exact isErrorLine_rejectionFor request
      · cases rejected
    · split at rejected
      · cases rejected
      · cases rejected
        exact isErrorLine_transitReject

theorem isReply_capabilitiesResponse (authEnabled : Bool) :
    IsReply .capabilities (capabilitiesResponse authEnabled) := by
  have text : ∀ body, firstEnd (endsWith terminator) (line "101 Capability list:") body =
      some body.length → IsReply .capabilities (line "101 Capability list:" ++ body) := by
    intro body ends
    exact ⟨⟨ascii "101 Capability list:", ⟨101, by decide, by decide⟩, body, by decide +kernel,
      by decide +kernel, ends⟩, rfl⟩
  cases authEnabled with
  | true =>
    exact text (line "VERSION 2" ++ line "READER" ++ line "AUTHINFO USER PASS" ++ line "OVER" ++
      line "HDR" ++ line ".") (by decide +kernel)
  | false =>
    exact text (line "VERSION 2" ++ line "READER" ++ line "OVER" ++ line "HDR" ++ line ".")
      (by decide +kernel)

theorem isReply_connectionClosing : IsReply .quit connectionClosing := by
  have isLine : IsStatusLine connectionClosing ⟨205, by decide, by decide⟩ := by decide +kernel
  exact isLine.isReply rfl

/-! ## Authentication -/

theorem isReply_authResponse (result : AuthReducerResult) :
    IsReply .authInfo (authResponse result) := by
  cases result with
  | passwordRequired =>
    have isLine : IsStatusLine authRequired ⟨381, by decide, by decide⟩ := by decide +kernel
    exact isLine.isReply rfl
  | accepted =>
    have isLine : IsStatusLine authAccepted ⟨281, by decide, by decide⟩ := by decide +kernel
    exact isLine.isReply rfl
  | rejected =>
    have isLine : IsStatusLine authFailed ⟨481, by decide, by decide⟩ := by decide +kernel
    exact isLine.isReply rfl
  | outOfSequence =>
    have isLine : IsStatusLine authOutOfSequence ⟨482, by decide, by decide⟩ := by decide +kernel
    exact isLine.isReply rfl
  | alreadyAuthenticated =>
    have isLine : IsStatusLine authAlreadyAuthenticated ⟨502, by decide, by decide⟩ := by
      decide +kernel
    exact isLine.isReply rfl
  | unknown =>
    have isLine : IsStatusLine authUnknownSubcommand ⟨501, by decide, by decide⟩ := by
      decide +kernel
    exact isLine.isReply rfl

variable {handler : AuthHandler} {action : AuthAction} {state : ClientAuthState}
    {identity : Option Username}

theorem isReply_handleAuthCommand {result : AuthResult}
    (answered : handleAuthCommand handler action state identity = some result) :
    IsReply .authInfo result.reply := by
  unfold handleAuthCommand at answered
  split at answered
  · obtain rfl := Option.some.inj answered
    exact isReply_authResponse .alreadyAuthenticated
  · split at answered
    · cases answered
    · obtain rfl := Option.some.inj answered
      exact isReply_authResponse _

/-- The only command without an answer names nobody where no user is recorded. -/
theorem handleAuthCommand_eq_none_iff :
    handleAuthCommand handler action state identity = none ↔
      identity = none ∧ ∃ name, action = .requestPassword name ∧ Username.tryNew name = none := by
  cases identity with
  | some user => simp [handleAuthCommand]
  | none =>
    cases action with
    | requestPassword name => cases valid : Username.tryNew name <;>
        simp [handleAuthCommand, authEvent, valid]
    | _ => simp [handleAuthCommand, authEvent]

end NntpProxy.Session
