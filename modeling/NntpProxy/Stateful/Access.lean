import NntpProxy.Session.Transcript
import NntpProxy.Stateful.Loop

/-!
# Access in the stateful loop

Before the client proved an identity the loop answers every command itself, and nothing
is blocked behind a backend reply, so that the octets that a turn sends to the client are
the reply to its command.  Afterwards the recorded user never changes.
-/

namespace NntpProxy.Stateful

open Protocol Session Framing NntpProxy.Stream

/-! ## Transcripts -/

/-- The command of a completed line. -/
def StatefulClientLine.request? : StatefulClientLine → Option RequestContext
  | .ready request => some request
  | _ => none

variable {loop : StatefulLoop} {user : Username} {request : Option RequestContext}

namespace StatefulLoop

/-- The command that an input completes. -/
def commandOf (loop : StatefulLoop) : LoopInput → Option RequestContext
  | .client arrived =>
    (loop.reader.readRound (loop.available arrived)).1.bind StatefulClientLine.request?
  | _ => none

/-- What the loop did when it came from one state to another. -/
def turnTo (loop next : StatefulLoop) (request : Option RequestContext) : Turn where
  request := request
  toBackend := next.backend.accepted.drop loop.backend.accepted.length
  toClient := next.client.accepted.drop loop.client.accepted.length
  user := next.identity

/-- The turns of a loop that is fed with inputs until it ends. -/
def transcript (handler : AuthHandler) : StatefulLoop → List LoopInput → List Turn
  | _, [] => []
  | loop, input :: inputs =>
    if loop.exit.isSome then []
    else
      let next := step handler loop input
      loop.turnTo next (loop.commandOf input) :: transcript handler next inputs

/-! ## What stays the same -/

/-- Nothing went to the backend and nothing changed about the client's access. -/
structure SameAccess (loop next : StatefulLoop) : Prop where
  identity : next.identity = loop.identity
  authUsername : next.authUsername = loop.authUsername
  access : next.access = loop.access
  backend : next.backend.accepted = loop.backend.accepted

section Same

variable {loop next last : StatefulLoop} {bytes : Bytes}

theorem SameAccess.trans (first : SameAccess loop next) (second : SameAccess next last) :
    SameAccess loop last :=
  ⟨second.identity.trans first.identity, second.authUsername.trans first.authUsername,
    second.access.trans first.access, second.backend.trans first.backend⟩

theorem Sent.sameAccess (sent : Sent loop bytes next) : SameAccess loop next := by
  rcases sent with ⟨client, count, -, rfl⟩ | ⟨client, count, out, -, -, rfl⟩
  · exact ⟨rfl, rfl, rfl, rfl⟩
  · exact ⟨rfl, rfl, rfl, rfl⟩

theorem Sent.order (sent : Sent loop bytes next) : next.order = loop.order := by
  rcases sent with ⟨client, count, -, rfl⟩ | ⟨client, count, out, -, -, rfl⟩
  · rfl
  · rfl

theorem Flushed.sameAccess (flushed : Flushed loop next) : SameAccess loop next := by
  rcases flushed with ⟨backend, pending, unflushed, kept, rfl⟩ | ⟨backend, pending, kept, rfl⟩
  · exact ⟨rfl, rfl, rfl, kept⟩
  · exact ⟨rfl, rfl, rfl, kept⟩

theorem Flushed.order (flushed : Flushed loop next) : next.order = loop.order := by
  rcases flushed with ⟨backend, pending, unflushed, -, rfl⟩ | ⟨backend, pending, -, rfl⟩
  · rfl
  · rfl

theorem Flushed.client (flushed : Flushed loop next) : next.client = loop.client := by
  rcases flushed with ⟨backend, pending, unflushed, -, rfl⟩ | ⟨backend, pending, -, rfl⟩
  · rfl
  · rfl

theorem sameAccess_flushReadyReplies (loop : StatefulLoop) :
    SameAccess loop loop.flushReadyReplies := by
  simp only [flushReadyReplies]
  split
  · exact ⟨rfl, rfl, rfl, rfl⟩
  · have sent := (sent_writePieces { loop with order := loop.order.takeReady.2 }
      loop.order.takeReady.1).sameAccess
    exact ⟨sent.identity, sent.authUsername, sent.access, sent.backend⟩

theorem sameAccess_rest (loop : StatefulLoop) : SameAccess loop loop.rest := by
  have replied := sameAccess_flushReadyReplies loop
  simp only [rest]
  split
  · exact replied
  · exact replied.trans (flushed_flushBeforeWaiting _).sameAccess

end Same

/-! ## Ready replies -/

theorem takeReadyDeferredReplies_left (ordered : List OrderedResponse) :
    (takeReadyDeferredReplies (takeReadyDeferredReplies ordered).2).1 = [] := by
  induction ordered with
  | nil => rfl
  | cons first ordered ih =>
    cases first with
    | backend => rfl
    | localReply reply => exact ih

/-- A loop at rest has no reply that it could send. -/
def NothingReady (loop : StatefulLoop) : Prop :=
  loop.order.takeReady.1 = []

theorem nothingReady_rest (loop : StatefulLoop) : loop.rest.NothingReady := by
  have replied : loop.flushReadyReplies.NothingReady := by
    simp only [flushReadyReplies]
    split
    next nothing => exact nothing
    · rw [NothingReady, (sent_writePieces { loop with order := loop.order.takeReady.2 } _).order]
      exact takeReadyDeferredReplies_left _
  simp only [rest]
  split
  · exact replied
  · rw [NothingReady, (flushed_flushBeforeWaiting _).order]
    exact replied

theorem client_rest_of_nothingReady (nothing : loop.NothingReady) :
    loop.rest.client = loop.client := by
  have replied : loop.flushReadyReplies = loop := by
    rw [NothingReady] at nothing
    simp [flushReadyReplies, nothing]
  simp only [rest, replied]
  split
  · rfl
  · exact (flushed_flushBeforeWaiting _).client

/-! ## Commands before authentication -/

/-- What a command of a client without an identity can do to the loop. -/
inductive Checked (handler : AuthHandler) (loop : StatefulLoop) (request : RequestContext)
    (next : StatefulLoop) : Prop where
  | other (otherCommand : request.kind ≠ .authInfo) (same : SameAccess loop next)
      (orderEq : next.order = loop.order)
  | invalid (nextEq : next = { loop with exit := some .clientError })
  | answered (result : AuthResult) (isAuthInfo : request.kind = .authInfo)
      (handled : handleAuthCommand handler (classifyAuth request.args) loop.authUsername
        loop.identity = some result)
      (client : Sink UInt8) (count : Nat) (access : AuthenticationAccess)
      (acceptedEq : client.accepted = loop.client.accepted ++ result.reply)
      (refused : result.authenticated = false → access = loop.access)
      (nextEq : next =
        { loop with
          client := client, backendToClient := count, authUsername := result.state,
          identity := result.recorded loop.identity, access := access })
  | cutShort (result : AuthResult)
      (handled : handleAuthCommand handler (classifyAuth request.args) loop.authUsername
        loop.identity = some result)
      (client : Sink UInt8) (out : Bytes) (part : out <+: result.reply)
      (isCut : out ≠ result.reply) (acceptedEq : client.accepted = loop.client.accepted ++ out)
      (nextEq : next = { loop with client := client, exit := some .clientError })

theorem checked_applyAuthResult {handler : AuthHandler} {request : RequestContext}
    {result : AuthResult} (running : loop.exit = none) (isAuthInfo : request.kind = .authInfo)
    (handled : handleAuthCommand handler (classifyAuth request.args) loop.authUsername
      loop.identity = some result) :
    Checked handler loop request (loop.applyAuthResult result) := by
  rcases loop.client.writeAll_cases result.reply with
    ⟨-, writeEq⟩ | ⟨room, capacityEq, short, writeEq⟩
  · have repliedEq : loop.writeAuthReply result.reply =
        { loop with
          client := loop.client.accept result.reply
          backendToClient := loop.backendToClient + result.reply.length } := by
      rw [writeAuthReply, writeEq]
    simp only [applyAuthResult, repliedEq, running, Option.isSome_none, Bool.false_eq_true,
      if_false]
    cases authenticated : result.authenticated with
    | true =>
      refine .answered result isAuthInfo handled (loop.client.accept result.reply)
        (loop.backendToClient + result.reply.length) loop.access.afterSuccess rfl ?_ ?_
      · rw [authenticated]
        rintro ⟨⟩
      · simp [AuthResult.recorded, authenticated, running]
    | false =>
      refine .answered result isAuthInfo handled (loop.client.accept result.reply)
        (loop.backendToClient + result.reply.length) loop.access rfl (fun _ => rfl) ?_
      simp [AuthResult.recorded, authenticated, running]
  · have repliedEq : loop.writeAuthReply result.reply =
        { loop with
          client := loop.client.accept (result.reply.take room)
          exit := some .clientError } := by
      rw [writeAuthReply, writeEq]
    simp only [applyAuthResult, repliedEq]
    refine .cutShort result handled _ (result.reply.take room) (List.take_prefix _ _) ?_ rfl rfl
    intro whole
    have sameLength := congrArg List.length whole
    rw [List.length_take] at sameLength
    omega

theorem checked_handleStatefulAuthCheck (handler : AuthHandler) (request : RequestContext)
    (running : loop.exit = none) :
    Checked handler loop request (handleStatefulAuthCheck handler loop request) := by
  by_cases isAuthInfo : request.kind = .authInfo
  · have plan : classifyRequest request .required .stateful =
        .interceptAuth (classifyAuth request.args) := by
      simp [classifyRequest, isAuthInfo]
    simp only [handleStatefulAuthCheck, plan]
    cases handled : handleAuthCommand handler (classifyAuth request.args) loop.authUsername
        loop.identity with
    | none => exact .invalid rfl
    | some result => exact checked_applyAuthResult running isAuthInfo handled
  · have notAuth : ∀ action,
        classifyRequest request .required .stateful ≠ .interceptAuth action := by
      unfold classifyRequest
      split
      next authInfo => exact absurd authInfo isAuthInfo
      all_goals
        repeat' split
        all_goals simp
    unfold handleStatefulAuthCheck
    split
    next action plan => exact absurd plan (notAuth action)
    · have sent := sent_writeAuthReply loop (capabilitiesResponse true)
      exact .other isAuthInfo sent.sameAccess sent.order
    · have sent := sent_writeAuthReply loop authRequiredForCommand
      exact .other isAuthInfo sent.sameAccess sent.order

/-! ## Runs -/

/-- What holds of a loop at rest after these turns. -/
structure Watched (handler : AuthHandler) (turns : List Turn) (loop : StatefulLoop) : Prop where
  standing : Standing handler turns loop.identity
  awaits : loop.identity = none → Awaits turns loop.authUsername
  required : loop.identity = none → loop.access = .required
  nothingReady : loop.identity = none → loop.NothingReady

variable {handler : AuthHandler} {turns : List Turn} {loop next : StatefulLoop}

theorem Watched.known (watched : Watched handler turns loop) (recorded : loop.identity = some user)
    (stays : next.identity = some user) (request : Option RequestContext) :
    Watched handler (turns ++ [loop.turnTo next request]) next := by
  have standing := watched.standing
  rw [recorded] at standing
  constructor
  · rw [stays]
    exact standing.goOn stays
  all_goals
    rw [stays]
    rintro ⟨⟩

section

variable (watched : Watched handler turns loop) (noUser : loop.identity = none)
    (otherCommand : ∀ command, request = some command → command.kind ≠ .authInfo)

include watched noUser otherCommand

theorem Watched.same (same : SameAccess loop next) (rests : next.exit = none → next.NothingReady) :
    Standing handler (turns ++ [loop.turnTo next request]) next.identity ∧
      (next.exit = none → Watched handler (turns ++ [loop.turnTo next request]) next) := by
  have before := watched.standing
  have stillNone := same.identity.trans noUser
  have standing : Standing handler (turns ++ [loop.turnTo next request]) next.identity := by
    rw [noUser] at before
    rw [stillNone]
    exact before.quiet ⟨by simp [turnTo, same.backend], stillNone⟩ (Or.inr otherCommand)
  refine ⟨standing, fun running => ⟨standing, fun _ => ?_, fun _ => ?_, fun _ => rests running⟩⟩
  · rw [same.authUsername]
    cases requestEq : request with
    | none => exact (watched.awaits noUser).noCommand _ _ _
    | some command => exact (watched.awaits noUser).other (otherCommand command requestEq) _ _ _
  · rw [same.access]
    exact watched.required noUser

theorem Watched.handled (same : SameAccess loop next) :
    let after := if next.exit.isSome then next else next.rest
    Standing handler (turns ++ [loop.turnTo after request]) after.identity ∧
      (after.exit = none → Watched handler (turns ++ [loop.turnTo after request]) after) := by
  split
  next stopped =>
    apply watched.same noUser otherCommand same
    intro stillRuns
    simp [stillRuns] at stopped
  · exact watched.same noUser otherCommand (same.trans (sameAccess_rest next))
      (fun _ => nothingReady_rest next)

end

theorem identity_handleRequest (request : RequestContext) (running : loop.exit = none)
    (recorded : loop.identity = some user) :
    (handleRequest handler loop request).identity = some user := by
  have allowed : (authenticationAccess loop.identity loop.access).canAccessBackend = true := by
    rw [recorded]
    cases loop.access <;> rfl
  have answered (refreshed : StatefulLoop) (stillRuns : refreshed.exit = none) (reply : Bytes) :
      (refreshed.answerLocally reply).identity = refreshed.identity := by
    unfold answerLocally
    split
    · rfl
    · exact (sent_writeReply stillRuns reply).sameAccess.identity
  have handled (refreshed : StatefulLoop) (stillRuns : refreshed.exit = none) :
      (refreshed.handleAuthenticatedStatefulRequest request).identity = refreshed.identity := by
    unfold handleAuthenticatedStatefulRequest
    split
    · unfold forwardRequest
      split <;> rfl
    all_goals exact answered refreshed stillRuns _
  have refreshedRuns : { loop with
      access := authenticationAccess loop.identity loop.access }.exit = none := running
  simp only [handleRequest, allowed, if_true]
  split
  · exact (handled _ refreshedRuns).trans recorded
  · have counted := (flushed_countBackendWrite _).sameAccess.identity.trans
      (handled _ refreshedRuns)
    exact counted.trans recorded

theorem handleRequest_of_required (request : RequestContext) (noUser : loop.identity = none)
    (required : loop.access = .required) :
    handleRequest handler loop request = handleStatefulAuthCheck handler loop request := by
  have accessEq : authenticationAccess loop.identity loop.access = loop.access := by
    rw [noUser]
    rfl
  have denied : loop.access.canAccessBackend = false := by
    rw [required]
    rfl
  simp only [handleRequest, accessEq, denied, Bool.false_eq_true, if_false]

theorem Watched.command (enabled : handler.isEnabled = true) (watched : Watched handler turns loop)
    (running : loop.exit = none) (noUser : loop.identity = none) {request : RequestContext}
    (checked : Checked handler loop request next) :
    let after := if next.exit.isSome then next else next.rest
    Standing handler (turns ++ [loop.turnTo after (some request)]) after.identity ∧
      (after.exit = none →
        Watched handler (turns ++ [loop.turnTo after (some request)]) after) := by
  have standing := watched.standing
  have awaits := watched.awaits noUser
  have required := watched.required noUser
  have nothing := watched.nothingReady noUser
  rw [noUser] at standing
  cases checked with
  | other otherCommand same orderEq =>
    apply watched.handled noUser _ same
    rintro command ⟨⟩
    exact otherCommand
  | invalid nextEq =>
    subst nextEq
    simp only [Option.isSome_some, if_true]
    refine ⟨?_, fun stillRuns => by cases stillRuns⟩
    rw [noUser]
    apply standing.quiet ⟨by simp [turnTo], rfl⟩
    left
    simp only [turnTo, List.drop_length]
    decide +kernel
  | cutShort result handled client out part isCut acceptedEq nextEq =>
    subst nextEq
    rw [noUser] at handled ⊢
    simpa [turnTo, acceptedEq, noUser] using
      standing.cutShort enabled awaits handled part isCut
  | answered result isAuthInfo handled client count access acceptedEq refused nextEq =>
    subst nextEq
    simp only [running, Option.isSome_none, Bool.false_eq_true, if_false]
    rw [noUser] at handled
    rcases standing.answer enabled awaits isAuthInfo handled with ⟨standsNow, awaitsNow⟩
    generalize answeredEq :
      { loop with
        client := client, backendToClient := count, authUsername := result.state,
        identity := result.recorded loop.identity, access := access, exit := none } = answered
    have identityEq : answered.identity = result.recorded none := by
      rw [← answeredEq, noUser]
    have clientEq : answered.rest.client = client := by
      have nothingNow : answered.NothingReady := by
        rw [← answeredEq]
        exact nothing
      rw [client_rest_of_nothingReady nothingNow, ← answeredEq]
    have same := sameAccess_rest answered
    have turnEq : loop.turnTo answered.rest (some request) =
        ⟨some request, [], result.reply, result.recorded none⟩ := by
      have backendEq : answered.rest.backend.accepted = loop.backend.accepted := by
        rw [same.backend, ← answeredEq]
      simp [turnTo, backendEq, clientEq, acceptedEq, same.identity, identityEq]
    rw [turnEq, same.identity, identityEq]
    refine ⟨standsNow, fun _ => ⟨?_, ?_, ?_, fun _ => nothingReady_rest answered⟩⟩
    · rw [same.identity, identityEq]
      exact standsNow
    · intro stillNone
      rw [same.identity, identityEq] at stillNone
      rw [same.authUsername, ← answeredEq]
      exact awaitsNow stillNone
    · intro stillNone
      rw [same.identity, identityEq] at stillNone
      have isRefused : result.authenticated = false := by
        rcases handleAuthCommand_cases enabled awaits.waiting handled with
          ⟨user, password, -, -, -, rfl⟩ | ⟨isRefused, -⟩
        · cases stillNone
        · exact isRefused
      rw [same.access, ← answeredEq]
      exact (refused isRefused).trans required

theorem identity_step (running : loop.exit = none) (recorded : loop.identity = some user)
    (input : LoopInput) :
    (step handler loop input).identity = some user := by
  cases input with
  | clientReadError => exact recorded
  | backendReadError => exact recorded
  | backend read =>
    cases read with
    | nil => exact recorded
    | cons byte read =>
      have written : (loop.writeStatefulBackendBytes (byte :: read)).identity = some user :=
        (sent_writePieces _ _).sameAccess.identity.trans recorded
      simp only [step]
      split
      · exact written
      · exact (sameAccess_rest _).identity.trans written
  | client arrived =>
    simp only [step]
    split
    · exact recorded
    next line _ =>
      have handled : (handleLine handler
          { loop with
            reader := (loop.reader.readRound (loop.available arrived)).2.2
            buffered := (loop.available arrived).drop
              (loop.reader.readRound (loop.available arrived)).2.1 } line).identity =
          some user := by
        cases line with
        | ready request => exact identity_handleRequest request running recorded
        | _ => exact recorded
      split
      · exact handled
      · exact (sameAccess_rest _).identity.trans handled

theorem Watched.stepUnknown (enabled : handler.isEnabled = true)
    (watched : Watched handler turns loop) (running : loop.exit = none)
    (noUser : loop.identity = none) (input : LoopInput) :
    Standing handler (turns ++ [loop.turnTo (step handler loop input) (loop.commandOf input)])
        (step handler loop input).identity ∧
      ((step handler loop input).exit = none → Watched handler
        (turns ++ [loop.turnTo (step handler loop input) (loop.commandOf input)])
        (step handler loop input)) := by
  have noCommand : ∀ command, (none : Option RequestContext) = some command →
      command.kind ≠ .authInfo := by
    rintro command ⟨⟩
  cases input with
  | clientReadError => exact watched.same noUser noCommand ⟨rfl, rfl, rfl, rfl⟩ nofun
  | backendReadError => exact watched.same noUser noCommand ⟨rfl, rfl, rfl, rfl⟩ nofun
  | backend read =>
    cases read with
    | nil => exact watched.same noUser noCommand ⟨rfl, rfl, rfl, rfl⟩ nofun
    | cons byte read =>
      have written : SameAccess loop (loop.writeStatefulBackendBytes (byte :: read)) := by
        have sent := (sent_writePieces { loop with
          order := (loop.order.clientWritesForBackendRead (byte :: read)).2 }
          (loop.order.clientWritesForBackendRead (byte :: read)).1).sameAccess
        exact ⟨sent.identity, sent.authUsername, sent.access, sent.backend⟩
      exact watched.handled noUser noCommand written
  | client arrived =>
    simp only [step, commandOf]
    rcases readEq : loop.reader.readRound (loop.available arrived) with ⟨line, consumed, reader⟩
    cases line with
    | none =>
      exact watched.same noUser noCommand ⟨rfl, rfl, rfl, rfl⟩
        (fun _ => watched.nothingReady noUser)
    | some line =>
      cases line with
      | eof => exact watched.same noUser noCommand ⟨rfl, rfl, rfl, rfl⟩ nofun
      | oversized => exact watched.handled noUser noCommand ⟨rfl, rfl, rfl, rfl⟩
      | invalid => exact watched.handled noUser noCommand ⟨rfl, rfl, rfl, rfl⟩
      | ready request =>
        generalize fedEq : { loop with
          reader := reader
          buffered := (loop.available arrived).drop consumed } = fed
        have fedWatched : Watched handler turns fed := by
          rw [← fedEq]
          exact ⟨watched.standing, watched.awaits, watched.required, watched.nothingReady⟩
        have fedUser : fed.identity = none := by rw [← fedEq]; exact noUser
        have fedRuns : fed.exit = none := by rw [← fedEq]; exact running
        have fedAccess : fed.access = .required := by
          rw [← fedEq]
          exact watched.required noUser
        have turnEq : loop.turnTo = fed.turnTo := by rw [← fedEq]; rfl
        have checked : Checked handler fed request
            (handleLine handler fed (.ready request)) := by
          rw [handleLine, handleRequest_of_required request fedUser fedAccess]
          exact checked_handleStatefulAuthCheck handler request fedRuns
        rw [turnEq]
        exact fedWatched.command enabled fedRuns fedUser checked

theorem Watched.guarded (enabled : handler.isEnabled = true) (watched : Watched handler turns loop)
    (inputs : List LoopInput) : Guarded handler (turns ++ loop.transcript handler inputs) := by
  induction inputs generalizing turns loop with
  | nil =>
    rw [transcript, List.append_nil]
    exact watched.standing.guarded
  | cons input inputs ih =>
    rw [transcript]
    cases running : loop.exit with
    | some exit =>
      rw [Option.isSome_some, if_pos rfl, List.append_nil]
      exact watched.standing.guarded
    | none =>
      rw [Option.isSome_none, if_neg Bool.false_ne_true]
      rw [← List.singleton_append, ← List.append_assoc]
      cases noUser : loop.identity with
      | some user => exact ih (watched.known noUser (identity_step running noUser input) _)
      | none =>
        rcases watched.stepUnknown enabled running noUser input with ⟨standing, goesOn⟩
        cases ended : (step handler loop input).exit with
        | none => exact ih (goesOn ended)
        | some exit =>
          have nothingMore : (step handler loop input).transcript handler inputs = [] := by
            cases inputs with
            | nil => rfl
            | cons next inputs => simp [transcript, ended]
          rw [nothingMore, List.append_nil]
          exact standing.guarded

end StatefulLoop

end NntpProxy.Stateful
