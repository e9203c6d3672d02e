import NntpProxy.Session.Command

/-!
# Client authentication

Names are validated text: trimmed and not empty.  The exchange of `AUTHINFO`
commands is a pure reducer over the state of one session loop; the identity of
the session is published once and never replaced.
-/

namespace NntpProxy.Session

open Protocol

/-! ## Validated names -/

theorem dropWhile_trim (text : List Nat) : (trim text).dropWhile isWhitespace = trim text := by
  cases trimmed : trim text with
  | nil => rfl
  | cons codePoint rest =>
    have front : trim text <+: text.dropWhile isWhitespace := List.rdropWhile_prefix _ _
    rw [trimmed] at front
    rcases front with ⟨after, joined⟩
    have stays := List.head?_dropWhile_not isWhitespace text
    rw [← joined] at stays
    simp only [List.cons_append, List.head?_cons] at stays
    simp [stays]

theorem trim_trim (text : List Nat) : trim (trim text) = trim text := by
  conv_lhs => rw [trim, dropWhile_trim]
  exact List.rdropWhile_idempotent _ _

/-- A user name: trimmed text that is not empty. -/
structure Username where
  text : List Nat
  trimmed : trim text = text
  nonempty : text ≠ []
  deriving DecidableEq, Repr

/-- Validate a name. -/
def Username.tryNew (text : List Nat) : Option Username :=
  if nonempty : trim text ≠ [] then some ⟨trim text, trim_trim text, nonempty⟩ else none

theorem Username.tryNew_text (username : Username) : tryNew username.text = some username := by
  simp [tryNew, trimmed, nonempty]

/-! ## Credentials -/

/-- The configured users with the octets of their passwords, one entry a name. -/
structure AuthHandler where
  users : List (Username × Bytes)
  nodup : (users.map Prod.fst).Nodup

namespace AuthHandler

def isEnabled (handler : AuthHandler) : Bool :=
  !handler.users.isEmpty

/-- The password configured for a user. -/
def passwordOf (handler : AuthHandler) (username : Username) : Option Bytes :=
  handler.users.lookup username

/-- Check a password; without configured users everything is accepted. -/
def validateCredentialsBytes (handler : AuthHandler) (username : List Nat) (password : Bytes) :
    Bool :=
  if handler.users.isEmpty then true
  else
    match Username.tryNew username with
    | none => false
    | some username => handler.passwordOf username == some password

theorem validateCredentialsBytes_iff {handler : AuthHandler} (enabled : handler.isEnabled = true)
    (username : Username) (password : Bytes) :
    handler.validateCredentialsBytes username.text password = true ↔
      handler.passwordOf username = some password := by
  have someUser : handler.users.isEmpty = false := by simpa [isEnabled] using enabled
  simp [validateCredentialsBytes, someUser, username.tryNew_text]

end AuthHandler

/-! ## The reducer -/

/-- Authentication state of one session loop. -/
inductive ClientAuthState where
  | anonymous
  | awaitingPassword (username : Username)
  | authenticated (username : Username)
  deriving DecidableEq, Repr

def ClientAuthState.username : ClientAuthState → Option Username
  | .anonymous => none
  | .awaitingPassword username => some username
  | .authenticated username => some username

/-- Parsed authentication input. -/
inductive ClientAuthEvent where
  | user (username : Username)
  | password (bytes : Bytes)
  | unknown
  deriving DecidableEq, Repr

/-- Result of one authentication input. -/
inductive AuthReducerResult where
  | passwordRequired
  | accepted
  | rejected
  | outOfSequence
  | alreadyAuthenticated
  | unknown
  deriving DecidableEq, Repr

/-- Decide a transition without touching the live state. -/
def ClientAuthState.decide (state : ClientAuthState) (event : ClientAuthEvent)
    (credentialsValid : Bool) : ClientAuthState × AuthReducerResult :=
  match state, event with
  | .authenticated username, _ => (.authenticated username, .alreadyAuthenticated)
  | .anonymous, .user username => (.awaitingPassword username, .passwordRequired)
  | .awaitingPassword _, .user username => (.awaitingPassword username, .passwordRequired)
  | .anonymous, .password _ => (.anonymous, .outOfSequence)
  | .awaitingPassword username, .password _ =>
    if credentialsValid then (.authenticated username, .accepted)
    else (.awaitingPassword username, .rejected)
  | state, .unknown => (state, .unknown)

/-- The reply for each result. -/
def authResponse : AuthReducerResult → Bytes
  | .passwordRequired => authRequired
  | .accepted => authAccepted
  | .rejected => authFailed
  | .outOfSequence => authOutOfSequence
  | .alreadyAuthenticated => authAlreadyAuthenticated
  | .unknown => authUnknownSubcommand

/-- An answered `AUTHINFO` command: the reply, the state to keep, and whether the
client is authenticated by it. -/
structure AuthResult where
  reply : Bytes
  state : ClientAuthState
  authenticated : Bool
  deriving DecidableEq, Repr

/-- The event of an action; a name that does not validate is an error. -/
def authEvent : AuthAction → Option ClientAuthEvent
  | .requestPassword username => (Username.tryNew username).map .user
  | .validateAndRespond password => some (.password password)
  | .unknownSubcommand => some .unknown

/-- Whether the event proves the identity that the state waits for. -/
def credentialsValid (handler : AuthHandler) (state : ClientAuthState) : ClientAuthEvent → Bool
  | .password bytes =>
    match state.username with
    | none => false
    | some username => handler.validateCredentialsBytes username.text bytes
  | _ => false

/-- Answer an `AUTHINFO` command.  Nothing is answered when the command fails
validation: the error ends the session. -/
def handleAuthCommand (handler : AuthHandler) (action : AuthAction) (state : ClientAuthState)
    (identity : Option Username) : Option AuthResult :=
  if identity.isSome then some ⟨authAlreadyAuthenticated, state, false⟩
  else
    match authEvent action with
    | none => none
    | some event =>
      let (next, result) := state.decide event (credentialsValid handler state event)
      some ⟨authResponse result, next, result == .accepted⟩

/-- Publish the identity of a session; an identity that is published stays. -/
def markAuthenticated (identity : Option Username) (username : Option Username) : Option Username :=
  match identity with
  | some published => some published
  | none => username

@[simp]
theorem markAuthenticated_some (published : Username) (username : Option Username) :
    markAuthenticated (some published) username = some published :=
  rfl

/-- The user that an action names. -/
def AuthAction.named : AuthAction → Option Username
  | .requestPassword name => Username.tryNew name
  | _ => none

theorem authAccepted_not_isPrefix (result : AuthReducerResult) (other : result ≠ .accepted) :
    ¬ authAccepted <+: authResponse result := by
  cases result with
  | accepted => exact absurd rfl other
  | _ => decide +kernel

/-- What a command of a client without an identity can do: prove the identity that the
state waits for, or leave the client without one. -/
theorem handleAuthCommand_cases {handler : AuthHandler} {action : AuthAction}
    {state : ClientAuthState} {result : AuthResult} (enabled : handler.isEnabled = true)
    (waiting : ∀ user, state ≠ .authenticated user)
    (answered : handleAuthCommand handler action state none = some result) :
    (∃ user password, action = .validateAndRespond password ∧ state = .awaitingPassword user ∧
        handler.passwordOf user = some password ∧
        result = ⟨authAccepted, .authenticated user, true⟩) ∨
      (result.authenticated = false ∧ (∀ user, result.state ≠ .authenticated user) ∧
        ¬ authAccepted <+: result.reply ∧
        result.state.username = action.named.or state.username) := by
  simp only [handleAuthCommand, Option.isSome_none, Bool.false_eq_true, if_false] at answered
  cases action with
  | unknownSubcommand =>
    obtain rfl := Option.some.inj answered
    right
    cases state with
    | authenticated user => exact absurd rfl (waiting user)
    | _ =>
      exact ⟨rfl, by simp [ClientAuthState.decide],
        authAccepted_not_isPrefix .unknown (by decide), rfl⟩
  | requestPassword name =>
    cases valid : Username.tryNew name with
    | none => simp [authEvent, valid] at answered
    | some user =>
      simp only [authEvent, valid, Option.map_some, Option.some.injEq] at answered
      subst answered
      right
      cases state with
      | authenticated user => exact absurd rfl (waiting user)
      | _ =>
        refine ⟨rfl, by simp [ClientAuthState.decide],
          authAccepted_not_isPrefix .passwordRequired (by decide), ?_⟩
        simp [ClientAuthState.decide, ClientAuthState.username, AuthAction.named, valid]
  | validateAndRespond password =>
    obtain rfl := Option.some.inj answered
    cases state with
    | authenticated user => exact absurd rfl (waiting user)
    | anonymous =>
      right
      exact ⟨rfl, by simp [ClientAuthState.decide],
        authAccepted_not_isPrefix .outOfSequence (by decide), rfl⟩
    | awaitingPassword user =>
      by_cases valid : handler.validateCredentialsBytes user.text password = true
      · left
        refine ⟨user, password, rfl, rfl, ?_, ?_⟩
        · exact (AuthHandler.validateCredentialsBytes_iff enabled user password).mp valid
        · simp [ClientAuthState.decide, credentialsValid, ClientAuthState.username, valid,
            authResponse]
      · right
        simp only [ClientAuthState.decide, credentialsValid, ClientAuthState.username, valid]
        exact ⟨rfl, by simp, authAccepted_not_isPrefix .rejected (by decide), rfl⟩

end NntpProxy.Session
