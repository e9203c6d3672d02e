import NntpProxy.Session.Auth

/-!
# Transcripts of a session

A transcript lists what a session did, turn by turn.  A session is guarded when nothing of
a command reaches a backend before the client proved an identity, and when the recorded
user stays the proven one from then on.  `Standing` is the invariant that a session loop
keeps; it says nothing about the kind of loop.
-/

namespace NntpProxy.Session

open Protocol List

/-! ## Turns -/

/-- One turn of a session loop: the command that it took up, what went to a backend and to
the client, and the recorded user afterwards. -/
structure Turn where
  request : Option RequestContext
  toBackend : Bytes
  toClient : Bytes
  user : Option Username
  deriving DecidableEq, Repr

/-- The user that an `AUTHINFO USER` command names. -/
def namedUser (request : RequestContext) : Option Username :=
  if request.kind = .authInfo then
    match classifyAuth request.args with
    | .requestPassword name => Username.tryNew name
    | _ => none
  else none

/-- The user that was named last. -/
def lastNamed (turns : List Turn) : Option Username :=
  turns.foldl (fun named turn => (turn.request.bind namedUser).or named) none

theorem lastNamed_append_singleton (turns : List Turn) (turn : Turn) :
    lastNamed (turns ++ [turn]) = (turn.request.bind namedUser).or (lastNamed turns) := by
  rw [lastNamed, foldl_append]
  rfl

/-- The command is `AUTHINFO PASS` with this value, not trimmed. -/
structure IsPass (request : RequestContext) (value : Bytes) : Prop where
  isAuthInfo : request.kind = .authInfo
  args : ∃ subcommand, trimAscii request.args = subcommand ++ value ∧
    eqIgnoreAsciiCase subcommand (ascii "PASS") = true
  separated : ∀ byte ∈ value.head?, isAsciiWhitespace byte = true

theorem isPass_of_classifyAuth {request : RequestContext} {password : Bytes}
    (isAuthInfo : request.kind = .authInfo)
    (action : classifyAuth request.args = .validateAndRespond password) :
    ∃ value, IsPass request value ∧ trimAscii value = password := by
  unfold classifyAuth at action
  split at action
  · cases action
  split at action
  next tail text stripped =>
    simp only [stripAuthinfoArg] at stripped
    split at stripped
    next isPass =>
      simp only [Option.map_eq_some_iff, Prod.mk.injEq] at stripped
      rcases stripped with ⟨-, -, tailEq, -⟩
      obtain rfl := AuthAction.validateAndRespond.inj action
      refine ⟨_, ⟨isAuthInfo, ⟨_, takeWhile_append_dropWhile.symm, isPass⟩, ?_⟩, tailEq⟩
      intro byte isHead
      have stops := head?_dropWhile_not
        (fun byte => !isAsciiWhitespace byte) (trimAscii request.args)
      rw [Option.mem_def.mp isHead] at stops
      simpa using stops
    · cases stripped
  · cases action

/-! ## Proven identities -/

/-- The turn answers 281 to an `AUTHINFO PASS` whose trimmed value is the password of the
user that was named last. -/
structure Authenticates (handler : AuthHandler) (before : List Turn) (turn : Turn)
    (user : Username) : Prop where
  named : lastNamed before = some user
  passed : ∃ request value, turn.request = some request ∧ IsPass request value ∧
    handler.passwordOf user = some (trimAscii value)
  answered : turn.toClient = authAccepted

/-- The client proved to be this user. -/
def Authenticated (handler : AuthHandler) (turns : List Turn) (user : Username) : Prop :=
  ∃ before turn after, turns = before ++ turn :: after ∧ Authenticates handler before turn user

theorem Authenticated.append {handler : AuthHandler} {turns : List Turn} {user : Username}
    (authenticated : Authenticated handler turns user) (later : List Turn) :
    Authenticated handler (turns ++ later) user := by
  rcases authenticated with ⟨before, turn, after, rfl, authenticates⟩
  exact ⟨before, turn, after ++ later, by simp, authenticates⟩

/-- A proof in a longer transcript was there before or is its last turn. -/
theorem authenticated_append_singleton {handler : AuthHandler} {turns : List Turn} {turn : Turn}
    {user : Username} (authenticated : Authenticated handler (turns ++ [turn]) user) :
    Authenticated handler turns user ∨ Authenticates handler turns turn user := by
  rcases authenticated with ⟨before, accepting, after, split, authenticates⟩
  rcases eq_nil_or_concat after with rfl | ⟨front, last, rfl⟩
  · rcases append_inj' split rfl with ⟨rfl, same⟩
    obtain rfl := singleton_inj.mp same
    exact Or.inr authenticates
  · have sameEnd : turns ++ [turn] = (before ++ accepting :: front) ++ [last] := by
      simpa using split
    rcases append_inj' sameEnd rfl with ⟨rfl, -⟩
    exact Or.inl ⟨before, accepting, front, rfl, authenticates⟩

/-- Nothing goes to a backend before the client proved an identity, and from then on the
recorded user is a proven one and stays the same. -/
structure Guarded (handler : AuthHandler) (turns : List Turn) : Prop where
  closed : ∀ before turn after, turns = before ++ turn :: after → turn.toBackend ≠ [] →
    ∃ user, Authenticated handler before user
  recorded : ∀ before turn after, turns = before ++ turn :: after →
    (∃ user, Authenticated handler (before ++ [turn]) user) →
      ∃ user, Authenticated handler (before ++ [turn]) user ∧
        ∀ later ∈ turn :: after, later.user = some user

/-! ## The invariant -/

/-- The turn leaves the backends alone and records no user. -/
structure Turn.Silent (turn : Turn) : Prop where
  toBackend : turn.toBackend = []
  user : turn.user = none

/-- Where a session stands whose recorded user is `identity`: every turn was silent and
nothing was proven; or they were until one turn proved an identity, which is recorded
since then. -/
inductive Standing (handler : AuthHandler) (turns : List Turn) : Option Username → Prop where
  | unproven (silent : ∀ turn ∈ turns, turn.Silent)
      (notYet : ∀ user, ¬ Authenticated handler turns user) : Standing handler turns none
  | proven {user : Username} {before after : List Turn} {turn : Turn}
      (split : turns = before ++ turn :: after) (silent : ∀ earlier ∈ before, earlier.Silent)
      (notYet : ∀ other, ¬ Authenticated handler before other) (nothingSent : turn.toBackend = [])
      (authenticates : Authenticates handler before turn user)
      (kept : ∀ later ∈ turn :: after, later.user = some user) :
      Standing handler turns (some user)

namespace Standing

variable {handler : AuthHandler} {turns : List Turn} {turn : Turn} {user : Username}
  {identity : Option Username}

theorem start (handler : AuthHandler) : Standing handler [] none := by
  apply unproven
  · simp
  · rintro user ⟨before, turn, after, split, -⟩
    simp at split

theorem quiet (standing : Standing handler turns none) (silent : turn.Silent)
    (provesNothing : turn.toClient ≠ authAccepted ∨ ∀ request, turn.request = some request →
      request.kind ≠ .authInfo) : Standing handler (turns ++ [turn]) none := by
  cases standing with
  | unproven silentBefore notYet =>
    apply unproven
    · simpa [or_imp, forall_and] using ⟨silentBefore, silent⟩
    · intro user authenticated
      rcases authenticated_append_singleton authenticated with before | authenticates
      · exact notYet user before
      · rcases authenticates.passed with ⟨request, value, requestEq, isPass, -⟩
        rcases provesNothing with otherReply | otherCommand
        · exact otherReply authenticates.answered
        · exact otherCommand request requestEq isPass.isAuthInfo

theorem prove (standing : Standing handler turns none) (nothingSent : turn.toBackend = [])
    (authenticates : Authenticates handler turns turn user) (recorded : turn.user = some user) :
    Standing handler (turns ++ [turn]) (some user) := by
  cases standing with
  | unproven silent notYet =>
    refine proven rfl silent notYet nothingSent authenticates ?_
    simpa using recorded

theorem goOn (standing : Standing handler turns (some user)) (recorded : turn.user = some user) :
    Standing handler (turns ++ [turn]) (some user) := by
  cases standing with
  | @proven _ before after accepting split silent notYet nothingSent authenticates kept =>
    have splitMore : turns ++ [turn] = before ++ accepting :: (after ++ [turn]) := by
      rw [split, append_assoc, cons_append]
    refine proven splitMore silent notYet nothingSent authenticates ?_
    intro later isLater
    rw [← cons_append, mem_append, mem_singleton] at isLater
    rcases isLater with earlier | rfl
    · exact kept later earlier
    · exact recorded

theorem guarded (standing : Standing handler turns identity) : Guarded handler turns := by
  cases standing with
  | unproven silent notYet =>
    constructor
    · rintro before turn after rfl sent
      exact absurd (silent turn (by simp)).toBackend sent
    · rintro before turn after rfl ⟨user, authenticated⟩
      refine absurd (authenticated.append after) ?_
      rw [append_assoc]
      exact notYet user
  | @proven user before after accepting split silent notYet nothingSent authenticates kept =>
    -- where a turn stands relative to the one that proved the identity
    have place : ∀ earlier turn later, turns = earlier ++ turn :: later →
        turn ∈ before ∧ earlier ++ [turn] <+: before ∨
          (earlier = before ∧ turn = accepting ∧ later = after) ∨
            ∃ between, earlier = before ++ accepting :: between ∧
              after = between ++ turn :: later := by
      intro earlier turn later splitAt
      rcases append_eq_append_iff.mp (split.symm.trans splitAt) with
        ⟨between, rfl, rest⟩ | ⟨between, rfl, rest⟩
      · cases between with
        | nil =>
          obtain ⟨rfl, rfl⟩ := cons.inj rest
          exact Or.inr (Or.inl ⟨by simp, rfl, rfl⟩)
        | cons first between =>
          obtain ⟨rfl, rfl⟩ := cons.inj rest
          exact Or.inr (Or.inr ⟨between, rfl, rfl⟩)
      · cases between with
        | nil =>
          obtain ⟨rfl, rfl⟩ := cons.inj rest
          exact Or.inr (Or.inl ⟨by simp, rfl, rfl⟩)
        | cons first between =>
          obtain ⟨rfl, rfl⟩ := cons.inj rest
          exact Or.inl ⟨by simp, between, by simp⟩
    constructor
    · intro earlier turn later splitAt sent
      rcases place earlier turn later splitAt with ⟨isBefore, -⟩ | ⟨-, rfl, -⟩ | ⟨between, rfl, -⟩
      · exact absurd (silent turn isBefore).toBackend sent
      · exact absurd nothingSent sent
      · exact ⟨user, before, accepting, between, rfl, authenticates⟩
    · rintro earlier turn later splitAt ⟨other, authenticated⟩
      rcases place earlier turn later splitAt with
        ⟨-, rest, rfl⟩ | ⟨rfl, rfl, rfl⟩ | ⟨between, rfl, rfl⟩
      · exact absurd (authenticated.append rest) (notYet other)
      · exact ⟨user, ⟨earlier, turn, [], rfl, authenticates⟩, kept⟩
      · refine ⟨user, ⟨before, accepting, between ++ [turn], by simp, authenticates⟩, ?_⟩
        intro last isLast
        apply kept
        simp only [mem_cons, mem_append] at isLast ⊢
        exact Or.inr (Or.inr isLast)

end Standing

/-! ## Authentication commands -/

/-- The state of a loop before authentication waits for the user that was named last. -/
structure Awaits (turns : List Turn) (state : ClientAuthState) : Prop where
  named : state.username = lastNamed turns
  waiting : ∀ user, state ≠ .authenticated user

/-- The recorded user after an answered `AUTHINFO` command. -/
def AuthResult.recorded (result : AuthResult) (identity : Option Username) : Option Username :=
  if result.authenticated then markAuthenticated identity result.state.username else identity

section Commands

variable {handler : AuthHandler} {turns : List Turn} {state : ClientAuthState}
  {request : RequestContext} {result : AuthResult}

theorem namedUser_authInfo (isAuthInfo : request.kind = .authInfo) :
    namedUser request = (classifyAuth request.args).named := by
  rw [namedUser, if_pos isAuthInfo]
  cases classifyAuth request.args <;> rfl

/-- A command that is no `AUTHINFO` names nobody. -/
theorem Awaits.other (awaits : Awaits turns state) (otherCommand : request.kind ≠ .authInfo)
    (toBackend toClient : Bytes) (user : Option Username) :
    Awaits (turns ++ [⟨some request, toBackend, toClient, user⟩]) state := by
  refine ⟨?_, awaits.waiting⟩
  rw [lastNamed_append_singleton, awaits.named]
  simp [namedUser, otherCommand]

theorem Awaits.noCommand (awaits : Awaits turns state) (toBackend toClient : Bytes)
    (user : Option Username) : Awaits (turns ++ [⟨none, toBackend, toClient, user⟩]) state := by
  refine ⟨?_, awaits.waiting⟩
  rw [lastNamed_append_singleton, awaits.named]
  rfl

variable (enabled : handler.isEnabled = true) (standing : Standing handler turns none)
    (awaits : Awaits turns state)

include enabled standing awaits

/-- An answered `AUTHINFO` command keeps the invariant, and the state goes on waiting
unless an identity was proven. -/
theorem Standing.answer (isAuthInfo : request.kind = .authInfo)
    (answered : handleAuthCommand handler (classifyAuth request.args) state none = some result) :
    Standing handler (turns ++ [⟨some request, [], result.reply, result.recorded none⟩])
        (result.recorded none) ∧
      (result.recorded none = none →
        Awaits (turns ++ [⟨some request, [], result.reply, result.recorded none⟩])
          result.state) := by
  rcases handleAuthCommand_cases enabled awaits.waiting answered with
    ⟨user, password, actionEq, rfl, isPassword, rfl⟩ | ⟨refused, waiting, otherReply, namedEq⟩
  · rcases isPass_of_classifyAuth isAuthInfo actionEq with ⟨value, isPass, trimmedEq⟩
    constructor
    · apply standing.prove rfl _ rfl
      refine ⟨awaits.named.symm, ⟨request, value, rfl, isPass, ?_⟩, rfl⟩
      rw [trimmedEq]
      exact isPassword
    · rintro ⟨⟩
  · have noUser : result.recorded none = none := by simp [AuthResult.recorded, refused]
    rw [noUser]
    constructor
    · apply standing.quiet ⟨rfl, rfl⟩
      left
      intro accepted
      exact otherReply (accepted ▸ prefix_refl _)
    · refine fun _ => ⟨?_, waiting⟩
      rw [lastNamed_append_singleton, namedEq, awaits.named]
      simp [namedUser_authInfo isAuthInfo]

theorem Standing.cutShort
    (answered : handleAuthCommand handler (classifyAuth request.args) state none = some result)
    {out : Bytes} (part : out <+: result.reply) (isCut : out ≠ result.reply) :
    Standing handler (turns ++ [⟨some request, [], out, none⟩]) none := by
  apply standing.quiet ⟨rfl, rfl⟩
  left
  rintro rfl
  rcases handleAuthCommand_cases enabled awaits.waiting answered with
    ⟨user, password, -, -, -, rfl⟩ | ⟨-, -, otherReply, -⟩
  · exact isCut rfl
  · exact otherReply part

end Commands

end NntpProxy.Session
