import NntpProxy.Missing.Batch

/-!
# Evidence that an article is missing

A record that a provider misses an article is evident when a backend of the provider answered a
request for exactly this article with status 430 before.  A task may record only what it has
evidence for, and it gets evidence in two ways: it reads a response on a connection that has no
older request without an answer, or it takes the outcome of a task that read one.  The machine
honours this contract as long as the idle connections have no unanswered requests.
-/

namespace NntpProxy.Missing

open Data.Interaction Protocol Router Pool Session Transport PerCommand List Event World

/-! ## Evidence -/

/-- The request asks for an article, and its argument is exactly this message identifier. -/
structure Names (request : RequestContext) (messageId : Bytes) : Prop where
  args : trimAscii request.args = messageId
  kind : request.kind ∈ [RequestKind.article, .body, .head, .stat]

/-- A backend answered a request for the article with status 430. -/
def MissedBy (history : List Event) (id : BackendId) (messageId : Bytes) : Prop :=
  ∃ request status, answered id request (some status) ∈ history ∧ status.value = 430 ∧
    Names request messageId

/-- A backend that has this slot answered a request for the article with status 430. -/
def Missed (router : BackendSelector) (history : List Event) (messageId : Bytes)
    (slot : AvailabilitySlot) : Prop :=
  ∃ backend ∈ router.backends, backend.availabilitySlot = slot ∧
    MissedBy history backend.id messageId

/-- Every record of a missing article comes behind its evidence. -/
def Evident (router : BackendSelector) (history : List Event) : Prop :=
  ∀ before messageId slot after, history = before ++ recorded messageId slot :: after →
    Missed router before messageId slot

variable {router : BackendSelector} {history later : List Event} {messageId : Bytes}

variable {id : BackendId}

theorem MissedBy.mono (missed : MissedBy history id messageId)
    (grows : history ⊆ later) : MissedBy later id messageId := by
  rcases missed with ⟨request, status, answered, isMissing, names⟩
  exact ⟨request, status, grows answered, isMissing, names⟩

theorem Missed.mono {slot : AvailabilitySlot} (missed : Missed router history messageId slot)
    (grows : history ⊆ later) : Missed router later messageId slot := by
  rcases missed with ⟨backend, isBackend, hasSlot, missed⟩
  exact ⟨backend, isBackend, hasSlot, missed.mono grows⟩

theorem evident_nil (router : BackendSelector) : Evident router [] := by
  intro before messageId slot after split
  simp at split

theorem Evident.concat {event : Event} (evident : Evident router history)
    (missed : ∀ messageId slot, event = .recorded messageId slot →
      Missed router history messageId slot) : Evident router (history ++ [event]) := by
  intro before messageId slot after split
  rcases eq_nil_or_concat after with rfl | ⟨older, last, rfl⟩
  · rcases append_inj' split rfl with ⟨rfl, sameEvent⟩
    exact missed messageId slot (singleton_inj.mp sameEvent)
  · rw [concat_eq_append, ← cons_append, ← append_assoc] at split
    exact evident before messageId slot older (append_inj' split rfl).1

/-! ## Requests -/

/-- The request has the message identifier that its arguments have. -/
def Parsed (request : RequestContext) : Prop :=
  request.messageId = findMessageId request.args

theorem parsed_fromVerbArgs (verb args : Bytes) : Parsed (fromVerbArgs verb args) :=
  rfl

variable {request : RequestContext}

theorem Parsed.trimAscii_eq (parsed : Parsed request)
    (text : messageIdText request = some messageId) : trimAscii request.args = messageId := by
  obtain ⟨⟨start, stop⟩, position, rfl⟩ := Option.map_eq_some_iff.mp text
  rw [parsed] at position
  exact (trimAscii_of_findMessageId position).1.symm

theorem kind_of_isPipelineable (isPipelineable : request.isPipelineable = true) :
    request.kind ∈ [RequestKind.article, .body, .head, .stat] := by
  rw [RequestContext.isPipelineable, RequestContext.routeClass] at isPipelineable
  cases kindEq : request.kind <;> simp [kindEq, RequestContext.routeClassOf] at isPipelineable ⊢

theorem Parsed.names (parsed : Parsed request)
    (isLookup : articleLookupRequest request = some messageId) : Names request messageId := by
  unfold articleLookupRequest at isLookup
  split at isLookup
  next isPipelineable =>
    exact ⟨parsed.trimAscii_eq isLookup, kind_of_isPipelineable isPipelineable⟩
  next => cases isLookup

theorem Parsed.names_statProbeRequest (parsed : Parsed request)
    (text : messageIdText request = some messageId) :
    Names (statProbeRequest request) messageId where
  args := parsed.trimAscii_eq text
  kind := by
    have isStat : (statProbeRequest request).kind = .stat := by
      change classifyVerb (ascii "STAT") = .stat
      decide +kernel
    simp [isStat]

theorem messageIdText_of_articleLookupRequest
    (isLookup : articleLookupRequest request = some messageId) :
    messageIdText request = some messageId := by
  unfold articleLookupRequest at isLookup
  split at isLookup
  next => exact isLookup
  next => cases isLookup

/-! ## Backends and connections -/

/-- The backend is one of the router, with this slot. -/
def Registered (router : BackendSelector) (backend : ArticleBackend) : Prop :=
  ∃ info ∈ router.backends, info.id = backend.backendId ∧
    info.availabilitySlot = backend.availabilitySlot

theorem Registered.missed {backend : ArticleBackend} (registered : Registered router backend)
    (missed : MissedBy history backend.backendId messageId) :
    Missed router history messageId backend.availabilitySlot := by
  rcases registered with ⟨info, isBackend, sameId, sameSlot⟩
  exact ⟨info, isBackend, sameSlot, sameId ▸ missed⟩

/-- A connection to a backend on which every request was answered. -/
structure Settled (id : BackendId) (conn : Connection) : Prop where
  backend : conn.backend = id
  unanswered : conn.unanswered = []

/-! ## Jobs -/

/-- The tickets are those of queries for an article. -/
def QueriesFor (router : BackendSelector) (known : List Event) (messageId : Bytes)
    (pending : List Ticket) : Prop :=
  ∀ ticket ∈ pending, ∃ backend request,
    spawned ticket (.queryBackend backend request) ∈ known ∧
      Registered router backend ∧ Names request messageId

/-- What a task that is spawned relies on. -/
def Sound (router : BackendSelector) (known : List Event) : Job → Prop
  | .salvage conn => conn.unanswered = []
  | .prefetchProbe backend statRequest messageId =>
    Registered router backend ∧ Names statRequest messageId
  | .finishRace messageId pending => QueriesFor router known messageId pending
  | .backgroundPrecheck request messageId => Names request messageId
  | .retryProbe _ _ | .queryBackend _ _ => True

/-- A backend answered this request with status 430. -/
def Denied (history : List Event) (id : BackendId) (request : RequestContext) : Prop :=
  ∃ status, answered id request (some status) ∈ history ∧ status.value = 430

/-- What the outcome of a task tells. -/
def Reports (history : List Event) : Job → Outcome → Prop
  | .retryProbe id request, .probed (.missing other) => other = id ∧ Denied history id request
  | .queryBackend backend request, .queried (.missing other) =>
    other = backend ∧ Denied history backend.backendId request
  | _, _ => True

theorem Denied.mono (denied : Denied history id request)
    (grows : history ⊆ later) : Denied later id request := by
  rcases denied with ⟨status, answered, isMissing⟩
  exact ⟨status, grows answered, isMissing⟩

theorem Denied.missedBy (denied : Denied history id request)
    (names : Names request messageId) : MissedBy history id messageId := by
  rcases denied with ⟨status, answered, isMissing⟩
  exact ⟨request, status, answered, isMissing, names⟩

theorem QueriesFor.mono {pending rest : List Ticket}
    (queries : QueriesFor router history messageId pending) (grows : history ⊆ later)
    (fewer : rest ⊆ pending) : QueriesFor router later messageId rest := by
  intro ticket isPending
  rcases queries ticket (fewer isPending) with ⟨backend, request, spawned, isQuery⟩
  exact ⟨backend, request, grows spawned, isQuery⟩

variable {job : Job}

theorem Sound.mono (sound : Sound router history job) (grows : history ⊆ later) :
    Sound router later job := by
  cases job with
  | finishRace messageId pending => exact QueriesFor.mono sound grows (List.Subset.refl _)
  | _ => exact sound

variable {outcome : Outcome}

theorem Reports.mono (reports : Reports history job outcome)
    (grows : history ⊆ later) : Reports later job outcome := by
  unfold Reports at reports ⊢
  split at reports
  · exact ⟨reports.1, reports.2.mono grows⟩
  · exact ⟨reports.1, reports.2.mono grows⟩
  · trivial

/-! ## The contract -/

/-- What a task may ask for.  A strict task returns only connections without unanswered
requests. -/
def Allows (strict : Prop) (router : BackendSelector) (known : List Event) : Question → Prop
  | .giveBack conn => strict → conn.unanswered = []
  | .recordMissing messageId slot => Missed router known messageId slot
  | .spawn job => Sound router known job
  | _ => True

/-- What a task comes to know from an answer. -/
def Learns (known learned : List Event) : (question : Question) → Answer question → Prop
  | .checkout id, (found : Option Connection) => ∀ conn ∈ found, Settled id conn
  | .write conn request, (written : Option Connection) =>
    ∀ next ∈ written, next = conn.wrote request
  | .readStatus conn, (reply : Option (Option StatusCode × Connection)) =>
    ∀ response ∈ reply, response.2 = conn.answered ∧ answerEvents conn response.1 ⊆ learned
  | .receive conn, (received : Except ResponseTransferError Unit × Connection) =>
    received.2.backend = conn.backend ∧ received.2.unanswered = conn.unanswered
  | .spawn job, (ticket : Ticket) => spawned ticket job ∈ learned
  | .join tickets, (joined : Ticket × Option Outcome) =>
    joined.1 ∈ tickets ∧ ∀ outcome ∈ joined.2, ∀ job,
      spawned joined.1 job ∈ known → Reports learned job outcome
  | _, _ => True

def contract (strict : Prop) (router : BackendSelector) :
    Contract Question Answer (List Event) where
  allows := Allows strict router
  learns known question answer learned := known ⊆ learned ∧ Learns known learned question answer

/-! ## Rules for the operations -/

section

variable (strict : Prop) (router : BackendSelector) (known : List Event) {Result : Type}
    (work : Work Result)

/-- The work keeps the contract, and in the end its result is as stated. -/
abbrev Ensures (post : List Event → Result → Prop) : Prop :=
  work.Keeps (contract strict router) post known

/-- The work keeps the contract, whatever its result is. -/
abbrev Safe : Prop :=
  Ensures strict router known work fun _ _ => True

end

variable {strict : Prop} {known : List Event}

section Rules

variable {First Result : Type}

variable {post : List Event → Result → Prop}

theorem Ensures.grows {work : Work Result} (ensures : Ensures strict router known work post) :
    Ensures strict router known work fun learned result =>
      known ⊆ learned ∧ post learned result := by
  suffices general : ∀ before ⊆ known, Ensures strict router known work fun learned result =>
      before ⊆ learned ∧ post learned result from general known (List.Subset.refl _)
  induction work generalizing known with
  | done result => exact fun before older => ⟨older, ensures⟩
  | ask question next ih =>
    exact fun before older => ⟨ensures.1, fun answer learned learns =>
      ih answer (ensures.2 answer learned learns) before (List.Subset.trans older learns.1)⟩

theorem Ensures.bind {work : Work First} {next : First → Work Result}
    {between : List Event → First → Prop} (first : Ensures strict router known work between)
    (rest : ∀ learned result, known ⊆ learned → between learned result →
      Ensures strict router learned (next result) post) :
    Ensures strict router known (work >>= next) post := by
  rw [Ensures, Program.keeps_bind]
  exact first.grows.mono fun learned result ⟨grows, holds⟩ => rest learned result grows holds

theorem ensures_call (question : Question) (allowed : Allows strict router known question) :
    Ensures strict router known (Program.call question) fun learned answer =>
      Learns known learned question answer :=
  ⟨allowed, fun _ _ learns => learns.2⟩

theorem ensures_halt : Ensures strict router known halt post :=
  ⟨trivial, fun stopped => nomatch (show Empty from stopped)⟩

/-- Every task that is spawned can be told from the others. -/
theorem ensures_spawnAll {jobs : List Job} (sound : ∀ job ∈ jobs, Sound router known job) :
    Ensures strict router known (spawnAll jobs) fun learned tickets =>
      ∀ ticket ∈ tickets, ∃ job ∈ jobs, spawned ticket job ∈ learned := by
  induction jobs generalizing known with
  | nil => exact fun _ isTicket => nomatch isTicket
  | cons job jobs ih =>
    refine (ensures_call (.spawn job) (sound job mem_cons_self)).bind ?_
    intro learned ticket grows spawned
    refine (ih fun other isJob => (sound other (mem_cons_of_mem job isJob)).mono grows).bind ?_
    intro last tickets growsAgain areSpawned other isTicket
    rcases mem_cons.mp isTicket with rfl | older
    · exact ⟨job, mem_cons_self, growsAgain spawned⟩
    · rcases areSpawned other older with ⟨found, isJob, spawned⟩
      exact ⟨found, mem_cons_of_mem job isJob, spawned⟩

end Rules

/-! ## The machine -/

/-- Idle connections have no unanswered requests. -/
def World.Clean (world : World) : Prop :=
  ∀ conn ∈ world.idle, conn.unanswered = []

/-- The records are evident, and what tasks left for each other is true. -/
structure World.Good (router : BackendSelector) (world : World) : Prop where
  evident : Evident router world.history
  clean : world.Clean
  older : ∀ {ticket job}, spawned ticket job ∈ world.history → ticket < world.tickets
  unique : ∀ {ticket job other}, spawned ticket job ∈ world.history →
    spawned ticket other ∈ world.history → job = other
  reports : ∀ {ticket outcome}, finished ticket outcome ∈ world.history →
    ∃ job, spawned ticket job ∈ world.history ∧ Reports world.history job outcome
  waiting : ∀ {ticket job}, (ticket, job) ∈ world.waiting →
    spawned ticket job ∈ world.history ∧ Sound router world.history job

/-- What a task knows happened. -/
def World.Knows (world : World) (known : List Event) : Prop :=
  known ⊆ world.history

theorem good_initial (router : BackendSelector) : initial.Good router where
  evident := evident_nil router
  clean := by simp [World.Clean, initial]
  older := by simp [initial]
  unique := by simp [initial]
  reports := by simp [initial]
  waiting := by simp [initial]

namespace World

variable {world : World}

/-- An event that is no spawn leaves a good world when a record has evidence and an outcome is
true. -/
theorem Good.note {event : Event} (good : world.Good router)
    (notSpawned : ∀ ticket job, event ≠ .spawned ticket job)
    (missed : ∀ messageId slot, event = .recorded messageId slot →
      Missed router world.history messageId slot)
    (reports : ∀ ticket outcome, event = .finished ticket outcome →
      ∃ job, Event.spawned ticket job ∈ world.history ∧ Reports world.history job outcome) :
    (world.note [event]).Good router := by
  have grows : world.history ⊆ world.history ++ [event] := subset_append_left _ _
  have old {ticket : Ticket} {job : Job}
      (spawned : Event.spawned ticket job ∈ world.history ++ [event]) :
      Event.spawned ticket job ∈ world.history := by
    rcases mem_append.mp spawned with older | newest
    · exact older
    · exact absurd (mem_singleton.mp newest).symm (notSpawned ticket job)
  exact {
    evident := good.evident.concat missed
    clean := good.clean
    older := fun spawned => good.older (old spawned)
    unique := fun spawned again => good.unique (old spawned) (old again)
    reports := by
      intro ticket outcome finished
      have told : ∃ job, Event.spawned ticket job ∈ world.history ∧
          Reports world.history job outcome := by
        rcases mem_append.mp finished with older | newest
        · exact good.reports older
        · exact reports ticket outcome (mem_singleton.mp newest).symm
      rcases told with ⟨job, spawned, reports⟩
      exact ⟨job, grows spawned, reports.mono grows⟩
    waiting := by
      intro ticket job isWaiting
      rcases good.waiting isWaiting with ⟨spawned, sound⟩
      exact ⟨grows spawned, sound.mono grows⟩ }

theorem Good.spawn (good : world.Good router)
    (sound : Sound router world.history job) : (world.spawn job).Good router := by
  have grows : world.history ⊆ world.history ++ [Event.spawned world.tickets job] :=
    subset_append_left _ _
  have old {ticket : Ticket} {other : Job}
      (spawned : Event.spawned ticket other ∈
        world.history ++ [Event.spawned world.tickets job]) :
      Event.spawned ticket other ∈ world.history ∨ ticket = world.tickets ∧ other = job := by
    simpa using spawned
  exact {
    evident := good.evident.concat (by simp)
    clean := good.clean
    older := by
      intro ticket other spawned
      rcases old spawned with older | ⟨rfl, rfl⟩
      · exact Nat.lt_succ_of_lt (good.older older)
      · exact Nat.lt_succ_self _
    unique := by
      intro ticket first second spawned again
      rcases old spawned with older | ⟨rfl, rfl⟩
      · rcases old again with olderToo | ⟨rfl, rfl⟩
        · exact good.unique older olderToo
        · exact absurd (good.older older) (Nat.lt_irrefl _)
      · rcases old again with olderToo | ⟨-, rfl⟩
        · exact absurd (good.older olderToo) (Nat.lt_irrefl _)
        · rfl
    reports := by
      intro ticket outcome finished
      have finished : Event.finished ticket outcome ∈ world.history := by
        simpa [World.spawn, World.note] using finished
      rcases good.reports finished with ⟨other, spawned, reports⟩
      exact ⟨other, grows spawned, reports.mono grows⟩
    waiting := by
      intro ticket other isWaiting
      rcases mem_append.mp isWaiting with older | newest
      · rcases good.waiting older with ⟨spawned, sound⟩
        exact ⟨grows spawned, sound.mono grows⟩
      · cases mem_singleton.mp newest
        exact ⟨by simp [World.spawn, World.note], sound.mono grows⟩ }

theorem Good.noteAnswer (good : world.Good router) (conn : Connection)
    (status : Option StatusCode) : (world.note (answerEvents conn status)).Good router := by
  cases oldest : conn.unanswered.head? with
  | none =>
    have same : world.note (answerEvents conn status) = world := by
      simp [World.note, answerEvents, oldest]
    rw [same]
    exact good
  | some request =>
    have same : answerEvents conn status = [.answered conn.backend request status] := by
      simp [answerEvents, oldest]
    rw [same]
    exact good.note (by simp) (by simp) (by simp)

theorem Good.withIdle {idle : List Connection} (good : world.Good router)
    (clean : ∀ conn ∈ idle, conn.unanswered = []) :
    ({ world with idle := idle } : World).Good router :=
  { good with clean := clean }

theorem mem_of_outcomeOf {ticket : Ticket} (left : world.outcomeOf ticket = some outcome) :
    finished ticket outcome ∈ world.history := by
  rcases exists_of_findSome?_eq_some left with ⟨event, isEvent, found⟩
  cases event with
  | finished other found =>
    simp only at found
    split at found
    next same =>
      cases found
      exact same ▸ isEvent
    next => cases found
  | _ => cases found

theorem Good.reports_outcomeOf {ticket : Ticket} (good : world.Good router)
    (spawned : spawned ticket job ∈ world.history)
    (left : world.outcomeOf ticket = some outcome) : Reports world.history job outcome := by
  rcases good.reports (mem_of_outcomeOf left) with ⟨other, again, reports⟩
  rw [good.unique spawned again]
  exact reports

end World

/-- Everything that a task can get for an answer is what it may learn. -/
theorem honours_answer {world after : World} {question : Question} {choice : Choice}
    {found : Answer question} (good : world.Good router) (knows : world.Knows known)
    (allows : Allows strict router known question)
    (answered : answer world question choice = some (after, found))
    (permitted : strict ∨ after.Clean) :
    after.Good router ∧ world.history ⊆ after.history ∧
      Learns known after.history question found := by
  cases question with
  | checkout id =>
    cases choice with
    | reuse index =>
      simp only [answer] at answered
      split at answered
      next => cases answered
      next conn isIdle =>
        split at answered
        next fits =>
          cases answered
          have isClean := good.clean conn (mem_of_getElem? isIdle)
          refine ⟨good.withIdle fun other isOther =>
            good.clean other (mem_of_mem_eraseIdx isOther), List.Subset.refl _, ?_⟩
          rintro _ ⟨⟩
          exact ⟨fits.1, isClean⟩
        next => cases answered
    | connect =>
      cases answered
      refine ⟨good, List.Subset.refl _, ?_⟩
      rintro _ ⟨⟩
      exact ⟨rfl, rfl⟩
    | fails =>
      cases answered
      exact ⟨good, List.Subset.refl _, fun _ isFound => nomatch isFound⟩
    | _ => cases answered
  | write conn request =>
    cases choice with
    | works =>
      cases answered
      refine ⟨good, List.Subset.refl _, ?_⟩
      rintro _ ⟨⟩
      rfl
    | fails =>
      cases answered
      exact ⟨good, List.Subset.refl _, fun _ isFound => nomatch isFound⟩
    | _ => cases answered
  | readStatus conn =>
    cases choice with
    | reply status =>
      cases answered
      refine ⟨good.noteAnswer conn status, subset_append_left _ _, ?_⟩
      rintro _ ⟨⟩
      exact ⟨rfl, subset_append_right _ _⟩
    | fails =>
      cases answered
      exact ⟨good, List.Subset.refl _, fun _ isFound => nomatch isFound⟩
    | _ => cases answered
  | receive conn =>
    cases choice with
    | received result complete pending =>
      cases answered
      exact ⟨good, List.Subset.refl _, rfl, rfl⟩
    | _ => cases answered
  | giveBack conn =>
    cases choice with
    | works =>
      cases answered
      refine ⟨good.withIdle ?_, List.Subset.refl _, trivial⟩
      rcases permitted with isStrict | isClean
      · rw [forall_mem_append, forall_mem_singleton]
        exact ⟨good.clean, allows isStrict⟩
      · exact isClean
    | _ => cases answered
  | recordMissing messageId slot =>
    cases choice with
    | works =>
      cases answered
      refine ⟨good.note (by simp) ?_ (by simp), subset_append_left _ _, trivial⟩
      rintro _ _ ⟨⟩
      exact Missed.mono allows knows
    | _ => cases answered
  | spawn job =>
    cases choice with
    | works =>
      cases answered
      exact ⟨good.spawn (Sound.mono allows knows), subset_append_left _ _,
        by simp [Learns, World.spawn, World.note]⟩
    | _ => cases answered
  | join tickets =>
    cases choice with
    | joined ticket =>
      simp only [answer] at answered
      split at answered
      next isTicket =>
        obtain ⟨outcome, left, same⟩ := Option.map_eq_some_iff.mp answered
        cases same
        refine ⟨good, List.Subset.refl _, isTicket, ?_⟩
        rintro _ ⟨⟩ job spawned
        exact good.reports_outcomeOf (knows spawned) left
      next => cases answered
    | aborted ticket =>
      simp only [answer] at answered
      split at answered
      next isTicket =>
        cases answered
        exact ⟨good, List.Subset.refl _, isTicket, fun _ isLeft => nomatch isLeft⟩
      next => cases answered
    | _ => cases answered
  | snapshot | lookUp request | consult doubt | writeClient =>
    cases choice <;> cases answered <;> exact ⟨good, List.Subset.refl _, trivial⟩
  | halt => cases choice <;> cases answered

end NntpProxy.Missing
