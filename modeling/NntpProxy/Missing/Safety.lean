import NntpProxy.Missing.Windows

/-!
# Records are evident in whole runs

Every task keeps the contract, and the machine honours it, so that what is recorded is evident in
every interleaving.  The one thing that a task can do against it is to return a connection that
carries requests; only a window does.
-/

namespace NntpProxy.Missing

open Data.Interaction Data.Interleaving Protocol Router Pool Session Transport PerCommand

variable {strict : Prop} {known : List Event} {session : ClientSession}
variable {access : AuthenticationAccess} {requests : List PipelineableRequest}

/-! ## Batches -/

/-- Some batches of the session go through a window: there is only one backend, it is not asked
with STAT first, and the cache has no articles. -/
structure AllowsWindows (session : ClientSession) : Prop where
  perCommand : session.routingMode ≠ .stateful
  oneBackend : session.router.backends.length = 1
  noPayloads : session.storesPayloads = false
  noStat : ∀ backend ∈ session.router.backends, backend.statMissingEnabled = false

variable {router : BackendSelector}

theorem head_of_oneBackend {info : BackendInfo} (only : router.backends = [info]) :
    (router.sortedTiers.flatMap fun tier =>
      router.backends.filter (·.tier == tier)).head? = some info := by
  have isInfo : ∀ backend ∈ router.sortedTiers.flatMap fun tier =>
      router.backends.filter (·.tier == tier), backend = info := by
    intro backend isBackend
    obtain ⟨tier, -, inTier⟩ := List.mem_flatMap.mp isBackend
    exact List.mem_singleton.mp (only ▸ List.mem_of_mem_filter inTier)
  have isThere : info ∈ router.sortedTiers.flatMap fun tier =>
      router.backends.filter (·.tier == tier) := by
    have isBackend : info ∈ router.backends := by simp [only]
    exact List.mem_flatMap.mpr ⟨info.tier, router.tier_mem info isBackend, by simp [isBackend]⟩
  cases first : (router.sortedTiers.flatMap fun tier =>
      router.backends.filter (·.tier == tier)).head? with
  | none =>
    rw [List.head?_eq_none_iff.mp first] at isThere
    cases isThere
  | some backend => rw [isInfo backend (List.mem_of_mem_head? first)]

/-- What a batch that goes through a window says about the session. -/
theorem window_of_selectSingleBackendArticleWindow {backend : ArticleBackend}
    (perCommand : session.routingMode ≠ .stateful)
    (selected : selectSingleBackendArticleWindow session access requests = some backend) :
    AllowsWindows session ∧ Registered session.router backend := by
  unfold selectSingleBackendArticleWindow at selected
  split at selected
  next => cases selected
  next slot hasSlot =>
    obtain ⟨info, first, rfl⟩ := Option.map_eq_some_iff.mp selected
    unfold PerCommand.selectSingleBackendArticleWindow at hasSlot
    split at hasSlot
    next => cases hasSlot
    next unrestricted =>
      simp only [Bool.or_eq_true, not_or, bne_iff_ne, ne_eq, Decidable.not_not,
        Bool.not_eq_true] at unrestricted
      obtain ⟨⟨⟨⟨-, oneBackend⟩, noPayloads⟩, -⟩, -⟩ := unrestricted
      have only : session.router.backends = [info] := by
        obtain ⟨other, isOnly⟩ := List.length_eq_one_iff.mp oneBackend
        rw [isOnly] at first ⊢
        rw [Option.some.inj first]
      rw [head_of_oneBackend only] at hasSlot
      simp only at hasSlot
      split at hasSlot
      next => cases hasSlot
      next noStat =>
        cases hasSlot
        refine ⟨⟨perCommand, oneBackend, noPayloads, ?_⟩, info, by simp [only], rfl, rfl⟩
        intro other isOther
        rw [only] at isOther
        rw [List.mem_singleton.mp isOther]
        exact Bool.eq_false_iff.mpr noStat

section Batch

variable {trailing : BatchTail} {lease : Option BackendLease}

theorem ensures_executePipelineableBatch (perCommand : session.routingMode ≠ .stateful)
    (noWindows : strict → ¬ AllowsWindows session)
    (parsed : ∀ request ∈ requests.map (·.request), Parsed request)
    (leaseSettled : LeaseSettled lease) :
    Ensures strict session.router known (executePipelineableBatch session access requests lease)
      EndsSettled := by
  unfold executePipelineableBatch
  split
  next => exact ensures_executePipelineableCommands parsed leaseSettled
  next backend selected =>
    rcases window_of_selectSingleBackendArticleWindow perCommand selected with
      ⟨allowsWindows, registered⟩
    exact ensures_forwardSingleBackendArticleWindow
      (fun isStrict => noWindows isStrict allowsWindows) registered parsed leaseSettled

theorem ensures_handleTrailingCommand
    (parsed : ∀ request, trailing = .context request → Parsed request)
    (leaseSettled : LeaseSettled lease) :
    Ensures strict session.router known (handleTrailingCommand session access trailing lease)
      EndsSettled := by
  cases trailing with
  | none => exact leaseSettled
  | rejection rejection => exact safe_writeLocalLine.bind fun _ _ _ _ => leaseSettled
  | context request => exact ensures_processSingleCommand (parsed request rfl) leaseSettled

theorem safe_handleCommandBatch (perCommand : session.routingMode ≠ .stateful)
    (noWindows : strict → ¬ AllowsWindows session)
    (parsed : ∀ request ∈ batchRequests requests trailing, Parsed request) :
    Safe strict session.router known (handleCommandBatch session access requests trailing) := by
  refine (ensures_executePipelineableBatch perCommand noWindows
    (fun request isRequest => parsed request (List.mem_append_left _ isRequest))
      leaseSettled_none).bind ?_
  rintro executed ⟨result, lease⟩ - leaseSettled
  cases result with
  | error error => trivial
  | ok _ =>
    refine (ensures_handleTrailingCommand ?_ leaseSettled).bind ?_
    · rintro request rfl
      exact parsed request (List.mem_append_right _ List.mem_cons_self)
    · rintro learned ⟨result, next⟩ - nextSettled
      cases result with
      | error error => trivial
      | ok _ =>
        cases next with
        | none => trivial
        | some kept =>
          exact (safe_completeSuccess (nextSettled kept rfl)).bind fun _ _ _ _ => trivial

end Batch

/-! ## Jobs -/

theorem ensures_salvageWithHealthCheck {conn : Connection} (clean : conn.unanswered = []) :
    Ensures strict router known (salvageWithHealthCheck conn) fun _ outcome =>
      outcome = .nothing := by
  refine (ensures_executeRequestExchange (⟨rfl, clean⟩ : Settled conn.backend conn)).bind ?_
  rintro exchanged result - responds
  cases result with
  | none => rfl
  | some response =>
    rcases response with ⟨status, next⟩
    cases status with
    | none => rfl
    | some status =>
      simp only
      split
      · have unanswered := (responds _ rfl).1.unanswered
        exact (ensures_call (.giveBack _) fun _ => unanswered).bind fun _ _ _ _ => rfl
      · rfl

theorem ensures_runJob {job : Job} (sound : Sound router known job) :
    Ensures strict router known (runJob router job) fun learned outcome =>
      Reports learned job outcome := by
  -- an outcome that tells nothing
  have nothing {job : Job} {work : Work Outcome}
      (ensures : Ensures strict router known work fun _ outcome => outcome = .nothing) :
      Ensures strict router known work fun learned outcome => Reports learned job outcome := by
    refine Program.Keeps.mono ensures ?_
    rintro learned _ rfl
    cases job <;> trivial
  cases job with
  | salvage conn => exact nothing (ensures_salvageWithHealthCheck sound)
  | retryProbe id statRequest => exact ensures_statProbe.bind fun _ _ _ reports => reports
  | prefetchProbe backend statRequest messageId =>
    exact nothing (ensures_prefetchProbe sound.1 sound.2)
  | queryBackend backend request => exact ensures_queryBackend.bind fun _ _ _ reports => reports
  | finishRace messageId pending => exact nothing (ensures_finishRace sound)
  | backgroundPrecheck request messageId => exact nothing (ensures_backgroundPrecheck sound)

/-! ## The machine -/

/-- What a task leaves behind: the outcome of a task that was spawned is true. -/
def Leaves : Label → List Event → Outcome → Prop
  | .batch _ _ _, _, _ => True
  | .child ticket job, known, outcome =>
    Event.spawned ticket job ∈ known ∧ Reports known job outcome

theorem honours_machine (noWindows : strict → ¬ AllowsWindows session) :
    (machine session).Honours (contract strict session.router)
      (fun world => strict ∨ world.Clean) (World.Good session.router) World.Knows Leaves where
  launch := by
    intro world label after program good starts launched permitted
    cases label with
    | batch access requests trailing =>
      cases launched
      simp only [machine, Bool.and_eq_true, bne_iff_ne, ne_eq, List.all_eq_true,
        beq_iff_eq] at starts
      refine ⟨good, fun _ isKnown => isKnown, [], List.nil_subset _, ?_⟩
      exact safe_handleCommandBatch starts.1 noWindows starts.2
    | child ticket job =>
      simp only [machine] at launched
      split at launched
      next isWaiting =>
        cases launched
        rcases good.waiting isWaiting with ⟨spawned, sound⟩
        refine ⟨{ good with waiting := fun stays => good.waiting (List.mem_of_mem_erase stays) },
          fun _ isKnown => isKnown, world.history, List.Subset.refl _, ?_⟩
        exact (ensures_runJob sound).grows.mono fun _ _ ended => ⟨ended.1 spawned, ended.2⟩
      next => cases launched
  answer := by
    intro world known question choice after found good knows allows answered permitted
    rcases honours_answer good knows allows answered permitted with ⟨goodAfter, grows, learns⟩
    exact ⟨goodAfter, fun _ isKnown => List.Subset.trans isKnown grows, after.history,
      List.Subset.refl _, List.Subset.trans knows grows, learns⟩
  finish := by
    intro world known label outcome good knows leaves permitted
    cases label with
    | batch access requests trailing => exact ⟨good, fun _ isKnown => isKnown⟩
    | child ticket job =>
      refine ⟨good.note (by simp) (by simp) ?_,
        fun _ isKnown => List.Subset.trans isKnown (List.subset_append_left _ _)⟩
      rintro _ _ ⟨⟩
      exact ⟨job, knows leaves.1, leaves.2.mono knows⟩

/-! ## Runs -/

/-- The systems of a proxy. -/
abbrev ProxySystem := System World (Task Label Question Answer Outcome)

abbrev ProxyMove := Move (Task Label Question Answer Outcome) (Option Choice)

/-- Before the first request. -/
def initialSystem : ProxySystem :=
  ⟨World.initial, []⟩

/-- No idle connection carries requests. -/
def noneCarried (system : ProxySystem) : Bool :=
  system.shared.idle.all (·.unanswered.isEmpty)

theorem evident_of_noWindows (noWindows : ¬ AllowsWindows session) {moves : List ProxyMove}
    {system : ProxySystem}
    (ran : (machine session).protocol.run initialSystem moves = some system) :
    Evident session.router system.shared.history := by
  have within : (machine session).protocol.runWithin (fun _ => true) initialSystem moves =
      some system := by
    rw [Protocol.runWithin_true]
    exact ran
  exact ((honours_machine (fun _ : True => noWindows)).runWithin (fun _ _ => Or.inl trivial) within
    rfl (good_initial session.router)).evident

end NntpProxy.Missing
