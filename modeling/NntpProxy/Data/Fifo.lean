import Mathlib

/-!
# Windows of outstanding requests

Requests are issued on a channel and settled in the order in which they were issued, with
a bounded number of them outstanding.  A list of events is replayed against the queue of
outstanding requests; a replay that succeeds never exceeds the bound, never settles or
awaits a request that was not issued, and settles requests in the order in which they were
issued.
-/

namespace NntpProxy.Data.Fifo

universe u

variable {α : Type u}

/-- A request is issued; its answer is awaited; its answer has arrived. -/
inductive Event (α : Type u) where
  | issue (item : α)
  | await (item : α)
  | settle (item : α)
  deriving DecidableEq, Repr

/-- The requests that were issued. -/
def issued (events : List (Event α)) : List α :=
  events.filterMap fun
    | .issue item => some item
    | _ => none

/-- The requests that were settled. -/
def settled (events : List (Event α)) : List α :=
  events.filterMap fun
    | .settle item => some item
    | _ => none

@[simp]
theorem issued_append (front rest : List (Event α)) :
    issued (front ++ rest) = issued front ++ issued rest :=
  List.filterMap_append

@[simp]
theorem issued_map_issue (items : List α) : issued (items.map .issue) = items := by
  simp [issued]

variable [DecidableEq α]

/-- One event on the queue of outstanding requests. -/
def step (capacity : Nat) (queue : List α) : Event α → Option (List α)
  | .issue item => if queue.length < capacity then some (queue ++ [item]) else none
  | .await item => if queue.head? = some item then some queue else none
  | .settle item => if queue.head? = some item then some queue.tail else none

/-- Events one after the other. -/
def run (capacity : Nat) : List α → List (Event α) → Option (List α)
  | queue, [] => some queue
  | queue, event :: events => (step capacity queue event).bind (run capacity · events)

theorem run_append (capacity : Nat) (queue : List α) (front rest : List (Event α)) :
    run capacity queue (front ++ rest) = (run capacity queue front).bind (run capacity · rest) := by
  induction front generalizing queue with
  | nil => rfl
  | cons event events ih =>
    rw [List.cons_append, run, run, Option.bind_assoc]
    congr 1
    funext next
    exact ih next

variable {capacity : Nat} {queue : List α}

/-- Issuing requests that fit. -/
theorem run_issue {items : List α} (fits : items = [] ∨ (queue ++ items).length ≤ capacity) :
    run capacity queue (items.map .issue) = some (queue ++ items) := by
  induction items generalizing queue with
  | nil => simp [run]
  | cons item items ih =>
    have within : queue.length + (items.length + 1) ≤ capacity := by simpa using fits
    rw [List.map_cons, run, step, if_pos (by omega), Option.bind_some,
      ih (Or.inr (by simpa [Nat.add_comm, Nat.add_left_comm] using within)), List.append_assoc]
    rfl

/-- Awaiting and settling the oldest request. -/
theorem run_settle (capacity : Nat) (item : α) (queue : List α) :
    run capacity (item :: queue) [.await item, .settle item] = some queue := by
  simp [run, step]

theorem run_await (capacity : Nat) (item : α) (queue : List α) :
    run capacity (item :: queue) [.await item] = some (item :: queue) := by
  simp [run, step]

variable {next : List α}

/-- What was outstanding or issued is settled, in order, or still outstanding. -/
theorem settled_append_of_run {events : List (Event α)}
    (ran : run capacity queue events = some next) :
    settled events ++ next = queue ++ issued events := by
  induction events generalizing queue with
  | nil =>
    simp only [run, Option.some.injEq] at ran
    simp [settled, issued, ran]
  | cons event events ih =>
    rcases Option.bind_eq_some_iff.mp ran with ⟨middle, stepped, rest⟩
    have later := ih rest
    cases event with
    | issue item =>
      simp only [step, Option.ite_none_right_eq_some, Option.some.injEq] at stepped
      rw [← stepped.2, List.append_assoc] at later
      exact later
    | await item =>
      simp only [step, Option.ite_none_right_eq_some, Option.some.injEq] at stepped
      rw [← stepped.2] at later
      exact later
    | settle item =>
      simp only [step, Option.ite_none_right_eq_some, Option.some.injEq] at stepped
      rcases stepped with ⟨isHead, rfl⟩
      rcases List.head?_eq_some_iff.mp isHead with ⟨tail, rfl⟩
      change item :: (settled events ++ next) = _
      rw [later]
      rfl

/-- The bound is kept. -/
theorem length_le_of_run {events : List (Event α)} (fits : queue.length ≤ capacity)
    (ran : run capacity queue events = some next) :
    next.length ≤ capacity := by
  induction events generalizing queue with
  | nil =>
    simp only [run, Option.some.injEq] at ran
    exact ran ▸ fits
  | cons event events ih =>
    rcases Option.bind_eq_some_iff.mp ran with ⟨middle, stepped, rest⟩
    apply ih _ rest
    cases event with
    | issue item =>
      simp only [step, Option.ite_none_right_eq_some, Option.some.injEq] at stepped
      rw [← stepped.2, List.length_append]
      exact stepped.1
    | await item =>
      simp only [step, Option.ite_none_right_eq_some, Option.some.injEq] at stepped
      exact stepped.2 ▸ fits
    | settle item =>
      simp only [step, Option.ite_none_right_eq_some, Option.some.injEq] at stepped
      rw [← stepped.2, List.length_tail]
      omega

/-- At every point of a replay the settled requests are the first of the issued ones and
at most `capacity` more were issued. -/
theorem settled_isPrefix_of_run {front rest : List (Event α)}
    (ran : run capacity [] (front ++ rest) = some next) :
    settled front <+: issued front ∧ (issued front).length ≤ (settled front).length + capacity := by
  rw [run_append] at ran
  rcases Option.bind_eq_some_iff.mp ran with ⟨middle, frontRan, -⟩
  have accounted := settled_append_of_run frontRan
  rw [List.nil_append] at accounted
  have within := length_le_of_run (Nat.zero_le capacity) frontRan
  refine ⟨⟨middle, accounted⟩, ?_⟩
  rw [← accounted, List.length_append]
  omega

/-- A request whose answer is awaited was issued before. -/
theorem mem_issued_of_await {before after : List (Event α)} {item : α}
    (ran : run capacity [] (before ++ .await item :: after) = some next) :
    item ∈ issued before := by
  rw [run_append] at ran
  rcases Option.bind_eq_some_iff.mp ran with ⟨queue, beforeRan, restRan⟩
  rcases Option.bind_eq_some_iff.mp restRan with ⟨middle, stepped, -⟩
  simp only [step, Option.ite_none_right_eq_some] at stepped
  have accounted := settled_append_of_run beforeRan
  rw [List.nil_append] at accounted
  rw [← accounted, List.mem_append]
  exact Or.inr (List.mem_of_mem_head? stepped.1)

end NntpProxy.Data.Fifo
