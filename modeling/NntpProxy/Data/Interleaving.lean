import Mathlib

/-!
# Interleaved tasks

Any number of tasks share a state, and each task takes one atomic step at a time.  A run is a list
of moves: a task is started, or the task at some place takes its next step, with what its
surroundings choose for it.  What one step of one task preserves, with the other tasks left as
they are, is preserved by every run.
-/

namespace NntpProxy.Data.Interleaving

universe u v w

/-- The tasks that may be started, and the atomic steps of a task.  A step gives the shared state
and what is left of the task. -/
structure Protocol (Shared : Type u) (Task : Type v) (Choice : Type w) where
  starts : Task → Bool
  step : Shared → Task → Choice → Option (Shared × Option Task)

/-- The shared state and the tasks that are not finished. -/
structure System (Shared : Type u) (Task : Type v) where
  shared : Shared
  tasks : List Task
  deriving DecidableEq, Repr

/-- Start a task, or let the task at a place take a step. -/
inductive Move (Task : Type v) (Choice : Type w) where
  | start (task : Task)
  | step (index : Nat) (choice : Choice)
  deriving DecidableEq, Repr

variable {Shared : Type u} {Task : Type v} {Choice : Type w}

namespace System

section

variable (weight : Task → Nat)

/-- The sum of a weight over the tasks. -/
def total (tasks : List Task) : Nat :=
  (tasks.map weight).sum

@[simp]
theorem total_nil : total weight [] = 0 :=
  rfl

@[simp]
theorem total_cons (task : Task) (tasks : List Task) :
    total weight (task :: tasks) = weight task + total weight tasks := by
  simp [total]

@[simp]
theorem total_append (front back : List Task) :
    total weight (front ++ back) = total weight front + total weight back := by
  simp [total]

end

theorem weight_le_total {weight : Task → Nat} {task : Task} {tasks : List Task}
    (isTask : task ∈ tasks) : weight task ≤ total weight tasks := by
  obtain ⟨front, back, rfl⟩ := List.append_of_mem isTask
  rw [total_append, total_cons]
  omega

/-- What holds of every task holds of every task but one. -/
theorem forall_others {Holds : Task → Prop} {front back : List Task} {task : Task}
    (all : ∀ other ∈ front ++ task :: back, Holds other) :
    ∀ other ∈ front ++ back, Holds other := by
  rw [List.forall_mem_append, List.forall_mem_cons] at all
  rw [List.forall_mem_append]
  exact ⟨all.1, all.2.2⟩

/-- What holds of the other tasks, and of what is left of the task that took a step, holds of
every task behind the step. -/
theorem forall_of_others {Holds : Task → Prop} {front back : List Task} {rest : Option Task}
    (others : ∀ other ∈ front ++ back, Holds other) (left : ∀ task ∈ rest, Holds task) :
    ∀ other ∈ front ++ rest.toList ++ back, Holds other := by
  rw [List.forall_mem_append] at others
  rw [List.forall_mem_append, List.forall_mem_append]
  refine ⟨⟨others.1, ?_⟩, others.2⟩
  intro task isTask
  exact left task (Option.mem_toList.mp isTask)

end System

variable {system after : System Shared Task}

variable {allowed : System Shared Task → Bool} {Holds : System Shared Task → Prop}
    {moves : List (Move Task Choice)}

namespace Protocol

variable (protocol : Protocol Shared Task Choice)

/-- One move; `none` when it is not possible. -/
def next (system : System Shared Task) : Move Task Choice → Option (System Shared Task)
  | .start task =>
    if protocol.starts task then some ⟨system.shared, system.tasks ++ [task]⟩ else none
  | .step index choice =>
    match system.tasks[index]? with
    | none => none
    | some task =>
      (protocol.step system.shared task choice).map fun result =>
        ⟨result.1, system.tasks.take index ++ result.2.toList ++ system.tasks.drop (index + 1)⟩

/-- Moves one after the other. -/
def run : System Shared Task → List (Move Task Choice) → Option (System Shared Task)
  | system, [] => some system
  | system, move :: moves => (protocol.next system move).bind (run · moves)

variable {protocol}

/-- A move starts a task, or replaces one task by what is left of it. -/
theorem next_cases {move : Move Task Choice} (moved : protocol.next system move = some after) :
    (∃ task, protocol.starts task = true ∧ after = ⟨system.shared, system.tasks ++ [task]⟩) ∨
      ∃ front task back choice shared rest,
        system.tasks = front ++ task :: back ∧
          protocol.step system.shared task choice = some (shared, rest) ∧
          after = ⟨shared, front ++ rest.toList ++ back⟩ := by
  cases move with
  | start task =>
    left
    simp only [next] at moved
    split at moved
    next starts => exact ⟨task, starts, (Option.some.inj moved).symm⟩
    next => cases moved
  | step index choice =>
    right
    simp only [next] at moved
    split at moved
    next => cases moved
    next task isTask =>
      obtain ⟨⟨shared, rest⟩, stepped, rfl⟩ := Option.map_eq_some_iff.mp moved
      obtain ⟨inside, isTask⟩ := List.getElem?_eq_some_iff.mp isTask
      refine ⟨_, task, _, choice, shared, rest, ?_, stepped, rfl⟩
      rw [← isTask, List.getElem_cons_drop, List.take_append_drop]

/-- A step of the task that was started last. -/
theorem next_step_last (shared : Shared) (tasks : List Task) (task : Task) (choice : Choice) :
    protocol.next ⟨shared, tasks ++ [task]⟩ (.step tasks.length choice) =
      (protocol.step shared task choice).map fun result =>
        ⟨result.1, tasks ++ result.2.toList⟩ := by
  simp [next]

/-! ## Restricted runs -/

/-- The moves of a run in which every system that is reached is allowed. -/
def runWithin (protocol : Protocol Shared Task Choice) (allowed : System Shared Task → Bool) :
    System Shared Task → List (Move Task Choice) → Option (System Shared Task)
  | system, [] => some system
  | system, move :: moves =>
    (protocol.next system move).bind fun after =>
      if allowed after then runWithin protocol allowed after moves else none

/-- A run is not restricted when every system is allowed. -/
theorem runWithin_true (protocol : Protocol Shared Task Choice) (system : System Shared Task)
    (moves : List (Move Task Choice)) :
    protocol.runWithin (fun _ => true) system moves = protocol.run system moves := by
  induction moves generalizing system with
  | nil => rfl
  | cons move moves ih => simp [runWithin, run, ih]

theorem runWithin_cons {move : Move Task Choice} (moved : protocol.next system move = some after)
    (isAllowed : allowed after = true) (moves : List (Move Task Choice)) :
    protocol.runWithin allowed system (move :: moves) = protocol.runWithin allowed after moves := by
  simp [runWithin, moved, isAllowed]

theorem runWithin_append (protocol : Protocol Shared Task Choice)
    (allowed : System Shared Task → Bool) (system : System Shared Task)
    (front rest : List (Move Task Choice)) :
    protocol.runWithin allowed system (front ++ rest) =
      (protocol.runWithin allowed system front).bind (protocol.runWithin allowed · rest) := by
  induction front generalizing system with
  | nil => rfl
  | cons move front ih =>
    simp only [List.cons_append, runWithin]
    cases protocol.next system move with
    | none => rfl
    | some after =>
      simp only [Option.bind_some]
      split
      · exact ih after
      · rfl

/-- One run behind another. -/
theorem run_trans {middle last : System Shared Task} {front rest : List (Move Task Choice)}
    (first : protocol.run system front = some middle)
    (second : protocol.run middle rest = some last) :
    protocol.run system (front ++ rest) = some last := by
  rw [← runWithin_true] at first second ⊢
  rw [runWithin_append, first]
  exact second

/-! ## Invariants -/

/-- What every allowed start and every allowed step preserve holds after every restricted run. -/
theorem runWithin_invariant (start : ∀ shared tasks task, protocol.starts task = true →
      allowed ⟨shared, tasks ++ [task]⟩ = true →
      Holds ⟨shared, tasks⟩ → Holds ⟨shared, tasks ++ [task]⟩)
    (step : ∀ shared front task back choice after rest,
      protocol.step shared task choice = some (after, rest) →
      allowed ⟨shared, front ++ task :: back⟩ = true →
      allowed ⟨after, front ++ rest.toList ++ back⟩ = true →
      Holds ⟨shared, front ++ task :: back⟩ → Holds ⟨after, front ++ rest.toList ++ back⟩)
    (ran : protocol.runWithin allowed system moves = some after) (isAllowed : allowed system = true)
    (holds : Holds system) : Holds after := by
  induction moves generalizing system with
  | nil =>
    cases ran
    exact holds
  | cons move moves ih =>
    obtain ⟨middle, moved, ran⟩ := Option.bind_eq_some_iff.mp ran
    split at ran
    next isAllowedNext =>
      refine ih ran isAllowedNext ?_
      rcases next_cases moved with
        ⟨task, starts, rfl⟩ | ⟨front, task, back, choice, shared, rest, tasks, stepped, rfl⟩
      · exact start _ _ _ starts isAllowedNext holds
      · rcases system with ⟨before, _⟩
        cases tasks
        exact step _ _ _ _ _ _ _ stepped isAllowed isAllowedNext holds
    next => cases ran

/-- What every start and every step preserve holds after every run. -/
theorem run_invariant (start : ∀ shared tasks task, protocol.starts task = true →
      Holds ⟨shared, tasks⟩ → Holds ⟨shared, tasks ++ [task]⟩)
    (step : ∀ shared front task back choice after rest,
      protocol.step shared task choice = some (after, rest) →
      Holds ⟨shared, front ++ task :: back⟩ → Holds ⟨after, front ++ rest.toList ++ back⟩)
    (ran : protocol.run system moves = some after) (holds : Holds system) : Holds after := by
  rw [← runWithin_true] at ran
  refine runWithin_invariant ?_ ?_ ran rfl holds
  · intro shared tasks task starts _ before
    exact start shared tasks task starts before
  · intro shared front task back choice after rest stepped _ _ before
    exact step shared front task back choice after rest stepped before

end Protocol

end NntpProxy.Data.Interleaving
