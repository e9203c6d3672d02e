import NntpProxy.Data.Interleaving

/-!
# Tasks that ask

A program is what a task has left to do: it asks a question of its surroundings and goes on with
the answer, until it is done.  A contract tells which questions may be asked with what is known and
what can be learned from an answer.  A machine runs programs next to each other: it answers one
question at a time, of one task, and the answer may depend on a state that all tasks share.

A program that keeps the contract whatever the answers are is verified by itself.  When the machine
honours the contract, programs that keep it keep it in every interleaving.
-/

namespace NntpProxy.Data.Interaction

open Interleaving Protocol

universe u v w x y z

/-! ## Programs -/

/-- A program that asks questions and goes on with the answers. -/
inductive Program (Question : Type u) (Answer : Question → Type v) (Result : Type w) where
  | done (result : Result)
  | ask (question : Question) (next : Answer question → Program Question Answer Result)

/-- The questions that may be asked, and what can be known behind an answer. -/
structure Contract (Question : Type u) (Answer : Question → Type v) (Knowledge : Type x) where
  allows : Knowledge → Question → Prop
  learns : Knowledge → (question : Question) → Answer question → Knowledge → Prop

variable {Question : Type u} {Answer : Question → Type v} {Knowledge : Type x}

namespace Program

variable {Result Next : Type w}

def bind : Program Question Answer Result → (Result → Program Question Answer Next) →
    Program Question Answer Next
  | done result, next => next result
  | ask question rest, next => ask question fun answer => (rest answer).bind next

instance : Monad (Program Question Answer) where
  pure := done
  bind := bind

/-- Ask one question. -/
def call (question : Question) : Program Question Answer (Answer question) :=
  ask question done

@[simp]
theorem done_bind (result : Result) (next : Result → Program Question Answer Next) :
    (done result >>= next) = next result :=
  rfl

@[simp]
theorem ask_bind (question : Question) (rest : Answer question → Program Question Answer Result)
    (next : Result → Program Question Answer Next) :
    (ask question rest >>= next) = ask question fun answer => rest answer >>= next :=
  rfl

/-! ## Contracts -/

/-- The program asks only what it may, and what it knows in the end is as stated. -/
def Keeps (contract : Contract Question Answer Knowledge) (post : Knowledge → Result → Prop) :
    Knowledge → Program Question Answer Result → Prop
  | known, done result => post known result
  | known, ask question next =>
    contract.allows known question ∧
      ∀ answer learned, contract.learns known question answer learned →
        Keeps contract post learned (next answer)

variable {contract : Contract Question Answer Knowledge} {known : Knowledge}
  {post : Knowledge → Result → Prop}

theorem keeps_ask (question : Question)
    (next : Answer question → Program Question Answer Result) :
    Keeps contract post known (ask question next) ↔
      contract.allows known question ∧
        ∀ answer learned, contract.learns known question answer learned →
          Keeps contract post learned (next answer) :=
  Iff.rfl

/-- One program behind another. -/
@[simp]
theorem keeps_bind (program : Program Question Answer Result)
    (next : Result → Program Question Answer Next) {post : Knowledge → Next → Prop} :
    Keeps contract post known (program >>= next) ↔
      Keeps contract (fun learned result => Keeps contract post learned (next result)) known
        program := by
  induction program generalizing known with
  | done result => exact Iff.rfl
  | ask question rest ih =>
    apply and_congr_right
    intro allowed
    exact forall₃_congr fun answer learned learns => ih answer

theorem Keeps.mono {program : Program Question Answer Result}
    {weaker : Knowledge → Result → Prop} (keeps : Keeps contract post known program)
    (weakens : ∀ learned result, post learned result → weaker learned result) :
    Keeps contract weaker known program := by
  induction program generalizing known with
  | done result => exact weakens known result keeps
  | ask question next ih =>
    exact ⟨keeps.1, fun answer learned learns => ih answer (keeps.2 answer learned learns)⟩

end Program

/-! ## Machines -/

/-- What runs programs: the tasks that may come up and the programs that they begin with, the
answers that the choices of the surroundings lead to, and what a finished program leaves behind. -/
structure Machine (Shared : Type y) (Label : Type z) (Question : Type u)
    (Answer : Question → Type v) (Result : Type w) (Choice : Type x) where
  starts : Label → Bool
  launch : Shared → Label → Option (Shared × Program Question Answer Result)
  answer : Shared → (question : Question) → Choice → Option (Shared × Answer question)
  finish : Shared → Label → Result → Shared

/-- A task that was not launched yet, or what is left of its program. -/
inductive Task (Label : Type z) (Question : Type u) (Answer : Question → Type v)
    (Result : Type w) where
  | ready (label : Label)
  | running (label : Label) (program : Program Question Answer Result)

variable {Shared : Type y} {Label : Type z} {Result : Type w} {Choice : Type x}

variable {shared after : Shared} {choices : List Choice} {task : Task Label Question Answer Result}
    {rest : Program Question Answer Result}

namespace Machine

/-- One step of a task.  Without a choice the task is dropped. -/
def step (machine : Machine Shared Label Question Answer Result Choice) (shared : Shared)
    (task : Task Label Question Answer Result) :
    Option Choice → Option (Shared × Option (Task Label Question Answer Result))
  | none => some (shared, none)
  | some choice =>
    match task with
    | .ready label =>
      (machine.launch shared label).map fun launched =>
        (launched.1, some (.running label launched.2))
    | .running label (.done result) => some (machine.finish shared label result, none)
    | .running label (.ask question next) =>
      (machine.answer shared question choice).map fun answered =>
        (answered.1, some (.running label (next answered.2)))

def protocol (machine : Machine Shared Label Question Answer Result Choice) :
    Protocol Shared (Task Label Question Answer Result) (Option Choice) where
  starts
    | .ready label => machine.starts label
    | .running _ _ => false
  step := machine.step

/-- The machine answers within the contract.  What it shares stays good as long as it is permitted,
and nothing that a task knows becomes wrong. -/
structure Honours (machine : Machine Shared Label Question Answer Result Choice)
    (contract : Contract Question Answer Knowledge) (permitted : Shared → Prop)
    (good : Shared → Prop) (knows : Shared → Knowledge → Prop)
    (post : Label → Knowledge → Result → Prop) : Prop where
  launch : ∀ {shared label after program}, good shared → machine.starts label = true →
    machine.launch shared label = some (after, program) → permitted after →
    good after ∧ (∀ known, knows shared known → knows after known) ∧
      ∃ known, knows after known ∧ program.Keeps contract (post label) known
  answer : ∀ {shared known question choice after answer}, good shared → knows shared known →
    contract.allows known question →
    machine.answer shared question choice = some (after, answer) → permitted after →
    good after ∧ (∀ other, knows shared other → knows after other) ∧
      ∃ learned, knows after learned ∧ contract.learns known question answer learned
  finish : ∀ {shared known label result}, good shared → knows shared known →
    post label known result → permitted (machine.finish shared label result) →
    good (machine.finish shared label result) ∧
      ∀ other, knows shared other → knows (machine.finish shared label result) other

/-- What is left of a task keeps the contract. -/
def TaskKeeps (machine : Machine Shared Label Question Answer Result Choice)
    (contract : Contract Question Answer Knowledge) (knows : Shared → Knowledge → Prop)
    (post : Label → Knowledge → Result → Prop) (shared : Shared) :
    Task Label Question Answer Result → Prop
  | .ready label => machine.starts label = true
  | .running label program =>
    ∃ known, knows shared known ∧ program.Keeps contract (post label) known

variable {machine : Machine Shared Label Question Answer Result Choice}
  {contract : Contract Question Answer Knowledge} {permitted : Shared → Prop}
  {good : Shared → Prop} {knows : Shared → Knowledge → Prop}
  {post : Label → Knowledge → Result → Prop}

theorem TaskKeeps.of_knows (keeps : machine.TaskKeeps contract knows post shared task)
    (still : ∀ known, knows shared known → knows after known) :
    machine.TaskKeeps contract knows post after task := by
  cases task with
  | ready label => exact keeps
  | running label program =>
    rcases keeps with ⟨known, isKnown, keeps⟩
    exact ⟨known, still known isKnown, keeps⟩

/-- A step of one task leaves what is shared good, and all tasks within the contract. -/
theorem Honours.step (honours : machine.Honours contract permitted good knows post)
    {rest : Option (Task Label Question Answer Result)} {choice : Option Choice}
    (stepped : machine.step shared task choice = some (after, rest)) (isPermitted : permitted after)
    (isGood : good shared) (keeps : machine.TaskKeeps contract knows post shared task) :
    good after ∧ (∀ known, knows shared known → knows after known) ∧
      ∀ left ∈ rest, machine.TaskKeeps contract knows post after left := by
  cases choice with
  | none =>
    cases stepped
    exact ⟨isGood, fun _ isKnown => isKnown, fun left isLeft => nomatch isLeft⟩
  | some choice =>
    cases task with
    | ready label =>
      obtain ⟨⟨launched, program⟩, launchEq, same⟩ := Option.map_eq_some_iff.mp stepped
      cases same
      rcases honours.launch isGood keeps launchEq isPermitted with
        ⟨goodAfter, still, known, isKnown, keepsAfter⟩
      refine ⟨goodAfter, still, fun left isLeft => ?_⟩
      cases isLeft
      exact ⟨known, isKnown, keepsAfter⟩
    | running label program =>
      rcases keeps with ⟨known, isKnown, keeps⟩
      cases program with
      | done result =>
        cases stepped
        rcases honours.finish isGood isKnown keeps isPermitted with ⟨goodAfter, still⟩
        exact ⟨goodAfter, still, fun left isLeft => nomatch isLeft⟩
      | ask question next =>
        obtain ⟨⟨answered, answer⟩, answerEq, same⟩ := Option.map_eq_some_iff.mp stepped
        cases same
        rcases honours.answer isGood isKnown keeps.1 answerEq isPermitted with
          ⟨goodAfter, still, learned, isLearned, learns⟩
        refine ⟨goodAfter, still, fun left isLeft => ?_⟩
        cases isLeft
        exact ⟨learned, isLearned, keeps.2 answer learned learns⟩

/-- What is shared is good, and all tasks keep the contract. -/
def SystemKeeps (machine : Machine Shared Label Question Answer Result Choice)
    (contract : Contract Question Answer Knowledge) (good : Shared → Prop)
    (knows : Shared → Knowledge → Prop) (post : Label → Knowledge → Result → Prop)
    (system : System Shared (Task Label Question Answer Result)) : Prop :=
  good system.shared ∧
    ∀ task ∈ system.tasks, machine.TaskKeeps contract knows post system.shared task

/-- In every run within what is permitted, what is shared stays good. -/
theorem Honours.runWithin {allowed : System Shared (Task Label Question Answer Result) → Bool}
    (honours : machine.Honours contract permitted good knows post)
    (isPermitted : ∀ system, allowed system = true → permitted system.shared)
    {system : System Shared (Task Label Question Answer Result)}
    {moves : List (Move (Task Label Question Answer Result) (Option Choice))}
    (ran : machine.protocol.runWithin allowed ⟨shared, []⟩ moves = some system)
    (allowedFirst : allowed ⟨shared, []⟩ = true) (isGood : good shared) : good system.shared := by
  suffices kept : machine.SystemKeeps contract good knows post system from kept.1
  refine runWithin_invariant ?_ ?_ ran allowedFirst ⟨isGood, fun task => nofun⟩
  · rintro shared tasks task starts - ⟨good, keeps⟩
    refine ⟨good, List.forall_mem_append.mpr ⟨keeps, List.forall_mem_singleton.mpr ?_⟩⟩
    cases task with
    | ready label => exact starts
    | running label program => cases starts
  · rintro shared front task back choice after rest stepped - allowedAfter ⟨good, keeps⟩
    rcases honours.step stepped (isPermitted _ allowedAfter) good (keeps task (by simp)) with
      ⟨goodAfter, still, keepsRest⟩
    refine ⟨goodAfter, System.forall_of_others ?_ keepsRest⟩
    intro other isOther
    exact (System.forall_others keeps other isOther).of_knows still

/-! ## A task that runs alone -/

/-- Answer the questions of a program one after the other. -/
def follow (machine : Machine Shared Label Question Answer Result Choice) {Value : Type w} :
    List Choice → Shared → Program Question Answer Value →
      Option (Shared × Program Question Answer Value)
  | [], shared, program => some (shared, program)
  | _ :: _, _, .done _ => none
  | choice :: choices, shared, .ask question next =>
    (machine.answer shared question choice).bind fun answered =>
      machine.follow choices answered.1 (next answered.2)

/-- What is left of a program has the program behind it still behind it. -/
theorem follow_bind {Value Next : Type w} {program rest : Program Question Answer Value}
    (followed : machine.follow choices shared program = some (after, rest))
    (next : Value → Program Question Answer Next) (more : List Choice) :
    machine.follow (choices ++ more) shared (program >>= next) =
      machine.follow more after (rest >>= next) := by
  induction choices generalizing shared program with
  | nil =>
    cases followed
    rfl
  | cons choice choices ih =>
    cases program with
    | done result => cases followed
    | ask question continues =>
      obtain ⟨answered, isAnswer, followed⟩ := Option.bind_eq_some_iff.mp followed
      simp only [Program.ask_bind, List.cons_append, follow, isAnswer]
      exact ih followed

/-- The moves of the first task. -/
def soloMoves (Question : Type u) (Answer : Question → Type v) (Result : Type w) (Label : Type z)
    (choices : List Choice) : List (Move (Task Label Question Answer Result) (Option Choice)) :=
  choices.map fun choice => .step 0 (some choice)

variable {program : Program Question Answer Result}

theorem run_follow {label : Label}
    (followed : machine.follow choices shared program = some (after, rest)) :
    machine.protocol.run ⟨shared, [.running label program]⟩
        (soloMoves Question Answer Result Label choices) = some ⟨after, [.running label rest]⟩ := by
  induction choices generalizing shared program with
  | nil =>
    cases followed
    rfl
  | cons choice choices ih =>
    cases program with
    | done result => cases followed
    | ask question next =>
      obtain ⟨answered, isAnswer, followed⟩ := Option.bind_eq_some_iff.mp followed
      have moved : machine.protocol.next ⟨shared, [.running label (.ask question next)]⟩
          (.step 0 (some choice)) = some ⟨answered.1, [.running label (next answered.2)]⟩ := by
        simp [Protocol.next, protocol, step, isAnswer]
      rw [soloMoves, List.map_cons, Protocol.run, moved]
      exact ih followed

/-- A task is started, launched and answered, with no other task.  The choice at the launch does
not matter. -/
theorem run_start_follow {begun : Shared} {label : Label} (starts : machine.starts label = true)
    (launched : machine.launch shared label = some (begun, program))
    (followed : machine.follow choices begun program = some (after, rest)) (any : Choice) :
    machine.protocol.run ⟨shared, []⟩
        (.start (.ready label) :: soloMoves Question Answer Result Label (any :: choices)) =
      some ⟨after, [.running label rest]⟩ := by
  have isReady : machine.protocol.next ⟨shared, []⟩ (.start (.ready label)) =
      some ⟨shared, [.ready label]⟩ := by
    simp [next, protocol, starts]
  have isLaunched : machine.protocol.next ⟨shared, [.ready label]⟩ (.step 0 (some any)) =
      some ⟨begun, [.running label program]⟩ := by
    simp [next, protocol, step, launched]
  rw [run, isReady, Option.bind_some, soloMoves, List.map_cons, run, isLaunched]
  exact run_follow followed

end Machine

end NntpProxy.Data.Interaction
