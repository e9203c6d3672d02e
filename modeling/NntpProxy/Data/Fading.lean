import Mathlib

/-!
# Content that fades

What is known at one time may be out of date later.  A fading machine looks, whenever an event
comes, only at what is left of its content at that time.  A realization may keep more than
that, and it may drop early what fades anyway, as long as what is left of it is the same.
-/

namespace NntpProxy.Data

/-- A machine whose content fades: fading at once is fading in steps, and an event changes
what is left at its time. -/
structure Fading (τ ε κ : Type*) [LE τ] where
  fade : τ → κ → κ
  fade_fade : ∀ {now later : τ}, now ≤ later →
    ∀ content, fade later (fade now content) = fade later content
  time : ε → τ
  next : ε → κ → κ

namespace Fading

variable {τ ε κ σ : Type*} [LE τ] (fading : Fading τ ε κ)

/-- The content behind some events. -/
def run (content : κ) (events : List ε) : κ :=
  events.foldl (fun content event => fading.next event (fading.fade (fading.time event) content))
    content

theorem run_concat (content : κ) (events : List ε) (event : ε) :
    fading.run content (events ++ [event]) =
      fading.next event (fading.fade (fading.time event) (fading.run content events)) := by
  rw [run, List.foldl_append]
  rfl

theorem run_append (content : κ) (first second : List ε) :
    fading.run content (first ++ second) = fading.run (fading.run content first) second :=
  List.foldl_append

/-- The events come in the order of their times. -/
def Ordered (events : List ε) : Prop :=
  events.Pairwise fun earlier later => fading.time earlier ≤ fading.time later

/-- No event is later than this time. -/
def Until (events : List ε) (now : τ) : Prop :=
  ∀ event ∈ events, fading.time event ≤ now

variable {fading}

theorem ordered_concat_iff {events : List ε} {event : ε} :
    fading.Ordered (events ++ [event]) ↔
      fading.Ordered events ∧ fading.Until events (fading.time event) := by
  simp [Ordered, Until, List.pairwise_append]

theorem until_concat_iff {events : List ε} {event : ε} {now : τ} :
    fading.Until (events ++ [event]) now ↔ fading.Until events now ∧ fading.time event ≤ now := by
  simp [Until, or_imp, forall_and]

variable (fading) in
/-- Steps on states with an invariant, of which events of a kind leave the same as of the
content. -/
structure Realizes (view : σ → κ) (step : σ → ε → σ) (valid : σ → Prop) (admitted : ε → Prop) :
    Prop where
  keeps : ∀ {state event}, admitted event → valid state → valid (step state event)
  sees : ∀ {state event}, admitted event → valid state →
    ∀ {later}, fading.time event ≤ later →
      fading.fade later (view (step state event)) =
        fading.fade later (fading.next event (fading.fade (fading.time event) (view state)))

namespace Realizes

variable {view : σ → κ} {step : σ → ε → σ} {valid : σ → Prop} {admitted : ε → Prop}
  (realizes : fading.Realizes view step valid admitted) {events : List ε}
  (allAdmitted : ∀ event ∈ events, admitted event)
include realizes allAdmitted

theorem valid_foldl {state : σ} (isValid : valid state) : valid (events.foldl step state) := by
  induction events generalizing state with
  | nil => exact isValid
  | cons event events ih =>
    rcases List.forall_mem_cons.mp allAdmitted with ⟨first, rest⟩
    exact ih rest (realizes.keeps first isValid)

/-- Whatever the events were, what is left behind them is the same. -/
theorem fade_foldl {state : σ} (isValid : valid state) (ordered : fading.Ordered events) {now : τ}
    (past : fading.Until events now) :
    fading.fade now (view (events.foldl step state)) =
      fading.fade now (fading.run (view state) events) := by
  -- The last event looks at what the earlier ones left at its own time.
  induction events using List.reverseRecOn generalizing now with
  | nil => rfl
  | append_singleton events event ih =>
    rcases ordered_concat_iff.mp ordered with ⟨earlierOrdered, earlierPast⟩
    rcases until_concat_iff.mp past with ⟨-, notLater⟩
    rcases List.forall_mem_append.mp allAdmitted with ⟨earlier, last⟩
    have stillValid : valid (events.foldl step state) :=
      realizes.valid_foldl earlier isValid
    rw [List.foldl_append, run_concat, List.foldl_cons, List.foldl_nil,
      realizes.sees (last event (List.mem_singleton_self event)) stillValid notLater,
      ih earlier earlierOrdered earlierPast]

end Realizes

end Fading

end NntpProxy.Data
