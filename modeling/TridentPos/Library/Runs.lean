import Mathlib.Init

/-!
# Runs of events

A system moves by events; a run is permitted when each event is where it happens.
-/
namespace TridentPos.Library.Runs

variable {σ ε : Type} (next : σ → ε → σ) (ok : σ → ε → Prop)

def Permitted : σ → List ε → Prop
  | _, [] => True
  | state, event :: events => ok state event ∧ Permitted (next state event) events

instance Permitted.decidable [∀ state event, Decidable (ok state event)] :
    (state : σ) → (events : List ε) → Decidable (Permitted next ok state events)
  | _, [] => isTrue trivial
  | state, event :: events =>
    @instDecidableAnd _ _ _ (Permitted.decidable (next state event) events)

theorem Permitted.invariant {next : σ → ε → σ} {ok : σ → ε → Prop} {invariant : σ → Prop}
    (step : ∀ state event, ok state event → invariant state → invariant (next state event))
    {state : σ} {events : List ε} (permitted : Permitted next ok state events)
    (before : invariant state) : invariant (events.foldl next state) := by
  induction events generalizing state with
  | nil => exact before
  | cons event events ih => exact ih permitted.2 (step state event permitted.1 before)

end TridentPos.Library.Runs
