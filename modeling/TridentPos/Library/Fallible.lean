import Mathlib.Data.List.Forall2

/-!
# Fallible computations

How a result of a composed fallible computation comes apart into the results of its parts.
-/
namespace TridentPos.Library.Fallible

variable {ε α β : Type}

theorem bind_eq_ok {action : Except ε α} {next : α → Except ε β} {result : β} :
    (action >>= next) = .ok result ↔ ∃ value, action = .ok value ∧ next value = .ok result := by
  cases action with
  | error e | ok value => simp [bind, Except.bind]

theorem pure_eq_ok {value result : α} :
    (pure value : Except ε α) = .ok result ↔ value = result := by
  simp [pure, Except.pure]

theorem throw_ne_ok {e : ε} {result : α} : (throw e : Except ε α) ≠ .ok result := by
  simp [throw, throwThe, MonadExceptOf.throw]

theorem guard_eq_ok {c : Prop} [Decidable c] {e : ε} {next : α → Except ε β} {rest : Except ε β}
    {result : β} :
    (if c then (throw e : Except ε α) >>= next else rest) = .ok result ↔ ¬c ∧ rest = .ok result := by
  by_cases holds : c <;> simp [holds, throw, throwThe, MonadExceptOf.throw, bind, Except.bind]

theorem refused_eq_ok {c : Prop} [Decidable c] {e : ε} {rest : Except ε α} {result : α} :
    (if c then .error e else rest) = .ok result ↔ ¬c ∧ rest = .ok result := by
  by_cases holds : c <;> simp [holds]

theorem thrown_eq_ok {c : Prop} [Decidable c] {e : ε} {rest : Except ε α} {result : α} :
    (if c then throw e else rest) = .ok result ↔ ¬c ∧ rest = .ok result :=
  refused_eq_ok

theorem mapError_eq_ok {δ : Type} (action : Except ε α) (wrap : ε → δ) (result : α) :
    action.mapError wrap = .ok result ↔ action = .ok result := by
  cases action <;> simp [Except.mapError]

@[simp] theorem ok_bind (value : α) (next : α → Except ε β) :
    (Except.ok value >>= next) = next value := rfl

@[simp] theorem error_bind (e : ε) (next : α → Except ε β) :
    ((Except.error e : Except ε α) >>= next) = .error e := rfl

theorem mapM_eq_ok (f : α → Except ε β) (xs : List α) (ys : List β) (mapped : xs.mapM f = .ok ys) :
    List.Forall₂ (fun x y => f x = .ok y) xs ys := by
  induction xs generalizing ys with
  | nil =>
    obtain rfl := pure_eq_ok.mp mapped
    exact .nil
  | cons x xs ih =>
    simp only [List.mapM_cons, bind_eq_ok, pure_eq_ok] at mapped
    obtain ⟨y, first, rest, others, rfl⟩ := mapped
    exact .cons first (ih rest others)

def IfOk (p : α → Prop) : Except ε α → Prop
  | .ok value => p value
  | .error _ => True

instance (p : α → Prop) [DecidablePred p] : (result : Except ε α) → Decidable (IfOk p result)
  | .ok value => inferInstanceAs (Decidable (p value))
  | .error _ => isTrue trivial

theorem ifOk_iff {p : α → Prop} {result : Except ε α} :
    IfOk p result ↔ ∀ value, result = .ok value → p value := by
  cases result with
  | error e | ok value => simp [IfOk]

theorem exists_of_isOk {result : Except ε α} (accepted : result.isOk) :
    ∃ value, result = .ok value := by
  cases result with
  | ok value => exact ⟨value, rfl⟩
  | error e => simp [Except.isOk, Except.toBool] at accepted

def stateAfter {ε α σ : Type} (state : σ) : Except ε (α × σ) → σ
  | .ok (_, state') => state'
  | .error _ => state

theorem eq_ok_stateAfter {ε α σ : Type} (state : σ) (result : Except ε (α × σ))
    (accepted : result.isOk) : ∃ value, result = .ok (value, stateAfter state result) := by
  obtain ⟨pair, rfl⟩ := exists_of_isOk accepted
  exact ⟨pair.1, rfl⟩

end TridentPos.Library.Fallible
