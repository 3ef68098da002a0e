import Mathlib.Logic.Relation
import Mathlib.Algebra.Ring.Nat
import Mathlib.Logic.Function.Iterate
import Mathlib.Data.List.Basic

/-!
# Interleaved calls over a shared state

A pool of calls that suspend between their steps. One step of the pool is a step of one call,
whichever, or a change of the shared state by somebody else. An invariant of the pool has a
part about the shared state and a part about each call with the state it has seen; the second
must survive the steps of the other calls.
-/
namespace TridentPos.Library.Interleaving

open List

variable {σ τ : Type}

structure Pool (σ τ : Type) where
  shared : σ
  calls : List τ

/-- `call` takes one call from one suspension to the next; `others` is what the surroundings
may do to the shared state meanwhile. -/
inductive Step (call : σ → τ → σ → τ → Prop) (others : σ → σ → Prop) :
    Pool σ τ → Pool σ τ → Prop
  | call (s s' : σ) (t t' : τ) (before after : List τ) (moved : call s t s' t') :
      Step call others ⟨s, before ++ t :: after⟩ ⟨s', before ++ t' :: after⟩
  | others (s s' : σ) (calls : List τ) (moved : others s s') :
      Step call others ⟨s, calls⟩ ⟨s', calls⟩

abbrev Reachable (call : σ → τ → σ → τ → Prop) (others : σ → σ → Prop) :
    Pool σ τ → Pool σ τ → Prop :=
  Relation.ReflTransGen (Step call others)

inductive PermittedStep (call : σ → τ → σ → τ → Prop) (others : σ → σ → Prop)
    (permits : σ → τ → τ → Prop) : Pool σ τ → Pool σ τ → Prop
  | call (s s' : σ) (t t' : τ) (before after : List τ) (moved : call s t s' t')
      (permitted : ∀ u ∈ before ++ after, permits s t u) :
      PermittedStep call others permits ⟨s, before ++ t :: after⟩ ⟨s', before ++ t' :: after⟩
  | others (s s' : σ) (calls : List τ) (moved : others s s') :
      PermittedStep call others permits ⟨s, calls⟩ ⟨s', calls⟩

abbrev PermittedReachable (call : σ → τ → σ → τ → Prop) (others : σ → σ → Prop)
    (permits : σ → τ → τ → Prop) : Pool σ τ → Pool σ τ → Prop :=
  Relation.ReflTransGen (PermittedStep call others permits)

variable {call : σ → τ → σ → τ → Prop} {others : σ → σ → Prop}

theorem Step.permitted (pool pool' : Pool σ τ) (step : Step call others pool pool') :
    PermittedStep call others (fun _ _ _ => True) pool pool' := by
  cases step with
  | call s s' t t' before after moved =>
    exact .call s s' t t' before after moved fun _ _ => trivial
  | others s s' calls moved => exact .others s s' calls moved

variable {permits : σ → τ → τ → Prop}

theorem PermittedStep.step (pool pool' : Pool σ τ)
    (permitted : PermittedStep call others permits pool pool') : Step call others pool pool' := by
  cases permitted with
  | call s s' t t' before after moved _ => exact .call s s' t t' before after moved
  | others s s' calls moved => exact .others s s' calls moved

theorem pairwise_replace {apart : τ → τ → Prop} {before after : List τ} (t t' : τ)
    (symmetric : ∀ {t u}, apart t u → apart u t) (pairwise : (before ++ t :: after).Pairwise apart)
    (keeps : ∀ u ∈ before ++ after, apart t u → apart t' u) :
    (∀ u ∈ before ++ after, apart t u) ∧ (before ++ t' :: after).Pairwise apart := by
  obtain ⟨earlier, later, across⟩ := pairwise_append.mp pairwise
  obtain ⟨head, rest⟩ := pairwise_cons.mp later
  have apartFrom : ∀ u ∈ before ++ after, apart t u := by
    intro u member
    rcases mem_append.mp member with first | last
    · exact symmetric (across u first t mem_cons_self)
    · exact head u last
  have stillApart : ∀ u ∈ before ++ after, apart t' u := fun u member =>
    keeps u member (apartFrom u member)
  refine ⟨apartFrom, pairwise_append.mpr ⟨earlier, pairwise_cons.mpr ⟨?_, rest⟩, ?_⟩⟩
  · exact fun u last => stillApart u (mem_append_right _ last)
  · rintro u first w member
    rcases mem_cons.mp member with rfl | last
    · exact symmetric (stillApart u (mem_append_left _ first))
    · exact across u first w (mem_cons_of_mem _ last)

/-- A symmetric relation between any two calls that steps keep holds along a run, and every step
may use it. -/
theorem PermittedReachable.apart (apart : τ → τ → Prop) (pool pool' : Pool σ τ)
    (symmetric : ∀ {t u}, apart t u → apart u t) (start : pool.calls.Pairwise apart)
    (run : PermittedReachable call others permits pool pool')
    (keeps : ∀ {s t s' t' u}, permits s t u → apart t u → call s t s' t' → apart t' u) :
    PermittedReachable call others (fun s t u => permits s t u ∧ apart t u) pool pool' ∧
      pool'.calls.Pairwise apart := by
  induction run with
  | refl => exact ⟨.refl, start⟩
  | tail _ step ih =>
    obtain ⟨reached, pairwise⟩ := ih
    cases step with
    | call s s' t t' before after moved permitted =>
      obtain ⟨apartFrom, pairwise'⟩ := pairwise_replace t t' symmetric pairwise
        fun u member separate => keeps (permitted u member) separate moved
      exact ⟨reached.tail (.call s s' t t' before after moved fun u member =>
        ⟨permitted u member, apartFrom u member⟩), pairwise'⟩
    | others s s' calls moved => exact ⟨reached.tail (.others s s' calls moved), pairwise⟩

/-- The first `n` states satisfy `ok`, checked one after the other. -/
def Along {α : Type} (next : α → α) (ok : α → Prop) : Nat → α → Prop
  | 0, _ => True
  | n + 1, a => ok a ∧ Along next ok n (next a)

instance Along.decidable {α : Type} (next : α → α) (ok : α → Prop) [DecidablePred ok] :
    (n : Nat) → (a : α) → Decidable (Along next ok n a)
  | 0, _ => isTrue trivial
  | n + 1, a => @instDecidableAnd _ _ _ (Along.decidable next ok n (next a))

theorem Along.iterate {α : Type} (next : α → α) (ok : α → Prop) (n : Nat) (a : α)
    (along : Along next ok n a) : ∀ k < n, ok (next^[k] a) := by
  induction n generalizing a with
  | zero => exact fun k lt => absurd lt k.not_lt_zero
  | succ n ih =>
    rintro (_ | k) lt
    · exact along.1
    · exact ih (next a) along.2 k (by omega)

section Alone

variable (others) (permits) (next : σ × τ → σ × τ) (before after : List τ) {n : Nat} {s : σ} {t : τ}
  {final : σ × τ} (ends : next^[n] (s, t) = final)
  (moves : ∀ k < n, call (next^[k] (s, t)).1 (next^[k] (s, t)).2
    (next (next^[k] (s, t))).1 (next (next^[k] (s, t))).2)

include ends moves

theorem PermittedReachable.iterate
    (permitted : ∀ k < n, ∀ u ∈ before ++ after,
      permits (next^[k] (s, t)).1 (next^[k] (s, t)).2 u) :
    PermittedReachable call others permits ⟨s, before ++ t :: after⟩
      ⟨final.1, before ++ final.2 :: after⟩ := by
  subst ends
  induction n with
  | zero => exact .refl
  | succ n ih =>
    refine .tail (ih (fun k lt => moves k (by omega)) (fun k lt => permitted k (by omega))) ?_
    rw [Function.iterate_succ_apply']
    exact .call _ _ _ _ before after (moves n (by omega)) (permitted n (by omega))

theorem Reachable.iterate :
    Reachable call others ⟨s, before ++ t :: after⟩ ⟨final.1, before ++ final.2 :: after⟩ :=
  Relation.ReflTransGen.mono PermittedStep.step _ _
    (PermittedReachable.iterate others (fun _ _ _ => True) next before after ends moves
      fun _ _ _ _ => trivial)

end Alone

/-- The shared state satisfies `shared`, and every call is in step with it. -/
def Holds (shared : σ → Prop) (own : σ → τ → Prop) (pool : Pool σ τ) : Prop :=
  shared pool.shared ∧ ∀ t ∈ pool.calls, own pool.shared t

section Invariant

variable (shared : σ → Prop) (own : σ → τ → Prop)

section Permitted

variable {pool pool' : Pool σ τ}
  (keeps : ∀ {s t s' t'}, shared s → own s t → call s t s' t' → shared s' ∧ own s' t')
  (stable : ∀ {s t s' t' u}, shared s → own s t → own s u → permits s t u → call s t s' t' → own s' u)
  (othersKeep : ∀ {s s'}, shared s → others s s' → shared s')
  (othersStable : ∀ {s s' t}, shared s → own s t → others s s' → own s' t)

include keeps stable othersKeep othersStable

/-- A call keeps the invariant when its step keeps both parts for itself and the second part
for every other call, which may use that this call permits the step. -/
theorem Holds.permittedStep (holds : Holds shared own pool)
    (step : PermittedStep call others permits pool pool') : Holds shared own pool' := by
  obtain ⟨global, each⟩ := holds
  cases step with
  | call s s' t t' before after moved permitted =>
    have owned : own s t := each t (by simp)
    obtain ⟨global', owned'⟩ := keeps global owned moved
    refine ⟨global', fun u member => ?_⟩
    rcases mem_append.mp member with earlier | later
    · exact stable global owned (each u (mem_append_left _ earlier))
        (permitted u (mem_append_left _ earlier)) moved
    · rcases mem_cons.mp later with rfl | rest
      · exact owned'
      · exact stable global owned (each u (mem_append_right _ (mem_cons_of_mem _ rest)))
          (permitted u (mem_append_right _ rest)) moved
  | others s s' calls moved =>
    exact ⟨othersKeep global moved, fun t member => othersStable global (each t member) moved⟩

theorem Holds.permittedReachable (start : Holds shared own pool)
    (run : PermittedReachable call others permits pool pool') : Holds shared own pool' := by
  induction run with
  | refl => exact start
  | tail _ step ih =>
    exact Holds.permittedStep shared own keeps stable othersKeep othersStable ih step

end Permitted

variable {pool pool' : Pool σ τ}

theorem Holds.reachable
    (keeps : ∀ {s t s' t'}, shared s → own s t → call s t s' t' → shared s' ∧ own s' t')
    (stable : ∀ {s t s' t' u}, shared s → own s t → own s u → call s t s' t' → own s' u)
    (othersKeep : ∀ {s s'}, shared s → others s s' → shared s')
    (othersStable : ∀ {s s' t}, shared s → own s t → others s s' → own s' t)
    (start : Holds shared own pool) (run : Reachable call others pool pool') :
    Holds shared own pool' :=
  Holds.permittedReachable shared own keeps
    (fun global owned ownedToo _ moved => stable global owned ownedToo moved)
    othersKeep othersStable start (Relation.ReflTransGen.mono Step.permitted _ _ run)

/-- An invariant with a third part, a symmetric relation between any two calls, which a step may
use and has to keep. -/
theorem Holds.apartReachable {apart : τ → τ → Prop} (symmetric : ∀ {t u}, apart t u → apart u t)
    (keeps : ∀ {s t s' t'}, shared s → own s t → call s t s' t' → shared s' ∧ own s' t')
    (stable : ∀ {s t s' t' u}, shared s → own s t → own s u → apart t u → call s t s' t' →
      own s' u ∧ apart t' u) (othersKeep : ∀ {s s'}, shared s → others s s' → shared s')
    (othersStable : ∀ {s s' t}, shared s → own s t → others s s' → own s' t)
    (start : Holds shared own pool) (separate : pool.calls.Pairwise apart)
    (run : Reachable call others pool pool') :
    Holds shared own pool' ∧ pool'.calls.Pairwise apart := by
  induction run with
  | refl => exact ⟨start, separate⟩
  | tail _ step ih =>
    obtain ⟨holds, pairwise⟩ := ih
    cases step with
    | call s s' t t' before after moved =>
      have owned : own s t := holds.2 t (by simp)
      have ownedToo : ∀ u ∈ before ++ after, own s u := fun u member => holds.2 u (by
        rcases mem_append.mp member with first | last
        · exact mem_append_left _ first
        · exact mem_append_right _ (mem_cons_of_mem _ last))
      obtain ⟨apartFrom, pairwise'⟩ := pairwise_replace t t' symmetric pairwise
        fun u member between => (stable holds.1 owned (ownedToo u member) between moved).2
      have permitted : PermittedStep call others (fun _ t u => apart t u) _ _ :=
        .call s s' t t' before after moved apartFrom
      exact ⟨Holds.permittedStep shared own keeps
        (fun global owned ownedToo between moved =>
          (stable global owned ownedToo between moved).1)
        othersKeep othersStable holds permitted, pairwise'⟩
    | others s s' calls moved =>
      exact ⟨⟨othersKeep holds.1 moved,
        fun t member => othersStable holds.1 (holds.2 t member) moved⟩, pairwise⟩

end Invariant

def Balanced (stored total : σ → Nat) (owed : τ → Nat) (pool : Pool σ τ) : Prop :=
  stored pool.shared + (pool.calls.map owed).sum = total pool.shared

theorem Balanced.reachable {shared : σ → Prop} {stored total : σ → Nat} {owed : τ → Nat}
    {pool pool' : Pool σ τ}
    (keeps : ∀ {s t s' t'}, shared s → call s t s' t' →
      shared s' ∧ stored s' + owed t' + total s = stored s + owed t + total s')
    (othersKeep : ∀ {s s'}, shared s → others s s' →
      shared s' ∧ stored s' + total s = stored s + total s') (holds : shared pool.shared)
    (start : Balanced stored total owed pool) (run : Reachable call others pool pool') :
    shared pool'.shared ∧ Balanced stored total owed pool' := by
  induction run with
  | refl => exact ⟨holds, start⟩
  | tail _ step ih =>
    obtain ⟨before, balance⟩ := ih
    cases step with
    | call s s' t t' earlier later moved =>
      obtain ⟨after, change⟩ := keeps (s := s) before moved
      refine ⟨after, ?_⟩
      simp only [Balanced, map_append, map_cons, sum_append,
        sum_cons] at balance ⊢
      omega
    | others s s' calls moved =>
      obtain ⟨after, change⟩ := othersKeep (s := s) before moved
      refine ⟨after, ?_⟩
      simp only [Balanced] at balance ⊢
      omega

end TridentPos.Library.Interleaving
