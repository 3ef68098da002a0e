import TridentPos.Library.Runs

/-!
# Optimistic mutations of the backoffice

`executeOptimisticMutation` of the API client shows a mutation at once and, when the response is
not ok, puts back the state its call has started from. The calls overlap in time: each starts from
the cell it finds, and writes that cell.
-/
namespace TridentPos.Backoffice

open Library.Runs

structure ApiError where
  (code message : String)

structure ApiResponse (τ : Type) where
  ok : Bool
  data : Option τ
  error : Option ApiError

/-- How a call ended. A remote call that rejects ends it without a rollback. -/
inductive Progress where
  | waiting
  | succeeded
  | rolledBack
  | thrown
  deriving DecidableEq

structure OptimisticCall (σ : Type) where
  previousState : σ
  applyOptimistic : σ → σ
  progress : Progress

structure Screen (σ : Type) where
  cell : σ
  calls : List (OptimisticCall σ)

/-- A call starts, or the remote call of one of them ends: of the one that `since` others have
started after. Without a response it has rejected. -/
inductive ScreenEvent (σ τ : Type) where
  | start (applyOptimistic : σ → σ)
  | ends (since : Nat) (response : Option (ApiResponse τ))

variable {σ τ : Type}

/-- `executeOptimisticMutation` up to the remote call. -/
def Screen.start (screen : Screen σ) (applyOptimistic : σ → σ) : Screen σ :=
  { cell := applyOptimistic screen.cell
    calls := ⟨screen.cell, applyOptimistic, .waiting⟩ :: screen.calls }

/-- The rest of the call: the state shown after it, how it ended, and the error it reports. -/
def OptimisticCall.finish (call : OptimisticCall σ) (cell : σ) :
    Option (ApiResponse τ) → σ × Progress × Option ApiError
  | none => (cell, .thrown, none)
  | some result =>
    if !result.ok then (call.previousState, .rolledBack, result.error)
    else (cell, .succeeded, none)

def Screen.next (screen : Screen σ) : ScreenEvent σ τ → Screen σ
  | .start applyOptimistic => screen.start applyOptimistic
  | .ends since response =>
    match screen.calls[since]? with
    | some call =>
      if call.progress = .waiting then
        let (cell, progress, _) := call.finish screen.cell response
        ⟨cell, screen.calls.set since { call with progress := progress }⟩
      else screen
    | none => screen

def successes (initial : σ) (calls : List (OptimisticCall σ)) : σ :=
  calls.foldr (fun call state => if call.progress = .succeeded then call.applyOptimistic state
    else state) initial

/-- Two equal mutations overlap; the rollback of the first takes the second away. -/
theorem rollback_loses_success :
    let screen := [ScreenEvent.start (· + 1), .start (· + 1), .ends 1 (some ⟨false, none, none⟩),
      .ends 0 (some ⟨true, some (), none⟩)].foldl Screen.next ⟨0, []⟩
    (∀ call ∈ screen.calls, call.progress ≠ .waiting) ∧ screen.cell = 0 ∧
      successes 0 screen.calls = 1 := by
  decide

/-! ### Rollbacks from the latest call on -/

def LastFails (screen : Screen σ) : ScreenEvent σ τ → Prop
  | .start _ => True
  | .ends since response => ∃ result, response = some result ∧
      (result.ok = false → ∀ call ∈ screen.calls.take since, call.progress = .rolledBack)

def standing (initial : σ) : List (OptimisticCall σ) → σ
  | [] => initial
  | call :: earlier =>
    if call.progress = .rolledBack then standing initial earlier
    else call.applyOptimistic (standing initial earlier)

def Restores (initial : σ) : List (OptimisticCall σ) → Prop
  | [] => True
  | call :: earlier => call.progress ≠ .thrown ∧
      (call.progress ≠ .rolledBack → call.previousState = standing initial earlier) ∧
      Restores initial earlier

variable {initial : σ} {calls : List (OptimisticCall σ)} {since : Nat} {call : OptimisticCall σ}

theorem Restores.succeed (restores : Restores initial calls) (found : calls[since]? = some call)
    (waits : call.progress = .waiting) :
    standing initial (calls.set since { call with progress := .succeeded }) =
        standing initial calls ∧
      Restores initial (calls.set since { call with progress := .succeeded }) := by
  induction calls generalizing since with
  | nil => simp at found
  | cons latest earlier ih =>
    obtain ⟨responded, snapshot, rest⟩ := restores
    cases since with
    | zero =>
      obtain rfl : latest = call := by simpa using found
      exact ⟨by simp [standing, waits], by simp, fun _ => snapshot (by simp [waits]), rest⟩
    | succ since =>
      obtain ⟨same, kept⟩ := ih rest (by simpa using found)
      exact ⟨by simp [standing, same], responded, fun stands => by simp [snapshot stands, same], kept⟩

theorem Restores.fail (restores : Restores initial calls) (found : calls[since]? = some call)
    (waits : call.progress = .waiting)
    (latest : ∀ later ∈ calls.take since, later.progress = .rolledBack) :
    standing initial (calls.set since { call with progress := .rolledBack }) =
        call.previousState ∧
      Restores initial (calls.set since { call with progress := .rolledBack }) := by
  induction calls generalizing since with
  | nil => simp at found
  | cons head earlier ih =>
    obtain ⟨responded, snapshot, rest⟩ := restores
    cases since with
    | zero =>
      obtain rfl : head = call := by simpa using found
      exact ⟨by simp [standing, snapshot (by simp [waits])], by simp, by simp, rest⟩
    | succ since =>
      have gone : head.progress = .rolledBack := latest head (by simp)
      obtain ⟨restored, kept⟩ := ih rest (by simpa using found) fun later member =>
        latest later (by simp [member])
      exact ⟨by simp [standing, gone, restored], responded, fun stands => absurd gone stands, kept⟩

theorem standing_eq_successes (restores : Restores initial calls)
    (finished : ∀ call ∈ calls, call.progress ≠ .waiting) :
    standing initial calls = successes initial calls := by
  induction calls with
  | nil => rfl
  | cons call earlier ih =>
    have rest := ih restores.2.2 fun call member => finished call (by simp [member])
    have ended := finished call (by simp)
    have responded := restores.1
    unfold standing
    rw [rest]
    cases progress : call.progress <;> simp_all [successes]

def Screen.Restorable (initial : σ) (screen : Screen σ) : Prop :=
  screen.cell = standing initial screen.calls ∧ Restores initial screen.calls

theorem Screen.Restorable.next {screen : Screen σ} {event : ScreenEvent σ τ}
    (allowed : LastFails screen event) (restorable : screen.Restorable initial) :
    (screen.next event).Restorable initial := by
  obtain ⟨shown, restores⟩ := restorable
  cases event with
  | start applyOptimistic =>
    exact ⟨by simp [Screen.next, Screen.start, standing, shown], by simp, fun _ => shown, restores⟩
  | ends since response =>
    obtain ⟨result, rfl, latest⟩ := allowed
    simp only [Screen.next]
    split
    next call found =>
      split
      next waits =>
        cases answer : result.ok with
        | true =>
          obtain ⟨same, kept⟩ := restores.succeed found waits
          simpa [OptimisticCall.finish, answer, Restorable, same] using ⟨shown, kept⟩
        | false =>
          obtain ⟨restored, kept⟩ := restores.fail found waits (latest answer)
          simpa [OptimisticCall.finish, answer, Restorable, restored] using kept
      next => exact ⟨shown, restores⟩
    next => exact ⟨shown, restores⟩

/-- Once all calls have ended the cell holds the mutations of the successful ones and no others,
in every run in which only the latest call that stands fails. -/
theorem cell_eq_successes (initial : σ) (events : List (ScreenEvent σ τ))
    (permitted : Permitted Screen.next LastFails ⟨initial, []⟩ events)
    (finished : ∀ call ∈ (events.foldl Screen.next ⟨initial, []⟩).calls,
      call.progress ≠ .waiting) :
    (events.foldl Screen.next ⟨initial, []⟩).cell =
      successes initial (events.foldl Screen.next ⟨initial, []⟩).calls := by
  obtain ⟨shown, restores⟩ : Screen.Restorable initial _ :=
    permitted.invariant (fun _ _ => Screen.Restorable.next) ⟨rfl, trivial⟩
  rw [shown, standing_eq_successes restores finished]

theorem cell_eq_successes_nested :
    ([ScreenEvent.start (· + 1), .start (· + 10), .ends 0 (some ⟨false, none, none⟩),
      .ends 1 (some ⟨true, some (), none⟩)].foldl Screen.next ⟨0, []⟩).cell = 1 :=
  cell_eq_successes 0 _
    ⟨trivial, trivial, ⟨_, rfl, by decide⟩, ⟨_, rfl, by decide⟩, trivial⟩ (by decide)

end TridentPos.Backoffice
