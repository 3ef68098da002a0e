import TridentPos.Library.Runs
import Mathlib.Data.List.Perm.Basic

/-!
# The write serializer of the edge database

`WriteSerializer` of `write-serializer.ts`. What runs between two awaits is one event: a call of
`serialize` up to the start of the task it may start, the end of a task up to the start of the
next one, and a call of `clear`.
-/
namespace TridentPos.Edge

open Library Runs List

/-- What settles a promise: its task, `clear`, or `serialize` itself. -/
inductive Settlement (ε α : Type) where
  | outcome (result : Except ε α)
  | cleared (message : String)
  | refused (message : String)

/-- The calls of `serialize` are numbered, and the number stands for the task and the promise of
the call. Each drain loop awaits one of the `running` tasks. -/
structure WriteSerializer (ε α : Type) where
  queue : List ℕ := []
  isProcessing : Bool := false
  running : List ℕ := []
  calls : ℕ := 0
  started : List ℕ := []
  settled : List (ℕ × Settlement ε α) := []

inductive SerializerEvent where
  | serialize (isFunction : Bool)
  | complete (item : ℕ)
  | clear

namespace WriteSerializer

variable {ε α : Type} (maxQueueDepth : ℕ) (outcome : ℕ → Except ε α)
  (serializer : WriteSerializer ε α)

/-- The loop of `drain`, from its test to the next `await`. -/
def drainLoop : WriteSerializer ε α :=
  match serializer.queue with
  | [] => { serializer with isProcessing := false }
  | item :: queue =>
    { serializer with
      queue
      running := item :: serializer.running, started := serializer.started ++ [item] }

def drain : WriteSerializer ε α :=
  if serializer.isProcessing ∨ serializer.queue.length = 0 then serializer
  else drainLoop { serializer with isProcessing := true }

def refuse (message : String) : WriteSerializer ε α :=
  { serializer with
    calls := serializer.calls + 1
    settled := serializer.settled ++ [(serializer.calls, .refused message)] }

def serialize (isFunction : Bool) : WriteSerializer ε α :=
  if !isFunction then serializer.refuse "Serialized write operation must be a function"
  else if serializer.queue.length ≥ maxQueueDepth then
    serializer.refuse ("Write serializer queue depth exceeded maximum capacity of " ++
      toString maxQueueDepth)
  else
    drain { serializer with
      calls := serializer.calls + 1, queue := serializer.queue ++ [serializer.calls] }

/-- A task ends, in success or not: its promise is settled, and its loop goes on. -/
def complete (item : ℕ) : WriteSerializer ε α :=
  drainLoop { serializer with
    running := serializer.running.erase item
    settled := serializer.settled ++ [(item, .outcome (outcome item))] }

def clear : WriteSerializer ε α :=
  { serializer with
    queue := [], isProcessing := false
    settled := serializer.settled ++ serializer.queue.map fun item =>
      (item, .cleared "Write serializer cleared: pending operations aborted") }

def next : SerializerEvent → WriteSerializer ε α
  | .serialize isFunction => serializer.serialize maxQueueDepth isFunction
  | .complete item => serializer.complete outcome item
  | .clear => serializer.clear

def Enabled : SerializerEvent → Prop
  | .complete item => item ∈ serializer.running
  | _ => True

/-- `clear` is called only while `isBusy` answers no. -/
def Calm : SerializerEvent → Prop
  | .clear => serializer.isProcessing = false
  | _ => True

instance (event : SerializerEvent) : Decidable (serializer.Enabled event) := by
  cases event <;> unfold Enabled <;> infer_instance

instance (event : SerializerEvent) : Decidable (serializer.Calm event) := by
  cases event <;> unfold Calm <;> infer_instance

/-! ### Numbers -/

def promises : List ℕ := serializer.settled.map Prod.fst ++ serializer.running ++ serializer.queue

def Honest (entry : ℕ × Settlement ε α) : Prop :=
  entry.2 = .outcome (outcome entry.1) ∨
    entry.1 ∉ serializer.started ∧ ∃ message, entry.2 = .cleared message ∨ entry.2 = .refused message

structure Tracked : Prop where
  distinct : serializer.promises.Nodup
  promised : ∀ id ∈ serializer.promises, id < serializer.calls
  ordered : (serializer.started ++ serializer.queue).Pairwise (· < ·)
  issued : ∀ id ∈ serializer.started ++ serializer.queue, id < serializer.calls
  honest : ∀ entry ∈ serializer.settled, serializer.Honest outcome entry

variable {maxQueueDepth} {outcome} {serializer}

theorem Tracked.moved {after : WriteSerializer ε α} (before : serializer.Tracked outcome)
    (same : after.promises.Perm serializer.promises) (calls : after.calls = serializer.calls)
    (line : (after.started ++ after.queue).Sublist (serializer.started ++ serializer.queue))
    (honest : ∀ entry ∈ after.settled, after.Honest outcome entry) : after.Tracked outcome where
  distinct := same.nodup_iff.mpr before.distinct
  promised id member := calls ▸ before.promised id (same.mem_iff.mp member)
  ordered := before.ordered.sublist line
  issued id member := calls ▸ before.issued id (line.subset member)
  honest := honest

theorem drainLoop_tracked (before : serializer.Tracked outcome) :
    (drainLoop serializer).Tracked outcome := by
  unfold drainLoop
  split
  next empty => exact before.moved (.refl _) rfl (.refl _) before.honest
  next item queue waiting =>
    refine before.moved ?_ rfl (by simp [waiting]) ?_
    · simp only [promises, waiting]
      exact perm_iff_count.mpr fun id => by simp [count_cons]; omega
    · intro entry member
      refine (before.honest entry member).imp id (And.imp_left fun fresh => ?_)
      -- The promise of a waiting task is not settled yet.
      have apart := (nodup_append.mp before.distinct).2.2
      have settled : entry.1 ∈ serializer.settled.map Prod.fst ++ serializer.running :=
        mem_append_left _ (mem_map_of_mem member)
      simp only [mem_append, mem_singleton, not_or]
      exact ⟨fresh, apart _ settled item (waiting ▸ mem_cons_self)⟩

theorem Tracked.issue {after : WriteSerializer ε α} (before : serializer.Tracked outcome)
    (new : after.promises.Perm (serializer.calls :: serializer.promises))
    (calls : after.calls = serializer.calls + 1) (started : after.started = serializer.started)
    (line : after.queue = serializer.queue ∨ after.queue = serializer.queue ++ [serializer.calls])
    (honest : ∀ entry ∈ after.settled, after.Honest outcome entry) : after.Tracked outcome where
  distinct := by
    refine new.nodup_iff.mpr (nodup_cons.mpr ⟨?_, before.distinct⟩)
    exact fun member => Nat.lt_irrefl _ (before.promised _ member)
  promised id member := by
    rcases mem_cons.mp (new.mem_iff.mp member) with rfl | member
    · omega
    · have := before.promised id member
      omega
  ordered := by
    rcases line with line | line
    · rw [started, line]
      exact before.ordered
    · rw [started, line, ← append_assoc]
      exact pairwise_append.mpr ⟨before.ordered, pairwise_singleton _ _,
        fun id member _ last => mem_singleton.mp last ▸ before.issued id member⟩
  issued id member := by
    rcases line with line | line <;> rw [started, line] at member
    · have := before.issued id member
      omega
    · rw [← append_assoc, mem_append, mem_singleton] at member
      rcases member with member | rfl
      · have := before.issued id member
        omega
      · omega
  honest := honest

theorem serialize_tracked (isFunction : Bool) (before : serializer.Tracked outcome) :
    (serializer.serialize maxQueueDepth isFunction).Tracked outcome := by
  have refused (message : String) : (serializer.refuse message).Tracked outcome := by
    refine before.issue ?_ rfl rfl (.inl rfl) ?_
    · simp only [promises, refuse]
      exact perm_iff_count.mpr fun id => by simp [count_cons]; omega
    · intro entry member
      rcases mem_append.mp member with member | member
      · exact before.honest entry member
      · rw [mem_singleton.mp member]
        refine .inr ⟨fun member => ?_, message, .inr rfl⟩
        exact Nat.lt_irrefl _ (before.issued _ (mem_append_left _ member))
  unfold serialize
  split
  next => exact refused _
  split
  next => exact refused _
  next =>
    have queued : Tracked outcome { serializer with
        calls := serializer.calls + 1, queue := serializer.queue ++ [serializer.calls] } := by
      refine before.issue ?_ rfl rfl (.inr rfl) before.honest
      simp only [promises]
      exact perm_iff_count.mpr fun id => by simp [count_cons]; omega
    unfold drain
    split
    next => exact queued
    next => exact drainLoop_tracked (queued.moved (.refl _) rfl (.refl _) queued.honest)

theorem complete_tracked {item : ℕ} (runs : item ∈ serializer.running)
    (before : serializer.Tracked outcome) : (serializer.complete outcome item).Tracked outcome := by
  refine drainLoop_tracked (before.moved ?_ rfl (.refl _) ?_)
  · have := perm_iff_count.mp (perm_cons_erase runs)
    simp only [promises]
    exact perm_iff_count.mpr fun id => by simp [this id, count_cons]; omega
  · intro entry member
    rcases mem_append.mp member with member | member
    · exact before.honest entry member
    · rw [mem_singleton.mp member]
      exact .inl rfl

theorem clear_tracked (before : serializer.Tracked outcome) : serializer.clear.Tracked outcome := by
  refine before.moved ?_ rfl (by simp [clear]) ?_
  · simp only [promises, clear]
    exact perm_iff_count.mpr fun id => by simp [Function.comp_def]; omega
  · intro entry member
    rcases mem_append.mp member with member | member
    · exact before.honest entry member
    · obtain ⟨item, waits, rfl⟩ := mem_map.mp member
      refine .inr ⟨fun started => ?_, _, .inl rfl⟩
      have := (pairwise_append.mp before.ordered).2.2 item started item waits
      omega

theorem next_tracked (serializer : WriteSerializer ε α) (event : SerializerEvent)
    (enabled : serializer.Enabled event) (before : serializer.Tracked outcome) :
    (serializer.next maxQueueDepth outcome event).Tracked outcome := by
  cases event with
  | serialize isFunction => exact serialize_tracked isFunction before
  | complete item => exact complete_tracked enabled before
  | clear => exact clear_tracked before

/-! ### One at a time -/

def Exclusive (serializer : WriteSerializer ε α) : Prop :=
  serializer.running.length ≤ if serializer.isProcessing then 1 else 0

theorem drainLoop_exclusive (idle : serializer.running = [])
    (flag : serializer.isProcessing) :
    (drainLoop serializer).Exclusive := by
  unfold drainLoop
  split <;> simp [Exclusive, idle, flag]

theorem next_exclusive (serializer : WriteSerializer ε α) (event : SerializerEvent)
    (permitted : serializer.Enabled event ∧ serializer.Calm event) (before : serializer.Exclusive) :
    (serializer.next maxQueueDepth outcome event).Exclusive := by
  have idle (free : serializer.isProcessing = false) : serializer.running = [] := by
    simpa [Exclusive, free] using before
  cases event with
  | serialize isFunction =>
    simp only [next, serialize, drain]
    split
    next => exact before
    split
    next => exact before
    split
    next => exact before
    next free =>
      refine drainLoop_exclusive (idle ?_) rfl
      simpa using fun flag => free (.inl flag)
  | complete item =>
    have runs : item ∈ serializer.running := permitted.1
    cases flag : serializer.isProcessing with
    | false => simp [idle flag] at runs
    | true =>
      refine drainLoop_exclusive ?_ flag
      -- The task that ends is the only one.
      have one : serializer.running.length ≤ 1 := by simpa [Exclusive, flag] using before
      have := length_erase_of_mem runs
      exact eq_nil_of_length_eq_zero (by simp only [this]; omega)
  | clear => simp [next, clear, Exclusive, idle permitted.2]

end WriteSerializer

open WriteSerializer

/-- In every run tasks start in the order of their calls, and each promise is settled at most once,
by its own task or by an error that its task never starts after. Where `clear` is called only while
`isBusy` answers no, one task runs at a time. -/
theorem serializer_runs_in_order {ε α : Type} (maxQueueDepth : ℕ) (outcome : ℕ → Except ε α)
    (events : List SerializerEvent)
    (possible : Permitted (next maxQueueDepth outcome) Enabled {} events) :
    let serializer := events.foldl (next maxQueueDepth outcome) {}
    serializer.started.Pairwise (· < ·) ∧ (serializer.settled.map Prod.fst).Nodup ∧
    (∀ entry ∈ serializer.settled, serializer.Honest outcome entry) ∧
    (Permitted (next maxQueueDepth outcome) (fun s event => s.Enabled event ∧ s.Calm event) {}
      events → serializer.running.length ≤ 1) := by
  have tracked := possible.invariant next_tracked ⟨.nil, by simp [promises], .nil, by simp, by simp⟩
  refine ⟨(pairwise_append.mp tracked.ordered).1,
    (nodup_append.mp (nodup_append.mp tracked.distinct).1).1, tracked.honest, ?_⟩
  intro calm
  have exclusive := calm.invariant next_exclusive (Nat.zero_le _)
  unfold Exclusive at exclusive
  split at exclusive
  · exact exclusive
  · omega

/-- Two writes, the second queued while the first runs, and `clear` when both have ended. -/
theorem calm_clear_in_order : let events : List SerializerEvent :=
      [.serialize true, .serialize true, .complete 0, .complete 1, .clear]
    (events.foldl (next 1000 fun _ => (.ok () : Except String Unit)) {}).started = [0, 1] ∧
    (events.foldl (next 1000 fun _ => (.ok () : Except String Unit)) {}).running.length ≤ 1 :=
  ⟨by decide, (serializer_runs_in_order 1000 _ _ (by decide)).2.2.2 (by decide)⟩

/-- `clear` while a task runs resets the flag, and the next call starts a second task beside it. -/
theorem clear_starts_second_task :
    Permitted (next 1000 fun _ => (.ok () : Except String Unit)) Enabled {}
      [.serialize true, .clear, .serialize true] ∧
    ([.serialize true, .clear, .serialize true].foldl
      (next 1000 fun _ => (.ok () : Except String Unit)) {}).running = [1, 0] := by
  decide

end TridentPos.Edge
