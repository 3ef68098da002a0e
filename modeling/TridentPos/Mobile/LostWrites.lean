import TridentPos.Mobile.LanClient

/-!
# Staged mutations

A mutation that `executeMutation` acknowledged is one the edge host has accepted, or one that waits
in the queue. Staging keeps that; draining does not, because it empties the queue without a
request.
-/
namespace TridentPos.Mobile

open LanClient List

variable {β δ : Type}

structure ReturnedCall (β δ : Type) where
  call : Nat
  params : MutationParams β
  result : MutationResult δ

/-- A client and what the world has seen of it: the calls that wait for an answer, the requests
the host accepted, and the calls that returned. Calls are numbered in the order they begin. -/
structure Handheld (β δ : Type) where
  client : LanClient β
  calls : Nat
  waiting : List (Nat × MutationParams β)
  accepted : List (Nat × HttpRequest β)
  returned : List (ReturnedCall β δ)

def Handheld.initial : Handheld β δ :=
  { client := { networkState := .online, offlineQueue := [], isProcessingQueue := false }
    calls := 0, waiting := [], accepted := [], returned := [] }

inductive HandheldEvent (β δ : Type) where
  | execute (params : MutationParams β) (mint : QueueMint)
  | settle (call : Nat) (outcome : Outcome δ) (mint : QueueMint)
  | setNetworkState (state : NetworkState)
  | drain

variable (config : LanClientConfig) (s : Handheld β δ) (client : LanClient β)

def Handheld.record (call : Nat) (client : LanClient β) :
    MutationStep β δ → Handheld β δ
  | .returned params result =>
    { s with client := client, returned := s.returned ++ [⟨call, params, result⟩] }
  | .sent params => { s with client := client, waiting := s.waiting ++ [(call, params)] }

def Outcome.accepts : Outcome δ → Bool
  | .lost => false
  | .answered reply => reply.isOk

def Handheld.next : HandheldEvent β δ → Handheld β δ
  | .execute params mint =>
    let (client, step) := s.client.beginMutation params mint
    { s with calls := s.calls + 1 }.record s.calls client step
  | .settle call outcome mint =>
    match s.waiting.find? fun entry => entry.1 == call with
    | none => s
    | some (_, params) =>
      let accepted :=
        if outcome.accepts then s.accepted ++ [(call, requestOf config params)] else s.accepted
      let waiting := s.waiting.filter fun entry => entry.1 != call
      let (client, step) := s.client.finishMutation params outcome mint
      { s with accepted := accepted, waiting := waiting }.record call client step
  | .setNetworkState state => { s with client := s.client.setNetworkState state }
  | .drain => { s with client := s.client.drainOfflineQueue.1 }

/-! ### What must hold -/

def MutationResult.isOk : MutationResult δ → Bool
  | .done _ => true
  | .queued _ => true
  | .conflict _ _ => false
  | .failed _ => false

/-- The host has accepted a request with the endpoint, method, body and version of the call. -/
def ReturnedCall.Accepted (entry : ReturnedCall β δ) : Prop :=
  (entry.call, requestOf config entry.params) ∈ s.accepted

def ReturnedCall.Staged (entry : ReturnedCall β δ) : Prop :=
  ∃ item ∈ s.client.offlineQueue, entry.result = .queued item.id ∧
    item.type = entry.params.mutationType ∧ item.payload = entry.params.body

def Handheld.Kept : Prop :=
  ∀ entry ∈ s.returned, entry.result.isOk → entry.Accepted config s ∨ entry.Staged s

def LeavesAccepted (s' : Handheld β δ) : Prop :=
  ∀ item ∈ s.client.offlineQueue, item ∉ s'.client.offlineQueue →
    ∀ entry ∈ s.returned, entry.result = .queued item.id → entry.Accepted config s

/-- No acknowledged mutation is lost, in any state of the run. -/
def NoLostWrites (config : LanClientConfig) (s : Handheld β δ) : List (HandheldEvent β δ) → Prop
  | [] => s.Kept config
  | event :: events => s.Kept config ∧ LeavesAccepted config s (s.next config event) ∧
      NoLostWrites config (s.next config event) events

def HandheldEvent.Drains : HandheldEvent β δ → Prop
  | .drain => s.client.networkState = .online
  | .setNetworkState state => s.client.networkState ≠ .online ∧ state = .online
  | .execute _ _ => False
  | .settle _ _ _ => False

/-- The queue is only drained when the host has accepted every mutation that was staged. -/
def DrainsWhenAccepted (config : LanClientConfig) (s : Handheld β δ) :
    List (HandheldEvent β δ) → Prop
  | [] => True
  | event :: events =>
    (event.Drains s → ∀ entry ∈ s.returned, ∀ id, entry.result = .queued id →
      entry.Accepted config s) ∧
    DrainsWhenAccepted config (s.next config event) events

/-! ### One event -/

structure HandheldInvariant (config : LanClientConfig) (s : Handheld β δ) : Prop where
  pending : ∀ item ∈ s.client.offlineQueue, item.status = .pending
  idle : s.client.isProcessingQueue = false
  done : ∀ entry ∈ s.returned, ∀ data, entry.result = .done data → entry.Accepted config s

theorem drainOfflineQueue_online (pending : ∀ item ∈ client.offlineQueue, item.status = .pending)
    (idle : client.isProcessingQueue = false) (online : client.networkState = .online) :
    client.drainOfflineQueue.1 = { client with offlineQueue := [] } := by
  have guard : ¬(client.isProcessingQueue ∨ client.networkState ≠ .online) := by
    simp [idle, online]
  have emptied : (client.offlineQueue.map drainItem).filter (fun item => item.status != .processed) =
      [] := by
    rw [filter_eq_nil_iff]
    intro item member
    obtain ⟨before, known, rfl⟩ := mem_map.mp member
    simp [drainItem, pending before known]
  simp only [drainOfflineQueue, if_neg guard, emptied]

theorem drainOfflineQueue_away {client : LanClient β} (away : client.networkState ≠ .online) :
    client.drainOfflineQueue.1 = client := by
  have guard : client.isProcessingQueue ∨ client.networkState ≠ .online := .inr away
  simp only [drainOfflineQueue, if_pos guard]

theorem setNetworkState_cases {client : LanClient β} (state : NetworkState)
    (pending : ∀ item ∈ client.offlineQueue, item.status = .pending)
    (idle : client.isProcessingQueue = false) :
    client.setNetworkState state =
      { client with
        networkState := state
        offlineQueue := if client.networkState ≠ .online ∧ state = .online then []
          else client.offlineQueue } := by
  unfold setNetworkState
  simp only
  split
  next back =>
    obtain ⟨was, rfl⟩ := back
    have away : client.networkState ≠ .online := by
      rcases was with offline | deadZone | connecting
      · simp [offline]
      · simp [deadZone]
      · simp [connecting]
    rw [drainOfflineQueue_online { client with networkState := .online } pending idle rfl,
      if_pos ⟨away, rfl⟩]
  next stays =>
    rw [if_neg]
    rintro ⟨away, rfl⟩
    refine stays ⟨?_, rfl⟩
    cases was : client.networkState with
    | online => exact absurd was away
    | offline | connecting | deadZone => simp

inductive StepEffect (client : LanClient β) (params : MutationParams β) (accepts : Bool)
    (mint : QueueMint) : LanClient β × MutationStep β δ → Prop
  | staged (params' : MutationParams β) (state : NetworkState) :
      StepEffect client params accepts mint
        (stage { client with networkState := state } params' mint,
          .returned params' (.queued mint.id))
  | done (data : δ) (ok : accepts) :
      StepEffect client params accepts mint (client, .returned params (.done data))
  | refused (result : MutationResult δ) (notOk : result.isOk = false) :
      StepEffect client params accepts mint (client, .returned params result)
  | sent (params' : MutationParams β) :
      StepEffect client params accepts mint (client, .sent params')

theorem beginMutation_effect (params params' : MutationParams β)
    (accepts : Bool) (mint : QueueMint) :
    StepEffect client params accepts mint
      (client.beginMutation params' mint : LanClient β × MutationStep β δ) := by
  unfold beginMutation
  split
  next => exact .staged params' client.networkState
  next => exact .sent params'

theorem interrupted_effect (params : MutationParams β) (accepts : Bool) (mint : QueueMint) :
    StepEffect client params accepts mint
      (client.interrupted params mint : LanClient β × MutationStep β δ) := by
  have away : client.setNetworkState .deadZone = { client with networkState := .deadZone } := by
    simp [setNetworkState]
  unfold interrupted
  rw [away]
  exact .staged params .deadZone

theorem finishMutation_effect (params : MutationParams β) (outcome : Outcome δ) (mint : QueueMint) :
    StepEffect client params outcome.accepts mint (client.finishMutation params outcome mint) := by
  unfold finishMutation
  cases outcome with
  | lost => exact interrupted_effect client params _ mint
  | answered reply =>
    simp only
    split
    next =>
      split
      next => exact interrupted_effect client params _ mint
      next => exact beginMutation_effect client params _ _ mint
      next => exact .refused _ rfl
    split
    next => exact .refused _ rfl
    next ok =>
      split
      next data _ => exact .done data (by simpa [Outcome.accepts] using ok)
      next => exact interrupted_effect client params _ mint

structure Extends (config : LanClientConfig) (s s' : Handheld β δ) : Prop where
  queue : ∃ added, s'.client.offlineQueue = s.client.offlineQueue ++ added ∧
    ∀ item ∈ added, item.status = .pending
  idle : s'.client.isProcessingQueue = s.client.isProcessingQueue
  accepted : ∀ request ∈ s.accepted, request ∈ s'.accepted
  returned : ∀ entry ∈ s'.returned, entry ∈ s.returned ∨ entry.result.isOk = false ∨
    entry.Accepted config s' ∨ (entry.Staged s' ∧ ∀ data, entry.result ≠ .done data)

theorem Extends.refl (s : Handheld β δ) : Extends config s s :=
  ⟨⟨[], by simp⟩, rfl, fun _ member => member, fun _ member => .inl member⟩

open Handheld

theorem StepEffect.extends (s base : Handheld β δ) {params : MutationParams β} {accepts : Bool}
    {mint : QueueMint} (call : Nat) {after : LanClient β × MutationStep β δ}
    (effect : StepEffect s.client params accepts mint after)
    (accepted : ∀ request ∈ s.accepted, request ∈ base.accepted)
    (answered : accepts → (call, requestOf config params) ∈ base.accepted)
    (returned : base.returned = s.returned) :
    Extends config s (base.record call after.1 after.2) := by
  cases effect with
  | staged params' state =>
    refine ⟨⟨[stagedItem params' mint], rfl, by simp [stagedItem]⟩, rfl, accepted,
      forall_mem_append.mpr ⟨fun _ old => .inl (returned ▸ old), forall_mem_singleton.mpr ?_⟩⟩
    refine .inr (.inr (.inr ⟨⟨stagedItem params' mint, ?_, rfl, rfl, rfl⟩, ?_⟩))
    · exact mem_append_right _ (mem_singleton.mpr rfl)
    · simp
  | done data ok =>
    exact ⟨⟨[], by simp [record]⟩, rfl, accepted, forall_mem_append.mpr
      ⟨fun _ old => .inl (returned ▸ old),
        forall_mem_singleton.mpr (.inr (.inr (.inl (answered ok))))⟩⟩
  | refused result notOk =>
    exact ⟨⟨[], by simp [record]⟩, rfl, accepted, forall_mem_append.mpr
      ⟨fun _ old => .inl (returned ▸ old), forall_mem_singleton.mpr (.inr (.inl notOk))⟩⟩
  | sent params' =>
    exact ⟨⟨[], by simp [record]⟩, rfl, accepted, fun _ member => .inl (returned ▸ member)⟩

structure Drained (s s' : Handheld β δ) : Prop where
  queue : s'.client.offlineQueue = []
  idle : s'.client.isProcessingQueue = s.client.isProcessingQueue
  accepted : s'.accepted = s.accepted
  returned : s'.returned = s.returned

variable {s s' : Handheld β δ} {config}

theorem HandheldEvent.effect (inv : HandheldInvariant config s) (event : HandheldEvent β δ) :
    (event.Drains s ∧ Drained s (s.next config event)) ∨
      (¬event.Drains s ∧ Extends config s (s.next config event)) := by
  cases event with
  | execute params mint =>
    refine .inr ⟨id, ?_⟩
    exact StepEffect.extends config s { s with calls := s.calls + 1 } s.calls
      (beginMutation_effect s.client params params false mint) (fun _ member => member)
      (by simp) rfl
  | settle call outcome mint =>
    refine .inr ⟨id, ?_⟩
    simp only [Handheld.next]
    split
    next => exact Extends.refl config s
    next _ params _ =>
      apply StepEffect.extends config s _ call (finishMutation_effect s.client params outcome mint)
      · intro request member
        split
        · exact mem_append_left _ member
        · exact member
      · intro ok
        simp [ok]
      · rfl
  | setNetworkState state =>
    have after := setNetworkState_cases state inv.pending inv.idle
    by_cases back : s.client.networkState ≠ .online ∧ state = .online
    · rw [if_pos back] at after
      refine .inl ⟨back, ?_, ?_, rfl, rfl⟩ <;> simp [Handheld.next, after]
    · rw [if_neg back] at after
      refine .inr ⟨back, ⟨[], ?_⟩, ?_, fun _ member => member, fun _ member => .inl member⟩ <;>
        simp [Handheld.next, after]
  | drain =>
    by_cases online : s.client.networkState = .online
    · have after := drainOfflineQueue_online s.client inv.pending inv.idle online
      refine .inl ⟨online, ?_, ?_, rfl, rfl⟩ <;> simp [Handheld.next, after]
    · have after := drainOfflineQueue_away online
      refine .inr ⟨online, ⟨[], ?_⟩, ?_, fun _ member => member, fun _ member => .inl member⟩ <;>
        simp [Handheld.next, after]

/-! ### Runs -/

theorem HandheldInvariant.next {config : LanClientConfig} (inv : HandheldInvariant config s)
    (event : HandheldEvent β δ) : HandheldInvariant config (s.next config event) := by
  rcases event.effect inv with ⟨-, drained⟩ | ⟨-, extended⟩
  · refine ⟨by simp [drained.queue], drained.idle.trans inv.idle, ?_⟩
    intro entry member data result
    unfold ReturnedCall.Accepted
    rw [drained.accepted]
    exact inv.done entry (drained.returned ▸ member) data result
  · obtain ⟨added, queue, fresh⟩ := extended.queue
    refine ⟨?_, extended.idle.trans inv.idle, ?_⟩
    · intro item member
      rw [queue] at member
      exact (mem_append.mp member).elim (inv.pending item) (fresh item)
    · intro entry member data result
      rcases extended.returned entry member with old | notOk | accepted | ⟨-, other⟩
      · exact extended.accepted _ (inv.done entry old data result)
      · simp [result, MutationResult.isOk] at notOk
      · exact accepted
      · exact absurd result (other data)

theorem Extends.kept {config : LanClientConfig} (extended : Extends config s s')
    (kept : s.Kept config) : s'.Kept config := by
  obtain ⟨added, queue, -⟩ := extended.queue
  intro entry member ok
  rcases extended.returned entry member with old | notOk | accepted | ⟨staged, -⟩
  · refine (kept entry old ok).imp (extended.accepted _) ?_
    rintro ⟨item, inQueue, same⟩
    exact ⟨item, queue ▸ mem_append_left _ inQueue, same⟩
  · simp [notOk] at ok
  · exact .inl accepted
  · exact .inr staged

theorem Extends.leavesAccepted (extended : Extends config s s') : LeavesAccepted config s s' := by
  obtain ⟨added, queue, -⟩ := extended.queue
  intro item member gone
  exact absurd (queue ▸ mem_append_left _ member) gone

theorem Drained.kept_iff (inv : HandheldInvariant config s) (drained : Drained s s') :
    s'.Kept config ↔ ∀ entry ∈ s.returned, ∀ id, entry.result = .queued id →
      entry.Accepted config s := by
  have same (entry : ReturnedCall β δ) : entry.Accepted config s' ↔ entry.Accepted config s := by
    unfold ReturnedCall.Accepted
    rw [drained.accepted]
  constructor
  · intro kept entry member id result
    have ok : entry.result.isOk := by simp [result, MutationResult.isOk]
    rcases kept entry (drained.returned ▸ member) ok with accepted | ⟨item, inQueue, -⟩
    · exact (same entry).mp accepted
    · simp [drained.queue] at inQueue
  · intro staged entry member ok
    refine .inl ((same entry).mpr ?_)
    rw [drained.returned] at member
    cases result : entry.result with
    | done data => exact inv.done entry member data result
    | queued id => exact staged entry member id result
    | conflict _ _ | failed _ => simp [result, MutationResult.isOk] at ok

theorem NoLostWrites.kept {events : List (HandheldEvent β δ)}
    (safe : NoLostWrites config s events) : s.Kept config := by
  cases events with
  | nil => exact safe
  | cons _ _ => exact safe.1

theorem noLostWrites_iff (s : Handheld β δ) (inv : HandheldInvariant config s)
    (kept : s.Kept config) (events : List (HandheldEvent β δ)) :
    NoLostWrites config s events ↔ DrainsWhenAccepted config s events := by
  induction events generalizing s with
  | nil => exact iff_of_true kept trivial
  | cons event events ih =>
    have later := inv.next event
    rcases event.effect inv with ⟨drains, drained⟩ | ⟨keeps, extended⟩
    · have lossless := drained.kept_iff inv
      constructor
      · rintro ⟨-, -, rest⟩
        have after := rest.kept
        exact ⟨fun _ => lossless.mp after, (ih _ later after).mp rest⟩
      · rintro ⟨staged, rest⟩
        have all := staged drains
        refine ⟨kept, ?_, (ih _ later (lossless.mpr all)).mpr rest⟩
        intro item _ _ entry member result
        exact all entry member item.id result
    · have after := extended.kept kept
      constructor
      · rintro ⟨-, -, rest⟩
        exact ⟨fun drains => absurd drains keeps, (ih _ later after).mp rest⟩
      · rintro ⟨-, rest⟩
        exact ⟨kept, extended.leavesAccepted, (ih _ later after).mpr rest⟩

/-- No run of a client loses an acknowledged mutation exactly if, whenever the queue is drained,
the host has already accepted everything that was staged. -/
theorem acknowledged_mutations_kept_iff (config : LanClientConfig)
    (events : List (HandheldEvent β δ)) :
    NoLostWrites config initial events ↔
      DrainsWhenAccepted config initial events := by
  apply noLostWrites_iff
  · exact ⟨by simp [initial], rfl, by simp [initial]⟩
  · simp [Handheld.Kept, initial]

def sampleLanConfig : LanClientConfig :=
  { baseUrl := "https://192.168.1.100:8443", stationToken := "token-xyz", stationId := "handheld-01" }

def sampleComanda : MutationParams (List String) :=
  { endpoint := "/api/v1/dining/tables/t-01/orders", method := none, body := ["burger"]
    expectedVersion := some 2, mutationType := .dispatchComanda }

/-- A comanda staged in a dead zone is dropped on the reconnection, with no request sent. -/
theorem staged_comanda_lost :
    ¬NoLostWrites (δ := Unit) sampleLanConfig initial
      [.setNetworkState .deadZone, .execute sampleComanda ⟨"queue-1", 0⟩,
        .setNetworkState .online] := by
  rintro ⟨-, -, -, -, -, -, kept⟩
  rcases kept ⟨0, sampleComanda, .queued "queue-1"⟩ (mem_singleton.mpr rfl) rfl with
    accepted | ⟨item, inQueue, -⟩
  · exact absurd accepted not_mem_nil
  · exact absurd inQueue not_mem_nil

end TridentPos.Mobile
