import TridentPos.Library.Fallible
import TridentPos.Library.Table

/-!
# Cloud integration outbox

`CloudIntegrationOutboxService`: workers claim events, publish them or report a failure, and an
event that has failed too often goes to the dead letter queue. Each call is one PostgreSQL
transaction. What two transactions would do to one row is put in order by its lock
(`FOR UPDATE`, or the row lock of the `UPDATE`), and a claim skips the rows that are locked, so a
schedule of workers is a sequence of transactions.
-/
namespace TridentPos.Integration

open Library Fallible Table List

variable {Payload : Type}

/-! ### Tables -/

inductive OutboxStatus where
  | pending
  | processing
  | published
  | failed
  | dlq
deriving DecidableEq

structure CloudIntegrationOutboxRecord (Payload : Type) where
  (id organizationId : String)
  branchId : Option String
  (eventType aggregateType aggregateId : String)
  payload : Payload
  status : OutboxStatus
  (retryCount deliveryAttempts maxRetries nextRetryAt : Nat)
  (lastError lockId : Option String)
  (lockedAt publishedAt : Option Nat)

structure CloudIntegrationDLQRecord (Payload : Type) where
  organizationId : String
  branchId : Option String
  (originatingOutboxId eventType aggregateType aggregateId : String)
  rawPayload : Payload
  (errorCode errorMessage : String)
  errorTrace : Option String
  (retryCount deliveryAttempts : Nat)

structure IntegrationStore (Payload : Type) where
  outbox : List (CloudIntegrationOutboxRecord Payload)
  dlq : List (CloudIntegrationDLQRecord Payload)

def IntegrationStore.empty (Payload : Type) : IntegrationStore Payload :=
  { outbox := [], dlq := [] }

structure EnqueueIntegrationEventInput (Payload : Type) where
  organizationId : String
  branchId : Option String
  (eventType aggregateType aggregateId : String)
  payload : Payload
  maxRetries : Option Nat

def canonicalMaxRetries : Nat := 5

/-! ### The calls of the service -/

variable (s : IntegrationStore Payload) (tenant : String) (now : Nat)

/-- `id` is what `gen_random_uuid()` draws. -/
def enqueue (id : String) (now : Nat)
    (input : EnqueueIntegrationEventInput Payload) : Except String (IntegrationStore Payload) :=
  if input.maxRetries.any (· != canonicalMaxRetries) then
    .error ("Invalid maxRetries " ++ toString (input.maxRetries.getD 0) ++
      ": must be canonical " ++ toString canonicalMaxRetries ++ " (WP-012)")
  else if s.outbox.any fun row => row.id == id then
    .error "duplicate key value violates unique constraint \"cloud_integration_outbox_pkey\""
  else
    .ok { s with
      outbox := s.outbox ++ [
        { id := id, organizationId := input.organizationId, branchId := input.branchId
          eventType := input.eventType, aggregateType := input.aggregateType
          aggregateId := input.aggregateId, payload := input.payload, status := .pending
          retryCount := 0, deliveryAttempts := 0, maxRetries := canonicalMaxRetries
          nextRetryAt := now, lastError := none, lockId := none, lockedAt := none
          publishedAt := none }] }

def claimTimeout : Nat := 120000

def isClaimable (row : CloudIntegrationOutboxRecord Payload) : Bool :=
  row.organizationId == tenant && (row.status == .pending || row.status == .processing) &&
    row.nextRetryAt ≤ now && row.lockedAt.all fun lockedAt => lockedAt + claimTimeout < now

/-- The ids of the candidates; `locked` are the rows other transactions hold at that moment. -/
def claimCandidates (locked : List String) (limit : Nat) : List String :=
  ((s.outbox.filter fun row => isClaimable tenant now row && !locked.contains row.id).take
    limit).map fun row => row.id

def claimBatch (locked : List String)
    (workerId : String) (limit : Nat) : IntegrationStore Payload :=
  let candidates := claimCandidates s tenant now locked limit
  { s with
    outbox := updateWhere (fun row => candidates.contains row.id)
      (fun row => { row with status := .processing, lockId := some workerId, lockedAt := some now })
      s.outbox }

def staleClaimError (id : String) : String :=
  "STALE_CLAIM: Worker does not own active claim for event " ++ id

def holdsClaim (id claimToken : String) (row : CloudIntegrationOutboxRecord Payload) : Bool :=
  row.organizationId == tenant && row.id == id && row.status == .processing &&
    row.lockId == some claimToken

def completeEvent (id claimToken : String) : Except String (IntegrationStore Payload) :=
  if s.outbox.any (holdsClaim tenant id claimToken) then
    .ok { s with
      outbox := updateWhere (holdsClaim tenant id claimToken)
        (fun row => { row with status := .published, publishedAt := some now, lockId := none })
        s.outbox }
  else .error (staleClaimError id)

structure DeliveryError where
  message : String
  stack : Option String

structure FailureResult where
  routedToDlq : Bool
  (newRetryCount deliveryAttempts : Nat)

def deadLetter (row : CloudIntegrationOutboxRecord Payload) (error : DeliveryError)
    (isNonRetryable : Bool) (newRetryCount newDeliveryAttempts : Nat) :
    CloudIntegrationDLQRecord Payload :=
  { organizationId := row.organizationId, branchId := row.branchId, originatingOutboxId := row.id
    eventType := row.eventType, aggregateType := row.aggregateType, aggregateId := row.aggregateId
    rawPayload := row.payload
    errorCode := if isNonRetryable then "NON_RETRYABLE_ERROR" else "RETRY_EXHAUSTED"
    errorMessage := error.message, errorTrace := error.stack, retryCount := newRetryCount
    deliveryAttempts := newDeliveryAttempts }

/-- The row is locked when it is read, so the conditions of the updates that follow still hold. -/
def handleFailure (id claimToken : String) (error : DeliveryError) (delay : Nat → Nat)
    (isNonRetryable : Bool) :
    Except String (FailureResult × IntegrationStore Payload) :=
  match s.outbox.find? fun row => row.organizationId == tenant && row.id == id with
  | none => .error ("Cloud outbox event " ++ id ++ " not found")
  | some row =>
    if row.status ≠ .processing ∨ row.lockId ≠ some claimToken then .error (staleClaimError id)
    else
      let newDeliveryAttempts := row.deliveryAttempts + 1
      let newRetryCount := newDeliveryAttempts - 1
      if isNonRetryable ∨ newDeliveryAttempts > row.maxRetries then
        .ok (⟨true, newRetryCount, newDeliveryAttempts⟩,
          { outbox := updateWhere (holdsClaim tenant id claimToken)
              (fun row =>
                { row with
                  status := .dlq, lastError := some error.message, retryCount := newRetryCount
                  deliveryAttempts := newDeliveryAttempts, lockId := none }) s.outbox
            dlq := s.dlq ++
              [deadLetter row error isNonRetryable newRetryCount newDeliveryAttempts] })
      else
        .ok (⟨false, newRetryCount, newDeliveryAttempts⟩,
          { s with
            outbox := updateWhere (holdsClaim tenant id claimToken)
              (fun row =>
                { row with
                  status := .pending, retryCount := newRetryCount
                  deliveryAttempts := newDeliveryAttempts, nextRetryAt := now + delay newRetryCount
                  lastError := some error.message, lockId := none, lockedAt := none }) s.outbox })

/-! ### Schedules -/

inductive OutboxRequest (Payload : Type) where
  | enqueue (id : String) (now : Nat) (input : EnqueueIntegrationEventInput Payload)
  | claimBatch (tenant : String) (now : Nat) (locked : List String) (workerId : String)
      (limit : Nat)
  | completeEvent (tenant : String) (now : Nat) (id claimToken : String)
  | handleFailure (tenant : String) (now : Nat) (id claimToken : String) (error : DeliveryError)
      (delay : Nat → Nat) (isNonRetryable : Bool)

structure FailureReport where
  outboxId : String
  isNonRetryable : Bool

def committed :
    Except String (IntegrationStore Payload) → IntegrationStore Payload
  | .ok s' => s'
  | .error _ => s

def OutboxRequest.exec :
    OutboxRequest Payload → IntegrationStore Payload × List FailureReport
  | .enqueue id now input => (committed s (Integration.enqueue s id now input), [])
  | .claimBatch tenant now locked workerId limit =>
    (Integration.claimBatch s tenant now locked workerId limit, [])
  | .completeEvent tenant now id claimToken =>
    (committed s (Integration.completeEvent s tenant now id claimToken), [])
  | .handleFailure tenant now id claimToken error delay isNonRetryable =>
    match Integration.handleFailure s tenant now id claimToken error delay isNonRetryable with
    | .error _ => (s, [])
    | .ok (_, s') => (s', [⟨id, isNonRetryable⟩])

def runAll (s : IntegrationStore Payload) :
    List (OutboxRequest Payload) → IntegrationStore Payload × List FailureReport
  | [] => (s, [])
  | request :: requests =>
    let (s', reports) := request.exec s
    let (s'', later) := runAll s' requests
    (s'', reports ++ later)

/-! ### What a row has gone through -/

def IntegrationStore.deadLettersOf (id : String) : Nat :=
  s.dlq.countP fun letter => letter.originatingOutboxId == id

def failuresOf (reports : List FailureReport) (id : String) : Nat :=
  reports.countP fun report => report.outboxId == id

def OutboxStatus.isFinal (status : OutboxStatus) : Bool := status == .published || status == .dlq

structure RowAccounted (s : IntegrationStore Payload) (reports : List FailureReport)
    (row : CloudIntegrationOutboxRecord Payload) : Prop where
  maxRetries : row.maxRetries = canonicalMaxRetries
  attempts : row.deliveryAttempts = failuresOf reports row.id
  letters : s.deadLettersOf row.id = if row.status = .dlq then 1 else 0
  bound : row.deliveryAttempts ≤ canonicalMaxRetries + if row.status = .dlq then 1 else 0
  exhausted : row.status = .dlq →
    (∀ report ∈ reports, report.outboxId = row.id → report.isNonRetryable = false) →
    row.deliveryAttempts = canonicalMaxRetries + 1

structure Accounted (s : IntegrationStore Payload) (reports : List FailureReport) : Prop where
  keyed : (s.outbox.map fun row => row.id).Nodup
  rows : ∀ row ∈ s.outbox, RowAccounted s reports row
  letters : ∀ letter ∈ s.dlq, ∃ row ∈ s.outbox, row.id = letter.originatingOutboxId
  reported : ∀ report ∈ reports, ∃ row ∈ s.outbox, row.id = report.outboxId

theorem Accounted.empty : Accounted (IntegrationStore.empty Payload) [] := by
  refine ⟨.nil, ?_, ?_, ?_⟩ <;>
  · intro _ member
    simp [IntegrationStore.empty] at member

variable {f : CloudIntegrationOutboxRecord Payload → CloudIntegrationOutboxRecord Payload}
  {id : String}

theorem exists_updated {rows : List (CloudIntegrationOutboxRecord Payload)}
    (p : CloudIntegrationOutboxRecord Payload → Bool) (keepsId : ∀ row, (f row).id = row.id)
    (known : ∃ row ∈ rows, row.id = id) : ∃ row ∈ updateWhere p f rows, row.id = id := by
  obtain ⟨row, member, rfl⟩ := known
  cases hit : p row with
  | true =>
    exact ⟨f row, mem_updateWhere.mpr (.inl ⟨row, member, hit, rfl⟩), keepsId row⟩
  | false => exact ⟨row, mem_updateWhere.mpr (.inr ⟨member, hit⟩), rfl⟩

variable {s s' : IntegrationStore Payload} {reports : List FailureReport}

theorem Accounted.moved {p : CloudIntegrationOutboxRecord Payload → Bool}
    (accounted : Accounted s reports)
    (keeps : ∀ row, (f row).id = row.id ∧ (f row).maxRetries = row.maxRetries ∧
      (f row).deliveryAttempts = row.deliveryAttempts ∧ (f row).status ≠ .dlq)
    (alive : ∀ row ∈ s.outbox, p row → row.status ≠ .dlq) :
    Accounted { s with outbox := updateWhere p f s.outbox } reports := by
  refine ⟨?_, ?_, ?_, ?_⟩
  · rw [map_updateWhere _ _ _ _ fun row => (keeps row).1]
    exact accounted.keyed
  · intro row member
    rcases mem_updateWhere.mp member with ⟨old, stored, hit, rfl⟩ | ⟨stored, -⟩
    · obtain ⟨isId, retries, attempts, status⟩ := keeps old
      have before := accounted.rows old stored
      have was := alive old stored hit
      refine ⟨retries.trans before.maxRetries, ?_, ?_, ?_, fun dead => absurd dead status⟩
      · rw [attempts, isId]
        exact before.attempts
      · rw [if_neg status, isId]
        exact before.letters.trans (if_neg was)
      · rw [attempts, if_neg status]
        exact before.bound.trans (by rw [if_neg was])
    · have before := accounted.rows row stored
      exact ⟨before.maxRetries, before.attempts, before.letters, before.bound, before.exhausted⟩
  · intro letter member
    exact exists_updated _ (fun row => (keeps row).1) (accounted.letters letter member)
  · intro report member
    exact exists_updated _ (fun row => (keeps row).1) (accounted.reported report member)

variable {claimToken tenant : String} {now}

theorem enqueue_accounted {input : EnqueueIntegrationEventInput Payload}
    (accounted : Accounted s reports) (enqueued : enqueue s id now input = .ok s') :
    Accounted s' reports := by
  simp only [enqueue, refused_eq_ok, Except.ok.injEq] at enqueued
  obtain ⟨-, free, rfl⟩ := enqueued
  have fresh (row : CloudIntegrationOutboxRecord Payload) (member : row ∈ s.outbox) :
      row.id ≠ id := by
    intro same
    exact free (any_eq_true.mpr ⟨row, member, by simpa using same⟩)
  refine ⟨?_, ?_, ?_, ?_⟩
  · rw [map_append]
    refine nodup_append_singleton accounted.keyed ?_
    intro taken
    obtain ⟨row, member, same⟩ := mem_map.mp taken
    exact fresh row member same
  · intro row member
    rcases mem_append.mp member with old | new
    · have before := accounted.rows row old
      exact ⟨before.maxRetries, before.attempts, before.letters, before.bound, before.exhausted⟩
    · -- nothing refers to an id that was not drawn before
      obtain rfl := mem_singleton.mp new
      have unreported : failuresOf reports id = 0 := by
        refine countP_eq_zero.mpr fun report listed same => ?_
        obtain ⟨row, stored, isId⟩ := accounted.reported report listed
        exact fresh row stored (isId.trans (by simpa using same))
      have alive : s.deadLettersOf id = 0 := by
        refine countP_eq_zero.mpr fun letter listed same => ?_
        obtain ⟨row, stored, isId⟩ := accounted.letters letter listed
        exact fresh row stored (isId.trans (by simpa using same))
      exact ⟨rfl, unreported.symm, alive, Nat.zero_le _, fun dead => by simp at dead⟩
  · intro letter member
    obtain ⟨row, stored, isId⟩ := accounted.letters letter member
    exact ⟨row, mem_append_left _ stored, isId⟩
  · intro report member
    obtain ⟨row, stored, isId⟩ := accounted.reported report member
    exact ⟨row, mem_append_left _ stored, isId⟩

variable {row : CloudIntegrationOutboxRecord Payload}

theorem claimCandidates_open {locked : List String} {limit : Nat}
    (keyed : (s.outbox.map fun row => row.id).Nodup) (member : row ∈ s.outbox)
    (candidate : (claimCandidates s tenant now locked limit).contains row.id) :
    row.status = .pending ∨ row.status = .processing := by
  obtain ⟨chosen, isChosen, same⟩ := mem_map.mp (contains_iff_mem.mp candidate)
  obtain ⟨stored, claimable⟩ := mem_filter.mp (mem_of_mem_take isChosen)
  obtain rfl : chosen = row := inj_on_of_nodup_map keyed stored member same
  simp only [isClaimable, Bool.and_eq_true, Bool.or_eq_true, beq_iff_eq] at claimable
  exact claimable.1.1.1.2

theorem holdsClaim_eq_true (holds : holdsClaim tenant id claimToken row) :
    row.organizationId = tenant ∧ row.id = id ∧ row.status = .processing ∧
      row.lockId = some claimToken := by
  simpa [holdsClaim, and_assoc] using holds

theorem claimBatch_accounted (tenant : String) (now : Nat) (locked : List String)
    (workerId : String) (limit : Nat) (accounted : Accounted s reports) :
    Accounted (claimBatch s tenant now locked workerId limit) reports := by
  refine accounted.moved (fun row => ⟨rfl, rfl, rfl, by simp⟩) ?_
  intro row member candidate dead
  rcases claimCandidates_open accounted.keyed member candidate with
    pending | processing
  · simp [dead] at pending
  · simp [dead] at processing

theorem completeEvent_accounted (accounted : Accounted s reports)
    (completed : completeEvent s tenant now id claimToken = .ok s') : Accounted s' reports := by
  unfold completeEvent at completed
  split at completed
  next =>
    obtain rfl := Except.ok.inj completed
    refine accounted.moved (fun row => ⟨rfl, rfl, rfl, by simp⟩) ?_
    intro row member holds dead
    obtain ⟨-, -, processing, -⟩ := holdsClaim_eq_true holds
    simp [dead] at processing
  next => simp at completed

structure FailureEffect (s s' : IntegrationStore Payload) (isNonRetryable : Bool)
    (claimed : CloudIntegrationOutboxRecord Payload → Bool)
    (f : CloudIntegrationOutboxRecord Payload → CloudIntegrationOutboxRecord Payload)
    (row : CloudIntegrationOutboxRecord Payload) : Prop where
  outbox : s'.outbox = updateWhere claimed f s.outbox
  id : ∀ old, (f old).id = old.id
  maxRetries : ∀ old, (f old).maxRetries = old.maxRetries
  attempts : ∀ old, (f old).deliveryAttempts = row.deliveryAttempts + 1
  route : ((isNonRetryable ∨ row.maxRetries < row.deliveryAttempts + 1) ∧
      (∀ old, (f old).status = .dlq) ∧
      ∃ letter, s'.dlq = s.dlq ++ [letter] ∧ letter.originatingOutboxId = row.id) ∨
    row.deliveryAttempts + 1 ≤ row.maxRetries ∧ (∀ old, (f old).status = .pending) ∧ s'.dlq = s.dlq

theorem handleFailure_eq_ok {error : DeliveryError} {delay : Nat → Nat} {isNonRetryable : Bool}
    {result : FailureResult}
    (handled : handleFailure s tenant now id claimToken error delay isNonRetryable =
      .ok (result, s')) :
    ∃ row ∈ s.outbox, holdsClaim tenant id claimToken row ∧
      ∃ f, FailureEffect s s' isNonRetryable (holdsClaim tenant id claimToken) f row := by
  unfold handleFailure at handled
  split at handled
  next => simp at handled
  next row found =>
    have member := mem_of_find?_eq_some found
    have isRow : row.organizationId = tenant ∧ row.id = id := by
      simpa using find?_some found
    simp only [refused_eq_ok, ne_eq, not_or, not_not] at handled
    obtain ⟨owned, handled⟩ := handled
    refine ⟨row, member, by simp [holdsClaim, isRow, owned], ?_⟩
    split at handled <;> obtain ⟨-, rfl⟩ := Prod.mk.inj (Except.ok.inj handled)
    next routed =>
      exact ⟨_, rfl, fun _ => rfl, fun _ => rfl, fun _ => rfl,
        .inl ⟨routed, fun _ => rfl, _, rfl, rfl⟩⟩
    next retried =>
      exact ⟨_, rfl, fun _ => rfl, fun _ => rfl, fun _ => rfl, .inr ⟨by omega, fun _ => rfl, rfl⟩⟩

section Failures

variable {isNonRetryable : Bool} {claimed : CloudIntegrationOutboxRecord Payload → Bool}
  (effect : FailureEffect s s' isNonRetryable claimed f row)

include effect

theorem FailureEffect.deadLettersOf_other {other : String} (apart : other ≠ row.id) :
    s'.deadLettersOf other = s.deadLettersOf other := by
  rcases effect.route with ⟨-, -, letter, dlq, ofRow⟩ | ⟨-, -, dlq⟩
  · simp [IntegrationStore.deadLettersOf, dlq, ofRow, Ne.symm apart]
  · simp [IntegrationStore.deadLettersOf, dlq]

theorem FailureEffect.row_accounted (before : RowAccounted s reports row)
    (processing : row.status = .processing) :
    RowAccounted s' (reports ++ [⟨row.id, isNonRetryable⟩]) (f row) := by
  have limit := before.maxRetries
  have bound := before.bound
  have alive := before.letters
  simp only [processing, reduceCtorEq, if_false] at bound alive
  refine ⟨(effect.maxRetries row).trans limit, ?_, ?_, ?_, ?_⟩
  · rw [effect.attempts, effect.id, before.attempts]
    simp [failuresOf]
  · rw [effect.id]
    rcases effect.route with ⟨-, dead, letter, dlq, ofRow⟩ | ⟨-, pending, dlq⟩ <;>
      simp only [IntegrationStore.deadLettersOf] at alive
    · simp [IntegrationStore.deadLettersOf, dlq, ofRow, dead row, alive]
    · simp [IntegrationStore.deadLettersOf, dlq, pending row, alive]
  · rw [effect.attempts]
    rcases effect.route with ⟨-, dead, -⟩ | ⟨within, pending, -⟩
    · simp only [dead row, if_true]
      omega
    · simp only [pending row]
      omega
  · intro dead retryable
    rw [effect.attempts]
    rcases effect.route with ⟨routed, -⟩ | ⟨-, pending, -⟩
    · -- the last report is about this row, and it is retryable
      have last := retryable ⟨row.id, isNonRetryable⟩ (by simp) (effect.id row).symm
      rcases routed with nonRetryable | exceeded
      · simp [nonRetryable] at last
      · omega
    · simp [pending row] at dead

theorem FailureEffect.other_accounted {other : CloudIntegrationOutboxRecord Payload}
    (before : RowAccounted s reports other) (apart : other.id ≠ row.id) :
    RowAccounted s' (reports ++ [⟨row.id, isNonRetryable⟩]) other := by
  refine ⟨before.maxRetries, ?_, ?_, before.bound, ?_⟩
  · rw [before.attempts]
    simp [failuresOf, Ne.symm apart]
  · rw [effect.deadLettersOf_other apart]
    exact before.letters
  · intro dead retryable
    exact before.exhausted dead fun report old => retryable report (by simp [old])

theorem FailureEffect.accounted (before : Accounted s reports) (member : row ∈ s.outbox)
    (processing : row.status = .processing)
    (isClaimed : claimed row) (ofId : ∀ old, claimed old → old.id = row.id) :
    Accounted s' (reports ++ [⟨row.id, isNonRetryable⟩]) := by
  have theRow (old : CloudIntegrationOutboxRecord Payload) (stored : old ∈ s.outbox)
      (same : old.id = row.id) : old = row :=
    inj_on_of_nodup_map before.keyed stored member same
  have known (other : String) (was : ∃ row ∈ s.outbox, row.id = other) :
      ∃ row ∈ s'.outbox, row.id = other := by
    rw [effect.outbox]
    exact exists_updated _ effect.id was
  refine ⟨?_, ?_, ?_, ?_⟩
  · rw [effect.outbox, map_updateWhere _ _ _ _ effect.id]
    exact before.keyed
  · intro changed listed
    rw [effect.outbox] at listed
    rcases mem_updateWhere.mp listed with ⟨old, stored, hit, rfl⟩ | ⟨stored, missed⟩
    · obtain rfl := theRow old stored (ofId old hit)
      exact effect.row_accounted (before.rows old stored) processing
    · refine effect.other_accounted (before.rows changed stored) ?_
      intro same
      rw [theRow changed stored same, isClaimed] at missed
      simp at missed
  · intro letter listed
    rcases effect.route with ⟨-, -, added, dlq, ofRow⟩ | ⟨-, -, dlq⟩ <;> rw [dlq] at listed
    · rcases mem_append.mp listed with old | new
      · exact known _ (before.letters letter old)
      · rw [mem_singleton.mp new, ofRow]
        exact known _ ⟨row, member, rfl⟩
    · exact known _ (before.letters letter listed)
  · intro report listed
    rcases mem_append.mp listed with old | new
    · exact known _ (before.reported report old)
    · rw [mem_singleton.mp new]
      exact known _ ⟨row, member, rfl⟩

end Failures

theorem handleFailure_accounted {error : DeliveryError} {delay : Nat → Nat} {isNonRetryable : Bool}
    {result : FailureResult} (accounted : Accounted s reports)
    (handled : handleFailure s tenant now id claimToken error delay isNonRetryable =
      .ok (result, s')) : Accounted s' (reports ++ [⟨id, isNonRetryable⟩]) := by
  obtain ⟨row, member, holds, f, effect⟩ := handleFailure_eq_ok handled
  obtain ⟨-, rfl, processing, -⟩ := holdsClaim_eq_true holds
  exact effect.accounted accounted member processing holds
    fun old held => (holdsClaim_eq_true held).2.1

/-! ### Schedules keep the accounts -/

theorem exec_accounted (request : OutboxRequest Payload) (accounted : Accounted s reports) :
    Accounted (request.exec s).1 (reports ++ (request.exec s).2) := by
  cases request with
  | enqueue id now input =>
    simp only [OutboxRequest.exec, append_nil]
    cases enqueued : Integration.enqueue s id now input with
    | error e => exact accounted
    | ok s' => exact enqueue_accounted accounted enqueued
  | claimBatch tenant now locked workerId limit =>
    simp only [OutboxRequest.exec, append_nil]
    exact claimBatch_accounted tenant now locked workerId limit accounted
  | completeEvent tenant now id claimToken =>
    simp only [OutboxRequest.exec, append_nil]
    cases completed : Integration.completeEvent s tenant now id claimToken with
    | error e => exact accounted
    | ok s' =>
      exact completeEvent_accounted accounted completed
  | handleFailure tenant now id claimToken error delay isNonRetryable =>
    simp only [OutboxRequest.exec]
    cases handled : Integration.handleFailure s tenant now id claimToken error delay
        isNonRetryable with
    | error e =>
      simp only [append_nil]
      exact accounted
    | ok both =>
      exact handleFailure_accounted accounted handled

theorem runAll_accounted (s : IntegrationStore Payload) (reports : List FailureReport)
    (requests : List (OutboxRequest Payload)) (accounted : Accounted s reports) :
    Accounted (runAll s requests).1 (reports ++ (runAll s requests).2) := by
  induction requests generalizing s reports with
  | nil =>
    simp only [runAll, append_nil]
    exact accounted
  | cons request requests ih =>
    have rest := ih _ _ (exec_accounted request accounted)
    rwa [append_assoc] at rest

/-! ### Published events and dead letters stay -/

theorem exec_final (request : OutboxRequest Payload) (accounted : Accounted s reports)
    (member : row ∈ s.outbox) (isFinal : row.status.isFinal) :
    row ∈ (request.exec s).1.outbox := by
  have unclaimed (tenant id claimToken : String) : holdsClaim tenant id claimToken row = false := by
    rw [Bool.eq_false_iff]
    intro holds
    obtain ⟨-, -, processing, -⟩ := holdsClaim_eq_true holds
    simp [processing, OutboxStatus.isFinal] at isFinal
  cases request with
  | enqueue id now input =>
    simp only [OutboxRequest.exec, Integration.enqueue]
    split
    next => exact member
    next =>
      split
      next => exact member
      next => exact mem_append_left _ member
  | claimBatch tenant now locked workerId limit =>
    refine mem_updateWhere.mpr (.inr ⟨member, ?_⟩)
    rw [Bool.eq_false_iff]
    intro candidate
    rcases claimCandidates_open accounted.keyed member candidate with
      pending | processing
    · simp [pending, OutboxStatus.isFinal] at isFinal
    · simp [processing, OutboxStatus.isFinal] at isFinal
  | completeEvent tenant now id claimToken =>
    simp only [OutboxRequest.exec, Integration.completeEvent]
    split
    next => exact mem_updateWhere.mpr (.inr ⟨member, unclaimed tenant id claimToken⟩)
    next => exact member
  | handleFailure tenant now id claimToken error delay isNonRetryable =>
    simp only [OutboxRequest.exec]
    cases handled : Integration.handleFailure s tenant now id claimToken error delay
        isNonRetryable with
    | error e => exact member
    | ok both =>
      obtain ⟨_, -, -, f, effect⟩ := handleFailure_eq_ok handled
      simp only [effect.outbox]
      exact mem_updateWhere.mpr (.inr ⟨member, unclaimed tenant id claimToken⟩)

theorem runAll_final (s : IntegrationStore Payload) (reports : List FailureReport)
    (requests : List (OutboxRequest Payload)) (accounted : Accounted s reports)
    (row : CloudIntegrationOutboxRecord Payload) (member : row ∈ s.outbox)
    (isFinal : row.status.isFinal) : row ∈ (runAll s requests).1.outbox := by
  induction requests generalizing s reports with
  | nil => exact member
  | cons request requests ih =>
    exact ih _ _ (exec_accounted request accounted) (exec_final request accounted member isFinal)

theorem exec_unclaimed (now : Nat)
    (unclaimed : ∀ row ∈ s.outbox, holdsClaim tenant id claimToken row = false)
    (error : DeliveryError) (delay : Nat → Nat) (isNonRetryable : Bool) :
    (OutboxRequest.completeEvent tenant now id claimToken).exec s = (s, []) ∧
    (OutboxRequest.handleFailure tenant now id claimToken error delay isNonRetryable).exec s =
      (s, []) := by
  constructor
  · have none : s.outbox.any (holdsClaim tenant id claimToken) = false := by
      simpa [any_eq_false] using unclaimed
    simp [OutboxRequest.exec, Integration.completeEvent, none, committed]
  · simp only [OutboxRequest.exec]
    cases handled : Integration.handleFailure s tenant now id claimToken error delay
        isNonRetryable with
    | error e => rfl
    | ok both =>
      obtain ⟨row, member, holds, -⟩ := handleFailure_eq_ok handled
      simp [unclaimed row member] at holds

/-- After any schedule: published events and dead letters keep their status through every schedule
that follows, an event has a dead letter just when its status says so and then one, its attempts
are the failures reported for it and at most six, exactly six if all of them were retryable, and a
worker that does not hold the claim changes nothing. -/
theorem integration_outbox_accounts (earlier later : List (OutboxRequest Payload)) :
    (∀ row ∈ (runAll (IntegrationStore.empty Payload) earlier).1.outbox,
      (row.status.isFinal →
        row ∈ (runAll (runAll (IntegrationStore.empty Payload) earlier).1 later).1.outbox ∧
        ∀ row' ∈ (runAll (runAll (IntegrationStore.empty Payload) earlier).1 later).1.outbox,
          row'.id = row.id → row'.status = row.status) ∧
      (runAll (IntegrationStore.empty Payload) earlier).1.deadLettersOf row.id =
        (if row.status = .dlq then 1 else 0) ∧
      row.deliveryAttempts = failuresOf (runAll (IntegrationStore.empty Payload) earlier).2 row.id ∧
      row.deliveryAttempts ≤ 6 ∧
      (row.status = .dlq →
        (∀ report ∈ (runAll (IntegrationStore.empty Payload) earlier).2,
          report.outboxId = row.id → report.isNonRetryable = false) →
        row.deliveryAttempts = 6)) ∧
    ∀ tenant now id claimToken,
      (∀ row ∈ (runAll (IntegrationStore.empty Payload) earlier).1.outbox,
        holdsClaim tenant id claimToken row = false) →
      ∀ request : OutboxRequest Payload,
        (request = .completeEvent tenant now id claimToken ∨
          ∃ error delay isNonRetryable,
            request = .handleFailure tenant now id claimToken error delay isNonRetryable) →
        request.exec (runAll (IntegrationStore.empty Payload) earlier).1 =
          ((runAll (IntegrationStore.empty Payload) earlier).1, []) := by
  have accounted := runAll_accounted _ _ earlier (@Accounted.empty Payload)
  refine ⟨fun row member => ?_, ?_⟩
  · have books := accounted.rows row member
    refine ⟨fun isFinal => ?_, books.letters, books.attempts, ?_, books.exhausted⟩
    · have kept := runAll_final _ _ later accounted row member isFinal
      refine ⟨kept, fun row' stored same => ?_⟩
      have keyed := (runAll_accounted _ _ later accounted).keyed
      rw [inj_on_of_nodup_map keyed stored kept same]
    · have bound := books.bound
      split at bound <;> simp only [canonicalMaxRetries] at bound <;> omega
  · rintro tenant now id claimToken unclaimed request (rfl | ⟨error, delay, isNonRetryable, rfl⟩)
    · exact (exec_unclaimed now unclaimed ⟨"", none⟩ (fun _ => 0) false).1
    · exact (exec_unclaimed now unclaimed error delay isNonRetryable).2

def sampleFailures (n : Nat) : List (OutboxRequest Unit) :=
  .enqueue "e" 0
      { organizationId := "org", branchId := none, eventType := "FacturaFiscalEmitida"
        aggregateType := "FACTURA", aggregateId := "f", payload := (), maxRetries := none } ::
    (List.range n).flatMap fun attempt =>
      [.claimBatch "org" (10 * attempt) [] "worker" 10,
        .handleFailure "org" (10 * attempt + 1) "e" "worker" ⟨"timeout", none⟩ (fun _ => 5) false]

theorem sixth_failure_is_last :
    ∃ row ∈ (runAll (IntegrationStore.empty Unit) (sampleFailures 6)).1.outbox,
      row.status = .dlq ∧ row.deliveryAttempts = 6 ∧
      (runAll (IntegrationStore.empty Unit) (sampleFailures 6)).1.deadLettersOf row.id = 1 ∧
      row ∈ (runAll (runAll (IntegrationStore.empty Unit) (sampleFailures 6)).1
        [.claimBatch "org" 1000000 [] "other" 10]).1.outbox := by
  have dead : ∃ row ∈ (runAll (IntegrationStore.empty Unit) (sampleFailures 6)).1.outbox,
      row.status = .dlq := by decide +kernel
  have retryable : ∀ report ∈ (runAll (IntegrationStore.empty Unit) (sampleFailures 6)).2,
      report.isNonRetryable = false := by decide +kernel
  obtain ⟨row, member, isDead⟩ := dead
  obtain ⟨stays, letters, -, -, exhausted⟩ := (integration_outbox_accounts (sampleFailures 6)
    [.claimBatch "org" 1000000 [] "other" 10]).1 row member
  exact ⟨row, member, isDead, exhausted isDead fun report reported _ => retryable report reported,
    by rw [letters, if_pos isDead], (stays (by rw [isDead]; rfl)).1⟩

end TridentPos.Integration
