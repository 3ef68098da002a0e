import TridentPos.Ingestion.Delivery

/-!
# What a receipt stands for

Runs of arbitrary calls: conflicting operations, forged sequence numbers, failing handlers.
A receipt is issued on a fresh application, on a logged duplicate and on a stale sequence
number. In the first two cases the log holds the key of the event itself. In the third the
sequence number was consumed by another operation of the stream, and that is all the
receipt says.
-/
namespace TridentPos.Ingestion

open Core Library CloudStore List

variable {Payload Response : Type}

structure RecordsCall (row : IngestedIdempotencyRecord Response) (call : SyncEventDTO Payload) :
    Prop where
  aggregateType : row.stream.aggregateType = call.aggregateType
  aggregateId : row.stream.aggregateId = call.aggregateId
  sequence : row.aggregateSequenceNumber = call.aggregateSequenceNumber
  action : row.action = call.action
  clientOpId : row.clientOpId = uuidText call.clientOpId
  status : row.status = .applied

structure Accounted (s : CloudStore Payload Response) : Prop where
  covered : ∀ stream k, 1 ≤ k → k ≤ s.currentSequence stream →
    ∃ row ∈ s.log, row.stream = stream ∧ row.aggregateSequenceNumber = k
  traced : List.Forall₂ RecordsCall s.log s.invocations

theorem accounted_empty : Accounted (empty Payload Response) := by
  constructor
  · intro stream k positive bound
    simp only [empty, currentSequence, find?_nil] at bound
    omega
  · exact .nil

variable {s s' : CloudStore Payload Response}

theorem Accounted.applied (accounted : Accounted s) (auth : AuthContext)
    (event : SyncEventDTO Payload) (key : String) (response : Response)
    (receipt : CloudTransactionReceipt)
    (next : event.aggregateSequenceNumber =
      s.currentSequence (streamOf auth event.aggregateType event.aggregateId) + 1) :
    Accounted (s.applied auth event key response receipt) := by
  constructor
  · intro stream k positive bound
    have counter : (s.applied auth event key response receipt).currentSequence stream =
        (s.upsertSequence (streamOf auth event.aggregateType event.aggregateId)
          event.aggregateSequenceNumber).currentSequence stream := rfl
    have old (counted : k ≤ s.currentSequence stream) :
        ∃ row ∈ (s.applied auth event key response receipt).log, row.stream = stream ∧
          row.aggregateSequenceNumber = k := by
      obtain ⟨row, member, found⟩ := accounted.covered stream k positive counted
      exact ⟨row, mem_append_left _ member, found⟩
    rw [counter] at bound
    by_cases same : stream = streamOf auth event.aggregateType event.aggregateId
    · subst same
      rw [currentSequence_upsertSequence] at bound
      by_cases last : k = event.aggregateSequenceNumber
      · exact ⟨logRow auth event key response receipt,
          mem_append_right _ (mem_singleton.mpr rfl), rfl, last.symm⟩
      · exact old (by omega)
    · rw [currentSequence_upsertSequence_other _ _ same] at bound
      exact old bound
  · exact rel_append accounted.traced (.cons ⟨rfl, rfl, rfl, rfl, rfl, rfl⟩ .nil)

theorem Accounted.drain (issuer : ReceiptIssuanceContext → CloudTransactionReceipt)
    (handler : DomainMutationHandler Payload Response) (auth : AuthContext)
    (aggregateType aggregateId : String) (fuel currentSeq drainedCount total : Nat)
    (accounted : Accounted s) (positive : 0 < currentSeq)
    (current : s.currentSequence (streamOf auth aggregateType aggregateId) = currentSeq)
    (returned : drain issuer handler auth aggregateType aggregateId fuel s currentSeq
      drainedCount = .ok (total, s')) : Accounted s' ∧ s.log ⊆ s'.log := by
  induction fuel generalizing s currentSeq drainedCount with
  | zero => simp [Ingestion.drain] at returned
  | succ fuel ih =>
    rcases (drain_eq_ok ..).mp returned with ⟨-, -, rfl⟩ | ⟨row, middle, -, round, rest⟩
    · exact ⟨accounted, fun _ member => member⟩
    · obtain ⟨response, -, -, rfl⟩ := (drainOne_eq_ok issuer handler auth aggregateType aggregateId
        s middle row (currentSeq + 1) (by omega)).mp round
      have applied := accounted.applied auth
        (bufferedEvent auth aggregateType aggregateId row (currentSeq + 1)) row.idempotencyKey
        response (issuer (issuanceContext auth
          (bufferedEvent auth aggregateType aggregateId row (currentSeq + 1))))
        (by rw [← current]; rfl)
      obtain ⟨final, grown⟩ := ih (s := (s.applied ..).markDrained row.id) (currentSeq + 1)
        (drainedCount + 1) ⟨applied.covered, applied.traced⟩ (Nat.succ_pos _) (currentSequence_upsertSequence ..) rest
      exact ⟨final, fun _ member => grown (mem_append_left _ member)⟩

variable {result : ProcessEventResult Response}

theorem bufferGap_frame {auth : AuthContext} {event : SyncEventDTO Payload} {key : String}
    {expected : Nat} (returned : bufferGap auth s event key expected = .ok (result, s')) :
    result.receipt = none ∧ s'.log = s.log ∧ s'.sequences = s.sequences ∧
      s'.invocations = s.invocations := by
  unfold bufferGap at returned
  simp only [Fallible.bind_eq_ok, Fallible.pure_eq_ok, Prod.mk.injEq] at returned
  obtain ⟨after, inserted, rfl, rfl⟩ := returned
  refine ⟨rfl, ?_⟩
  unfold insertBuffer at inserted
  split at inserted
  · simp at inserted
  split at inserted
  · obtain rfl := Except.ok.inj inserted
    exact ⟨rfl, rfl, rfl⟩
  · split at inserted
    · simp at inserted
    · obtain rfl := Except.ok.inj inserted
      exact ⟨rfl, rfl, rfl⟩

theorem processEvent_accounted {sha256 : String → String} {d : Delivery Payload Response}
    (accounted : Accounted s)
    (returned : processEvent sha256 d.issuer s d.auth d.event d.handler = .ok (result, s')) :
    Accounted s' ∧ ∀ receipt, result.receipt = some receipt →
      ∃ key, d.key sha256 = .ok key ∧
        ((∃ row ∈ s'.log, row.stream.organizationId = d.stream.organizationId ∧
            row.idempotencyKey = key) ∨
          ((∃ row ∈ s'.log, row.stream = d.stream ∧
              row.aggregateSequenceNumber = d.event.aggregateSequenceNumber) ∧
            ∀ row ∈ s'.log, row.stream.organizationId = d.stream.organizationId →
              row.idempotencyKey ≠ key)) := by
  obtain ⟨valid, key, keyed, outcome⟩ := processEvent_eq_ok returned
  rcases outcome with ⟨existing, search, -, rfl, rfl⟩ | ⟨search, stale, rfl, rfl⟩ |
    ⟨-, gap⟩ | ⟨-, expected, contiguous⟩
  · -- the key is in the log
    have found := find?_some search
    simp only [Bool.and_eq_true, beq_iff_eq] at found
    refine ⟨accounted, fun receipt _ => ⟨key, keyed, .inl ?_⟩⟩
    exact ⟨existing, mem_of_find?_eq_some search, found.1, found.2⟩
  · -- the key is not in the log, but the sequence number is consumed
    refine ⟨accounted, fun receipt _ => ⟨key, keyed, .inr ⟨?_, ?_⟩⟩⟩
    · have positive := ((validateEvent_eq_ok d.auth d.event).mp valid).2.2.2.2
      exact accounted.covered _ _ positive (Nat.lt_succ_iff.mp stale)
    · intro row member organization same
      have none := find?_eq_none.mp search row member
      simp only [Bool.and_eq_true, beq_iff_eq, not_and] at none
      exact none organization same
  · obtain ⟨noReceipt, log, sequences, invocations⟩ := bufferGap_frame gap
    refine ⟨⟨?_, ?_⟩, ?_⟩
    · intro stream k positive bound
      rw [log]
      apply accounted.covered stream k positive
      simpa only [currentSequence, sequences] using bound
    · rw [log, invocations]
      exact accounted.traced
    · intro receipt issued
      simp [noReceipt] at issued
  · obtain ⟨response, drained, -, -, loop, rfl⟩ := (applyContiguous_eq_ok ..).mp contiguous
    have applied := accounted.applied d.auth d.event key response
      (d.issuer (issuanceContext d.auth d.event)) expected
    obtain ⟨final, grown⟩ := applied.drain d.issuer d.handler d.auth _ _ _ _ _ _
      (by omega) (currentSequence_upsertSequence ..) loop
    refine ⟨final, fun receipt _ => ⟨key, keyed, .inl ?_⟩⟩
    exact ⟨logRow d.auth d.event key response _,
      grown (mem_append_right _ (mem_singleton.mpr rfl)), rfl, rfl⟩

variable (sha256 : String → String)

theorem deliverAll_accounted (run : List (Delivery Payload Response))
    (accounted : Accounted s) : Accounted (deliverAll sha256 s run) := by
  induction run generalizing s with
  | nil => exact accounted
  | cons d run ih =>
    apply ih
    unfold deliver
    split
    next result s' returned => exact (processEvent_accounted accounted returned).1
    next => exact accounted

/-- In every run of arbitrary calls, a receipt for an event means that the log, whose rows are
exactly the committed handler calls, holds the key of the event, or that the event lost its
sequence number: it is consumed by a row of the stream, and the key of the event is not in
the log. -/
theorem receipt_logged_or_sequence_consumed (run : List (Delivery Payload Response))
    (d : Delivery Payload Response)
    (result : ProcessEventResult Response) (s' : CloudStore Payload Response)
    (receipt : CloudTransactionReceipt) (returned : processEvent sha256 d.issuer
      (deliverAll sha256 (empty Payload Response) run) d.auth d.event d.handler =
        .ok (result, s')) (issued : result.receipt = some receipt) :
    List.Forall₂ RecordsCall s'.log s'.invocations ∧
    ∃ key, d.key sha256 = .ok key ∧
      ((∃ row ∈ s'.log, row.stream.organizationId = d.stream.organizationId ∧
          row.idempotencyKey = key) ∨
        ((∃ row ∈ s'.log, row.stream = d.stream ∧
            row.aggregateSequenceNumber = d.event.aggregateSequenceNumber) ∧
          ∀ row ∈ s'.log, row.stream.organizationId = d.stream.organizationId →
            row.idempotencyKey ≠ key)) := by
  have before := deliverAll_accounted sha256 run accounted_empty
  obtain ⟨after, meaning⟩ := processEvent_accounted before returned
  exact ⟨after.traced, meaning receipt issued⟩

/-! ### Two operations for one sequence number -/

theorem sampleFirst_key : sampleFirst.key sampleDigest =
    .ok "42defec4304eb3a60920fa0fe1979cb61a07af1ea78e24a6417ef7c54bdbdd36" :=
  congrArg Except.ok sampleDigest_first

def sampleRival : Delivery Nat Nat := sampleDelivery sampleSecondOp 1

theorem sampleRival_key : sampleRival.key sampleDigest =
    .ok "ec8a265a6242ecfc5aa734531d699e47916644258ceae94d1c9bced5cab45356" :=
  congrArg Except.ok sampleDigest_second

def sampleApplied : CloudStore Nat Nat :=
  (empty Nat Nat).applied sampleAuth sampleFirst.event
    "42defec4304eb3a60920fa0fe1979cb61a07af1ea78e24a6417ef7c54bdbdd36" 10
    (sampleFirst.issuer (issuanceContext sampleAuth sampleFirst.event))

theorem sampleFirst_applied : ∃ result,
    processEvent sampleDigest sampleFirst.issuer (empty Nat Nat) sampleFirst.auth
      sampleFirst.event sampleFirst.handler = .ok (result, sampleApplied) ∧
    result.receipt = some (sampleFirst.issuer (issuanceContext sampleAuth sampleFirst.event)) := by
  rw [processEvent_wellFormed sampleFirst _ rfl sampleFirst_key]
  exact ⟨_, rfl, rfl⟩

theorem sampleRival_stale :
    processEvent sampleDigest sampleRival.issuer sampleApplied sampleRival.auth sampleRival.event
      sampleRival.handler =
        .ok (staleSequence (sampleRival.issuer (issuanceContext sampleAuth sampleRival.event)),
          sampleApplied) := by
  rw [processEvent_wellFormed sampleRival _ rfl sampleRival_key]
  rfl

theorem sampleFirst_receipt_logged :
    ∃ result,
      processEvent sampleDigest sampleFirst.issuer
        (deliverAll sampleDigest (empty Nat Nat) []) sampleFirst.auth sampleFirst.event
        sampleFirst.handler = .ok (result, sampleApplied) ∧
      List.Forall₂ RecordsCall sampleApplied.log sampleApplied.invocations ∧
      ∃ key, sampleFirst.key sampleDigest = .ok key ∧
        ((∃ row ∈ sampleApplied.log,
            row.stream.organizationId = sampleFirst.stream.organizationId ∧
            row.idempotencyKey = key) ∨
          ((∃ row ∈ sampleApplied.log, row.stream = sampleFirst.stream ∧
              row.aggregateSequenceNumber = sampleFirst.event.aggregateSequenceNumber) ∧
            ∀ row ∈ sampleApplied.log,
              row.stream.organizationId = sampleFirst.stream.organizationId →
              row.idempotencyKey ≠ key)) := by
  obtain ⟨result, returned, issued⟩ := sampleFirst_applied
  exact ⟨result, returned,
    receipt_logged_or_sequence_consumed sampleDigest [] sampleFirst result sampleApplied _ returned
      issued⟩

/-- A receipt, and with it the mark `SYNCED` on the edge, does not imply that the event was
applied: the operation that comes second for a sequence number gets both. -/
theorem receipt_without_application :
    ¬ ∀ (sha256 : String → String) (run : List (Delivery Nat Nat)) (d : Delivery Nat Nat)
        (result : ProcessEventResult Nat) (s' : CloudStore Nat Nat)
        (receipt : CloudTransactionReceipt),
      (∀ d' ∈ run, d'.WellFormed ∧ d'.stream = d.stream) → d.WellFormed →
      processEvent sha256 d.issuer (deliverAll sha256 (empty Nat Nat) run) d.auth
        d.event d.handler = .ok (result, s') →
      result.receipt = some receipt →
      ∃ key, d.key sha256 = .ok key ∧
        ∃ row ∈ s'.log, row.stream.organizationId = d.stream.organizationId ∧
          row.idempotencyKey = key := by
  intro claimed
  have ran : deliverAll sampleDigest (empty Nat Nat) [sampleFirst] = sampleApplied := by
    obtain ⟨result, returned, -⟩ := sampleFirst_applied
    simp only [deliverAll, foldl_cons, foldl_nil, deliver, returned]
  have stale := sampleRival_stale
  rw [← ran] at stale
  obtain ⟨key, keyed, row, member, -, logged⟩ := claimed sampleDigest [sampleFirst] sampleRival _ _
    _ (by simp only [mem_singleton]; rintro d' rfl; exact ⟨⟨rfl, rfl, _, rfl⟩, rfl⟩)
    ⟨rfl, rfl, _, rfl⟩ stale rfl
  rw [sampleRival_key, Except.ok.injEq] at keyed
  rw [ran] at member
  simp only [sampleApplied, applied, empty, logRow, nil_append, mem_singleton] at member
  subst member
  simp [← keyed] at logged

end TridentPos.Ingestion
