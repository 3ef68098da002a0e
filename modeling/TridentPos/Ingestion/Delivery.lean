import TridentPos.Ingestion.Engine

/-!
# Exactly-once application of a stream

Delivering the events of one stream in any order and any number of times. The state of the
engine is described by the number `k` of the last applied sequence number: the log and the
handler trace hold the events `1..k`, and what was received beyond `k` waits in the
reordering queue. One application moves `k` by one; the drain loop stops at the first
sequence number that has not been received.
-/
namespace TridentPos.Ingestion

open Core Library Fallible List

variable {Payload Response : Type}

/-- One call of `processEvent`: who sends which event, and the issuer and handler in use. -/
structure Delivery (Payload Response : Type) where
  auth : AuthContext
  event : SyncEventDTO Payload
  issuer : ReceiptIssuanceContext → CloudTransactionReceipt
  handler : DomainMutationHandler Payload Response

namespace Delivery

def stream (d : Delivery Payload Response) : StreamKey :=
  streamOf d.auth d.event.aggregateType d.event.aggregateId

def key (sha256 : String → String) (d : Delivery Payload Response) : Except String String :=
  formatIdempotencyKey sha256 (keyComponents d.auth d.event)

/-- The engine's checks on the request pass: the tenant, the UUID, the sequence number, and
no empty text among the six components of the key. The columns hold its texts. -/
structure WellFormed (d : Delivery Payload Response) : Prop where
  fits : columnsFit d.stream d.event.action
  valid : validateEvent d.auth d.event = .ok ()
  named : ∃ text, canonicalizeIdempotencyPayload (keyComponents d.auth d.event) = .ok text

end Delivery

/-- A call that throws is rolled back. -/
def deliver (sha256 : String → String) (s : CloudStore Payload Response)
    (d : Delivery Payload Response) : CloudStore Payload Response :=
  match processEvent sha256 d.issuer s d.auth d.event d.handler with
  | .ok (_, s') => s'
  | .error _ => s

def deliverAll (sha256 : String → String) (s : CloudStore Payload Response)
    (deliveries : List (Delivery Payload Response)) : CloudStore Payload Response :=
  deliveries.foldl (deliver sha256) s

/-! ### The work to be delivered -/

/-- A finite set of events of one stream with the sequence numbers `1..n`, delivered in some order,
each at least once, to handlers that never fail. -/
structure Work (sha256 : String → String) (stream : StreamKey) (n : Nat)
    (events : List (SyncEventDTO Payload)) (deliveries : List (Delivery Payload Response)) :
    Prop where
  wellFormed : ∀ d ∈ deliveries, d.WellFormed
  ofStream : ∀ d ∈ deliveries, d.stream = stream
  ofEvents : ∀ d ∈ deliveries, d.event ∈ events
  delivered : ∀ e ∈ events, ∃ d ∈ deliveries, d.event = e
  sequences : (List.range' 1 n).Perm (events.map fun e => e.aggregateSequenceNumber)
  total : ∀ d ∈ deliveries, ∀ history e, ∃ response, d.handler history e = .ok response
  collisionFree : Set.InjOn sha256 {text | ∃ d ∈ deliveries,
    canonicalizeIdempotencyPayload (keyComponents d.auth d.event) = .ok text}

structure Workload (sha256 : String → String) (stream : StreamKey) (n : Nat)
    (events : List (SyncEventDTO Payload)) (deliveries : List (Delivery Payload Response)) : Prop
    extends Work sha256 stream n events deliveries where
  distinctOps : (events.map fun e => uuidText e.clientOpId).Nodup

structure FreshStream (sha256 : String → String) (stream : StreamKey)
    (deliveries : List (Delivery Payload Response)) (s : CloudStore Payload Response) :
    Prop where
  log : ∀ row ∈ s.log, row.stream ≠ stream
  buffer : ∀ row ∈ s.buffer, row.stream ≠ stream
  sequence : s.currentSequence stream = 0
  logKeys : ∀ row ∈ s.log, row.stream.organizationId = stream.organizationId →
    ∀ d ∈ deliveries, d.key sha256 ≠ .ok row.idempotencyKey
  bufferKeys : ∀ row ∈ s.buffer, row.stream.organizationId = stream.organizationId →
    ∀ d ∈ deliveries, d.key sha256 ≠ .ok row.idempotencyKey
  ids : (s.buffer.map fun row => row.id).Nodup

structure SameOperation (e call : SyncEventDTO Payload) : Prop where
  clientOpId : uuidText call.clientOpId = uuidText e.clientOpId
  aggregateType : call.aggregateType = e.aggregateType
  aggregateId : call.aggregateId = e.aggregateId
  sequence : call.aggregateSequenceNumber = e.aggregateSequenceNumber
  action : call.action = e.action
  payload : call.payload = e.payload

structure LoggedAs (stream : StreamKey) (e : SyncEventDTO Payload)
    (row : IngestedIdempotencyRecord Response) : Prop where
  stream : row.stream = stream
  sequence : row.aggregateSequenceNumber = e.aggregateSequenceNumber
  action : row.action = e.action
  clientOpId : row.clientOpId = uuidText e.clientOpId
  status : row.status = .applied

theorem SameOperation.refl (e : SyncEventDTO Payload) : SameOperation e e :=
  ⟨rfl, rfl, rfl, rfl, rfl, rfl⟩

theorem Workload.event_of_key {sha256 : String → String} {stream : StreamKey} {n : Nat}
    {events : List (SyncEventDTO Payload)} {deliveries : List (Delivery Payload Response)}
    (work : Workload sha256 stream n events deliveries) {d d' : Delivery Payload Response}
    (member : d ∈ deliveries) (member' : d' ∈ deliveries) {key : String}
    (keyed : d.key sha256 = .ok key) (keyed' : d'.key sha256 = .ok key) : d.event = d'.event := by
  have components := formatIdempotencyKey_inj work.collisionFree keyed keyed'
    (fun text canonical => ⟨d, member, canonical⟩)
    (fun text canonical => ⟨d', member', canonical⟩)
  have sameOp : d.event.clientOpId = d'.event.clientOpId :=
    congrArg IdempotencyKeyComponents.clientOpId components
  exact inj_on_of_nodup_map work.distinctOps (work.ofEvents d member)
    (work.ofEvents d' member') (by simp only [sameOp])

/-! ### The invariant -/

section Invariant

variable (sha256 : String → String) (stream : StreamKey) (start : CloudStore Payload Response)
  (ordered : List (SyncEventDTO Payload)) (deliveries : List (Delivery Payload Response))

structure LoggedFrom (d : Delivery Payload Response) (row : IngestedIdempotencyRecord Response) :
    Prop where
  key : d.key sha256 = .ok row.idempotencyKey
  sequence : row.aggregateSequenceNumber = d.event.aggregateSequenceNumber
  clientOpId : row.clientOpId = uuidText d.event.clientOpId

/-- Log, counter and handler trace hold exactly the events `1..k`. -/
structure AppliedUpTo (k : Nat) (s : CloudStore Payload Response) : Prop where
  bound : k ≤ ordered.length
  current : s.currentSequence stream = k
  log : ∃ rows, s.log = start.log ++ rows ∧
    List.Forall₂ (LoggedAs stream) (ordered.take k) rows ∧
    ∀ row ∈ rows, row.aggregateSequenceNumber ≤ k ∧ ∃ d ∈ deliveries, LoggedFrom sha256 d row
  trace : ∃ calls, s.invocations = start.invocations ++ calls ∧
    List.Forall₂ SameOperation (ordered.take k) calls

structure QueuedFrom (d : Delivery Payload Response) (row : ReorderingBufferRecord Payload) :
    Prop where
  stream : row.stream = stream
  key : d.key sha256 = .ok row.idempotencyKey
  sequence : row.aggregateSequenceNumber = d.event.aggregateSequenceNumber
  action : row.action = d.event.action
  clientOpId : row.clientOpId = uuidText d.event.clientOpId
  payload : row.eventPayload = d.event.payload

structure QueueOk (buffer : List (ReorderingBufferRecord Payload)) : Prop where
  origin : ∀ row ∈ buffer, row ∈ start.buffer ∨ ∃ d ∈ deliveries, QueuedFrom sha256 stream d row
  unique : ∀ row ∈ buffer, ∀ row' ∈ buffer, row.stream = stream → row'.stream = stream →
    row.aggregateSequenceNumber = row'.aggregateSequenceNumber → row.id = row'.id
  ids : (buffer.map fun row => row.id).Nodup

def WaitsBeyond (k : Nat) (buffer : List (ReorderingBufferRecord Payload)) : Prop :=
  ∀ row ∈ buffer, row.stream = stream → (row.status = .buffered ↔ k < row.aggregateSequenceNumber)

def Retains (received : Nat → Prop) (k : Nat) (buffer : List (ReorderingBufferRecord Payload)) :
    Prop :=
  ∀ r, received r → r ≤ k ∨ ∃ row ∈ buffer, row.stream = stream ∧
    row.aggregateSequenceNumber = r ∧ row.status = .buffered

structure Progress (received : Nat → Prop) (k : Nat) (s : CloudStore Payload Response) :
    Prop where
  applied : AppliedUpTo sha256 stream start ordered deliveries k s
  queue : QueueOk sha256 stream start deliveries s.buffer
  beyond : WaitsBeyond stream k s.buffer
  retained : Retains stream received k s.buffer
  settled : s.bufferedAt stream (k + 1) = none

end Invariant

variable {received : Nat → Prop}

section Steps

variable {sha256 : String → String} {stream : StreamKey} {start : CloudStore Payload Response}
  {n k : Nat} {events ordered : List (SyncEventDTO Payload)}
  {deliveries : List (Delivery Payload Response)} {s : CloudStore Payload Response}

/-! ### The queue -/

variable {row : ReorderingBufferRecord Payload}

theorem mem_markDrained {s : CloudStore Payload Response} {id : Nat}
    (member : row ∈ (s.markDrained id).buffer) :
    ∃ old ∈ s.buffer, (old.id = id ∧ row = { old with status := .drained }) ∨
      (old.id ≠ id ∧ row = old) := by
  rcases Table.mem_updateWhere.mp member with ⟨old, stored, hit, rfl⟩ | ⟨stored, miss⟩
  · exact ⟨old, stored, .inl ⟨by simpa using hit, rfl⟩⟩
  · exact ⟨row, stored, .inr ⟨by simpa using miss, rfl⟩⟩

theorem columns_markDrained (s : CloudStore Payload Response) (id : Nat)
    (row : ReorderingBufferRecord Payload) (member : row ∈ (s.markDrained id).buffer) :
    ∃ old ∈ s.buffer, row.id = old.id ∧ row.stream = old.stream ∧
      row.aggregateSequenceNumber = old.aggregateSequenceNumber := by
  obtain ⟨old, stored, ⟨-, rfl⟩ | ⟨-, rfl⟩⟩ := mem_markDrained member
  · exact ⟨old, stored, rfl, rfl, rfl⟩
  · exact ⟨row, stored, rfl, rfl, rfl⟩

theorem mem_markDrained_of_ne {s : CloudStore Payload Response} {id : Nat} (member : row ∈ s.buffer)
    (other : row.id ≠ id) : row ∈ (s.markDrained id).buffer :=
  Table.mem_updateWhere.mpr (.inr ⟨member, by simpa using other⟩)

section Queue

variable (queue : QueueOk sha256 stream start deliveries s.buffer) (member : row ∈ s.buffer)

include queue member

theorem QueueOk.eq_of_id {row' : ReorderingBufferRecord Payload} (member' : row' ∈ s.buffer)
    (same : row.id = row'.id) : row = row' :=
  inj_on_of_nodup_map queue.ids member member' same

theorem WaitsBeyond.markDrained (beyond : WaitsBeyond stream k s.buffer)
    (ofStream : row.stream = stream) (next : row.aggregateSequenceNumber = k + 1) :
    WaitsBeyond stream (k + 1) (s.markDrained row.id).buffer := by
  intro after stored afterStream
  obtain ⟨old, oldMember, ⟨hit, rfl⟩ | ⟨other, rfl⟩⟩ := mem_markDrained stored
  · obtain rfl := queue.eq_of_id oldMember member hit
    simp [next]
  · have waits := beyond after oldMember afterStream
    have notNext : after.aggregateSequenceNumber ≠ k + 1 := by
      intro same
      exact other (queue.unique after oldMember row member afterStream ofStream
        (same.trans next.symm))
    rw [waits]
    omega

theorem Retains.markDrained (retained : Retains stream received k s.buffer)
    (next : row.aggregateSequenceNumber = k + 1) :
    Retains stream received (k + 1) (s.markDrained row.id).buffer := by
  intro r got
  rcases retained r got with applied | ⟨waiting, stored, ofStream, sequence, status⟩
  · exact .inl (by omega)
  · by_cases hit : waiting.id = row.id
    · obtain rfl := queue.eq_of_id stored member hit
      exact .inl (by omega)
    · exact .inr ⟨waiting, mem_markDrained_of_ne stored hit, ofStream, sequence, status⟩

end Queue

def waiting (buffer : List (ReorderingBufferRecord Payload)) : Nat :=
  buffer.countP fun row => row.status == .buffered

theorem waiting_markDrained_lt {s : CloudStore Payload Response} (member : row ∈ s.buffer)
    (status : row.status = .buffered) : waiting (s.markDrained row.id).buffer < waiting s.buffer :=
  Table.countP_updateWhere_lt member (by simp) (by simp [status]) (by simp)

/-! ### One call -/

variable {d : Delivery Payload Response}

theorem Delivery.WellFormed.key_ok (sha256 : String → String) (wellFormed : d.WellFormed) :
    ∃ key, d.key sha256 = .ok key := by
  obtain ⟨text, canonical⟩ := wellFormed.named
  exact ⟨sha256 text, by simp [Delivery.key, formatIdempotencyKey, canonical]⟩

theorem processEvent_wellFormed (d : Delivery Payload Response) (key : String)
    (valid : validateEvent d.auth d.event = .ok ()) (keyed : d.key sha256 = .ok key) :
    processEvent sha256 d.issuer s d.auth d.event d.handler =
      match s.findLog d.stream.organizationId key with
      | some existing =>
        if tupleMatches d.auth d.event existing then .ok (duplicateOf existing, s)
        else .error
          "IDEMPOTENCY_COLLISION: Idempotency key matched but logical tuple components differ"
      | none =>
        if d.event.aggregateSequenceNumber < s.currentSequence d.stream + 1 then
          .ok (staleSequence (d.issuer (issuanceContext d.auth d.event)), s)
        else if d.event.aggregateSequenceNumber > s.currentSequence d.stream + 1 then
          bufferGap d.auth s d.event key (s.currentSequence d.stream + 1)
        else applyContiguous d.issuer d.handler d.auth s d.event key := by
  unfold Delivery.key at keyed
  simp only [processEvent, valid, keyed, ok_bind]
  rfl

theorem Progress.mono {received' : Nat → Prop}
    (progress : Progress sha256 stream start ordered deliveries received k s)
    (retained : Retains stream received' k s.buffer) :
    Progress sha256 stream start ordered deliveries received' k s :=
  ⟨progress.applied, progress.queue, progress.beyond, retained, progress.settled⟩

theorem Progress.unchanged (progress : Progress sha256 stream start ordered deliveries received k s)
    {sequence : Nat} (known : sequence ≤ k ∨ ∃ row ∈ s.buffer, row.stream = stream ∧
      row.aggregateSequenceNumber = sequence) :
    Progress sha256 stream start ordered deliveries (fun r => received r ∨ r = sequence) k s := by
  apply progress.mono
  intro r got
  rcases got with before | rfl
  · exact progress.retained r before
  · rcases known with applied | ⟨row, member, ofStream, same⟩
    · exact .inl applied
    · by_cases old : r ≤ k
      · exact .inl old
      · have status := (progress.beyond row member ofStream).mpr (by omega)
        exact .inr ⟨row, member, ofStream, same, status⟩

theorem take_succ_of_numbered
    (numbered : ordered.map (fun e => e.aggregateSequenceNumber) = List.range' 1 n)
    {e : SyncEventDTO Payload} (member : e ∈ ordered)
    (next : e.aggregateSequenceNumber = k + 1) : ordered.take (k + 1) = ordered.take k ++ [e] := by
  obtain ⟨i, bound, rfl⟩ := getElem_of_mem member
  have lengths : ordered.length = n := by simpa using congrArg List.length numbered
  have entry : ordered[i].aggregateSequenceNumber = 1 + i := by
    have at_i := congrArg (fun l => l[i]?) numbered
    simpa [getElem?_map, getElem?_range', lengths ▸ bound, bound] using at_i
  have position : i = k := by omega
  subst position
  rw [take_add_one, getElem?_eq_getElem bound]
  rfl

theorem Workload.exists_ordered (work : Workload sha256 stream n events deliveries) :
    ∃ ordered : List (SyncEventDTO Payload), ordered.Perm events ∧
      ordered.map (fun e => e.aggregateSequenceNumber) = List.range' 1 n := by
  have found : Relation.Comp
      (fun numbers ordered => numbers = List.map
        (fun e : SyncEventDTO Payload => e.aggregateSequenceNumber) ordered)
      List.Perm (List.range' 1 n) events := by
    rw [eq_map_comp_perm]
    exact work.sequences
  obtain ⟨ordered, numbered, permuted⟩ := found
  exact ⟨ordered, permuted, numbered.symm⟩

variable (work : Workload sha256 stream n events deliveries)
  (fresh : FreshStream sha256 stream deliveries start)

include fresh

theorem QueueOk.queuedFrom (queue : QueueOk sha256 stream start deliveries s.buffer)
    (member : row ∈ s.buffer) (ofStream : row.stream = stream) :
    ∃ d ∈ deliveries, QueuedFrom sha256 stream d row := by
  rcases queue.origin row member with old | new
  · exact absurd ofStream (fresh.buffer row old)
  · exact new

theorem QueueOk.markDrained (queue : QueueOk sha256 stream start deliveries s.buffer)
    (member : row ∈ s.buffer) (ofStream : row.stream = stream) :
    QueueOk sha256 stream start deliveries (s.markDrained row.id).buffer := by
  refine ⟨?_, ?_, ?_⟩
  · intro after stored
    obtain ⟨old, oldMember, ⟨hit, rfl⟩ | ⟨-, rfl⟩⟩ := mem_markDrained stored
    · obtain rfl := queue.eq_of_id oldMember member hit
      obtain ⟨d, dMember, queued⟩ := queue.queuedFrom fresh oldMember ofStream
      exact .inr ⟨d, dMember, queued.stream, queued.key, queued.sequence, queued.action,
        queued.clientOpId, queued.payload⟩
    · exact queue.origin after oldMember
  · intro left leftMember right rightMember
    obtain ⟨l, lMember, lId, lStream, lSequence⟩ := columns_markDrained s row.id left leftMember
    obtain ⟨r, rMember, rId, rStream, rSequence⟩ := columns_markDrained s row.id right rightMember
    rw [lId, lStream, lSequence, rId, rStream, rSequence]
    exact queue.unique l lMember r rMember
  · have kept := Table.map_updateWhere (fun old => old.id == row.id)
      (fun old => { old with status := BufferStatus.drained }) (fun old => old.id) s.buffer
      (fun _ => rfl)
    have nodup := queue.ids
    rw [← kept] at nodup
    exact nodup

theorem FreshStream.progress :
    Progress sha256 stream start ordered deliveries (fun _ => False) 0 start := by
  refine ⟨⟨Nat.zero_le _, fresh.sequence, ⟨[], by simp⟩, ⟨[], by simp⟩⟩,
    ⟨fun row stored => .inl stored, ?_, fresh.ids⟩, ?_, ?_, ?_⟩
  · intro row stored _ _ ofStream
    exact absurd ofStream (fresh.buffer row stored)
  · intro row stored ofStream
    exact absurd ofStream (fresh.buffer row stored)
  · intro r got
    exact got.elim
  · rw [bufferedAt_eq_none]
    intro row stored ofStream
    exact absurd ofStream (fresh.buffer row stored)

include work

theorem AppliedUpTo.logged_le (applied : AppliedUpTo sha256 stream start ordered deliveries k s)
    (member : d ∈ deliveries) {row : IngestedIdempotencyRecord Response} (stored : row ∈ s.log)
    (shared : (row.stream.organizationId = stream.organizationId ∧
      d.key sha256 = .ok row.idempotencyKey) ∨
      (row.stream = stream ∧ (row.clientOpId = uuidText d.event.clientOpId ∨
      row.aggregateSequenceNumber = d.event.aggregateSequenceNumber))) :
    d.event.aggregateSequenceNumber ≤ k := by
  obtain ⟨rows, appended, -, from_⟩ := applied.log
  rw [appended] at stored
  rcases mem_append.mp stored with old | new
  · rcases shared with ⟨organization, keyed⟩ | ⟨ofStream, -⟩
    · exact absurd keyed (fresh.logKeys row old organization d member)
    · exact absurd ofStream (fresh.log row old)
  · obtain ⟨bound, d', member', logged⟩ := from_ row new
    have sequence := logged.sequence
    rcases shared with ⟨-, keyed⟩ | ⟨-, sameOp | sameSequence⟩
    · have same := work.event_of_key member member' keyed logged.key
      rw [same]
      omega
    · have same : d.event = d'.event :=
        inj_on_of_nodup_map work.distinctOps (work.ofEvents d member)
          (work.ofEvents d' member') (sameOp.symm.trans logged.clientOpId)
      rw [same]
      omega
    · omega

theorem QueueOk.sequence_of_key (queue : QueueOk sha256 stream start deliveries s.buffer)
    (member : d ∈ deliveries) (stored : row ∈ s.buffer)
    (organization : row.stream.organizationId = stream.organizationId)
    (keyed : d.key sha256 = .ok row.idempotencyKey) :
    row.stream = stream ∧ row.aggregateSequenceNumber = d.event.aggregateSequenceNumber := by
  rcases queue.origin row stored with old | ⟨d', member', queued⟩
  · exact absurd keyed (fresh.bufferKeys row old organization d member)
  · have same := work.event_of_key member member' keyed queued.key
    exact ⟨queued.stream, by rw [queued.sequence, same]⟩

variable {key : String}

theorem Progress.gap (progress : Progress sha256 stream start ordered deliveries received k s)
    (member : d ∈ deliveries) (keyed : d.key sha256 = .ok key)
    (ahead : k + 1 < d.event.aggregateSequenceNumber) (expected : Nat) :
    Progress sha256 stream start ordered deliveries
      (fun r => received r ∨ r = d.event.aggregateSequenceNumber) k
      (match bufferGap d.auth s d.event key expected with
        | .ok (_, s') => s'
        | .error _ => s) := by
  have ofStream : streamOf d.auth d.event.aggregateType d.event.aggregateId = stream :=
    work.ofStream d member
  have fits : columnsFit (bufferRow d.auth d.event key s.freshBufferId).stream
      (bufferRow d.auth d.event key s.freshBufferId).action := (work.wellFormed d member).fits
  simp only [bufferGap, CloudStore.insertBuffer, fits, Bool.not_true, Bool.false_eq_true, if_false]
  split
  next result s' outcome =>
    simp only [bind_eq_ok, pure_eq_ok, Prod.mk.injEq] at outcome
    obtain ⟨after, inserted, -, rfl⟩ := outcome
    split at inserted
    next conflict =>
      -- the key is queued already: `DO NOTHING`
      simp only [any_eq_true, Bool.and_eq_true, beq_iff_eq, bufferRow, ofStream] at conflict
      obtain ⟨row, stored, organization, sameKey⟩ := conflict
      obtain ⟨rowStream, sequence⟩ := progress.queue.sequence_of_key work fresh member stored
        organization (by rw [keyed, sameKey])
      obtain rfl := Except.ok.inj inserted
      exact progress.unchanged (.inr ⟨row, stored, rowStream, sequence⟩)
    next noKey =>
      simp only [refused_eq_ok, Except.ok.injEq] at inserted
      obtain ⟨noSequence, rfl⟩ := inserted
      simp only [any_eq_true, Bool.and_eq_true, beq_iff_eq, not_exists, not_and, bufferRow,
        ofStream] at noSequence
      have queued : QueuedFrom sha256 stream d
          (bufferRow d.auth d.event key s.freshBufferId) :=
        ⟨ofStream, keyed, rfl, rfl, rfl, rfl⟩
      refine ⟨⟨progress.applied.bound, progress.applied.current, progress.applied.log,
        progress.applied.trace⟩, ⟨?_, ?_, ?_⟩, ?_, ?_, ?_⟩
      · exact forall_mem_append.mpr ⟨progress.queue.origin,
          forall_mem_singleton.mpr (.inr ⟨d, member, queued⟩)⟩
      · -- the constraint on the sequence number keeps the new row apart from the stored ones
        intro row stored row' stored' rowStream rowStream' same
        rcases mem_append.mp stored with old | new <;>
          rcases mem_append.mp stored' with old' | new'
        · exact progress.queue.unique row old row' old' rowStream rowStream' same
        · obtain rfl := mem_singleton.mp new'
          exact absurd same (noSequence row old rowStream)
        · obtain rfl := mem_singleton.mp new
          exact absurd same.symm (noSequence row' old' rowStream')
        · rw [mem_singleton.mp new, mem_singleton.mp new']
      · rw [map_append, map_singleton]
        exact nodup_append_comm.mp
          (nodup_cons.mpr ⟨Table.freshId_notMem _, progress.queue.ids⟩)
      · refine forall_mem_append.mpr ⟨progress.beyond, forall_mem_singleton.mpr fun _ => ?_⟩
        simp only [bufferRow, true_iff]
        omega
      · intro r got
        rcases got with before | rfl
        · rcases progress.retained r before with applied | ⟨row, stored, rest⟩
          · exact .inl applied
          · exact .inr ⟨row, mem_append_left _ stored, rest⟩
        · exact .inr ⟨_, mem_append_right _ (mem_singleton.mpr rfl), ofStream, rfl, rfl⟩
      · rw [bufferedAt_eq_none]
        refine forall_mem_append.mpr ⟨(bufferedAt_eq_none ..).mp progress.settled,
          forall_mem_singleton.mpr fun _ sequence => ?_⟩
        simp only [bufferRow] at sequence
        omega
  next failed =>
    -- the sequence number is queued already: the insertion throws and nothing changes
    split at failed
    next => simp [pure, Except.pure] at failed
    split at failed
    next conflict =>
      simp only [any_eq_true, Bool.and_eq_true, beq_iff_eq, bufferRow, ofStream] at conflict
      obtain ⟨row, stored, rowStream, sequence⟩ := conflict
      exact progress.unchanged (.inr ⟨row, stored, rowStream, sequence⟩)
    next => simp [pure, Except.pure] at failed

/-! ### The next event -/

variable (numbered : ordered.map (fun e => e.aggregateSequenceNumber) = List.range' 1 n)

include numbered

theorem Progress.complete (progress : Progress sha256 stream start ordered deliveries received k s)
    (all : ∀ r, 1 ≤ r → r ≤ n → received r) :
    AppliedUpTo sha256 stream start ordered deliveries n s ∧
      ∀ row ∈ s.buffer, row.stream = stream → row.status ≠ .buffered := by
  have inRange (d : Delivery Payload Response) (member : d ∈ deliveries) :
      d.event.aggregateSequenceNumber ≤ n := by
    have listed := work.sequences.mem_iff.mpr
      (mem_map_of_mem (work.ofEvents d member) (f := fun e => e.aggregateSequenceNumber))
    simp only [mem_range'_1] at listed
    omega
  have atLeast : n ≤ k := by
    by_contra short
    rcases progress.retained (k + 1) (all (k + 1) (by omega) (by omega)) with
      old | ⟨row, stored, ofStream, sequence, status⟩
    · omega
    · exact (bufferedAt_eq_none s stream (k + 1)).mp progress.settled row stored ofStream sequence
        status
  have none : ∀ row ∈ s.buffer, row.stream = stream → row.status ≠ .buffered := by
    intro row stored ofStream status
    obtain ⟨d, member, queued⟩ := progress.queue.queuedFrom fresh stored ofStream
    have later := (progress.beyond row stored ofStream).mp status
    have bound := inRange d member
    have sequence := queued.sequence
    omega
  have reached : k = n := by
    have lengths : ordered.length = n := by simpa using congrArg List.length numbered
    have := progress.applied.bound
    omega
  subst reached
  exact ⟨progress.applied, none⟩

variable (sorted : ordered.Perm events)

include sorted

theorem AppliedUpTo.next (applied : AppliedUpTo sha256 stream start ordered deliveries k s)
    (member : d ∈ deliveries) (expected : d.event.aggregateSequenceNumber = k + 1)
    (keyed : d.key sha256 = .ok key) {auth : AuthContext} {call : SyncEventDTO Payload}
    (same : SameOperation d.event call)
    (ofStream : streamOf auth call.aggregateType call.aggregateId = stream) (response : Response)
    (receipt : CloudTransactionReceipt) :
    s.LogFree (logRow auth call key response receipt) ∧
      AppliedUpTo sha256 stream start ordered deliveries (k + 1)
        (s.applied auth call key response receipt) := by
  have unapplied : ¬ d.event.aggregateSequenceNumber ≤ k := by omega
  constructor
  · -- a row that clashed with the new one would have been written for the same event
    constructor
    · rw [logRow, ofStream, ← work.ofStream d member, same.action]
      exact (work.wellFormed d member).fits
    · intro old stored organization clash
      apply unapplied
      apply applied.logged_le work fresh member stored
      exact .inl ⟨by rw [organization, logRow, ofStream], by rw [keyed, clash]; rfl⟩
    · intro old stored stream' _ clash
      apply unapplied
      apply applied.logged_le work fresh member stored
      exact .inr ⟨by rw [stream', logRow, ofStream], .inl (by rw [clash]; exact same.clientOpId)⟩
    · intro old stored stream' clash
      apply unapplied
      apply applied.logged_le work fresh member stored
      exact .inr ⟨by rw [stream', logRow, ofStream], .inr (by rw [clash]; exact same.sequence)⟩
  · have grown := take_succ_of_numbered numbered
      (sorted.mem_iff.mpr (work.ofEvents d member)) expected
    have sequence : call.aggregateSequenceNumber = k + 1 := same.sequence.trans expected
    refine ⟨?_, ?_, ?_, ?_⟩
    · have lengths := congrArg List.length grown
      simp only [length_take, length_append, length_singleton] at lengths
      omega
    · show (s.upsertSequence _ _).currentSequence stream = k + 1
      rw [ofStream, currentSequence_upsertSequence, sequence]
    · obtain ⟨rows, appended, logged, origin⟩ := applied.log
      refine ⟨rows ++ [logRow auth call key response receipt], ?_, ?_, ?_⟩
      · simp [CloudStore.applied, appended]
      · rw [grown]
        apply rel_append logged
        exact .cons ⟨ofStream, same.sequence, same.action, same.clientOpId, rfl⟩ .nil
      · refine forall_mem_append.mpr ⟨fun row old => ?_, forall_mem_singleton.mpr
          ⟨sequence.le, d, member, keyed, same.sequence, same.clientOpId⟩⟩
        obtain ⟨bound, source⟩ := origin row old
        exact ⟨by omega, source⟩
    · obtain ⟨calls, appended, traced⟩ := applied.trace
      refine ⟨calls ++ [call], ?_, ?_⟩
      · simp [CloudStore.applied, appended]
      · rw [grown]
        exact rel_append traced (.cons same .nil)

theorem drain_progress (issuer : ReceiptIssuanceContext → CloudTransactionReceipt)
    (handler : DomainMutationHandler Payload Response)
    (total : ∀ history e, ∃ response, handler history e = .ok response) (auth : AuthContext)
    (aggregateType aggregateId : String)
    (ofStream : streamOf auth aggregateType aggregateId = stream) (fuel drainedCount : Nat)
    (enough : waiting s.buffer < fuel) (positive : 0 < k)
    (applied : AppliedUpTo sha256 stream start ordered deliveries k s)
    (queue : QueueOk sha256 stream start deliveries s.buffer)
    (beyond : WaitsBeyond stream k s.buffer) (retained : Retains stream received k s.buffer) :
    ∃ drained s' k', drain issuer handler auth aggregateType aggregateId fuel s k drainedCount =
        .ok (drained, s') ∧ Progress sha256 stream start ordered deliveries received k' s' := by
  induction fuel generalizing s k drainedCount with
  | zero => omega
  | succ fuel ih =>
    cases search : s.bufferedAt (streamOf auth aggregateType aggregateId) (k + 1) with
    | none =>
      refine ⟨drainedCount, s, k, ?_, applied, queue, beyond, retained, ofStream ▸ search⟩
      exact (drain_eq_ok ..).mpr (.inl ⟨search, rfl, rfl⟩)
    | some row =>
      obtain ⟨member, rowStream, sequence, status⟩ := bufferedAt_eq_some search
      rw [ofStream] at rowStream
      obtain ⟨d, dMember, queued⟩ := queue.queuedFrom fresh member rowStream
      have same : SameOperation d.event
          (bufferedEvent auth aggregateType aggregateId row (k + 1)) := by
        have streams := (work.ofStream d dMember).trans ofStream.symm
        simp only [Delivery.stream, streamOf, StreamKey.mk.injEq] at streams
        obtain ⟨-, -, types, ids⟩ := streams
        exact ⟨by simp [bufferedEvent, queued.clientOpId], types.symm, ids.symm,
          sequence.symm.trans queued.sequence, queued.action, queued.payload⟩
      obtain ⟨response, returned⟩ :=
        total s.invocations (bufferedEvent auth aggregateType aggregateId row (k + 1))
      obtain ⟨free, appliedNext⟩ := applied.next work fresh numbered sorted dMember
        (queued.sequence.symm.trans sequence) queued.key same ofStream
        response (issuer (issuanceContext auth
          (bufferedEvent auth aggregateType aggregateId row (k + 1))))
      have round := (drainOne_eq_ok issuer handler auth aggregateType aggregateId s _ row (k + 1)
        (by rw [ofStream, applied.current]; exact positive)).mpr ⟨response, returned, free, rfl⟩
      have fewer := waiting_markDrained_lt member status
      obtain ⟨drained, s', k', loop, progress⟩ :=
        ih (s := (s.applied ..).markDrained row.id) (drainedCount + 1)
          (Nat.lt_of_lt_of_le fewer (Nat.lt_succ_iff.mp enough)) (Nat.succ_pos k)
          ⟨appliedNext.bound, appliedNext.current, appliedNext.log, appliedNext.trace⟩
          (queue.markDrained fresh member rowStream)
          (beyond.markDrained queue member rowStream sequence)
          (retained.markDrained queue member sequence)
      exact ⟨drained, s', k', (drain_eq_ok ..).mpr (.inr ⟨row, _, search, round, loop⟩), progress⟩

theorem Progress.contiguous
    (progress : Progress sha256 stream start ordered deliveries received k s)
    (member : d ∈ deliveries) (keyed : d.key sha256 = .ok key)
    (expected : d.event.aggregateSequenceNumber = k + 1) :
    ∃ result s' k', applyContiguous d.issuer d.handler d.auth s d.event key = .ok (result, s') ∧
      Progress sha256 stream start ordered deliveries
        (fun r => received r ∨ r = d.event.aggregateSequenceNumber) k' s' := by
  have ofStream : streamOf d.auth d.event.aggregateType d.event.aggregateId = stream :=
    work.ofStream d member
  obtain ⟨response, returned⟩ := work.total d member s.invocations d.event
  obtain ⟨free, applied⟩ := progress.applied.next work fresh numbered sorted member expected
    keyed (SameOperation.refl d.event) ofStream response
    (d.issuer (issuanceContext d.auth d.event))
  have nothingAtNext := (bufferedAt_eq_none s stream (k + 1)).mp progress.settled
  have beyond : WaitsBeyond stream (k + 1) s.buffer := by
    intro row stored rowStream
    have waits := progress.beyond row stored rowStream
    have notNext : row.aggregateSequenceNumber ≠ k + 1 := fun same =>
      nothingAtNext row stored rowStream same (waits.mpr (by omega))
    rw [waits]
    omega
  have retained : Retains stream (fun r => received r ∨ r = d.event.aggregateSequenceNumber)
      (k + 1) s.buffer := by
    intro r got
    rcases got with before | rfl
    · rcases progress.retained r before with old | waits
      · exact .inl (by omega)
      · exact .inr waits
    · exact .inl expected.le
  obtain ⟨drained, s', k', loop, progress'⟩ := drain_progress (s := s.applied ..) (k := k + 1)
    work fresh numbered sorted d.issuer d.handler (work.total d member) d.auth
    d.event.aggregateType d.event.aggregateId ofStream (s.buffer.length + 1) 0
    (Nat.lt_succ_of_le countP_le_length) (Nat.succ_pos k) applied progress.queue beyond retained
  rw [← expected] at loop
  exact ⟨_, s', k', (applyContiguous_eq_ok ..).mpr ⟨response, drained, returned, free, loop, rfl⟩,
    progress'⟩

/-- One delivery, whatever the state of the stream, keeps the invariant and adds its sequence
number to what was received. -/
theorem deliver_progress (progress : Progress sha256 stream start ordered deliveries received k s)
    (member : d ∈ deliveries) :
    ∃ k', Progress sha256 stream start ordered deliveries
      (fun r => received r ∨ r = d.event.aggregateSequenceNumber) k' (deliver sha256 s d) := by
  have wellFormed := work.wellFormed d member
  obtain ⟨key, keyed⟩ := wellFormed.key_ok sha256
  have ofStream := work.ofStream d member
  unfold deliver
  rw [processEvent_wellFormed d key wellFormed.valid keyed, ofStream, progress.applied.current]
  cases search : s.findLog stream.organizationId key with
  | some existing =>
    -- the key is in the log: a duplicate, accepted or refused, of an applied event
    have stored := mem_of_find?_eq_some search
    have found := find?_some search
    simp only [Bool.and_eq_true, beq_iff_eq] at found
    have applied := progress.applied.logged_le work fresh member stored
      (.inl ⟨found.1, by rw [keyed, found.2]⟩)
    refine ⟨k, ?_⟩
    dsimp only
    split
    next outcome =>
      split at outcome
      · simp only [Except.ok.injEq, Prod.mk.injEq] at outcome
        exact outcome.2 ▸ progress.unchanged (.inl applied)
      · simp at outcome
    next => exact progress.unchanged (.inl applied)
  | none =>
    by_cases stale : d.event.aggregateSequenceNumber < k + 1
    · simp only [stale, if_true]
      exact ⟨k, progress.unchanged (.inl (by omega))⟩
    by_cases ahead : k + 1 < d.event.aggregateSequenceNumber
    · simp only [stale, if_false, gt_iff_lt, ahead, if_true]
      exact ⟨k, progress.gap work fresh member keyed ahead (k + 1)⟩
    · obtain ⟨result, s', k', applied, progress'⟩ := progress.contiguous work fresh numbered sorted
        member keyed (by omega)
      simp only [stale, if_false, gt_iff_lt, ahead, applied]
      exact ⟨k', progress'⟩

/-! ### Whole runs -/

theorem deliverAll_progress (run : List (Delivery Payload Response))
    (members : ∀ d ∈ run, d ∈ deliveries)
    (progress : Progress sha256 stream start ordered deliveries received k s) :
    ∃ k', Progress sha256 stream start ordered deliveries
      (fun r => received r ∨ ∃ d ∈ run, r = d.event.aggregateSequenceNumber) k'
      (deliverAll sha256 s run) := by
  induction run generalizing s k received with
  | nil => exact ⟨k, progress.mono fun r got => progress.retained r (by simpa using got)⟩
  | cons d run ih =>
    obtain ⟨k₁, step⟩ := deliver_progress work fresh numbered sorted progress
      (members d mem_cons_self)
    obtain ⟨k₂, rest⟩ := ih (fun d' later => members d' (mem_cons_of_mem d later)) step
    refine ⟨k₂, rest.mono fun r got => rest.retained r ?_⟩
    simpa [or_assoc] using got

theorem deliverAll_complete :
    AppliedUpTo sha256 stream start ordered deliveries n (deliverAll sha256 start deliveries) ∧
      ∀ row ∈ (deliverAll sha256 start deliveries).buffer, row.stream = stream →
        row.status ≠ .buffered := by
  obtain ⟨k, progress⟩ := deliverAll_progress work fresh numbered sorted deliveries
    (fun d member => member) fresh.progress
  apply progress.complete work fresh numbered
  intro r positive bound
  have listed : r ∈ events.map fun e => e.aggregateSequenceNumber :=
    work.sequences.mem_iff.mp (by simp only [mem_range'_1]; omega)
  obtain ⟨e, member, rfl⟩ := mem_map.mp listed
  obtain ⟨d, delivered, rfl⟩ := work.delivered e member
  exact .inr ⟨d, delivered, rfl⟩

end Steps

/-- Deliver the events `1..n` of a stream in any order and any number of times: the handler
runs exactly once for each, in sequence order, the counter ends at `n`, the log gains exactly
one row for each event, and nothing of the stream waits in the queue. -/
theorem deliverAll_applies_each_event_once (sha256 : String → String) (stream : StreamKey) (n : Nat)
    (events : List (SyncEventDTO Payload)) (deliveries : List (Delivery Payload Response))
    (start : CloudStore Payload Response) (work : Workload sha256 stream n events deliveries)
    (fresh : FreshStream sha256 stream deliveries start) :
    ∃ ordered calls rows,
      ordered.Perm events ∧
      ordered.map (fun e => e.aggregateSequenceNumber) = List.range' 1 n ∧
      (deliverAll sha256 start deliveries).invocations = start.invocations ++ calls ∧
      List.Forall₂ SameOperation ordered calls ∧
      (deliverAll sha256 start deliveries).log = start.log ++ rows ∧
      List.Forall₂ (LoggedAs stream) ordered rows ∧
      (deliverAll sha256 start deliveries).currentSequence stream = n ∧
      ∀ row ∈ (deliverAll sha256 start deliveries).buffer, row.stream = stream →
        row.status ≠ .buffered := by
  obtain ⟨ordered, sorted, numbered⟩ := work.exists_ordered
  obtain ⟨applied, settled⟩ := deliverAll_complete work fresh numbered sorted
  have whole : ordered.take n = ordered := by
    apply take_of_length_le
    have lengths := congrArg List.length numbered
    simp only [length_map, length_range'] at lengths
    exact lengths.le
  obtain ⟨rows, appended, logged, -⟩ := applied.log
  obtain ⟨calls, extended, traced⟩ := applied.trace
  rw [whole] at logged traced
  exact ⟨ordered, calls, rows, sorted, numbered, extended, traced, appended, logged,
    applied.current, settled⟩

/-! ### A stream of two events

Two item additions to one account, the second delivered first and both delivered twice. The
digest is given on the canonical texts of these events. -/

theorem injOn_of_texts {sha256 : String → String} {deliveries : List (Delivery Payload Response)}
    (apart : ∀ d ∈ deliveries, ∀ d' ∈ deliveries,
      let text := (canonicalizeIdempotencyPayload (keyComponents d.auth d.event)).toOption
      let text' := (canonicalizeIdempotencyPayload (keyComponents d'.auth d'.event)).toOption
      text.map sha256 = text'.map sha256 → text = text') :
    Set.InjOn sha256 {text | ∃ d ∈ deliveries,
      canonicalizeIdempotencyPayload (keyComponents d.auth d.event) = .ok text} := by
  rintro text ⟨d, member, canonical⟩ text' ⟨d', member', canonical'⟩ same
  simpa [canonical, canonical', Except.toOption, same] using apart d member d' member'

def sampleAuth : AuthContext :=
  { organizationId := "7f1c2d3e-4a5b-4c6d-8e7f-901234567890"
    branchId := "1b2c3d4e-5f60-4718-8293-a4b5c6d7e8f9" }

def sampleFirstOp : String := "3d1f0a52-6b7c-4d8e-9f01-23456789abcd"

def sampleSecondOp : String := "9e8d7c6b-5a49-4382-a716-0f1e2d3c4b5a"

def sampleText (clientOpId : String) : String :=
  JsonText.stringifyArray [sampleAuth.organizationId, sampleAuth.branchId, "CUENTA", "cuenta-1",
    "ADD_ITEM", clientOpId]

def sampleDigest (text : String) : String :=
  if text = sampleText sampleFirstOp then
    "42defec4304eb3a60920fa0fe1979cb61a07af1ea78e24a6417ef7c54bdbdd36"
  else if text = sampleText sampleSecondOp then
    "ec8a265a6242ecfc5aa734531d699e47916644258ceae94d1c9bced5cab45356"
  else "e550d14fd88254ab799b95bb48624e656c9c5dd9b9dd0a47def8dc6621d603f5"

def sampleEvent (clientOpId : String) (sequence : Nat) : SyncEventDTO Nat :=
  { organizationId := none, branchId := none, clientOpId := clientOpId, aggregateType := "CUENTA"
    aggregateId := "cuenta-1", aggregateSequenceNumber := sequence, action := "ADD_ITEM"
    payload := 10 * sequence }

def sampleIssuer (context : ReceiptIssuanceContext) : CloudTransactionReceipt :=
  { receiptId := "rcpt-" ++ context.clientOpId, appliedAt := "2026-09-04T21:00:00.000Z"
    serverSignature := "sig", clientOpId := context.clientOpId
    aggregateSequenceNumber := context.aggregateSequenceNumber }

def sampleDelivery (clientOpId : String) (sequence : Nat) : Delivery Nat Nat :=
  { auth := sampleAuth, event := sampleEvent clientOpId sequence
    issuer := sampleIssuer
    handler := fun history event => .ok (history.length + event.payload) }

theorem sampleDigest_first : sampleDigest (sampleText sampleFirstOp) =
    "42defec4304eb3a60920fa0fe1979cb61a07af1ea78e24a6417ef7c54bdbdd36" := by
  simp [sampleDigest]

theorem sampleDigest_second : sampleDigest (sampleText sampleSecondOp) =
    "ec8a265a6242ecfc5aa734531d699e47916644258ceae94d1c9bced5cab45356" := by
  decide +kernel

def sampleStream : StreamKey := streamOf sampleAuth "CUENTA" "cuenta-1"

def sampleFirst : Delivery Nat Nat := sampleDelivery sampleFirstOp 1

def sampleSecond : Delivery Nat Nat := sampleDelivery sampleSecondOp 2

/-- The operation id of the first event again, in capital letters. -/
def respelled : Delivery Nat Nat := sampleDelivery "3D1F0A52-6B7C-4D8E-9F01-23456789ABCD" 2

theorem sampleWork (second : Delivery Nat Nat) (isSecond : second = sampleSecond ∨ second = respelled) :
    Work sampleDigest sampleStream 2 [sampleFirst.event, second.event]
      [second, sampleFirst, second, sampleFirst] := by
  have each {P : Delivery Nat Nat → Prop} (first : P sampleFirst) (other : P second) :
      ∀ d ∈ [second, sampleFirst, second, sampleFirst], P d := by simp [first, other]
  constructor
  case wellFormed =>
    exact each ⟨rfl, rfl, _, rfl⟩ (by rcases isSecond with rfl | rfl <;> exact ⟨rfl, rfl, _, rfl⟩)
  case ofStream => exact each rfl (by rcases isSecond with rfl | rfl <;> rfl)
  case ofEvents => exact each (by simp) (by simp)
  case delivered =>
    rw [forall_mem_cons, forall_mem_singleton]
    exact ⟨⟨sampleFirst, by simp, rfl⟩, second, by simp, rfl⟩
  case sequences => rcases isSecond with rfl | rfl <;> decide
  case total =>
    exact each (fun _ _ => ⟨_, rfl⟩) (by rcases isSecond with rfl | rfl <;> exact fun _ _ => ⟨_, rfl⟩)
  case collisionFree => rcases isSecond with rfl | rfl <;> exact injOn_of_texts (by decide +kernel)

theorem sampleFresh (deliveries : List (Delivery Nat Nat)) :
    FreshStream sampleDigest sampleStream deliveries (CloudStore.empty Nat Nat) := by
  constructor <;> simp [CloudStore.empty, CloudStore.currentSequence]

theorem sample_applies_each_event_once :
    ∃ ordered calls rows,
      ordered.Perm [sampleFirst.event, sampleSecond.event] ∧
      ordered.map (fun e => e.aggregateSequenceNumber) = List.range' 1 2 ∧
      (deliverAll sampleDigest (CloudStore.empty Nat Nat)
        [sampleSecond, sampleFirst, sampleSecond, sampleFirst]).invocations = [] ++ calls ∧
      List.Forall₂ SameOperation ordered calls ∧
      (deliverAll sampleDigest (CloudStore.empty Nat Nat)
        [sampleSecond, sampleFirst, sampleSecond, sampleFirst]).log = [] ++ rows ∧
      List.Forall₂ (LoggedAs sampleStream) ordered rows ∧
      (deliverAll sampleDigest (CloudStore.empty Nat Nat)
        [sampleSecond, sampleFirst, sampleSecond, sampleFirst]).currentSequence sampleStream = 2 ∧
      ∀ row ∈ (deliverAll sampleDigest (CloudStore.empty Nat Nat)
        [sampleSecond, sampleFirst, sampleSecond, sampleFirst]).buffer,
        row.stream = sampleStream → row.status ≠ .buffered :=
  deliverAll_applies_each_event_once sampleDigest sampleStream 2
    [sampleFirst.event, sampleSecond.event] [sampleSecond, sampleFirst, sampleSecond, sampleFirst]
    (CloudStore.empty Nat Nat) ⟨sampleWork sampleSecond (.inl rfl), by decide⟩ (sampleFresh _)

/-- The second event is queued, and once its turn comes the log refuses it: from then on the first
event is rolled back with it. -/
theorem respelled_operation_never_applied :
    Work sampleDigest sampleStream 2 [sampleFirst.event, respelled.event]
      [respelled, sampleFirst, respelled, sampleFirst] ∧
    ([sampleFirst.event, respelled.event].map SyncEventDTO.clientOpId).Nodup ∧
    FreshStream sampleDigest sampleStream [respelled, sampleFirst, respelled, sampleFirst]
      (CloudStore.empty Nat Nat) ∧
    (deliverAll sampleDigest (CloudStore.empty Nat Nat)
      [respelled, sampleFirst, respelled, sampleFirst]).invocations.length = 0 ∧
    (deliverAll sampleDigest (CloudStore.empty Nat Nat)
      [sampleFirst, respelled, sampleFirst, respelled]).invocations.length = 1 :=
  ⟨sampleWork respelled (.inr rfl), by decide, sampleFresh _, by decide +kernel, by decide +kernel⟩

end TridentPos.Ingestion
