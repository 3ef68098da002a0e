import TridentPos.Pos.CashShift
import TridentPos.Edge.EdgeClient
import TridentPos.Ingestion.Delivery

/-!
# The event of a Corte Z in the cloud

`generarCorteZ` queues its event for an aggregate of its own, the Corte Z, under the number of the
shift as sequence number. The cloud expects the first event of an aggregate to have number one.
-/
namespace TridentPos.Pos

open Core Library Ingestion Fallible

variable {Response : Type}

def deliveryOf (row : Edge.EdgeOutboxRecord PosEvent)
    (issuer : ReceiptIssuanceContext → CloudTransactionReceipt)
    (handler : DomainMutationHandler PosEvent Response) : Delivery PosEvent Response :=
  { auth := { organizationId := row.organizationId, branchId := row.branchId }
    event := row.toSyncEvent, issuer := issuer, handler := handler }

/-! ### What `generarCorteZ` queues -/

variable {corte : CorteCaja}

theorem saveCorteZ_outbox {db db' : EdgeDb} {shift : TurnoCaja} {expectedVersion : Nat}
    {randomOp : String} {interruption : Option DomainError}
    (saved : db.saveCorteZ corte shift expectedVersion randomOp interruption = .ok db') :
    isBlank shift.organizationId = false ∧ isBlank shift.branchId = false ∧
      isValidUuidV4 (corteZOutbox corte shift randomOp).clientOpId ∧
      (corteZOutbox corte shift randomOp).aggregateSequenceNumber ≤ maxSafeInteger ∧
      db'.outbox =
        db.outbox ++ [Edge.pendingRow db.outbox (corteZOutbox corte shift randomOp)] := by
  obtain ⟨tenant, valid, upper, after, swaps, rfl⟩ := saveCorteZ_passed saved
  obtain ⟨-, rfl⟩ := swapTurno_passed swaps
  simp only [checkTenant, refused_eq_ok] at tenant
  exact ⟨by simpa using tenant.1, by simpa using tenant.2.1, valid, upper, rfl⟩

theorem generarCorteZ_saves {oracle : ShiftOracle} {db db' : EdgeDb} {call call' : ShiftCall}
    {command : GenerarCorteZCommand} {closed : TurnoCaja}
    (isCommand : call.command = .generarCorteZ command)
    (running : ∀ result, call.state ≠ .done result) (moved : call.step oracle db = (db', call'))
    (ends : call'.state = .done (.ok (.corte closed corte))) :
    corte.id = oracle.id ∧ ∃ expectedVersion,
      db.saveCorteZ corte closed expectedVersion oracle.randomOp oracle.interruption = .ok db' := by
  obtain ⟨_, state⟩ := call
  obtain rfl : _ = ShiftCommand.generarCorteZ command := isCommand
  unfold ShiftCall.step at moved
  cases state with
  | read =>
    simp only at moved
    split at moved <;>
    · obtain ⟨-, rfl⟩ := Prod.mk.inj moved
      simp at ends
  | pin shift =>
    simp only at moved
    split at moved
    next =>
      obtain ⟨-, rfl⟩ := Prod.mk.inj moved
      simp at ends
    unfold ShiftCall.list at moved
    split at moved <;>
    · obtain ⟨-, rfl⟩ := Prod.mk.inj moved
      simp at ends
  | save shift movements =>
    cases issued : issueCorteZ oracle db command shift movements with
    | error e =>
      simp only [issued, ShiftCall.finish] at moved
      obtain ⟨-, rfl⟩ := Prod.mk.inj moved
      simp at ends
    | ok saved =>
      simp only [issued, ShiftCall.finish] at moved
      obtain ⟨rfl, rfl⟩ := Prod.mk.inj moved
      simp only [issueCorteZ, bind_eq_ok, pure_eq_ok] at issued
      obtain ⟨after, stored, rfl⟩ := issued
      obtain ⟨rfl, rfl⟩ := ends
      exact ⟨rfl, shift.version, stored⟩
  | done result => exact absurd rfl (running result)

/-! ### What the cloud makes of it -/

theorem processEvent_fresh {Payload : Type} {sha256 : String → String}
    {s : CloudStore Payload Response} {d : Delivery Payload Response} (wellFormed : d.WellFormed)
    (positive : 1 ≤ d.event.aggregateSequenceNumber) (fresh : FreshStream sha256 d.stream [d] s)
    (handles : ∃ response, d.handler s.invocations d.event = .ok response) :
    (∃ result s', processEvent sha256 d.issuer s d.auth d.event d.handler = .ok (result, s') ∧
      result.status = .applied) ↔ d.event.aggregateSequenceNumber = 1 := by
  obtain ⟨key, keyed⟩ := wellFormed.key_ok sha256
  obtain ⟨response, handled⟩ := handles
  have unlogged (row : IngestedIdempotencyRecord Response) (stored : row ∈ s.log)
      (tenant : row.stream.organizationId = d.stream.organizationId) : row.idempotencyKey ≠ key :=
    fun same => fresh.logKeys row stored tenant d List.mem_cons_self (by rw [keyed, same])
  have absent : s.findLog d.stream.organizationId key = none := by
    refine List.find?_eq_none.mpr fun row stored hit => ?_
    simp only [Bool.and_eq_true, beq_iff_eq] at hit
    exact unlogged row stored hit.1 hit.2
  rw [processEvent_wellFormed d key wellFormed.valid keyed]
  simp only [absent, fresh.sequence, Nat.not_lt.mpr positive, Nat.zero_add, if_false]
  split
  next ahead =>
    constructor
    · rintro ⟨result, s', buffered, applied⟩
      simp only [bufferGap, bind_eq_ok, pure_eq_ok, Prod.mk.injEq] at buffered
      obtain ⟨_, -, rfl, -⟩ := buffered
      simp at applied
    · intro first
      omega
  next notAhead =>
    refine iff_of_true ?_ (by omega)
    refine ⟨_, s.applied d.auth d.event key response (d.issuer (issuanceContext d.auth d.event)),
      (applyContiguous_eq_ok ..).mpr ⟨response, 0, handled, ?_, ?_, rfl⟩, rfl⟩
    · exact ⟨wellFormed.fits, fun row stored tenant same => unlogged row stored tenant same,
        fun row stored ofStream => absurd ofStream (fresh.log row stored),
        fun row stored ofStream => absurd ofStream (fresh.log row stored)⟩
    · refine (drain_eq_ok ..).mpr (.inl ⟨?_, rfl, rfl⟩)
      refine (bufferedAt_eq_none ..).mpr fun row stored ofStream => ?_
      exact absurd ofStream (fresh.buffer row stored)

theorem ne_empty_of_not_blank {text : String} (named : isBlank text = false) : text ≠ "" := by
  rintro rfl
  simp [isBlank] at named

theorem ne_empty_of_uuid {text : String} (valid : isValidUuidV4 text) : text ≠ "" := by
  rintro rfl
  exact absurd valid (by decide)

theorem length_of_uuid {text : String} (valid : isValidUuidV4 text) : text.length = 36 := by
  have matched : ∀ pattern chars, matchesPattern pattern chars →
      chars.length = pattern.length := by
    intro pattern
    induction pattern with
    | nil | cons _ _ ih => rintro (_ | _) accepted <;> simp_all [matchesPattern]
  exact matched uuidV4Pattern text.toList valid

theorem corteZ_wellFormed (queue : List (Edge.EdgeOutboxRecord PosEvent)) {shift : TurnoCaja}
    {randomOp : String} (issuer : ReceiptIssuanceContext → CloudTransactionReceipt)
    (handler : DomainMutationHandler PosEvent Response)
    (organization : isBlank shift.organizationId = false) (branch : isBlank shift.branchId = false)
    (drawn : isValidUuidV4 corte.id)
    (valid : isValidUuidV4 (corteZOutbox corte shift randomOp).clientOpId)
    (upper : (corteZOutbox corte shift randomOp).aggregateSequenceNumber ≤ maxSafeInteger)
    (positive : 1 ≤ (corteZOutbox corte shift randomOp).aggregateSequenceNumber) :
    (deliveryOf (Edge.pendingRow queue (corteZOutbox corte shift randomOp)) issuer
      handler).WellFormed := by
  constructor
  · have short : corte.id.length ≤ 100 := by
      rw [length_of_uuid drawn]
      decide
    simpa [columnsFit, Delivery.stream, streamOf, deliveryOf, Edge.EdgeOutboxRecord.toSyncEvent,
      Edge.pendingRow, corteZOutbox] using ⟨by decide, short, by decide⟩
  · simp only [validateEvent, deliveryOf, Edge.EdgeOutboxRecord.toSyncEvent, Edge.pendingRow,
      mismatches, valid]
    have notBelow := Nat.not_lt.mpr positive
    have notAbove := Nat.not_lt.mpr upper
    simp [notBelow, notAbove]
  · let delivery := deliveryOf (Edge.pendingRow queue (corteZOutbox corte shift randomOp)) issuer
      handler
    have named : ((keyComponents delivery.auth delivery.event).toList.any (· == "")) = false := by
      have op := ne_empty_of_uuid valid
      simp only [corteZOutbox] at op
      simp [delivery, keyComponents, IdempotencyKeyComponents.toList, deliveryOf, Edge.pendingRow,
        Edge.EdgeOutboxRecord.toSyncEvent, corteZOutbox, ne_empty_of_not_blank organization,
        ne_empty_of_not_blank branch, ne_empty_of_uuid drawn, op]
    exact ⟨_, by rw [canonicalizeIdempotencyPayload, named]; rfl⟩

/-- A cloud that has seen nothing of a Corte Z applies its event just for the first shift. -/
theorem corteZ_applied_iff (sha256 : String → String)
    (issuer : ReceiptIssuanceContext → CloudTransactionReceipt)
    (handler : DomainMutationHandler PosEvent Response) (oracle : ShiftOracle) (db db' : EdgeDb)
    (call call' : ShiftCall) (command : GenerarCorteZCommand) (closed : TurnoCaja)
    (corte : CorteCaja) (isCommand : call.command = .generarCorteZ command)
    (running : ∀ result, call.state ≠ .done result) (moved : call.step oracle db = (db', call'))
    (ends : call'.state = .done (.ok (.corte closed corte)))
    (drawn : isValidUuidV4 oracle.id) :
    ∃ row, db'.outbox = db.outbox ++ [row] ∧ row.aggregateType = "CORTE_Z" ∧
      row.aggregateId = corte.id ∧ ∀ s : CloudStore PosEvent Response,
        FreshStream sha256 (deliveryOf row issuer handler).stream
          [deliveryOf row issuer handler] s →
        (∃ response, handler s.invocations row.toSyncEvent = .ok response) →
        ((∃ result s', processEvent sha256 issuer s ⟨row.organizationId, row.branchId⟩
            row.toSyncEvent handler = .ok (result, s') ∧ result.status = .applied) ↔
          closed.shiftNumber ≤ 1) := by
  obtain ⟨isDrawn, expectedVersion, saved⟩ := generarCorteZ_saves isCommand running moved ends
  obtain ⟨organization, branch, valid, upper, outbox⟩ := saveCorteZ_outbox saved
  refine ⟨_, outbox, rfl, rfl, fun s fresh handles => ?_⟩
  have positive : 1 ≤ (corteZOutbox corte closed oracle.randomOp).aggregateSequenceNumber := by
    simp only [corteZOutbox]
    split <;> omega
  have wellFormed := corteZ_wellFormed db.outbox issuer handler
    organization branch (by rw [isDrawn]; exact drawn) valid upper positive
  have applied := processEvent_fresh wellFormed positive fresh handles
  refine applied.trans ?_
  change (if closed.shiftNumber ≥ 1 then closed.shiftNumber else 1) = 1 ↔ _
  split <;> omega

/-! ### Two shifts

The digest is given on the canonical text of the event, which is the same for both. -/

def corteId : String := "66666666-6666-4666-8666-666666666666"

variable (shiftNumber : Nat)

def countedTurno : TurnoCajaRow :=
  { id := "t", organizationId := "11111111-1111-4111-8111-111111111111"
    branchId := "22222222-2222-4222-8222-222222222222", stationId := "caja-1"
    responsibleUserId := "ana", openedByUserId := "ana", shiftNumber := shiftNumber
    openingCashFloat := 0, closingDeclaredCash := some 0, calculatedCashTotal := some 0
    cashDifference := some 0, status := .cerradoArqueo, assignmentStrategy := "COMPARTIDO"
    openedAt := 0, closedAt := none, version := 2, updatedAt := 1 }

def cutOracle : ShiftOracle :=
  { pinValid := true, now := 2, id := corteId, randomOp := corteId, interruption := none }

def cutCall : ShiftCall :=
  ⟨.generarCorteZ
    { shiftId := "t", closedByUserId := "ana", expectedVersion := 2, closedByPin := some "1234" },
    .read⟩

def cutStep (reached : EdgeDb × ShiftCall) : EdgeDb × ShiftCall :=
  reached.2.step cutOracle reached.1

/-- `generarCorteZ` has listed the movements, and has ended. -/
def cutListed : EdgeDb × ShiftCall :=
  cutStep^[2] ({ EdgeDb.empty with turnos := [countedTurno shiftNumber] }, cutCall)
def cutEnded : EdgeDb × ShiftCall := cutStep (cutListed shiftNumber)

def closedTurno : TurnoCaja :=
  { countedTurno shiftNumber with
    status := .corteZEmitido, closedAt := some 2, version := 3, updatedAt := 2
    participatingOperators := [] }

def cutCorte : CorteCaja :=
  { id := corteId, turnoCajaId := "t", tipoCorte := .corteZ, generatedByUserId := "ana"
    openingCashFloat := 0, totalIngresos := 0, totalEgresos := 0, totalVentasEfectivo := 0
    totalCalculado := 0, totalDeclarado := (countedTurno shiftNumber).closingDeclaredCash
    diferencia := some 0, desgloseOperadores := [], generatedAt := 2 }

def cutRow : Edge.EdgeOutboxRecord PosEvent :=
  Edge.pendingRow [] (corteZOutbox (cutCorte shiftNumber) (closedTurno shiftNumber) corteId)

def corteText : String :=
  JsonText.stringifyArray ["11111111-1111-4111-8111-111111111111",
    "22222222-2222-4222-8222-222222222222", "CORTE_Z", corteId, "CorteZGenerado", corteId]

def corteDigest (text : String) : String :=
  if text = corteText then "c7986a61470c3782da99b5d851037610107104863263c5df9afe590416d8c2e6"
  else ""

def corteHandler : DomainMutationHandler PosEvent Unit := fun _ _ => .ok ()

theorem second_shift_corte_not_applied :
    (cutEnded 2).2.state = .done (.ok (.corte (closedTurno 2) (cutCorte 2))) ∧
    (closedTurno 2).status = .corteZEmitido ∧ (cutEnded 2).1.outbox = [cutRow 2] ∧
    ∃ result s', processEvent corteDigest sampleIssuer (CloudStore.empty PosEvent Unit)
        ⟨(cutRow 2).organizationId, (cutRow 2).branchId⟩ (cutRow 2).toSyncEvent corteHandler =
          .ok (result, s') ∧
      result.status = .requiresReconciliation ∧ result.gapInterval = some ⟨1, 1⟩ := by
  refine ⟨rfl, rfl, rfl, ?_⟩
  have keyed : (deliveryOf (cutRow 2) sampleIssuer corteHandler).key corteDigest =
      .ok (corteDigest corteText) := rfl
  have outcome := processEvent_wellFormed (s := CloudStore.empty PosEvent Unit)
    (deliveryOf (cutRow 2) sampleIssuer corteHandler) _ rfl keyed
  exact ⟨_, _, outcome, rfl, rfl⟩

theorem corte_fresh (row : Edge.EdgeOutboxRecord PosEvent) :
    FreshStream corteDigest (deliveryOf row sampleIssuer corteHandler).stream
      [deliveryOf row sampleIssuer corteHandler] (CloudStore.empty PosEvent Unit) := by
  refine ⟨?_, ?_, rfl, ?_, ?_, .nil⟩ <;>
  · intro row stored
    simp [CloudStore.empty] at stored

theorem first_shift_corte_applied :
    (cutEnded 1).1.outbox = [cutRow 1] ∧
    ∃ result s', processEvent corteDigest sampleIssuer (CloudStore.empty PosEvent Unit)
        ⟨(cutRow 1).organizationId, (cutRow 1).branchId⟩ (cutRow 1).toSyncEvent corteHandler =
          .ok (result, s') ∧ result.status = .applied := by
  obtain ⟨row, outbox, -, -, applied⟩ := corteZ_applied_iff corteDigest sampleIssuer corteHandler
    cutOracle (cutListed 1).1 (cutEnded 1).1 (cutListed 1).2 (cutEnded 1).2 _ (closedTurno 1)
    (cutCorte 1) rfl (fun result => nofun) rfl rfl (by decide +kernel)
  have isRow : (cutEnded 1).1.outbox = [cutRow 1] := rfl
  obtain rfl : cutRow 1 = row := by
    exact List.head_eq_of_cons_eq outbox
  exact ⟨isRow,
    (applied (CloudStore.empty PosEvent Unit) (corte_fresh _) ⟨(), rfl⟩).mpr (by decide)⟩

end TridentPos.Pos
