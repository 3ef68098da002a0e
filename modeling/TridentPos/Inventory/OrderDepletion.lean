import Mathlib.Data.List.Cycle
import TridentPos.Inventory.StockLedger

/-!
# The depletion of one order

An order is delivered again and again, and replayed from quarantine. The calls for it run one after
the other, because each takes the lock of the order first, while other transactions go on. A call
finds out that it comes late from the movements the order already has; an order without movements
is announced by every call.
-/
namespace TridentPos.Inventory

open Core Library LockedStore Interleaving Fallible InventoryProgram InventoryDb Session
open List hiding next

/-! ### What the tables hold of an order -/

structure KdsOrder where
  (organizationId branchId : Uuid)
  ordenId : String

structure KdsOrderProducedEvent.IsOf (event : KdsOrderProducedEvent) (order : KdsOrder) :
    Prop where
  organizationId : readUuid event.organizacionId = .ok order.organizationId
  branchId : readUuid event.sucursalId = .ok order.branchId
  ordenId : event.ordenId = order.ordenId

namespace KdsOrder

def moved (order : KdsOrder) (row : StockLedgerRow) : Bool :=
  row.key.organizationId == order.organizationId && row.key.branchId == order.branchId &&
    row.movementType == .consumoKds && row.referenceEventId == order.ordenId

/-- An `InventarioDescontadoPorReceta` event of the order. -/
def announced (order : KdsOrder) (row : DepletionEventRow) : Bool :=
  row.organizationId == order.organizationId && row.branchId == order.branchId &&
    row.aggregateId == order.ordenId

def parked (order : KdsOrder) (row : QuarantineRow) : Bool :=
  row.organizationId == order.organizationId && row.branchId == order.branchId &&
    row.sourceEventId == order.ordenId

end KdsOrder

structure OrderRecord where
  movements : List StockLedgerRow
  events : List DepletionEventRow
  payloads : List KdsOrderProducedEvent

open KdsOrder

section Record

variable (order : KdsOrder)

def KdsOrder.recordIn (db : InventoryDb) : OrderRecord where
  movements := db.ledger.filter order.moved
  events := db.outbox.filter order.announced
  payloads := (db.quarantine.filter order.parked).map QuarantineRow.payload

def OrderRecord.apply (record : OrderRecord) : InventoryWrite → OrderRecord
  | .ledger row =>
    if order.moved row then { record with movements := record.movements ++ [row] } else record
  | .outbox row =>
    if order.announced row then { record with events := record.events ++ [row] } else record
  | .quarantine row =>
    if order.parked row then
      { record with
        payloads := if record.payloads.isEmpty then [row.payload]
          else record.payloads.map fun _ => row.payload }
    else record
  | _ => record

theorem KdsOrder.sameSource_iff (row stored : QuarantineRow)
    (isParked : order.parked row) : row.sameSource stored = order.parked stored := by
  simp only [parked, Bool.and_eq_true, beq_iff_eq] at isParked
  simp only [QuarantineRow.sameSource, parked, isParked, Bool.beq_comm]

theorem KdsOrder.not_parked_of_sameSource {row stored : QuarantineRow}
    (notParked : order.parked row = false) (same : row.sameSource stored) :
    order.parked stored = false := by
  simp only [QuarantineRow.sameSource, Bool.and_eq_true, beq_iff_eq] at same
  simpa only [parked, same] using notParked

theorem KdsOrder.payloads_map (rows : List QuarantineRow) {f : QuarantineRow → QuarantineRow}
    (kept : ∀ stored, order.parked (f stored) = order.parked stored) :
    ((rows.map f).filter order.parked).map QuarantineRow.payload =
      (rows.filter order.parked).map fun stored => (f stored).payload := by
  rw [filter_map, map_map, show order.parked ∘ f = order.parked from funext kept]
  rfl

theorem KdsOrder.recordIn_apply (db : InventoryDb) (write : InventoryWrite) :
    order.recordIn (db.apply write) = (order.recordIn db).apply order write := by
  cases write with
  | ledger row =>
    cases isMoved : order.moved row <;>
      simp [recordIn, apply, OrderRecord.apply, isMoved]
  | waste row => rfl
  | outbox row =>
    cases isAnnounced : order.announced row <;>
      simp [recordIn, apply, OrderRecord.apply, isAnnounced]
  | replayed organizationId id now =>
    simp only [recordIn, apply, OrderRecord.apply]
    rw [order.payloads_map _ fun stored => by split <;> rfl]
    refine congrArg _ (map_congr_left fun stored _ => ?_)
    split <;> rfl
  | quarantine row =>
    simp only [recordIn, apply, OrderRecord.apply]
    cases isParked : order.parked row with
    | true =>
      have same (stored : QuarantineRow) := order.sameSource_iff row stored isParked
      simp only [if_true]
      split
      next present =>
        obtain ⟨stored, member, hit⟩ := any_eq_true.mp present
        have some : db.quarantine.filter order.parked ≠ [] :=
          ne_nil_of_mem (mem_filter.mpr ⟨member, same stored ▸ hit⟩)
        rw [order.payloads_map _ fun stored => by split <;> rfl]
        simp only [OrderRecord.mk.injEq, true_and, List.isEmpty_iff, List.map_eq_nil_iff, some,
          if_false, map_map]
        refine List.map_congr_left fun stored member => ?_
        rw [if_pos ((same stored).trans (mem_filter.mp member).2)]
        rfl
      next absent =>
        have none : db.quarantine.filter order.parked = [] := by
          refine filter_eq_nil_iff.mpr fun stored member hit => absent ?_
          exact any_eq_true.mpr ⟨stored, member, by rw [same stored, hit]⟩
        simp [none, isParked]
    | false =>
      split
      next =>
        rw [order.payloads_map _ fun stored => by split <;> rfl]
        refine congrArg _ (map_congr_left fun stored member => ?_)
        split
        next hit =>
          have isStored := (mem_filter.mp member).2
          rw [order.not_parked_of_sameSource isParked hit] at isStored
          simp at isStored
        next => rfl
      next => simp [isParked]

/-! ### Calls for the order -/

def InventoryTask.IsFor : InventoryTask → Prop
  | .waste _ => False
  | .kds event _ => event.IsOf order
  | .replay organizationId _ _ => readUuid organizationId = .ok order.organizationId

def InventoryStage.recalls : InventoryStage → Bool
  | .sourceLock pre => order.parked pre
  | _ => true

def InventoryStage.inside : InventoryStage → Bool
  | .start | .sourceLock _ | .done _ => false
  | _ => true

def InventoryProgram.enters (program : InventoryProgram) : Bool :=
  match program.stage, program.task with
  | .start, .replay .. => false
  | .start, _ | .sourceLock _, _ => true
  | _, _ => false

end Record

structure PlacedOrder extends KdsOrder where
  warehouseId : Uuid

instance : Coe PlacedOrder KdsOrder := ⟨PlacedOrder.toKdsOrder⟩

structure KdsOrderProducedEvent.IsAt (event : KdsOrderProducedEvent) (order : PlacedOrder) : Prop
    extends event.IsOf order where
  warehouseId : readUuid event.centroConsumoId = .ok order.warehouseId

def PlacedOrder.Holds (order : PlacedOrder) (movements : List StockLedgerRow) : Prop :=
  ∀ row ∈ movements, row.key.warehouseId = order.warehouseId

structure StockMovement.IsFor (order : KdsOrder) (loop : Depletion) (movement : StockMovement) :
    Prop where
  movementType : movement.movementType = .consumoKds
  referenceEventId : movement.referenceEventId = order.ordenId
  ids : ∃ ingredientId, movement.ids = loop.event.ids ingredientId

structure Depletion.Tracks (order : PlacedOrder) (committed seen : OrderRecord)
    (loop : Depletion) : Prop where
  event : loop.event.IsAt order
  held : order.Holds loop.movements
  untouched : committed.movements = []
  movements : seen.movements = loop.movements
  events : seen.events = committed.events
  payloads : seen.payloads = committed.payloads

def Reports (order : PlacedOrder) (committed seen : OrderRecord) : InventoryResult → Prop
  | .applied _ movements _ _ =>
    committed.movements = [] ∧ movements ≠ [] ∧ order.Holds movements ∧ seen.movements = movements ∧
      ∃ event, seen.events = committed.events ++ [event] ∧ event.movements = movements
  | .duplicateAccepted _ movements _ _ =>
    committed.movements ≠ [] ∧ seen.movements = committed.movements ∧
      seen.events = committed.events ∧ movements.Perm committed.movements
  | .quarantined .. =>
    committed.movements = [] ∧ seen.movements = [] ∧ seen.events = committed.events
  | .waste .. => False

def Tracks (order : PlacedOrder) (committed seen : OrderRecord) : InventoryStage → Prop
  | .start => seen = committed
  | .sourceLock record | .rowLock record => seen = committed ∧ order.parked record
  | .checkOrder event => seen = committed ∧ event.IsOf order
  | .resolve event => seen = committed ∧ event.IsAt order ∧ committed.movements = []
  | .ingredients loop =>
    loop.Tracks order committed seen ∧
      (loop.movements ≠ [] ∨ ∃ item ∈ loop.remaining, item.grossScaled ≠ 0)
  | .lock movement loop | .cost movement (.depletion loop) =>
    loop.Tracks order committed seen ∧ movement.IsFor order loop
  | .balance movement (.depletion loop) | .sequence movement _ (.depletion loop) =>
    loop.Tracks order committed seen ∧ movement.toStockMovement.IsFor order loop
  | .insert _ row (.depletion loop) =>
    loop.Tracks order committed seen ∧ order.moved row ∧
      row.key.warehouseId = order.warehouseId
  | .enqueue loop => loop.Tracks order committed seen ∧ loop.movements ≠ []
  | .markReplayed result | .commit result =>
    Reports order committed seen result ∧ ∀ payload ∈ seen.payloads, payload.IsOf order
  | _ => False

structure OrderRecord.Whole (order : PlacedOrder) (record : OrderRecord) : Prop where
  held : order.Holds record.movements
  together : record.movements = [] ∧ record.events = [] ∨
    record.movements ≠ [] ∧ ∃ event, record.events = [event] ∧ event.movements = record.movements
  ingredients : (record.movements.map fun row => row.key.ingredientId).Nodup
  payloads : ∀ payload ∈ record.payloads, payload.IsOf order

variable {order : PlacedOrder}

theorem OrderRecord.Whole.events_eq_nil {record : OrderRecord} (whole : record.Whole order)
    (untouched : record.movements = []) : record.events = [] := by
  rcases whole.together with ⟨-, none⟩ | ⟨touched, -⟩
  · exact none
  · exact absurd untouched touched

def someMovement : Except InventoryError Resolution → Bool
  | .ok (.ingredients aggregated) => aggregated.any fun item => item.grossScaled != 0
  | _ => true

/-- The ingredients of an order come to some movement, or are not resolved. -/
def depletesSomething (oracle : InventoryOracle) (program : InventoryProgram) : Bool :=
  match program.stage with
  | .resolve event =>
    someMovement (resolveDepletion oracle.recipes program.task.resolver event)
  | _ => true

def namesWarehouse (warehouseId : Uuid) (program : InventoryProgram) : Bool :=
  match program.stage with
  | .checkOrder event =>
    match readUuid event.centroConsumoId with
    | .ok named => named == warehouseId
    | .error _ => true
  | _ => true

/-! ### The statements of a call -/

variable {loop : Depletion}

section Statements

variable (db : InventoryDb) {event : KdsOrderProducedEvent}

theorem filter_located (held : order.Holds (order.recordIn db).movements) :
    (db.ledger.filter fun row => row.key.organizationId == order.organizationId &&
      row.key.branchId == order.branchId && row.key.warehouseId == order.warehouseId &&
      row.movementType == .consumoKds && row.referenceEventId == order.ordenId) =
      (order.recordIn db).movements := by
  refine filter_congr fun row stored => ?_
  cases isMoved : order.moved row with
  | true =>
    have inside := held row (mem_filter.mpr ⟨stored, isMoved⟩)
    simp only [moved, Bool.and_eq_true] at isMoved
    simp [inside, isMoved]
  | false =>
    simp only [moved, Bool.and_eq_false_iff] at isMoved
    simp only [Bool.and_eq_false_iff]
    tauto

theorem findOrder_absent (isAt : event.IsAt order)
    (untouched : (order.recordIn db).movements = []) :
    findOrder db event = .ok none := by
  have held : order.Holds (order.recordIn db).movements := by simp [PlacedOrder.Holds, untouched]
  simp only [findOrder, isAt.organizationId, isAt.branchId, isAt.warehouseId, isAt.ordenId,
    ok_bind, filter_located db held, untouched, insertionSort_nil, isEmpty_nil, if_true]
  rfl

theorem findOrder_present (isAt : event.IsAt order) (held : order.Holds (order.recordIn db).movements)
    (touched : (order.recordIn db).movements ≠ [])
    (queued : DepletionEventRow) (isQueued : (order.recordIn db).events = [queued]) :
    ∃ movements alerts, findOrder db event =
        .ok (some (.duplicateAccepted event.ordenId movements alerts queued.id)) ∧
      movements.Perm (order.recordIn db).movements := by
  have sorted := perm_insertionSort
    (fun a b : StockLedgerRow => a.movementSequenceNumber ≤ b.movementSequenceNumber)
    (order.recordIn db).movements
  have found : db.outbox.find? order.announced = some queued := by
    rw [← head?_filter]
    exact congrArg List.head? isQueued
  have present : ((order.recordIn db).movements.insertionSort fun a b =>
      a.movementSequenceNumber ≤ b.movementSequenceNumber).isEmpty = false := by
    rw [isEmpty_eq_false_iff, ← length_pos_iff, sorted.length_eq, length_pos_iff]
    exact touched
  refine ⟨_, ?_, ?_, sorted⟩
  · exact ((order.recordIn db).movements.insertionSort fun a b =>
      a.movementSequenceNumber ≤ b.movementSequenceNumber).filterMap fun row =>
        negativeStock row.key.texts row
  · unfold announced at found
    simp only [findOrder, isAt.organizationId, isAt.branchId, isAt.warehouseId, isAt.ordenId,
      ok_bind, filter_located db held, present, found, Bool.false_eq_true, if_false]
    rfl

theorem isAt_of_findOrder {found : Option InventoryResult} (isOf : event.IsOf order)
    {program : InventoryProgram} (isCheck : program.stage = .checkOrder event)
    (names : namesWarehouse order.warehouseId program)
    (search : findOrder db event = .ok found) : event.IsAt order := by
  simp only [findOrder, bind_eq_ok] at search
  obtain ⟨-, -, -, -, warehouse, read, -⟩ := search
  simp only [namesWarehouse, isCheck, read, beq_iff_eq] at names
  exact ⟨isOf, by rw [read, names]⟩

variable {organizationId quarantineId : String}

theorem findQuarantine_eq_ok {row : QuarantineRow}
    (found : findQuarantine db organizationId quarantineId = .ok row) :
    readUuid organizationId = .ok row.organizationId ∧ row ∈ db.quarantine := by
  simp only [findQuarantine, bind_eq_ok] at found
  obtain ⟨organization, read, id, -, found⟩ := found
  split at found
  next => simp [throw, throwThe, MonadExceptOf.throw] at found
  next record search =>
    obtain rfl := pure_eq_ok.mp found
    have hit := find?_some search
    simp only [Bool.and_eq_true, beq_iff_eq] at hit
    exact ⟨by rw [read, hit.1], mem_of_find?_eq_some search⟩

theorem revalidate_isOf {pre locked : QuarantineRow}
    (isFor : readUuid organizationId = .ok order.organizationId)
    (isParked : order.parked pre)
    (found : findQuarantine db organizationId quarantineId = .ok locked)
    (valid : revalidate organizationId quarantineId pre locked = .ok event)
    (payloads : ∀ payload ∈ (order.recordIn db).payloads, payload.IsOf order) :
    event.IsOf order := by
  obtain ⟨read, member⟩ := findQuarantine_eq_ok db found
  simp only [revalidate, refused_eq_ok, Except.ok.injEq] at valid
  obtain ⟨same, rfl⟩ := valid
  simp only [not_or, not_not] at same
  have organization : locked.organizationId = order.organizationId :=
    Except.ok.inj (read.symm.trans isFor)
  simp only [parked, Bool.and_eq_true, beq_iff_eq] at isParked
  refine payloads _ (mem_map.mpr ⟨locked, mem_filter.mpr ⟨member, ?_⟩, rfl⟩)
  simp [parked, organization, same.2, isParked]

theorem ledgerRow_moved {id : Uuid} {movement : PricedMovement} {priorBalance : Int}
    {row : StockLedgerRow} (isAt : loop.event.IsAt order)
    (isFor : movement.toStockMovement.IsFor order loop)
    (numbered : ledgerRow db id movement priorBalance = .ok row) :
    order.moved row ∧ row.key.warehouseId = order.warehouseId := by
  obtain ⟨ingredientId, ids⟩ := isFor.ids
  simp only [ledgerRow, bind_eq_ok, pure_eq_ok] at numbered
  obtain ⟨key, names, -, -, -, -, -, -, -, -, -, -, rfl⟩ := numbered
  rw [ids] at names
  simp only [StockIds.key, KdsOrderProducedEvent.ids, isAt.organizationId, isAt.branchId,
    isAt.warehouseId, ok_bind, bind_eq_ok, pure_eq_ok] at names
  obtain ⟨ingredient, -, rfl⟩ := names
  simp [moved, isFor.movementType, isFor.referenceEventId]

end Statements

/-! ### One statement -/

def EffectTracks (order : PlacedOrder) (committed seen : OrderRecord) (program : InventoryProgram) :
    InventoryEffect → Prop
  | .acquires _ next | .reads next =>
    next.task = program.task ∧ (program.stage.inside → next.stage.inside) ∧
      (next.stage.recalls order → Tracks order committed seen next.stage)
  | .writes write next =>
    next.task = program.task ∧ next.stage.inside ∧
      Tracks order committed (seen.apply order write) next.stage
  | .commits next => ∃ result, program.stage = .commit result ∧
      next = program.goTo (.done (.ok result))
  | .aborts _ => False

variable {committed seen : OrderRecord}

theorem Depletion.Tracks.remaining {loop : Depletion} (tracks : loop.Tracks order committed seen)
    (rest : List IngredientQuantity) :
    ({ loop with remaining := rest } : Depletion).Tracks order committed seen :=
  ⟨tracks.event, tracks.held, tracks.untouched, tracks.movements, tracks.events, tracks.payloads⟩

theorem tracks_afterDepletion (order : PlacedOrder) (committed seen : OrderRecord)
    (program : InventoryProgram) (result : InventoryResult)
    (reports : Reports order committed seen result)
    (payloads : ∀ payload ∈ seen.payloads, payload.IsOf order) :
    (program.afterDepletion result).task = program.task ∧
      (program.afterDepletion result).stage.inside ∧
      Tracks order committed seen (program.afterDepletion result).stage := by
  unfold afterDepletion
  split <;> exact ⟨rfl, rfl, reports, payloads⟩

section Statement

variable {hashtext : String → Int} {oracle : InventoryOracle} {db : InventoryDb}
  {program : InventoryProgram} {effect : InventoryEffect}
  (stated : program.statement hashtext oracle db = .ok effect)

include stated

theorem start_tracks (isFor : program.task.IsFor order) (isStart : program.stage = .start)
    (same : order.recordIn db = committed) :
    EffectTracks order committed (order.recordIn db) program effect := by
  simp only [statement, isStart] at stated
  split at stated
  next command task =>
    rw [task] at isFor
    exact isFor.elim
  next event resolver task =>
    obtain rfl := pure_eq_ok.mp stated
    rw [task] at isFor
    exact ⟨rfl, fun _ => rfl, fun _ => ⟨same, isFor⟩⟩
  next organizationId quarantineId resolver task =>
    simp only [bind_eq_ok, pure_eq_ok] at stated
    obtain ⟨record, -, rfl⟩ := stated
    exact ⟨rfl, fun inside => by simp [isStart, InventoryStage.inside] at inside,
      fun isParked => ⟨same, isParked⟩⟩

theorem sourceLock_tracks {record : QuarantineRow} (isLock : program.stage = .sourceLock record)
    (tracks : Tracks order committed (order.recordIn db) program.stage) :
    EffectTracks order committed (order.recordIn db) program effect := by
  simp only [statement, isLock] at stated
  split at stated <;> obtain rfl := pure_eq_ok.mp stated
  next =>
    rw [isLock] at tracks
    exact ⟨rfl, fun _ => rfl, fun _ => tracks⟩
  next => exact ⟨rfl, id, fun _ => tracks⟩

theorem rowLock_tracks (whole : committed.Whole order) (isFor : program.task.IsFor order)
    {record : QuarantineRow} (isLock : program.stage = .rowLock record)
    (tracks : Tracks order committed (order.recordIn db) program.stage) :
    EffectTracks order committed (order.recordIn db) program effect := by
  simp only [statement, isLock] at stated
  split at stated
  next organizationId quarantineId resolver task =>
    simp only [bind_eq_ok, pure_eq_ok] at stated
    obtain ⟨locked, found, event, valid, rfl⟩ := stated
    rw [task] at isFor
    rw [isLock] at tracks
    obtain ⟨same, isParked⟩ := tracks
    refine ⟨rfl, fun _ => rfl, fun _ => ⟨same, ?_⟩⟩
    exact revalidate_isOf db isFor isParked found valid (by rw [same]; exact whole.payloads)
  next =>
    obtain rfl := pure_eq_ok.mp stated
    exact ⟨rfl, id, fun _ => tracks⟩

variable {event : KdsOrderProducedEvent}

theorem checkOrder_tracks (whole : committed.Whole order)
    (isCheck : program.stage = .checkOrder event) (same : order.recordIn db = committed)
    (isOf : event.IsOf order) (names : namesWarehouse order.warehouseId program) :
    EffectTracks order committed (order.recordIn db) program effect := by
  simp only [statement, isCheck, bind_eq_ok] at stated
  obtain ⟨found, search, stated⟩ := stated
  have isAt := isAt_of_findOrder db isOf isCheck names search
  rcases whole.together with ⟨untouched, -⟩ | ⟨touched, queued, isQueued, -⟩
  · rw [findOrder_absent db isAt (by rw [same]; exact untouched)] at search
    obtain rfl := Except.ok.inj search
    obtain rfl := pure_eq_ok.mp stated
    exact ⟨rfl, fun _ => rfl, fun _ => ⟨same, isAt, untouched⟩⟩
  · obtain ⟨movements, alerts, search', sorted⟩ := findOrder_present db isAt
      (by rw [same]; exact whole.held) (by rw [same]; exact touched) queued (by rw [same]; exact isQueued)
    rw [search'] at search
    obtain rfl := Except.ok.inj search
    obtain rfl := pure_eq_ok.mp stated
    rw [same] at sorted ⊢
    obtain ⟨task, inside, tracks⟩ := tracks_afterDepletion order committed committed program
      (.duplicateAccepted event.ordenId movements alerts queued.id)
      ⟨touched, rfl, rfl, sorted⟩ whole.payloads
    exact ⟨task, fun _ => inside, fun _ => tracks⟩

theorem resolve_tracks (isResolve : program.stage = .resolve event)
    (same : order.recordIn db = committed) (isAt : event.IsAt order)
    (untouched : committed.movements = []) (depletes : depletesSomething oracle program) :
    EffectTracks order committed (order.recordIn db) program effect := by
  simp only [statement, isResolve, bind_eq_ok] at stated
  obtain ⟨resolution, resolved, stated⟩ := stated
  split at stated
  next =>
    simp only [bind_eq_ok, pure_eq_ok] at stated
    obtain ⟨row, made, rfl⟩ := stated
    simp only [quarantineRow, isAt.organizationId, isAt.branchId, ok_bind, pure_eq_ok] at made
    have isParked : order.parked row := by
      subst made
      simp [parked, isAt.ordenId]
    have isPayload : row.payload = event := by
      subst made
      rfl
    refine tracks_afterDepletion order committed _ program _ ?_ ?_
    · simp only [OrderRecord.apply, isParked, if_true, same]
      exact ⟨untouched, untouched, rfl⟩
    · intro payload member
      simp only [OrderRecord.apply, isParked, if_true] at member
      suffices payload = event by
        rw [this]
        exact isAt.toIsOf
      split at member
      next => rw [mem_singleton.mp member, isPayload]
      next =>
        obtain ⟨_, -, rfl⟩ := mem_map.mp member
        exact isPayload
  next aggregated =>
    obtain rfl := pure_eq_ok.mp stated
    simp only [depletesSomething, isResolve, resolved, someMovement, any_eq_true, bne_iff_ne] at depletes
    refine ⟨rfl, fun _ => rfl, fun _ =>
      ⟨⟨isAt, by simp [PlacedOrder.Holds], untouched, ?_, ?_, ?_⟩, .inr depletes⟩⟩
    · rw [same, untouched]
    · rw [same]
    · rw [same]

theorem ingredients_tracks (isLoop : program.stage = .ingredients loop)
    (tracks : loop.Tracks order committed (order.recordIn db))
    (more : loop.movements ≠ [] ∨ ∃ item ∈ loop.remaining, item.grossScaled ≠ 0) :
    EffectTracks order committed (order.recordIn db) program effect := by
  simp only [statement, isLoop] at stated
  split at stated
  next empty =>
    obtain rfl := pure_eq_ok.mp stated
    refine ⟨rfl, fun _ => rfl, fun _ => ⟨tracks, ?_⟩⟩
    simpa [empty] using more
  next item rest remaining =>
    split at stated <;> obtain rfl := pure_eq_ok.mp stated
    next zero =>
      refine ⟨rfl, fun _ => rfl, fun _ => ⟨tracks.remaining rest, more.imp_right ?_⟩⟩
      rintro ⟨other, member, nonzero⟩
      rw [remaining] at member
      rcases mem_cons.mp member with rfl | later
      · exact absurd zero nonzero
      · exact ⟨other, later, nonzero⟩
    next =>
      exact ⟨rfl, fun _ => rfl, fun _ =>
        ⟨tracks.remaining rest, rfl, tracks.event.ordenId, item.ingredientId, rfl⟩⟩

theorem insert_tracks {ids : StockIds} {row : StockLedgerRow}
    (isInsert : program.stage = .insert ids row (.depletion loop))
    (tracks : loop.Tracks order committed (order.recordIn db)) (isMoved : order.moved row)
    (inside : row.key.warehouseId = order.warehouseId) :
    EffectTracks order committed (order.recordIn db) program effect := by
  simp only [statement, isInsert, pure_eq_ok] at stated
  subst stated
  refine ⟨rfl, rfl, ⟨tracks.event, ?_, tracks.untouched, ?_, ?_, ?_⟩, .inl (by simp)⟩
  · exact forall_mem_append.mpr ⟨tracks.held, forall_mem_singleton.mpr inside⟩
  · simp [OrderRecord.apply, isMoved, tracks.movements]
  · simp [OrderRecord.apply, isMoved, tracks.events]
  · simp [OrderRecord.apply, isMoved, tracks.payloads]

theorem enqueue_tracks (whole : committed.Whole order) (isEnqueue : program.stage = .enqueue loop)
    (tracks : loop.Tracks order committed (order.recordIn db)) (some : loop.movements ≠ []) :
    EffectTracks order committed (order.recordIn db) program effect := by
  simp only [statement, isEnqueue, bind_eq_ok, pure_eq_ok] at stated
  obtain ⟨event, made, rfl⟩ := stated
  simp only [depletionEvent, tracks.event.organizationId, tracks.event.branchId,
    ok_bind, pure_eq_ok] at made
  have isAnnounced : order.announced event := by
    subst made
    simp [announced, tracks.event.ordenId]
  refine tracks_afterDepletion order committed _ program _ ?_ ?_
  · simp only [OrderRecord.apply, isAnnounced, if_true]
    refine ⟨tracks.untouched, some, tracks.held, tracks.movements, event, by rw [tracks.events], ?_⟩
    subst made
    rfl
  · simp only [OrderRecord.apply, isAnnounced, if_true, tracks.payloads]
    exact whole.payloads

theorem statement_tracks (whole : committed.Whole order) (isFor : program.task.IsFor order)
    (tracks : Tracks order committed (order.recordIn db) program.stage)
    (names : namesWarehouse order.warehouseId program)
    (depletes : depletesSomething oracle program) :
    EffectTracks order committed (order.recordIn db) program effect := by
  cases stage : program.stage with
  | start =>
    rw [stage] at tracks
    exact start_tracks stated isFor stage tracks
  | sourceLock record =>
    exact sourceLock_tracks stated stage tracks
  | rowLock record =>
    exact rowLock_tracks stated whole isFor stage tracks
  | checkOrder event =>
    rw [stage] at tracks
    exact checkOrder_tracks stated whole stage tracks.1 tracks.2 names
  | resolve event =>
    rw [stage] at tracks
    obtain ⟨same, isAt, untouched⟩ := tracks
    exact resolve_tracks stated stage same isAt untouched depletes
  | ingredients loop =>
    rw [stage] at tracks
    exact ingredients_tracks stated stage tracks.1 tracks.2
  | lock movement loop =>
    simp only [statement, stage, pure_eq_ok] at stated
    subst stated
    rw [stage] at tracks
    exact ⟨rfl, fun _ => rfl, fun _ => tracks⟩
  | cost movement purpose =>
    simp only [statement, stage, bind_eq_ok, pure_eq_ok] at stated
    obtain ⟨priced, accepted, rfl⟩ := stated
    rw [stage] at tracks
    refine ⟨rfl, fun _ => rfl, fun _ => ?_⟩
    cases purpose with
    | waste => exact tracks.elim
    | depletion loop => exact ⟨tracks.1, by rw [(priceMovement_eq_ok accepted).1]; exact tracks.2⟩
  | balance movement purpose =>
    simp only [statement, stage, bind_eq_ok, pure_eq_ok] at stated
    obtain ⟨priorBalance, -, rfl⟩ := stated
    rw [stage] at tracks
    cases purpose with
    | waste => exact tracks.elim
    | depletion loop => exact ⟨rfl, fun _ => rfl, fun _ => tracks⟩
  | sequence movement priorBalance purpose =>
    simp only [statement, stage, bind_eq_ok, pure_eq_ok] at stated
    obtain ⟨row, numbered, rfl⟩ := stated
    rw [stage] at tracks
    cases purpose with
    | waste => exact tracks.elim
    | depletion loop =>
      have isMoved := ledgerRow_moved db tracks.1.event tracks.2 numbered
      exact ⟨rfl, fun _ => rfl, fun _ => ⟨tracks.1, isMoved⟩⟩
  | insert ids row purpose =>
    rw [stage] at tracks
    cases purpose with
    | waste => exact tracks.elim
    | depletion loop =>
      exact insert_tracks stated stage tracks.1 tracks.2.1 tracks.2.2
  | enqueue loop =>
    rw [stage] at tracks
    exact enqueue_tracks stated whole stage tracks.1 tracks.2
  | markReplayed result =>
    simp only [statement, stage] at stated
    split at stated
    next =>
      simp only [bind_eq_ok, pure_eq_ok] at stated
      obtain ⟨organization, -, id, -, rfl⟩ := stated
      rw [stage] at tracks
      exact ⟨rfl, rfl, tracks⟩
    next =>
      obtain rfl := pure_eq_ok.mp stated
      exact ⟨rfl, id, fun _ => tracks⟩
  | commit result =>
    simp only [statement, stage, pure_eq_ok] at stated
    subst stated
    exact ⟨result, stage, rfl⟩
  | checkWaste | record | done =>
    rw [stage] at tracks
    exact tracks.elim

end Statement

/-! ### Runs -/

structure OrderState where
  db : InventoryDb
  results : List (Except InventoryError InventoryResult)

def outcome (program next : InventoryProgram) : List (Except InventoryError InventoryResult) :=
  match program.stage, next.stage with
  | .done _, _ => []
  | _, .done result => [result]
  | _, _ => []

def OrderMove (order : KdsOrder) (acts : InventoryDb → InventoryProgram → InventoryEffect → Prop)
    (state : OrderState) (session : InventorySession) (state' : OrderState)
    (session' : InventorySession) : Prop :=
  Move apply InventoryDb.Consistent acts state.db session state'.db session' ∧
    session'.program.stage.recalls order ∧
    state'.results = state.results ++ outcome session.program session'.program

/-- The statements of calls that name the warehouse and whose ingredients come to some movement. -/
def DepletingActs (hashtext : String → Int) (warehouseId : Uuid) (db : InventoryDb)
    (program : InventoryProgram) (effect : InventoryEffect) : Prop :=
  namesWarehouse warehouseId program ∧
    ∃ oracle, depletesSomething oracle program ∧ program.act hashtext oracle db = effect

abbrev DepletingMove (hashtext : String → Int) (order : PlacedOrder) :
    OrderState → InventorySession → OrderState → InventorySession → Prop :=
  OrderMove order (DepletingActs hashtext order.warehouseId)

theorem DepletingActs.acts {hashtext : String → Int} {warehouseId : Uuid} (db : InventoryDb)
    (program : InventoryProgram) (effect : InventoryEffect)
    (act : DepletingActs hashtext warehouseId db program effect) :
    InventoryActs hashtext db program effect :=
  let ⟨_, oracle, _, acted⟩ := act
  ⟨oracle, acted⟩

def LeavesOrder (order : KdsOrder) (state state' : OrderState) : Prop :=
  order.recordIn state'.db = order.recordIn state.db ∧ state'.results = state.results

def Serialised (_ : OrderState) (session other : InventorySession) : Prop :=
  session.program.enters → other.program.stage.inside = false
deriving Decidable

def Follows (earlier later : Except InventoryError InventoryResult) : Prop :=
  ∀ ordenId movements alerts id, earlier = .ok (.applied ordenId movements alerts id) →
    (∃ error, later = .error error) ∨
      ∃ ordenId' movements' alerts' id',
        later = .ok (.duplicateAccepted ordenId' movements' alerts' id') ∧
        movements'.Perm movements

structure OrderState.Sound (order : PlacedOrder) (state : OrderState) : Prop where
  whole : (order.recordIn state.db).Whole order
  applied : ∀ ordenId movements alerts id,
    .ok (.applied ordenId movements alerts id) ∈ state.results →
      (order.recordIn state.db).movements = movements ∧ movements ≠ []
  follows : state.results.Pairwise Follows

structure CallTracks (order : PlacedOrder) (state : OrderState) (session : InventorySession) :
    Prop where
  isFor : session.program.task.IsFor order
  unwritten : session.program.stage.inside = false → session.written = []
  tracks : (∃ result, session.program.stage = .done result) ∨
    Tracks order (order.recordIn state.db)
      (order.recordIn (session.visible apply state.db)) session.program.stage

theorem outcome_of_tracks (program next : InventoryProgram)
    (tracks : Tracks order committed seen next.stage) : outcome program next = [] := by
  unfold outcome
  split
  next => rfl
  next isDone _ =>
    rw [isDone] at tracks
    exact tracks.elim
  next => rfl

theorem act_cases (hashtext : String → Int) (oracle : InventoryOracle) (db : InventoryDb)
    (program : InventoryProgram) :
    (∃ result, program.stage = .done result) ∧
        program.act hashtext oracle db = .reads program ∨
      (∀ result, program.stage ≠ .done result) ∧
        ((∃ error, program.act hashtext oracle db = .aborts (program.goTo (.done (.error error)))) ∨
          program.statement hashtext oracle db = .ok (program.act hashtext oracle db)) := by
  unfold act
  split
  next _ result isDone => exact .inl ⟨⟨result, isDone⟩, rfl⟩
  next error _ notDone => exact .inr ⟨fun result => notDone result, .inl ⟨error, rfl⟩⟩
  next _ notDone =>
    refine .inr ⟨fun result => notDone result, ?_⟩
    split
    next error _ => exact .inl ⟨error, rfl⟩
    next effect stated => exact .inr stated

section Runs

variable (hashtext : String → Int) (order : PlacedOrder)

theorem recordIn_visible (session : InventorySession) {db db' : InventoryDb}
    (same : order.recordIn db = order.recordIn db') :
    order.recordIn (session.visible apply db) = order.recordIn (session.visible apply db') :=
  part_visible order.recordIn (fun write same => by
    rw [order.recordIn_apply, order.recordIn_apply, same]) session db db' same

variable {session session' : InventorySession}

theorem CallTracks.outside (state state' : OrderState) (tracks : CallTracks order state session)
    (outside : session.program.stage.inside = false) : CallTracks order state' session := by
  refine ⟨tracks.isFor, tracks.unwritten, ?_⟩
  have visible (db : InventoryDb) : session.visible apply db = db := by
    rw [visible, tracks.unwritten outside, foldl_nil]
  have inStep := tracks.tracks
  rw [visible] at inStep ⊢
  rcases inStep with ended | inStep
  · exact .inl ended
  · right
    cases stage : session.program.stage with
    | start => rfl
    | sourceLock record =>
      rw [stage] at inStep
      exact ⟨rfl, inStep.2⟩
    | done result =>
      rw [stage] at inStep
      exact inStep.elim
    | _ => simp [InventoryStage.inside, stage] at outside

variable {state state' : OrderState}

theorem OrderMove.outside {acts : InventoryDb → InventoryProgram → InventoryEffect → Prop}
    (isAct : ∀ db program effect, acts db program effect → InventoryActs hashtext db program effect)
    (moved : OrderMove order acts state session state' session')
    (outside : session.program.stage.inside = false) (waits : session.program.enters = false) :
    state'.db = state.db ∧ session'.program.stage.inside = false := by
  have stays (db : InventoryDb) (effect : InventoryEffect)
      (act : acts db session.program effect) :
      (∃ next, effect = .reads next ∧ next.stage.inside = false) ∨
        ∃ next, effect = .aborts next ∧ next.stage.inside = false := by
    obtain ⟨oracle, rfl⟩ := isAct _ _ _ act
    rcases act_cases hashtext oracle db session.program with
      ⟨-, ended⟩ | ⟨notDone, ⟨error, aborted⟩ | stated⟩
    · exact .inl ⟨_, ended, outside⟩
    · exact .inr ⟨_, aborted, rfl⟩
    · generalize session.program.act hashtext oracle db = effect at stated ⊢
      cases stage : session.program.stage with
      | start =>
        cases task : session.program.task with
        | replay organizationId quarantineId resolver =>
          simp only [statement, stage, task, bind_eq_ok, pure_eq_ok] at stated
          obtain ⟨record, -, rfl⟩ := stated
          exact .inl ⟨_, rfl, rfl⟩
        | _ => simp [enters, stage, task] at waits
      | sourceLock record => simp [enters, stage] at waits
      | done result => exact absurd stage (notDone result)
      | _ => simp [InventoryStage.inside, stage] at outside
  obtain ⟨moved, -, -⟩ := moved
  generalize state'.db = db' at moved ⊢
  cases moved with
  | reads next act | aborts next act =>
    rcases stays _ _ act with ⟨_, same, inside⟩ | ⟨_, same, inside⟩
    all_goals
      cases same
      try exact ⟨rfl, inside⟩
  | acquires key next act | writes write next act | commits next act valid =>
    rcases stays _ _ act with ⟨_, same, -⟩ | ⟨_, same, -⟩ <;> cases same

theorem nodup_ingredients {db : InventoryDb} (consistent : db.Consistent)
    (held : order.Holds (order.recordIn db).movements) :
    ((order.recordIn db).movements.map fun row => row.key.ingredientId).Nodup := by
  have keys := pairwise_map.mp consistent.2.2.1
  refine pairwise_map.mpr ((keys.filter order.moved).imp_of_mem ?_)
  intro row other member member' differs same
  have warehouse := (held row member).trans (held other member').symm
  have isMoved := (mem_filter.mp member).2
  have isMoved' := (mem_filter.mp member').2
  simp only [moved, Bool.and_eq_true, beq_iff_eq] at isMoved isMoved'
  refine differs ?_
  obtain ⟨⟨⟨org, branch⟩, type⟩, reference⟩ := isMoved
  obtain ⟨⟨⟨org', branch'⟩, type'⟩, reference'⟩ := isMoved'
  have sameKey : row.key = other.key := by
    cases isKey : row.key
    cases isKey' : other.key
    simp_all
  rw [sameKey, type, type', reference, reference']

theorem pairwise_append_last {α : Type} {R : α → α → Prop} {xs : List α} {x : α}
    (pairs : xs.Pairwise R) (last : ∀ y ∈ xs, R y x) : (xs ++ [x]).Pairwise R :=
  pairwise_append.mpr ⟨pairs, pairwise_singleton _ _, by simpa using last⟩

theorem OrderState.Sound.commit (state : OrderState) (sound : state.Sound order)
    (db' : InventoryDb) (result : InventoryResult) (consistent : db'.Consistent)
    (reports : Reports order (order.recordIn state.db) (order.recordIn db') result)
    (payloads : ∀ payload ∈ (order.recordIn db').payloads, payload.IsOf order) :
    OrderState.Sound order ⟨db', state.results ++ [.ok result]⟩ := by
  have unapplied (untouched : (order.recordIn state.db).movements = []) (ordenId : String)
      (movements : List StockLedgerRow) (alerts : List NegativeStockSignal) (id : Uuid) :
      .ok (.applied ordenId movements alerts id) ∉ state.results := by
    intro member
    obtain ⟨same, some⟩ := sound.applied _ _ _ _ member
    exact some (same ▸ untouched)
  have vacuous (untouched : (order.recordIn state.db).movements = []) :
      ∀ earlier ∈ state.results, Follows earlier (.ok result) := by
    rintro earlier member ordenId movements alerts id rfl
    exact absurd member (unapplied untouched _ _ _ _)
  have ingredients := nodup_ingredients order consistent
  cases result with
  | waste => exact reports.elim
  | applied ordenId movements alerts id =>
    obtain ⟨untouched, some, held, seen, event, events, isEvent⟩ := reports
    rw [sound.whole.events_eq_nil untouched] at events
    rw [← seen] at held isEvent
    refine ⟨⟨held, .inr ⟨seen ▸ some, event, events, isEvent⟩, ingredients held, payloads⟩, ?_,
      pairwise_append_last sound.follows (vacuous untouched)⟩
    intro ordenId' movements' alerts' id' member
    rcases mem_append.mp member with earlier | isLast
    · exact absurd earlier (unapplied untouched _ _ _ _)
    · simp only [mem_singleton, Except.ok.injEq, InventoryResult.applied.injEq] at isLast
      obtain ⟨-, rfl, -, -⟩ := isLast
      exact ⟨seen, some⟩
  | duplicateAccepted ordenId movements alerts id =>
    obtain ⟨touched, seen, events, sorted⟩ := reports
    have held : order.Holds (order.recordIn db').movements := seen ▸ sound.whole.held
    refine ⟨⟨held, by rw [seen, events]; exact sound.whole.together, ingredients held, payloads⟩,
      ?_, pairwise_append_last sound.follows ?_⟩
    · intro ordenId' movements' alerts' id' member
      rw [seen]
      exact sound.applied _ _ _ _ (by simpa using member)
    · rintro earlier member ordenId' movements' alerts' id' rfl
      obtain ⟨rfl, -⟩ := sound.applied _ _ _ _ member
      exact .inr ⟨ordenId, movements, alerts, id, rfl, sorted⟩
  | quarantined ordenId quarantineId reason =>
    obtain ⟨untouched, seen, events⟩ := reports
    rw [sound.whole.events_eq_nil untouched] at events
    have held : order.Holds (order.recordIn db').movements := by simp [PlacedOrder.Holds, seen]
    refine ⟨⟨held, .inl ⟨seen, events⟩, ingredients held, payloads⟩, ?_,
      pairwise_append_last sound.follows (vacuous untouched)⟩
    intro ordenId' movements' alerts' id' member
    exact absurd (by simpa using member) (unapplied untouched ordenId' movements' alerts' id')

theorem OrderState.Sound.abort (sound : state.Sound order) (error : InventoryError) :
    OrderState.Sound order ⟨state.db, state.results ++ [.error error]⟩ :=
  ⟨sound.whole, fun ordenId movements alerts id member =>
      sound.applied _ _ _ _ (by simpa using member),
    pairwise_append_last sound.follows fun _ _ _ _ _ _ _ => .inl ⟨error, rfl⟩⟩

theorem DepletingActs.cases (state : OrderState) (session : InventorySession)
    (effect : InventoryEffect) (sound : state.Sound order) (tracks : CallTracks order state session)
    (acts : DepletingActs hashtext order.warehouseId (session.visible apply state.db) session.program effect) :
    (∃ result, session.program.stage = .done result) ∧ effect = .reads session.program ∨
      (∀ result, session.program.stage ≠ .done result) ∧
        ((∃ error, effect = .aborts (session.program.goTo (.done (.error error)))) ∨
          EffectTracks order (order.recordIn state.db)
            (order.recordIn (session.visible apply state.db)) session.program
            effect) := by
  obtain ⟨names, oracle, depletes, rfl⟩ := acts
  rcases act_cases hashtext oracle (session.visible apply state.db) session.program with
    ended | ⟨notDone, aborted | stated⟩
  · exact .inl ended
  · exact .inr ⟨notDone, .inl aborted⟩
  · refine .inr ⟨notDone, .inr ?_⟩
    rcases tracks.tracks with ⟨result, isDone⟩ | inStep
    · exact absurd isDone (notDone result)
    · exact statement_tracks stated sound.whole tracks.isFor inStep names depletes

theorem outcome_done {program : InventoryProgram} (result : Except InventoryError InventoryResult)
    (notDone : ∀ result, program.stage ≠ .done result) :
    outcome program (program.goTo (.done result)) = [result] := by
  unfold outcome
  split
  next isDone => exact absurd isDone (notDone _)
  next same _ =>
    obtain rfl := InventoryStage.done.inj same
    rfl
  next notResult => exact absurd rfl (notResult _)

theorem OrderMove.keeps (sound : state.Sound order) (tracks : CallTracks order state session)
    (moved : DepletingMove hashtext order state session state' session') :
    state'.Sound order ∧ CallTracks order state' session' := by
  obtain ⟨db', results'⟩ := state'
  obtain ⟨moved, recalls, results⟩ := moved
  subst results
  have acted := fun effect act =>
    DepletingActs.cases hashtext order state session effect sound tracks act
  have unwritten (next : InventoryProgram)
      (inside : session.program.stage.inside → next.stage.inside)
      (outside : next.stage.inside = false) : session.written = [] := by
    refine tracks.unwritten (Bool.eq_false_iff.mpr fun isInside => ?_)
    simp [inside isInside] at outside
  cases moved with
  | acquires key next act =>
    obtain ⟨-, ⟨⟩⟩ | ⟨notDone, ⟨error, ⟨⟩⟩ | ⟨task, inside, inStep⟩⟩ := acted _ act
    · rw [outcome_of_tracks _ _ (inStep recalls), append_nil]
      exact ⟨sound, by rw [task]; exact tracks.isFor, unwritten next inside, .inr (inStep recalls)⟩
  | reads next act =>
    obtain ⟨⟨result, isDone⟩, ⟨⟩⟩ | ⟨-, ⟨error, ⟨⟩⟩ | ⟨task, inside, inStep⟩⟩ := acted _ act
    · have none : outcome session.program session.program = [] := by
        simp [outcome, isDone]
      rw [none, append_nil]
      exact ⟨sound, tracks.isFor, tracks.unwritten, .inl ⟨result, isDone⟩⟩
    · rw [outcome_of_tracks _ _ (inStep recalls), append_nil]
      exact ⟨sound, by rw [task]; exact tracks.isFor, unwritten next inside, .inr (inStep recalls)⟩
  | writes write next act =>
    obtain ⟨-, ⟨⟩⟩ | ⟨notDone, ⟨error, ⟨⟩⟩ | ⟨task, inside, inStep⟩⟩ := acted _ act
    · rw [outcome_of_tracks _ _ inStep, append_nil]
      refine ⟨sound, by rw [task]; exact tracks.isFor, fun outside => ?_, .inr ?_⟩
      · simp [inside] at outside
      · rw [visible_append, order.recordIn_apply]
        exact inStep
  | commits next act valid =>
    obtain ⟨-, ⟨⟩⟩ | ⟨notDone, ⟨error, ⟨⟩⟩ | ⟨result, isCommit, rfl⟩⟩ := acted _ act
    · rcases tracks.tracks with ⟨result', isDone⟩ | inStep
      · exact absurd isDone (notDone result')
      · rw [isCommit] at inStep
        rw [start_program, outcome_done _ notDone]
        exact ⟨sound.commit order state _ result valid inStep.1 inStep.2, tracks.isFor,
          fun _ => rfl, .inl ⟨_, rfl⟩⟩
  | aborts next act =>
    obtain ⟨-, ⟨⟩⟩ | ⟨notDone, ⟨error, ⟨⟩⟩ | impossible⟩ := acted _ act
    · rw [start_program, outcome_done _ notDone]
      exact ⟨sound.abort order error, tracks.isFor, fun _ => rfl, .inl ⟨_, rfl⟩⟩
    · exact impossible.elim

def Apart (session other : InventorySession) : Prop :=
  session.program.stage.inside → other.program.stage.inside = false

theorem OrderMove.apart {other : InventorySession} (permits : Serialised state session other)
    (apart : Apart session other)
    (moved : DepletingMove hashtext order state session state' session') :
    Apart session' other := by
  intro inside'
  cases inside : session.program.stage.inside with
  | true => exact apart inside
  | false =>
    cases enters : session.program.enters with
    | true => exact permits enters
    | false =>
      have outside := (OrderMove.outside hashtext order DepletingActs.acts moved inside enters).2
      rw [outside] at inside'
      simp at inside'

theorem OrderMove.stable {other : InventorySession} (tracks : CallTracks order state other)
    (permits : Serialised state session other) (apart : Apart session other)
    (moved : DepletingMove hashtext order state session state' session') :
    CallTracks order state' other := by
  cases inside : other.program.stage.inside with
  | false => exact tracks.outside order state state' inside
  | true =>
    have outside : session.program.stage.inside = false :=
      Bool.eq_false_iff.mpr fun isInside => by simp [apart isInside] at inside
    have waits : session.program.enters = false :=
      Bool.eq_false_iff.mpr fun enters => by simp [permits enters] at inside
    have same := (OrderMove.outside hashtext order DepletingActs.acts moved outside waits).1
    refine ⟨tracks.isFor, tracks.unwritten, ?_⟩
    rw [same]
    exact tracks.tracks

theorem LeavesOrder.sound (sound : state.Sound order) (leaves : LeavesOrder order state state') :
    state'.Sound order := by
  obtain ⟨record, results⟩ := leaves
  refine ⟨by rw [record]; exact sound.whole, ?_, by rw [results]; exact sound.follows⟩
  rw [record, results]
  exact sound.applied

theorem LeavesOrder.stable (tracks : CallTracks order state session)
    (leaves : LeavesOrder order state state') : CallTracks order state' session := by
  refine ⟨tracks.isFor, tracks.unwritten, ?_⟩
  rw [leaves.1, recordIn_visible order session leaves.1]
  exact tracks.tracks

end Runs

def InventoryProgram.BeginsFor (order : KdsOrder) (program : InventoryProgram) : Prop :=
  (∃ event resolver, program = onKdsOrderProduced event resolver ∧ event.IsOf order) ∨
    ∃ organizationId quarantineId resolver,
      program = replayQuarantinedDepletion organizationId quarantineId resolver ∧
      readUuid organizationId = .ok order.organizationId

theorem InventoryProgram.BeginsFor.tracks (state : OrderState) {program : InventoryProgram}
    (begins : program.BeginsFor order) : CallTracks order state (.start program) := by
  rcases begins with ⟨_, _, rfl, isOf⟩ | ⟨_, _, _, rfl, read⟩
  · exact ⟨isOf, fun _ => rfl, .inr rfl⟩
  · exact ⟨read, fun _ => rfl, .inr rfl⟩

theorem InventoryProgram.BeginsFor.outside (order : KdsOrder) (program : InventoryProgram)
    (begins : program.BeginsFor order) : program.stage.inside = false := by
  rcases begins with ⟨_, _, rfl, -⟩ | ⟨_, _, _, rfl, -⟩ <;> rfl

theorem OrderState.Sound.fresh {db : InventoryDb} (fresh : order.recordIn db = ⟨[], [], []⟩) :
    OrderState.Sound order ⟨db, []⟩ := by
  refine ⟨⟨?_, .inl ?_, ?_, ?_⟩, ?_, .nil⟩
  · simp [fresh, PlacedOrder.Holds]
  · simp [fresh]
  · simp [fresh]
  · simp [fresh]
  · simp

/-- While the events of an order name one warehouse, and what is resolved comes to some movement, the
order is depleted and announced once, together, and every call after that finds it done. -/
theorem order_depleted_once (hashtext : String → Int) (order : KdsOrder) (warehouseId : Uuid)
    (db : InventoryDb) (programs : List InventoryProgram) (pool : Pool OrderState InventorySession)
    (fresh : order.recordIn db = ⟨[], [], []⟩)
    (begins : ∀ program ∈ programs, program.BeginsFor order)
    (run : PermittedReachable (OrderMove order (DepletingActs hashtext warehouseId))
      (LeavesOrder order) Serialised ⟨⟨db, []⟩, programs.map start⟩ pool) :
    ((order.recordIn pool.shared.db).movements.map fun row => row.key.ingredientId).Nodup ∧
    (order.recordIn pool.shared.db).events.length ≤ 1 ∧
    ((order.recordIn pool.shared.db).movements = [] ∧
        (order.recordIn pool.shared.db).events = [] ∨
      ∃ event, (order.recordIn pool.shared.db).events = [event] ∧
        event.movements = (order.recordIn pool.shared.db).movements) ∧
    pool.shared.results.Pairwise Follows ∧
    ∀ ordenId movements alerts id,
      .ok (.applied ordenId movements alerts id) ∈ pool.shared.results →
      ∀ event, event.IsOf order → readUuid event.centroConsumoId = .ok warehouseId →
        ∃ movements' alerts' id',
        findOrder pool.shared.db event =
          .ok (some (.duplicateAccepted event.ordenId movements' alerts' id')) ∧
        movements'.Perm movements := by
  let placed : PlacedOrder := ⟨order, warehouseId⟩
  have symmetric {session other : InventorySession} (apart : Apart session other) :
      Apart other session := fun inside => Bool.eq_false_iff.mpr fun insideToo => by
    simp [apart insideToo] at inside
  have apartStart : (programs.map (start : _ → InventorySession)).Pairwise Apart := by
    refine pairwise_map.mpr (pairwise_of_forall_mem_list fun program listed _ _ => ?_)
    exact fun inside => by simp [start, (begins program listed).outside] at inside
  obtain ⟨apartRun, -⟩ := PermittedReachable.apart Apart _ pool symmetric
    apartStart run fun permits apart moved => OrderMove.apart hashtext placed permits apart moved
  have tracksStart : ∀ session ∈ programs.map start, CallTracks placed ⟨db, []⟩ session := by
    intro session member
    obtain ⟨program, listed, rfl⟩ := mem_map.mp member
    exact (begins program listed).tracks _
  have sound : pool.shared.Sound placed :=
    (Holds.permittedReachable (OrderState.Sound placed) (CallTracks placed)
      (fun sound tracks moved => OrderMove.keeps hashtext placed sound tracks moved)
      (fun _ _ tracks permits moved =>
        OrderMove.stable hashtext placed tracks permits.1 permits.2 moved)
      (fun sound leaves => LeavesOrder.sound placed sound leaves)
      (fun _ tracks leaves => LeavesOrder.stable placed tracks leaves)
      ⟨.fresh fresh, tracksStart⟩ apartRun).1
  refine ⟨sound.whole.ingredients, ?_, ?_, sound.follows, ?_⟩
  · show (placed.recordIn pool.shared.db).events.length ≤ 1
    rcases sound.whole.together with ⟨-, none⟩ | ⟨-, event, events, -⟩
    · simp [none]
    · simp [events]
  · exact sound.whole.together.imp_right And.right
  · intro ordenId movements alerts id member event isOf named
    obtain ⟨rfl, some⟩ := sound.applied ordenId movements alerts id member
    have isAt : event.IsAt placed := ⟨isOf, named⟩
    rcases sound.whole.together with ⟨none, -⟩ | ⟨-, queued, events, -⟩
    · exact absurd none some
    · obtain ⟨movements', alerts', found, sorted⟩ := findOrder_present pool.shared.db
        isAt sound.whole.held some queued events
      exact ⟨movements', alerts', queued.id, found, sorted⟩

/-! ### Two deliveries of one order -/

def nextStatement (hashtext : String → Int) (oracle : InventoryOracle) :
    OrderState × InventorySession → OrderState × InventorySession
  | (state, session) =>
    let reached := next apply (act hashtext oracle) (state.db, session)
    (⟨reached.1, state.results ++ outcome session.program reached.2.program⟩, reached.2)

abbrev MayRun (hashtext : String → Int) (order : KdsOrder) (oracle : InventoryOracle)
    (allowed : InventoryProgram → Prop) (others : List InventorySession)
    (reached : OrderState × InventorySession) : Prop :=
  allowed reached.2.program ∧
    Session.Valid apply InventoryDb.Consistent (reached.1.db, reached.2) ∧
    (nextStatement hashtext oracle reached).2.program.stage.recalls order ∧
    ∀ other ∈ others, Serialised reached.1 reached.2 other

theorem call_alone (hashtext : String → Int) (order : KdsOrder) (oracle : InventoryOracle)
    (allowed : InventoryProgram → Prop)
    (acts : InventoryDb → InventoryProgram → InventoryEffect → Prop)
    (mayAct : ∀ db program, allowed program → acts db program (program.act hashtext oracle db))
    (before after : List InventorySession) (n : Nat) {state : OrderState}
    {session : InventorySession} (final : OrderState × InventorySession)
    (ends : (nextStatement hashtext oracle)^[n] (state, session) = final)
    (mayRun : Along (nextStatement hashtext oracle)
      (MayRun hashtext order oracle allowed (before ++ after)) n (state, session)) :
    PermittedReachable (OrderMove order acts) (LeavesOrder order) Serialised
      ⟨state, before ++ session :: after⟩ ⟨final.1, before ++ final.2 :: after⟩ := by
  refine PermittedReachable.iterate _ _ (nextStatement hashtext oracle) before after ends ?_ ?_
  · intro k lt
    obtain ⟨isAllowed, valid, recalls, -⟩ := mayRun.iterate _ _ _ _ k lt
    exact ⟨next_moves _ _ (_, _) (mayAct _ _ isAllowed) valid, recalls, rfl⟩
  · exact fun k lt => (mayRun.iterate _ _ _ _ k lt).2.2.2

def sampleTable : KdsOrder := ⟨0x40008000000000000001, 0x40008000000000000002, "o1"⟩

def sampleWarehouse : Uuid := 0x40008000000000000003

section Twice

variable (oracle : Uuid → InventoryOracle) (first second : InventoryProgram) (n m : Nat)

def ranOnce : OrderState × InventorySession :=
  (nextStatement sampleHash (oracle 1))^[n] (⟨.empty, []⟩, .start first)

def ranTwice : OrderState × InventorySession :=
  (nextStatement sampleHash (oracle 2))^[m] ((ranOnce oracle first n).1, .start second)

abbrev MayRunTwice (allowed : Uuid → InventoryProgram → Prop) : Prop :=
  Along (nextStatement sampleHash (oracle 1)) (MayRun sampleHash sampleTable (oracle 1) (allowed 1)
      ([] ++ [.start second])) n (⟨.empty, []⟩, .start first) ∧
    Along (nextStatement sampleHash (oracle 2)) (MayRun sampleHash sampleTable (oracle 2) (allowed 2)
      ([(ranOnce oracle first n).2] ++ [])) m ((ranOnce oracle first n).1, .start second)

variable {oracle first second n m}

theorem ranTwice_reachable {allowed : Uuid → InventoryProgram → Prop}
    {acts : InventoryDb → InventoryProgram → InventoryEffect → Prop}
    (mayAct : ∀ id db program, allowed id program →
      acts db program (program.act sampleHash (oracle id) db))
    (mayRun : MayRunTwice oracle first second n m allowed) :
    PermittedReachable (OrderMove sampleTable acts) (LeavesOrder sampleTable) Serialised
      ⟨⟨.empty, []⟩, [first, second].map start⟩ ⟨(ranTwice oracle first second n m).1,
        [(ranOnce oracle first n).2, (ranTwice oracle first second n m).2]⟩ :=
  .trans (call_alone sampleHash sampleTable (oracle 1) _ acts (mayAct 1) [] [.start second] n
      (ranOnce oracle first n) rfl mayRun.1)
    (call_alone sampleHash sampleTable (oracle 2) _ acts (mayAct 2) [(ranOnce oracle first n).2] []
      m (ranTwice oracle first second n m) rfl mayRun.2)

end Twice

def appliedCounts (results : List (Except InventoryError InventoryResult)) :
    List (Option Bool × Nat) :=
  results.map fun result =>
    match result with
    | .ok (.applied _ movements _ _) => (some true, movements.length)
    | .ok (.duplicateAccepted _ movements _ _) => (some false, movements.length)
    | _ => (none, 0)

def sampleWater (id : Uuid) : InventoryOracle :=
  { sampleOracle id with recipes := fun _ => some ⟨"r", "1.0000", .ok []⟩ }

def sampleElsewhere : InventoryProgram :=
  onKdsOrderProduced ⟨lowerIds.organizationId, lowerIds.branchId,
    "00000000-0000-4000-8000-000000000004", "o1", [⟨"p", "2.0000", []⟩]⟩ none

theorem sample_begins : sampleOrder.BeginsFor sampleTable ∧ sampleElsewhere.BeginsFor sampleTable :=
  ⟨.inl ⟨_, _, rfl, by decide +kernel, by decide +kernel, rfl⟩,
    .inl ⟨_, _, rfl, by decide +kernel, by decide +kernel, rfl⟩⟩

theorem applied_twice_run :
    (MayRunTwice sampleWater sampleOrder sampleOrder 6 6 (fun _ _ => True) ∧
      appliedCounts (ranTwice sampleWater sampleOrder sampleOrder 6 6).1.results =
        [(some true, 0), (some true, 0)] ∧
      (sampleTable.recordIn (ranTwice sampleWater sampleOrder sampleOrder 6 6).1.db).events.length =
        2) ∧
    MayRunTwice sampleOracle sampleOrder sampleElsewhere 12 12 (fun _ _ => True) ∧
    appliedCounts (ranTwice sampleOracle sampleOrder sampleElsewhere 12 12).1.results =
      [(some true, 1), (some true, 1)] ∧
    (sampleTable.recordIn (ranTwice sampleOracle sampleOrder sampleElsewhere 12 12).1.db).events.length =
      2 := by
  decide +kernel

/-- An order without movements is applied and announced by each of two deliveries, and so is an order
of which the second delivery names another warehouse. -/
theorem order_without_movements_announced_twice :
    sampleOrder.BeginsFor sampleTable ∧ sampleElsewhere.BeginsFor sampleTable ∧
    sampleTable.recordIn .empty = ⟨[], [], []⟩ ∧
    (∃ pool, PermittedReachable (OrderMove sampleTable (InventoryActs sampleHash))
        (LeavesOrder sampleTable) Serialised ⟨⟨.empty, []⟩, [sampleOrder, sampleOrder].map start⟩ pool ∧
      appliedCounts pool.shared.results = [(some true, 0), (some true, 0)] ∧
      (sampleTable.recordIn pool.shared.db).events.length = 2) ∧
    ∃ pool, PermittedReachable (OrderMove sampleTable (InventoryActs sampleHash))
        (LeavesOrder sampleTable) Serialised
        ⟨⟨.empty, []⟩, [sampleOrder, sampleElsewhere].map start⟩ pool ∧
      appliedCounts pool.shared.results = [(some true, 1), (some true, 1)] ∧
      (sampleTable.recordIn pool.shared.db).events.length = 2 := by
  obtain ⟨⟨water, waterCounts, waterEvents⟩, mayRun, counts, events⟩ := applied_twice_run
  exact ⟨sample_begins.1, sample_begins.2, rfl,
    ⟨_, ranTwice_reachable (fun _ _ _ _ => ⟨_, rfl⟩) water, waterCounts, waterEvents⟩,
    _, ranTwice_reachable (fun _ _ _ _ => ⟨_, rfl⟩) mayRun, counts, events⟩

def DepletesHere (id : Uuid) (program : InventoryProgram) : Prop :=
  namesWarehouse sampleWarehouse program ∧ depletesSomething (sampleOracle id) program
deriving Decidable

theorem served_twice_run :
    MayRunTwice sampleOracle sampleOrder sampleOrder 12 3 DepletesHere ∧
    appliedCounts (ranTwice sampleOracle sampleOrder sampleOrder 12 3).1.results =
      [(some true, 1), (some false, 1)] := by
  decide +kernel

/-- With half a kilo in each portion, the second delivery is a duplicate. -/
theorem second_delivery_is_duplicate :
    appliedCounts (ranTwice sampleOracle sampleOrder sampleOrder 12 3).1.results =
      [(some true, 1), (some false, 1)] ∧
    (sampleTable.recordIn (ranTwice sampleOracle sampleOrder sampleOrder 12 3).1.db).events.length ≤
      1 ∧
    (ranTwice sampleOracle sampleOrder sampleOrder 12 3).1.results.Pairwise Follows := by
  obtain ⟨mayRun, counts⟩ := served_twice_run
  have begins : ∀ program ∈ [sampleOrder, sampleOrder], program.BeginsFor sampleTable := by
    simp [sample_begins.1]
  obtain ⟨-, events, -, follows, -⟩ := order_depleted_once sampleHash sampleTable sampleWarehouse
    .empty _ _ rfl begins
    (ranTwice_reachable (fun _ _ _ depletes => ⟨depletes.1, _, depletes.2, rfl⟩) mayRun)
  exact ⟨counts, events, follows⟩

end TridentPos.Inventory
