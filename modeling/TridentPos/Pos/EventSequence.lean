import TridentPos.Edge.EdgeClient
import TridentPos.Ingestion.Delivery
import TridentPos.Pos.HeldAccounts
import TridentPos.Pos.Routes

/-!
# The events of an account

Requests on the accounts of a node, with tenders suspended and resumed in between, and the
`CUENTA` events they enqueue for one account. An event carries the account's new version; a
partial tender moves the version and sends nothing. While every event is enqueued before the
first payment is stored, the version is the number of events, and the cloud applies them all.
-/
namespace TridentPos.Pos

open Core Library Interleaving Fallible Ingestion TenderCall List
open Edge.EdgeOutboxRecord (toSyncEvent)

/-! ### Runs of requests -/

def NewOperation (db : EdgeDb) (cuentaId clientOpId : String) : Prop :=
  ∀ row ∈ db.cuentaEvents cuentaId, uuidText row.clientOpId ≠ uuidText clientOpId

def RequestUnpaid (cuentaId : String) (db : EdgeDb) (request : RouteRequest) : Prop :=
  request.cuentaId = cuentaId →
    db.pagosOf cuentaId = [] ∧ NewOperation db cuentaId request.clientOpId

/-- A tender about to commit all that is left of the account finds no payment stored, and is a
new operation. -/
def SettlementUnpaid (cuentaId : String) (db : EdgeDb) (call : TenderCall) : Prop :=
  call.command.cuentaId = cuentaId →
    ∀ cuenta existing params, call.state = .commit cuenta existing params →
      ∀ row ∈ db.cuentaRows cuentaId, call.command.amount = row.totalAmount - db.paid cuentaId →
        db.pagosOf cuentaId = [] ∧ NewOperation db cuentaId call.command.clientOpId

def RequestMove (options : RouteOptions) (db db' : EdgeDb) : Prop :=
  ∃ (request : RouteRequest) (now : Nat) (saved : Cuenta),
    request.run options db now = .ok (saved, db')

def UnpaidTenderMove (options : RouteOptions) (cuentaId : String) (db : EdgeDb) (call : TenderCall)
    (db' : EdgeDb) (call' : TenderCall) : Prop :=
  SettlementUnpaid cuentaId db call ∧ TenderMove options.payment db call db' call'

def UnpaidRequestMove (options : RouteOptions) (cuentaId : String) (db db' : EdgeDb) : Prop :=
  ∃ (request : RouteRequest) (now : Nat) (saved : Cuenta),
    RequestUnpaid cuentaId db request ∧ request.run options db now = .ok (saved, db')

structure Unopened (db : EdgeDb) (cuentaId : String) : Prop where
  rows : db.cuentaRows cuentaId = []
  pagos : db.pagosOf cuentaId = []
  events : db.cuentaEvents cuentaId = []

/-! ### The invariant -/

structure Deliverable (options : RouteOptions) (row : Edge.EdgeOutboxRecord PosEvent) : Prop where
  organization : row.organizationId = options.organizationId
  branch : row.branchId = options.branchId
  operation : isValidUuidV4 row.clientOpId
  bounded : row.aggregateSequenceNumber ≤ maxSafeInteger
  action : row.action ≠ ""

/-- The events are numbered `1..n`, and `n` is the version of an account without payments. -/
structure Numbered (options : RouteOptions) (cuentaId : String) (db : EdgeDb) : Prop where
  unique : (db.cuentaRows cuentaId).length ≤ 1
  unopened : db.cuentaRows cuentaId = [] → db.pagosOf cuentaId = [] ∧ db.cuentaEvents cuentaId = []
  named : db.cuentaRows cuentaId ≠ [] → cuentaId ≠ ""
  sequences : (db.cuentaEvents cuentaId).map (fun row => row.aggregateSequenceNumber) =
    List.range' 1 (db.cuentaEvents cuentaId).length
  version : ∀ row ∈ db.cuentaRows cuentaId, db.pagosOf cuentaId = [] →
    row.version = (db.cuentaEvents cuentaId).length
  operations : ((db.cuentaEvents cuentaId).map fun row => uuidText row.clientOpId).Nodup
  deliverable : ∀ row ∈ db.cuentaEvents cuentaId, Deliverable options row

variable (options : RouteOptions) (cuentaId : String) (db : EdgeDb)

theorem Unopened.numbered (unopened : Unopened db cuentaId) : Numbered options cuentaId db := by
  obtain ⟨rows, pagos, events⟩ := unopened
  refine ⟨by simp [rows], fun _ => ⟨pagos, events⟩, fun known => absurd rows known, ?_, ?_, ?_, ?_⟩
  · simp [events]
  · simp [rows]
  · simp [events]
  · simp [events]

variable {db' : EdgeDb}

theorem Numbered.of_same (rows : db'.cuentaRows cuentaId = db.cuentaRows cuentaId)
    (pagos : db'.pagosOf cuentaId = db.pagosOf cuentaId)
    (events : db'.cuentaEvents cuentaId = db.cuentaEvents cuentaId)
    (numbered : Numbered options cuentaId db) : Numbered options cuentaId db' := by
  obtain ⟨unique, unopened, named, sequences, version, operations, deliverable⟩ := numbered
  constructor
  · rwa [rows]
  · rwa [rows, pagos, events]
  · rwa [rows]
  · rwa [events]
  · rwa [rows, pagos, events]
  · rwa [events]
  · rwa [events]

theorem Numbered.extend {row : CuentaRow} {event : Edge.EdgeOutboxRecord PosEvent}
    (numbered : Numbered options cuentaId db) (rows : db'.cuentaRows cuentaId = [row])
    (named : cuentaId ≠ "")
    (events : db'.cuentaEvents cuentaId = db.cuentaEvents cuentaId ++ [event])
    (next : event.aggregateSequenceNumber = (db.cuentaEvents cuentaId).length + 1)
    (version : db'.pagosOf cuentaId = [] → row.version = (db.cuentaEvents cuentaId).length + 1)
    (fresh : NewOperation db cuentaId event.clientOpId) (deliverable : Deliverable options event) :
    Numbered options cuentaId db' := by
  constructor
  · simp [rows]
  · simp [rows]
  · exact fun _ => named
  · rw [events, map_append, numbered.sequences, length_append, length_singleton,
      List.range'_concat]
    simp [next, Nat.add_comm]
  · intro other member unpaid
    obtain rfl : other = row := by simpa [rows] using member
    rw [version unpaid, events, length_append, length_singleton]
  · rw [events, map_append, nodup_append]
    refine ⟨numbered.operations, by simp, ?_⟩
    intro op member last isLast
    obtain ⟨earlier, inEvents, rfl⟩ := mem_map.mp member
    obtain rfl : last = uuidText event.clientOpId := by simpa using isLast
    exact fresh earlier inEvents
  · intro other member
    rw [events, mem_append, mem_singleton] at member
    rcases member with earlier | rfl
    · exact numbered.deliverable other earlier
    · exact deliverable

/-! ### Requests -/

theorem enqueueOutbox_cuentaEvents {options : RouteOptions} {db : EdgeDb}
    {about action clientOpId : String} {sequence : Nat} {payload : PosEvent}
    (enqueued : db.enqueueOutbox (cuentaEvent options about action clientOpId sequence payload) =
      .ok db') :
    db'.cuentaRows cuentaId = db.cuentaRows cuentaId ∧ db'.pagosOf cuentaId = db.pagosOf cuentaId ∧
      db'.cuentaEvents cuentaId = db.cuentaEvents cuentaId ++
        if about = cuentaId then
          [Edge.pendingRow db.outbox (cuentaEvent options about action clientOpId sequence payload)]
        else [] := by
  obtain ⟨-, -, -, -, rfl⟩ := enqueueOutbox_eq_ok enqueued
  refine ⟨rfl, rfl, ?_⟩
  rw [EdgeDb.cuentaEvents, EdgeDb.cuentaEvents, filter_append]
  split
  next same => simp [Edge.pendingRow, cuentaEvent, same]
  next different => simp [Edge.pendingRow, cuentaEvent, different]

theorem AccountWritten.cuentaRows {mutated : EdgeDb} {saved : Cuenta} {cuentaId : String}
    (unique : (db.cuentaRows cuentaId).length ≤ 1) (written : AccountWritten db mutated saved) :
    (saved.id ≠ cuentaId ∧ mutated.cuentaRows cuentaId = db.cuentaRows cuentaId) ∨
    (saved.id = cuentaId ∧ db.cuentaRows cuentaId = [] ∧ saved.version = 1 ∧
      mutated.cuentaRows cuentaId = [saved.toCuentaRow]) ∨
    (∃ row, saved.id = cuentaId ∧ db.cuentaRows cuentaId = [row] ∧
      saved.version = row.version + 1 ∧
      mutated.cuentaRows cuentaId = [overwriteCuenta saved.toCuentaRow row]) := by
  rcases written with ⟨missing, first, mesas, rfl⟩ | ⟨row, found, next, swapped, mesas, rfl⟩
  · have none := (findCuenta_eq_none _ _).mp missing
    by_cases same : saved.id = cuentaId
    · subst same
      refine .inr (.inl ⟨rfl, none, first, ?_⟩)
      have appended : (db.cuentas ++ [saved.toCuentaRow]).filter (fun row => row.id == saved.id) =
          [saved.toCuentaRow] := by
        rw [filter_append]
        exact (congrArg (· ++ _) none).trans (by simp)
      exact appended
    · refine .inl ⟨same, ?_⟩
      simp [EdgeDb.cuentaRows, filter_append, same]
  · by_cases same : saved.id = cuentaId
    · subst same
      have stored := cuentaRows_of_findCuenta unique found
      exact .inr (.inr ⟨row, rfl, stored, next,
        (swapCuenta_cuentaRows saved row.version row stored swapped).2⟩)
    · exact .inl ⟨same, swapCuenta_cuentaRows_other saved row.version cuentaId (Ne.symm same)⟩

theorem AccountWritten.frame (mutated : EdgeDb) (saved : Cuenta)
    (written : AccountWritten db mutated saved) :
    mutated.pagos = db.pagos ∧ mutated.outbox = db.outbox ∧
      ∀ id, db.cuentaRows id ≠ [] → mutated.cuentaRows id ≠ [] := by
  rcases written with ⟨-, -, mesas, rfl⟩ | ⟨row, -, -, -, mesas, rfl⟩
  · refine ⟨rfl, rfl, fun id known => ?_⟩
    simp only [EdgeDb.cuentaRows, filter_append] at known ⊢
    exact append_ne_nil_of_left_ne_nil known _
  · exact ⟨rfl, rfl, fun id known => swapCuenta_cuentaRows_ne_nil saved _ known⟩

theorem UnpaidRequestMove.numbered {options : RouteOptions} {cuentaId : String} {db : EdgeDb}
    (numbered : Numbered options cuentaId db) (move : UnpaidRequestMove options cuentaId db db') :
    Numbered options cuentaId db' ∧ RowsMove cuentaId db db' ∧
      ∀ id, db.cuentaRows id ≠ [] → db'.cuentaRows id ≠ [] := by
  obtain ⟨request, now, saved, unpaid, returned⟩ := move
  obtain ⟨isId, named, mutated, action, payload, titled, written, enqueued⟩ :=
    RouteRequest.run_eq_ok _ returned
  obtain ⟨pagos, outbox, kept⟩ := written.frame
  obtain ⟨rowsAfter, pagosAfter, eventsAfter⟩ := enqueueOutbox_cuentaEvents cuentaId enqueued
  obtain ⟨valid, bounded, -, -, isDb'⟩ := enqueueOutbox_eq_ok enqueued
  have samePagos : db'.pagosOf cuentaId = db.pagosOf cuentaId := by
    rw [pagosAfter, EdgeDb.pagosOf, EdgeDb.pagosOf, pagos]
  have sameEvents : mutated.cuentaEvents cuentaId = db.cuentaEvents cuentaId := by
    rw [EdgeDb.cuentaEvents, EdgeDb.cuentaEvents, outbox]
  rw [sameEvents] at eventsAfter
  have keeps : ∀ id, db.cuentaRows id ≠ [] → db'.cuentaRows id ≠ [] := by
    intro id known
    rw [isDb']
    exact kept id known
  -- the one event a request on the account adds
  have extended (row : CuentaRow) (about : request.cuentaId = cuentaId) (notBlank : cuentaId ≠ "")
      (rows : db'.cuentaRows cuentaId = [row]) (isVersion : row.version = saved.version)
      (next : saved.version = (db.cuentaEvents cuentaId).length + 1) :
      Numbered options cuentaId db' := by
    rw [if_pos about] at eventsAfter
    refine numbered.extend options cuentaId db rows notBlank eventsAfter next
      (fun _ => isVersion.trans next) (unpaid about).2 ⟨rfl, rfl, valid, bounded, titled⟩
  rcases written.cuentaRows db numbered.unique with
    ⟨elsewhere, rows⟩ | ⟨about, none, first, rows⟩ | ⟨row, about, stored, next, rows⟩
  · rw [if_neg (isId ▸ elsewhere), append_nil] at eventsAfter
    rw [← rowsAfter] at rows
    exact ⟨numbered.of_same _ _ _ rows samePagos eventsAfter, .same rows samePagos, keeps⟩
  · have events := (numbered.unopened none).2
    have notBlank : cuentaId ≠ "" := by
      rw [← about, isId]
      exact named ((findCuenta_eq_none _ _).mpr (about ▸ none))
    refine ⟨extended saved.toCuentaRow (isId ▸ about) notBlank (rowsAfter.trans rows) rfl ?_,
      .opened none, keeps⟩
    simp [first, events]
  · have notBlank := numbered.named (by simp [stored])
    have isVersion := numbered.version row (by simp [stored]) (unpaid (isId ▸ about)).1
    refine ⟨extended _ (isId ▸ about) notBlank (rowsAfter.trans rows) rfl (by rw [next, isVersion]),
      .newer row _ stored (rowsAfter.trans rows) ?_, keeps⟩
    simp only [overwriteCuenta]
    omega

/-! ### Tenders -/

theorem Numbered.of_paid {options : RouteOptions} {cuentaId : String} {db : EdgeDb}
    {row row' : CuentaRow} (numbered : Numbered options cuentaId db)
    (stored : db.cuentaRows cuentaId = [row]) (rows : db'.cuentaRows cuentaId = [row'])
    (events : db'.cuentaEvents cuentaId = db.cuentaEvents cuentaId)
    (paid : db'.pagosOf cuentaId ≠ []) : Numbered options cuentaId db' := by
  constructor
  · simp [rows]
  · simp [rows]
  · exact fun _ => numbered.named (by simp [stored])
  · rw [events]
    exact numbered.sequences
  · exact fun _ _ unpaid => absurd unpaid paid
  · rw [events]
    exact numbered.operations
  · rw [events]
    exact numbered.deliverable

variable {params : AtomicSettlementParams}

theorem Numbered.of_commit {call : TenderCall} {cuenta : Cuenta} {existing : List Pago}
    (numbered : Numbered options call.command.cuentaId db)
    (unpaid : SettlementUnpaid call.command.cuentaId db call)
    (commits : Commits options.payment db db' call cuenta existing params) :
    Numbered options call.command.cuentaId db' ∧ RowsMove call.command.cuentaId db db' := by
  obtain ⟨state, stored, -, positive, allRead, ⟨stamp, built⟩, -, accepted, settled, rows⟩ := commits
  obtain ⟨-, version, idPago, opPago⟩ := buildSettlement_ids built
  have isRow : cuenta.toCuentaRow ∈ db.cuentaRows call.command.cuentaId := by simp [stored]
  have pagos := settledDb_pagosOf options.payment.repository db params _ idPago
  have events := settledDb_cuentaEvents options.payment.repository db params _ idPago
  rw [← settled] at pagos events
  have paid : db'.pagosOf call.command.cuentaId ≠ [] := by simp [pagos]
  refine ⟨?_, .newer _ _ stored rows (by simp only [overwriteCuenta]; omega)⟩
  cases event : params.cuentaPagadaEvent with
  | none =>
    rw [event, Option.toList_none, map_nil, append_nil] at events
    exact numbered.of_paid stored rows events paid
  | some event' =>
    have sends : params.cuentaPagadaEvent ≠ none := by simp [event]
    have left := buildSettlement_event built positive sends
    rw [totalPaid_perm allRead] at left
    obtain ⟨none, fresh⟩ := unpaid rfl cuenta existing params state _ isRow left
    have isVersion := numbered.version _ isRow none
    rw [event] at events
    refine numbered.extend options _ db rows (numbered.named (by simp [stored])) events ?_
      (fun unpaid => absurd unpaid paid) ?_ ?_
    · simp only [Edge.pendingRow, cuentaPagadaOutbox]
      omega
    · simpa [Edge.pendingRow, cuentaPagadaOutbox, opPago] using fresh
    · exact ⟨rfl, rfl, (accepted sends).1, (accepted sends).2, by simp [Edge.pendingRow,
        cuentaPagadaOutbox]⟩

theorem Numbered.of_other {options : RouteOptions} {cuentaId : String} {db : EdgeDb}
    {interruption : Option DomainError} {saved : Pago} (numbered : Numbered options cuentaId db)
    (known : db.findCuenta params.updatedCuenta.id ≠ none)
    (updated : params.updatedCuenta.id ≠ cuentaId) (pago : params.pago.cuentaId ≠ cuentaId)
    (committed : executeAtomicSettlement options.payment.repository db params interruption =
      .ok (saved, db')) : Numbered options cuentaId db' ∧ RowsMove cuentaId db db' := by
  rcases executeAtomicSettlement_eq_ok known committed with
    ⟨-, rfl⟩ | ⟨-, -, -, -, -, rfl⟩
  · exact ⟨numbered, .same rfl rfl⟩
  · obtain ⟨rows, pagos, events⟩ :=
      settledDb_other options.payment.repository db params cuentaId updated pago
    exact ⟨numbered.of_same _ _ _ rows pagos events, .same rows pagos⟩

theorem UnpaidTenderMove.numbered (options : RouteOptions) (cuentaId : String) (db db' : EdgeDb)
    (call call' : TenderCall) (numbered : Numbered options cuentaId db)
    (attends : Attends options.payment cuentaId db call)
    (move : UnpaidTenderMove options cuentaId db call db' call') :
    Numbered options cuentaId db' ∧ RowsMove cuentaId db db' ∧
      (∀ id, db.cuentaRows id ≠ [] → db'.cuentaRows id ≠ []) ∧
      Attends options.payment cuentaId db' call' := by
  obtain ⟨unpaid, move⟩ := move
  have keeps := TenderMove.keeps_accounts _ _ _ _ _ attends.1 move
  by_cases about : call.command.cuentaId = cuentaId
  · subst about
    obtain ⟨-, attends', same | ⟨-, cuenta, existing, params, commits⟩⟩ :=
      TenderMove.reads_or_commits numbered.unique attends move
    · subst same
      exact ⟨numbered, .same rfl rfl, keeps, attends'⟩
    · obtain ⟨numbered', rows⟩ := numbered.of_commit options db unpaid commits
      exact ⟨numbered', rows, keeps, attends'⟩
  · obtain ⟨oracle, moved⟩ := id move
    obtain ⟨command, kinds⟩ := step_cases moved
    have reading (same : db' = db) : Numbered options cuentaId db' ∧ RowsMove cuentaId db db' ∧
        (∀ id, db.cuentaRows id ≠ [] → db'.cuentaRows id ≠ []) ∧
        Attends options.payment cuentaId db' call' := by
      subst same
      exact ⟨numbered, .same rfl rfl, keeps,
        TenderMove.attends options.payment cuentaId db' call call' numbered.unique attends move⟩
    rcases kinds with ⟨same, -⟩ | ⟨same, -⟩ | ⟨same, -⟩ |
      ⟨cuenta, existing, params, saved, result, state, committed, finished⟩
    · exact reading same
    · exact reading same
    · exact reading same
    have held := attends.1
    simp only [Held, state] at held
    obtain ⟨isId, known, stamp, built⟩ := held
    obtain ⟨idUpdated, -, idPago, -⟩ := buildSettlement_ids built
    obtain ⟨numbered', rows⟩ := numbered.of_other
      (by rwa [idUpdated, ne_eq, findCuenta_eq_none]) (by rwa [idUpdated, isId]) (by rwa [idPago])
      committed
    exact ⟨numbered', rows, keeps, by simp [Held, finished],
      fun mine => absurd (command ▸ mine) about⟩

/-! ### Every run -/

theorem Numbered.reachable {calls : List TenderCall} (start : Unopened db cuentaId)
    (begun : ∀ call ∈ calls, call.state = .lookup) {pool : Pool EdgeDb TenderCall}
    (run : Reachable (UnpaidTenderMove options cuentaId)
      (UnpaidRequestMove options cuentaId) ⟨db, calls⟩ pool) :
    Numbered options cuentaId pool.shared := by
  refine (Holds.reachable (Numbered options cuentaId) (Attends options.payment cuentaId)
    ?_ ?_ ?_ ?_ ?_ run).1
  · intro db call db' call' numbered attends move
    obtain ⟨numbered', -, -, attends'⟩ :=
      UnpaidTenderMove.numbered _ _ _ _ _ _ numbered attends move
    exact ⟨numbered', attends'⟩
  · intro db call db' call' other numbered attends waits move
    obtain ⟨-, rows, keeps, -⟩ := UnpaidTenderMove.numbered _ _ _ _ _ _ numbered attends move
    exact waits.of_move rows keeps
  · exact fun numbered move => (UnpaidRequestMove.numbered numbered move).1
  · intro db db' call numbered attends move
    obtain ⟨-, rows, keeps⟩ := UnpaidRequestMove.numbered numbered move
    exact attends.of_move rows keeps
  · refine ⟨start.numbered options cuentaId db, fun call member => ?_⟩
    have state := begun call member
    exact ⟨by simp [Held, state], fun about => ⟨about, by rw [state]; trivial⟩⟩

/-! ### Delivery to the cloud -/

def RouteOptions.auth (options : RouteOptions) : AuthContext :=
  { organizationId := options.organizationId, branchId := options.branchId }

/-- Exactly these outbox rows are delivered, in any order and any number of times, to handlers
that never fail; the cloud's columns hold their texts, and the digest tells their operations
apart. -/
structure Delivers {Response : Type} (sha256 : String → String) (options : RouteOptions)
    (rows : List (Edge.EdgeOutboxRecord PosEvent))
    (deliveries : List (Ingestion.Delivery PosEvent Response)) : Prop where
  auth : ∀ d ∈ deliveries, d.auth = options.auth
  fits : ∀ d ∈ deliveries, columnsFit d.stream d.event.action
  ofRows : ∀ d ∈ deliveries, ∃ row ∈ rows, d.event = row.toSyncEvent
  delivered : ∀ row ∈ rows, ∃ d ∈ deliveries, d.event = row.toSyncEvent
  total : ∀ d ∈ deliveries, ∀ history e, ∃ response, d.handler history e = .ok response
  collisionFree : Set.InjOn sha256 {text | ∃ d ∈ deliveries,
    canonicalizeIdempotencyPayload (keyComponents d.auth d.event) = .ok text}

theorem Deliverable.wellFormed {Response : Type} {options : RouteOptions} {cuentaId : String}
    {row : Edge.EdgeOutboxRecord PosEvent} {d : Ingestion.Delivery PosEvent Response}
    (organization : options.organizationId ≠ "") (branch : options.branchId ≠ "")
    (named : cuentaId ≠ "") (deliverable : Deliverable options row)
    (type : row.aggregateType = "CUENTA") (about : row.aggregateId = cuentaId)
    (positive : 1 ≤ row.aggregateSequenceNumber) (auth : d.auth = options.auth)
    (event : d.event = row.toSyncEvent) (fits : columnsFit d.stream d.event.action) :
    d.WellFormed := by
  have operation : row.clientOpId ≠ "" := by
    intro blank
    have valid := deliverable.operation
    rw [blank] at valid
    exact absurd valid (by decide)
  refine ⟨fits, ?_, ?_⟩
  · rw [validateEvent_eq_ok, auth, event]
    simp only [toSyncEvent, RouteOptions.auth, mismatches, deliverable.organization,
      deliverable.branch]
    exact ⟨by simp, by simp, deliverable.operation, deliverable.bounded, positive⟩
  · refine ⟨_, if_neg ?_⟩
    rw [auth, event]
    simp [IdempotencyKeyComponents.toList, keyComponents, toSyncEvent, RouteOptions.auth,
      organization, branch, type, about, named, deliverable.action, operation]

theorem Numbered.workload {Response : Type} {sha256 : String → String} {options : RouteOptions}
    {cuentaId : String} {db : EdgeDb} {deliveries : List (Ingestion.Delivery PosEvent Response)}
    (organization : options.organizationId ≠ "") (branch : options.branchId ≠ "")
    (numbered : Numbered options cuentaId db)
    (delivers : Delivers sha256 options (db.cuentaEvents cuentaId) deliveries) :
    Ingestion.Workload sha256 (streamOf options.auth "CUENTA" cuentaId)
      (db.cuentaEvents cuentaId).length ((db.cuentaEvents cuentaId).map toSyncEvent) deliveries := by
  have columns (row : Edge.EdgeOutboxRecord PosEvent) (member : row ∈ db.cuentaEvents cuentaId) :
      row.aggregateType = "CUENTA" ∧ row.aggregateId = cuentaId ∧
        1 ≤ row.aggregateSequenceNumber := by
    have selected := (mem_filter.mp member).2
    simp only [Bool.and_eq_true, beq_iff_eq] at selected
    refine ⟨selected.1, selected.2, ?_⟩
    have listed := mem_map_of_mem (f := fun row => row.aggregateSequenceNumber) member
    rw [numbered.sequences, mem_range'_1] at listed
    exact listed.1
  refine ⟨⟨?_, ?_, ?_, ?_, ?_, delivers.total, delivers.collisionFree⟩, ?_⟩
  · intro d member
    obtain ⟨row, inRows, event⟩ := delivers.ofRows d member
    obtain ⟨type, about, positive⟩ := columns row inRows
    have opened : db.cuentaRows cuentaId ≠ [] := by
      intro none
      rw [(numbered.unopened none).2] at inRows
      simp at inRows
    exact (numbered.deliverable row inRows).wellFormed organization branch
      (numbered.named opened) type about positive (delivers.auth d member) event
      (delivers.fits d member)
  · intro d member
    obtain ⟨row, inRows, event⟩ := delivers.ofRows d member
    obtain ⟨type, about, -⟩ := columns row inRows
    simp [Ingestion.Delivery.stream, delivers.auth d member, event, toSyncEvent, type, about]
  · intro d member
    obtain ⟨row, inRows, event⟩ := delivers.ofRows d member
    exact event ▸ mem_map_of_mem inRows
  · intro e member
    obtain ⟨row, inRows, rfl⟩ := mem_map.mp member
    exact delivers.delivered row inRows
  · rw [map_map, ← numbered.sequences]
    exact List.Perm.refl _
  · rw [map_map]
    exact numbered.operations

/-- As long as every event of an account is sent before the first payment is stored, the events
are numbered `1..n` in the order in which they were enqueued, and delivering them all applies
every one and leaves none in the reordering queue. -/
theorem events_contiguous_and_applied (options : RouteOptions) (cuentaId : String) (db : EdgeDb)
    (calls : List TenderCall) (organization : options.organizationId ≠ "")
    (branch : options.branchId ≠ "") (start : Unopened db cuentaId)
    (begun : ∀ call ∈ calls, call.state = .lookup) (pool : Pool EdgeDb TenderCall)
    (run : Reachable (UnpaidTenderMove options cuentaId)
      (UnpaidRequestMove options cuentaId) ⟨db, calls⟩ pool) :
    (pool.shared.cuentaEvents cuentaId).map (fun row => row.aggregateSequenceNumber) =
      List.range' 1 (pool.shared.cuentaEvents cuentaId).length ∧
    ∀ (Response : Type) (sha256 : String → String)
      (deliveries : List (Ingestion.Delivery PosEvent Response))
      (cloud : Ingestion.CloudStore PosEvent Response),
      Delivers sha256 options (pool.shared.cuentaEvents cuentaId) deliveries →
      Ingestion.FreshStream sha256 (streamOf options.auth "CUENTA" cuentaId) deliveries cloud →
      (∃ rows, (deliverAll sha256 cloud deliveries).log = cloud.log ++ rows ∧
        List.Forall₂ (Ingestion.LoggedAs (streamOf options.auth "CUENTA" cuentaId))
          ((pool.shared.cuentaEvents cuentaId).map toSyncEvent) rows) ∧
      ∀ row ∈ (deliverAll sha256 cloud deliveries).buffer,
        row.stream = streamOf options.auth "CUENTA" cuentaId → row.status ≠ .buffered := by
  have numbered := Numbered.reachable options cuentaId db start begun run
  refine ⟨numbered.sequences, fun Response sha256 deliveries cloud delivers fresh => ?_⟩
  have work := numbered.workload organization branch delivers
  have inOrder : ((pool.shared.cuentaEvents cuentaId).map toSyncEvent).map
      (fun e => e.aggregateSequenceNumber) =
        List.range' 1 (pool.shared.cuentaEvents cuentaId).length := by
    rw [map_map]
    exact numbered.sequences
  obtain ⟨applied, settled⟩ := deliverAll_complete work fresh inOrder (List.Perm.refl _)
  obtain ⟨rows, appended, logged, -⟩ := applied.log
  rw [take_of_length_le (by simp)] at logged
  exact ⟨⟨rows, appended, logged⟩, settled⟩

/-! ### An account opened, served and paid -/

def RouteRequest.next (options : RouteOptions) (db : EdgeDb) (now : Nat) (request : RouteRequest) :
    EdgeDb :=
  stateAfter db (request.run options db now)

def sampleNode : RouteOptions :=
  { organizationId := sampleAuth.organizationId, branchId := sampleAuth.branchId, stationId := none }

def sampleOpen : RouteRequest :=
  .cuenta
    { input :=
        { id := "c", mesaId := none, epochId := "ep_1", accountType := .mostrador
          openedByUserId := "ana", currentWaiterUserId := none, guestCount := none }
      clientOpId := sampleFirstOp }

def sampleServe : RouteRequest :=
  .partida
    { cuentaId := "c", id := "i", expectedVersion := some 1, clientOpId := sampleSecondOp
      productId := "p", productNameSnapshot := "Taco", unitPriceApplied := some "100.0000"
      quantity := some "1.0000", taxRateApplied := some "0.0000", discountAmountApplied := none }

def sampleOpened : EdgeDb := sampleOpen.next sampleNode sampleShiftDb 0

def sampleServed : EdgeDb := sampleServe.next sampleNode sampleOpened 0

def samplePayment : TenderCall :=
  ⟨sampleTender .efectivo 1000000 0 "11111111-1111-4111-8111-111111111111", .lookup⟩

def samplePaid : EdgeDb × TenderCall :=
  run sampleNode.payment (sampleOracle "p1") 6 (sampleServed, samplePayment)

def samplePartial : EdgeDb × TenderCall :=
  run sampleNode.payment (sampleOracle "p1") 6 (sampleServed, sampleCash)

def sampleFinal : EdgeDb × TenderCall :=
  run sampleNode.payment (sampleOracle "p2") 6 (samplePartial.1, sampleCard)

theorem sample_requests :
    (∃ reply, sampleOpen.run sampleNode sampleShiftDb 0 = .ok (reply, sampleOpened)) ∧
      ∃ reply, sampleServe.run sampleNode sampleOpened 0 = .ok (reply, sampleServed) :=
  ⟨eq_ok_stateAfter sampleShiftDb _ (by decide +kernel),
    eq_ok_stateAfter sampleOpened _ (by decide +kernel)⟩

/-- An account paid in two parts: the first tender moves the version and sends no event, so the
event of the second is numbered one too far. -/
theorem partial_tender_skips_sequence :
    Unopened sampleShiftDb "c" ∧
    Reachable (TenderMove sampleNode.payment) (RequestMove sampleNode)
      ⟨sampleShiftDb, [sampleCash, sampleCard]⟩ ⟨sampleFinal.1, [samplePartial.2, sampleFinal.2]⟩ ∧
    (sampleFinal.1.cuentaEvents "c").map (fun row => (row.action, row.aggregateSequenceNumber)) =
      [("OPEN_CUENTA", 1), ("ADD_ITEM", 2), ("CuentaPagada", 4)] := by
  refine ⟨⟨by decide +kernel, by decide +kernel, by decide +kernel⟩, ?_, by decide +kernel⟩
  obtain ⟨⟨_, opens⟩, _, serves⟩ := sample_requests
  refine .head (.others _ sampleOpened _ ⟨_, _, _, opens⟩) ?_
  refine .head (.others _ sampleServed _ ⟨_, _, _, serves⟩) ?_
  refine .trans (reachable_run sampleNode.payment _ (sampleOracle "p1") [] [sampleCard] 6 _ _
    fun _ _ => ⟨_, rfl⟩) ?_
  exact reachable_run sampleNode.payment _ (sampleOracle "p2") [samplePartial.2] [] 6 _ _
    fun _ _ => ⟨_, rfl⟩

theorem sample_unpaid_run :
    Reachable (UnpaidTenderMove sampleNode "c") (UnpaidRequestMove sampleNode "c")
      ⟨sampleShiftDb, [samplePayment]⟩ ⟨samplePaid.1, [samplePaid.2]⟩ := by
  obtain ⟨⟨_, opens⟩, _, serves⟩ := sample_requests
  refine .head (.others _ sampleOpened _ ⟨_, _, _, ?_, opens⟩) ?_
  · exact fun _ => ⟨by decide +kernel, by unfold NewOperation; decide +kernel⟩
  refine .head (.others _ sampleServed _ ⟨_, _, _, ?_, serves⟩) ?_
  · exact fun _ => ⟨by decide +kernel, by unfold NewOperation; decide +kernel⟩
  refine reachable_run sampleNode.payment _ (sampleOracle "p1") [] [] 6 _ _
    fun k lt => ⟨?_, _, rfl⟩
  have unpaid : ∀ k < 6,
      (run sampleNode.payment (sampleOracle "p1") k (sampleServed, samplePayment)).1.pagosOf
          "c" = [] ∧
        NewOperation
          (run sampleNode.payment (sampleOracle "p1") k (sampleServed, samplePayment)).1 "c"
          (run sampleNode.payment (sampleOracle "p1") k
            (sampleServed, samplePayment)).2.command.clientOpId := by
    unfold NewOperation
    decide +kernel
  exact fun _ _ _ _ _ _ _ _ => unpaid k lt

def sampleAccountText (action clientOpId : String) : String :=
  JsonText.stringifyArray [sampleNode.organizationId, sampleNode.branchId, "CUENTA", "c", action,
    clientOpId]

def sampleAccountDigest (text : String) : String :=
  if text = sampleAccountText "OPEN_CUENTA" sampleFirstOp then
    "c532c1132228ee565461acf1ae70f3cbaead09fa7702e1944b1f069c3eee26a1"
  else if text = sampleAccountText "ADD_ITEM" sampleSecondOp then
    "cada50b1198977b0c72699556a18e236ac6954887323edf9a5e9a65c60db3174"
  else if text = sampleAccountText "CuentaPagada" samplePayment.command.clientOpId then
    "84c9115aaffe90cf770b5a615ab9b59ecca6dd477ae698be34b51de961b157ee"
  else ""

def sampleSent (row : Edge.EdgeOutboxRecord PosEvent) : Ingestion.Delivery PosEvent Nat :=
  { auth := sampleNode.auth, event := row.toSyncEvent
    issuer := sampleIssuer
    handler := fun history _ => .ok history.length }

def sampleArrivals : List (Ingestion.Delivery PosEvent Nat) :=
  ((samplePaid.1.cuentaEvents "c").map sampleSent).reverse

theorem mem_sampleArrivals (d : Ingestion.Delivery PosEvent Nat) :
    d ∈ sampleArrivals ↔ ∃ row ∈ samplePaid.1.cuentaEvents "c", sampleSent row = d := by
  simp [sampleArrivals]

theorem sampleArrivals_deliver : Delivers sampleAccountDigest sampleNode
    (samplePaid.1.cuentaEvents "c") sampleArrivals := by
  constructor
  · intro d member
    obtain ⟨row, -, rfl⟩ := (mem_sampleArrivals d).mp member
    rfl
  · decide +kernel
  · intro d member
    obtain ⟨row, inRows, rfl⟩ := (mem_sampleArrivals d).mp member
    exact ⟨row, inRows, rfl⟩
  · intro row inRows
    exact ⟨sampleSent row, (mem_sampleArrivals _).mpr ⟨row, inRows, rfl⟩, rfl⟩
  · intro d member history e
    obtain ⟨row, -, rfl⟩ := (mem_sampleArrivals d).mp member
    exact ⟨_, rfl⟩
  · exact Ingestion.injOn_of_texts (by decide +kernel)

theorem sample_events_applied :
    (samplePaid.1.cuentaEvents "c").map (fun row => row.aggregateSequenceNumber) = [1, 2, 3] ∧
    (∃ rows, (deliverAll sampleAccountDigest (Ingestion.CloudStore.empty PosEvent Nat)
          sampleArrivals).log = [] ++ rows ∧
      List.Forall₂ (Ingestion.LoggedAs (streamOf sampleNode.auth "CUENTA" "c"))
        ((samplePaid.1.cuentaEvents "c").map toSyncEvent) rows) ∧
    ∀ row ∈ (deliverAll sampleAccountDigest (Ingestion.CloudStore.empty PosEvent Nat)
        sampleArrivals).buffer,
      row.stream = streamOf sampleNode.auth "CUENTA" "c" → row.status ≠ .buffered := by
  have applied := events_contiguous_and_applied sampleNode "c" sampleShiftDb [samplePayment]
    (by decide) (by decide) ⟨by decide +kernel, by decide +kernel, by decide +kernel⟩
    (by simp [samplePayment]) ⟨samplePaid.1, [samplePaid.2]⟩ sample_unpaid_run
  refine ⟨by decide +kernel, ?_⟩
  refine applied.2 Nat sampleAccountDigest sampleArrivals (Ingestion.CloudStore.empty PosEvent Nat)
    sampleArrivals_deliver ?_
  constructor <;> simp [Ingestion.CloudStore.empty, Ingestion.CloudStore.currentSequence]

end TridentPos.Pos
