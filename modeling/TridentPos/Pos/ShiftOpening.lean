import TridentPos.Pos.ShiftReconciliation

/-!
# Opening shifts

`CashShiftDomainService.abrirTurno` looks for an active shift of the station, awaits the PIN, and
inserts. The unique index that is left to exclude a second shift covers the shifts of one
organization and branch that are `ABIERTO`; a shift that has been counted meanwhile, or that another
organization or branch has opened on the station, is active and not covered.
-/
namespace TridentPos.Pos

open Core Library Interleaving Fallible EdgeDb List

/-! ### `abrirTurno` -/

structure AbrirTurnoCommand where
  (organizationId branchId stationId responsibleUserId : String)
  openedByUserId : Option String
  openingCashFloat : Int
  shiftNumber : Option Nat
  (assignmentStrategy operatorPin : Option String)

/-- The statuses `getActiveShift` looks for. -/
def TurnoCajaRow.isActive (row : TurnoCajaRow) : Bool :=
  row.status == .abierto || row.status == .cerradoArqueo

variable (db : EdgeDb) (stationId : String) (oracle : OpenOracle)

def EdgeDb.getActiveShift : Option TurnoCajaRow :=
  db.turnos.find? fun row => row.stationId == stationId && row.isActive

def shiftAlreadyOpenError : DomainError :=
  ⟨"Station '" ++ stationId ++ "' already has an active open shift", "SHIFT_ALREADY_OPEN", 409⟩

/-- `saveShift` of a new shift. The index `uq_turnos_caja_active_station` is partial. -/
def EdgeDb.insertShift (shift : TurnoCaja) : Except DomainError EdgeDb := do
  checkTenant shift
  if (db.getShiftById shift.id).isSome then
    throw ⟨"Shift '" ++ shift.id ++ "' already exists", "DUPLICATE_SHIFT", 409⟩
  if shift.status = .abierto ∧ (db.turnos.any fun row => row.status == .abierto &&
      row.organizationId == shift.organizationId && row.branchId == shift.branchId &&
      row.stationId == shift.stationId) then
    throw (shiftAlreadyOpenError shift.stationId)
  return { db with
    turnos := db.turnos ++ [shift.toTurnoCajaRow]
    operadores := insertOperadores db.operadores shift.id shift.participatingOperators }

def AbrirTurnoCommand.check (command : AbrirTurnoCommand) : Except DomainError Unit := do
  if isBlank command.organizationId then throw (missingTenantError "organizationId")
  if isBlank command.branchId then throw (missingTenantError "branchId")
  if (db.getActiveShift command.stationId).isSome then
    throw (shiftAlreadyOpenError command.stationId)
  if command.openingCashFloat < 0 then
    throw ⟨"Opening cash float must be non-negative", "INVALID_OPENING_FLOAT", 400⟩
  requirePin command.responsibleUserId command.operatorPin

structure OpenOracle where
  pinValid : Bool
  now : Nat
  (shiftId movementId : String)

/-- `COMPARTIDO` is the name of the strategy of the service. -/
def newShift (command : AbrirTurnoCommand) : TurnoCaja :=
  { id := oracle.shiftId, organizationId := command.organizationId, branchId := command.branchId
    stationId := command.stationId, responsibleUserId := command.responsibleUserId
    openedByUserId := command.openedByUserId.getD command.responsibleUserId
    shiftNumber := command.shiftNumber.getD 1, openingCashFloat := command.openingCashFloat
    closingDeclaredCash := none, calculatedCashTotal := none, cashDifference := none
    status := .abierto, assignmentStrategy := command.assignmentStrategy.getD "COMPARTIDO"
    openedAt := oracle.now, closedAt := none, version := 1, updatedAt := oracle.now
    participatingOperators := [command.responsibleUserId] }

def initialMovement (saved : TurnoCaja) : MovimientoCaja :=
  { id := oracle.movementId, turnoCajaId := saved.id, operatorUserId := saved.responsibleUserId
    movementType := .fondoInicial, amount := saved.openingCashFloat
    reason := "Fondo inicial de apertura de turno", referenceId := none
    createdAt := saved.openedAt }

inductive OpenState where
  | check
  | pin
  | movement (saved : TurnoCaja)
  | done (result : Except DomainError TurnoCaja)

structure OpenCall where
  command : AbrirTurnoCommand
  state : OpenState

def OpenCall.step (db : EdgeDb) (call : OpenCall) : EdgeDb × OpenCall :=
  match call.state with
  | .check =>
    match call.command.check db with
    | .error e => (db, { call with state := .done (.error e) })
    | .ok _ => (db, { call with state := .pin })
  | .pin =>
    if !oracle.pinValid then
      (db, { call with
        state := .done (.error (invalidOperatorPinError call.command.responsibleUserId)) })
    else
      let shift := newShift oracle call.command
      match db.insertShift shift with
      | .error e => (db, { call with state := .done (.error e) })
      | .ok db' =>
        if call.command.openingCashFloat > 0 then (db', { call with state := .movement shift })
        else (db', { call with state := .done (.ok shift) })
  | .movement saved =>
    match db.addMovement (initialMovement oracle saved) saved saved.version with
    | .error e => (db, { call with state := .done (.error e) })
    | .ok db' => (db', { call with state := .done (.ok saved) })
  | .done _ => (db, call)

/-! ### Runs -/

inductive TillCall where
  | opening (call : OpenCall)
  | shift (call : ShiftCall)

inductive TillMove : EdgeDb → TillCall → EdgeDb → TillCall → Prop
  | opening (db db' : EdgeDb) (call call' : OpenCall) (oracle : OpenOracle)
      (moved : call.step oracle db = (db', call')) :
      TillMove db (.opening call) db' (.opening call')
  | shift (db db' : EdgeDb) (call call' : ShiftCall) (oracle : ShiftOracle)
      (moved : call.step oracle db = (db', call')) : TillMove db (.shift call) db' (.shift call')

def LeavesTurnos (db' : EdgeDb) : Prop := db'.turnos = db.turnos

def TillCall.Begins : TillCall → Prop
  | .opening call => call.state = .check
  | .shift call => call.state = .read

def EdgeDb.activeShifts : List TurnoCajaRow :=
  db.turnos.filter fun row => row.stationId == stationId && row.isActive

def TillCall.Indexed (db : EdgeDb) : TillCall → Prop
  | .opening ⟨command, .pin⟩ => command.stationId = stationId →
      ∀ row ∈ db.activeShifts stationId, row.status = .abierto ∧
        row.organizationId = command.organizationId ∧ row.branchId = command.branchId
  | _ => True

def IndexedMove (db : EdgeDb) (call : TillCall) (db' : EdgeDb) (call' : TillCall) : Prop :=
  call.Indexed stationId db ∧ TillMove db call db' call'

/-! ### What a step does to the shifts -/

structure TurnosUpdate (turnos turnos' : List TurnoCajaRow) (p : TurnoCajaRow → Bool)
    (f : TurnoCajaRow → TurnoCajaRow) : Prop where
  isUpdate : turnos' = Table.updateWhere p f turnos
  keepsId : ∀ row, (f row).id = row.id
  keepsStation : ∀ row, (f row).stationId = row.stationId
  active : ∀ row ∈ turnos, p row → (f row).isActive → row.isActive
  version : ∀ row ∈ turnos, p row → row.version < (f row).version ∨
    (f row).version = row.version ∧ (f row).status = row.status

def TurnosUpdated (turnos turnos' : List TurnoCajaRow) : Prop :=
  ∃ p f, TurnosUpdate turnos turnos' p f

theorem TurnosUpdated.refl (turnos : List TurnoCajaRow) : TurnosUpdated turnos turnos := by
  refine ⟨fun _ => false, fun row => row, ⟨?_, fun _ => rfl, fun _ => rfl, ?_, ?_⟩⟩
  · exact (Table.updateWhere_eq_self _ _ _ fun _ _ => rfl).symm
  · exact fun row _ hit => absurd hit Bool.false_ne_true
  · exact fun row _ hit => absurd hit Bool.false_ne_true

structure ShiftHeld (turnos : List TurnoCajaRow) (shift : TurnoCaja) : Prop where
  active : shift.isActive
  stored : ∃ row ∈ turnos, row.id = shift.id
  version : ∀ row ∈ turnos, row.id = shift.id → shift.version ≤ row.version
  current : ∀ row ∈ turnos, row.id = shift.id → row.version = shift.version →
    row.status = shift.status

variable {shift : TurnoCaja}

theorem ShiftHeld.updated {turnos turnos' : List TurnoCajaRow} (held : ShiftHeld turnos shift)
    (change : TurnosUpdated turnos turnos') : ShiftHeld turnos' shift := by
  obtain ⟨active, ⟨stored, member, isStored⟩, version, current⟩ := held
  obtain ⟨p, f, ⟨rfl, keepsId, -, -, moves⟩⟩ := change
  refine ⟨active, ?_, ?_, ?_⟩
  · cases hit : p stored with
    | true =>
      exact ⟨f stored, Table.mem_updateWhere.mpr (.inl ⟨stored, member, hit, rfl⟩),
        (keepsId stored).trans isStored⟩
    | false => exact ⟨stored, Table.mem_updateWhere.mpr (.inr ⟨member, hit⟩), isStored⟩
  · intro other listed same
    rcases Table.mem_updateWhere.mp listed with ⟨row, was, hit, rfl⟩ | ⟨was, -⟩
    · have old := version row was (keepsId row ▸ same)
      have newer := moves row was hit
      omega
    · exact version other was same
  · intro other listed same sameVersion
    rcases Table.mem_updateWhere.mp listed with ⟨row, was, hit, rfl⟩ | ⟨was, -⟩
    · have old := version row was (keepsId row ▸ same)
      rcases moves row was hit with grown | ⟨kept, status⟩
      · omega
      · rw [status]
        exact current row was (keepsId row ▸ same) (by omega)
    · exact current other was same sameVersion

variable {row : TurnoCajaRow}

theorem ShiftHeld.inserted {turnos : List TurnoCajaRow} (held : ShiftHeld turnos shift)
    (fresh : ∀ old ∈ turnos, old.id ≠ row.id) : ShiftHeld (turnos ++ [row]) shift := by
  obtain ⟨active, ⟨stored, member, isStored⟩, version, current⟩ := held
  have old (other : TurnoCajaRow) (listed : other ∈ turnos ++ [row]) (same : other.id = shift.id) :
      other ∈ turnos := by
    rcases mem_append.mp listed with earlier | new
    · exact earlier
    · obtain rfl := mem_singleton.mp new
      exact absurd (isStored.trans same.symm) (fresh stored member)
  exact ⟨active, ⟨stored, mem_append_left _ member, isStored⟩,
    fun other listed same => version other (old other listed same) same,
    fun other listed same => current other (old other listed same) same⟩

variable (db' : EdgeDb) {set : TurnoCajaRow → TurnoCajaRow}

theorem TurnosUpdated.of_swap (held : ShiftHeld db.turnos shift)
    (swapped : db.swapTurno shift.id shift.version set = .ok db')
    (keeps : ∀ row, (set row).id = row.id ∧ (set row).stationId = row.stationId ∧
      (set row).version = shift.version + 1) : TurnosUpdated db.turnos db'.turnos := by
  refine ⟨_, set, ⟨congrArg turnos (swapTurno_passed swapped).2, fun row => (keeps row).1,
    fun row => (keeps row).2.1, ?_, ?_⟩⟩
  · intro row member hit _
    simp only [Bool.and_eq_true, beq_iff_eq] at hit
    have status := held.current row member hit.1 hit.2
    have active := held.active
    simpa [TurnoCajaRow.isActive, status] using active
  · intro row member hit
    simp only [Bool.and_eq_true, beq_iff_eq] at hit
    left
    rw [(keeps row).2.2, hit.2]
    exact Nat.lt_succ_self _

theorem ShiftCommand.needs_active (command : ShiftCommand) (status : shift.status = command.needs) :
    shift.isActive := by
  cases command <;> simp [TurnoCajaRow.isActive, status, ShiftCommand.needs]

def ShiftCall.Held (db : EdgeDb) (call : ShiftCall) : Prop :=
  match call.state with
  | .pin shift | .save shift _ => ShiftHeld db.turnos shift
  | _ => True

theorem ShiftSave.turnos {oracle : ShiftOracle} {db db' : EdgeDb} {call : ShiftCall}
    (held : call.Held db) (save : ShiftSave oracle db db' call) :
    TurnosUpdated db.turnos db'.turnos := by
  cases save with
  | operador shift updated command isCommand state isUpdated saved =>
    rw [ShiftCall.Held, state] at held
    subst isUpdated
    simp only [saveShift, guard_eq_ok, bind_eq_ok, pure_eq_ok] at saved
    obtain ⟨-, -, -, after, swapped, rfl⟩ := saved
    exact TurnosUpdated.of_swap db after held swapped fun row => ⟨rfl, rfl, rfl⟩
  | movimiento shift command movement isCommand state about saved =>
    rw [ShiftCall.Held, state] at held
    simp only [addMovement, bind_eq_ok] at saved
    obtain ⟨after, swapped, inserted⟩ := saved
    rw [insertMovimiento_eq_ok inserted]
    exact TurnosUpdated.of_swap db after held swapped fun row => ⟨rfl, rfl, rfl⟩
  | arqueo shift command movements calculated isCommand state isTotal saved =>
    rw [ShiftCall.Held, state] at held
    simp only [saveArqueoCiego, bind_eq_ok] at saved
    obtain ⟨after, swapped, inserted⟩ := saved
    simp only [thrown_eq_ok, pure_eq_ok] at inserted
    obtain ⟨-, rfl⟩ := inserted
    exact TurnosUpdated.of_swap db after held swapped fun row => ⟨rfl, rfl, rfl⟩
  | corteZ shift closed command movements isCommand state isClosed saved =>
    rw [ShiftCall.Held, state] at held
    subst isClosed
    obtain ⟨-, -, -, after, swapped, rfl⟩ := saveCorteZ_passed saved
    exact TurnosUpdated.of_swap db after held swapped fun row => ⟨rfl, rfl, rfl⟩

theorem ShiftCall.step_turnos {oracle : ShiftOracle} {db db' : EdgeDb} (call call' : ShiftCall)
    (keyed : (db.turnos.map fun row => row.id).Nodup) (held : call.Held db)
    (moved : call.step oracle db = (db', call')) :
    TurnosUpdated db.turnos db'.turnos ∧ call'.Held db' := by
  obtain ⟨-, kinds⟩ := ShiftCall.step_cases call call' moved
  rcases kinds with ⟨rfl, free | rfl⟩ | ⟨rfl, shift, state, checked⟩ | ⟨rfl, shift, was, state⟩ |
    ⟨save, free⟩
  · refine ⟨.refl _, ?_⟩
    rw [ShiftCall.Held]
    cases state : call'.state <;> simp_all [ShiftState.holdsShift]
  · exact ⟨.refl _, held⟩
  · refine ⟨.refl _, ?_⟩
    obtain ⟨found, status⟩ := ShiftCommand.check_eq_ok _ checked
    obtain ⟨row, read, rfl⟩ := Option.map_eq_some_iff.mp found
    have member := mem_of_find?_eq_some read
    have isRow (other : TurnoCajaRow) (listed : other ∈ db'.turnos) (same : other.id = row.id) :
        other = row := inj_on_of_nodup_map keyed listed member same
    rw [ShiftCall.Held, state]
    refine ⟨ShiftCommand.needs_active _ status, ⟨row, member, rfl⟩, ?_, ?_⟩
    · intro other listed same
      rw [isRow other listed same]
    · intro other listed same _
      rw [isRow other listed same]
  · refine ⟨.refl _, ?_⟩
    rw [ShiftCall.Held, was] at held
    rw [ShiftCall.Held, state]
    exact held
  · refine ⟨save.turnos held, ?_⟩
    rw [ShiftCall.Held]
    cases state : call'.state <;> simp_all [ShiftState.holdsShift]

theorem insertShift_eq_ok {db db' : EdgeDb} (saved : db.insertShift shift = .ok db') :
    db'.turnos = db.turnos ++ [shift.toTurnoCajaRow] ∧ (∀ old ∈ db.turnos, old.id ≠ shift.id) ∧
      (shift.status = .abierto → ∀ old ∈ db.turnos, old.status = .abierto →
        old.organizationId = shift.organizationId → old.branchId = shift.branchId →
        old.stationId ≠ shift.stationId) := by
  simp only [insertShift, guard_eq_ok, bind_eq_ok, pure_eq_ok] at saved
  obtain ⟨-, -, absent, unindexed, rfl⟩ := saved
  refine ⟨rfl, ?_, ?_⟩
  · intro old member same
    refine absurd ?_ absent
    simp only [getShiftById, Option.isSome_map, find?_isSome]
    exact ⟨old, member, by simp [same]⟩
  · intro isOpen old member status organization branch station
    refine unindexed ⟨isOpen, any_eq_true.mpr ⟨old, member, ?_⟩⟩
    simp [status, organization, branch, station]

theorem OpenCall.step_turnos {oracle : OpenOracle} {db db' : EdgeDb} (call call' : OpenCall)
    (moved : call.step oracle db = (db', call')) :
    TurnosUpdated db.turnos db'.turnos ∨
    call.state = .pin ∧ db.insertShift (newShift oracle call.command) = .ok db' := by
  unfold OpenCall.step at moved
  split at moved
  next =>
    left
    split at moved <;> (obtain ⟨rfl, -⟩ := Prod.mk.inj moved; exact .refl _)
  next isPin =>
    split at moved
    next =>
      obtain ⟨rfl, -⟩ := Prod.mk.inj moved
      exact .inl (.refl _)
    simp only at moved
    split at moved
    next =>
      obtain ⟨rfl, -⟩ := Prod.mk.inj moved
      exact .inl (.refl _)
    next after inserted =>
      refine .inr ⟨isPin, ?_⟩
      split at moved <;> (obtain ⟨rfl, -⟩ := Prod.mk.inj moved; exact inserted)
  next saved _ =>
    split at moved <;> obtain ⟨rfl, -⟩ := Prod.mk.inj moved
    next => exact .inl (.refl _)
    next after entered =>
      simp only [addMovement, bind_eq_ok] at entered
      obtain ⟨swapped, swaps, inserted⟩ := entered
      rw [insertMovimiento_eq_ok inserted]
      refine .inl ⟨_, _, ⟨congrArg turnos (swapTurno_passed swaps).2, fun _ => rfl, fun _ => rfl,
        fun _ _ _ active => active, ?_⟩⟩
      intro row _ hit
      simp only [Bool.and_eq_true, beq_iff_eq] at hit
      exact .inr ⟨hit.2.symm, rfl⟩
  next =>
    obtain ⟨rfl, -⟩ := Prod.mk.inj moved
    exact .inl (.refl _)

/-! ### The count of active shifts -/

theorem TurnosUpdated.map_id (turnos turnos' : List TurnoCajaRow)
    (change : TurnosUpdated turnos turnos') :
    (turnos'.map fun row => row.id) = turnos.map fun row => row.id := by
  obtain ⟨p, f, ⟨rfl, keepsId, -⟩⟩ := change
  exact Table.map_updateWhere p f _ turnos keepsId

theorem TurnosUpdated.activeShifts_le (stationId : String) {db db' : EdgeDb}
    (change : TurnosUpdated db.turnos db'.turnos) :
    (db'.activeShifts stationId).length ≤ (db.activeShifts stationId).length := by
  obtain ⟨p, f, ⟨isUpdate, -, keepsStation, active, -⟩⟩ := change
  simp only [activeShifts, isUpdate, Table.updateWhere, ← countP_eq_length_filter,
    countP_map]
  refine countP_mono_left fun row member counted => ?_
  cases hit : p row with
  | false => simpa [hit] using counted
  | true =>
    simp only [Function.comp_apply, hit, if_true, Bool.and_eq_true, beq_iff_eq,
      keepsStation row] at counted
    simp [counted.1, active row member hit counted.2]

theorem activeShifts_insert (stationId : String) {db db' : EdgeDb}
    (isInsert : db'.turnos = db.turnos ++ [row]) :
    (db'.activeShifts stationId).length =
      (db.activeShifts stationId).length +
        if row.stationId == stationId && row.isActive then 1 else 0 := by
  simp only [activeShifts, isInsert, filter_append, length_append,
    filter_cons, filter_nil]
  split <;> rfl

structure OneActive (stationId : String) (db : EdgeDb) : Prop where
  keyed : (db.turnos.map fun row => row.id).Nodup
  single : (db.activeShifts stationId).length ≤ 1

def TillCall.Held (db : EdgeDb) : TillCall → Prop
  | .opening _ => True
  | .shift call => call.Held db

variable {stationId}

theorem OneActive.updated (db db' : EdgeDb) (one : OneActive stationId db)
    (change : TurnosUpdated db.turnos db'.turnos) : OneActive stationId db' :=
  ⟨by rw [change.map_id]; exact one.keyed,
    Nat.le_trans (change.activeShifts_le stationId) one.single⟩

theorem OneActive.inserted {oracle : OpenOracle} {db db' : EdgeDb} {command : AbrirTurnoCommand}
    (one : OneActive stationId db)
    (indexed : (TillCall.opening ⟨command, .pin⟩).Indexed stationId db)
    (saved : db.insertShift (newShift oracle command) = .ok db') : OneActive stationId db' := by
  obtain ⟨isInsert, fresh, unindexed⟩ := insertShift_eq_ok saved
  refine ⟨?_, ?_⟩
  · rw [isInsert, map_append]
    refine Table.nodup_append_singleton one.keyed ?_
    intro taken
    obtain ⟨old, member, same⟩ := mem_map.mp taken
    exact fresh old member same
  rw [activeShifts_insert stationId isInsert]
  split
  next counted =>
    have station : command.stationId = stationId := by
      simp only [Bool.and_eq_true, beq_iff_eq] at counted
      exact counted.1
    have none : db.activeShifts stationId = [] := by
      refine eq_nil_iff_forall_not_mem.mpr fun old active => ?_
      obtain ⟨status, organization, branch⟩ := indexed station old active
      obtain ⟨member, listed⟩ := mem_filter.mp active
      simp only [Bool.and_eq_true, beq_iff_eq] at listed
      exact unindexed rfl old member status organization branch (listed.1.trans station.symm)
    simp [none]
  next => exact one.single

variable {call : TillCall}

theorem TillCall.Held.updated (db db' : EdgeDb) (held : call.Held db)
    (change : TurnosUpdated db.turnos db'.turnos) : call.Held db' := by
  cases call with
  | opening call => trivial
  | shift call =>
    simp only [TillCall.Held, ShiftCall.Held] at held ⊢
    split <;> simp_all only
    all_goals exact ShiftHeld.updated held change

theorem TillCall.Held.inserted (held : call.Held db) (isInsert : db'.turnos = db.turnos ++ [row])
    (fresh : ∀ old ∈ db.turnos, old.id ≠ row.id) : call.Held db' := by
  cases call with
  | opening call => trivial
  | shift call =>
    simp only [TillCall.Held, ShiftCall.Held, isInsert] at held ⊢
    split <;> simp_all only
    all_goals exact ShiftHeld.inserted held fresh

theorem IndexedMove.cases {db db' : EdgeDb} {call' : TillCall} (one : OneActive stationId db)
    (held : call.Held db) (moved : IndexedMove stationId db call db' call') :
    OneActive stationId db' ∧ call'.Held db' ∧
      ∀ other : TillCall, other.Held db → other.Held db' := by
  obtain ⟨indexed, move⟩ := moved
  cases move with
  | shift _ call call' oracle moved =>
    obtain ⟨change, held'⟩ := call.step_turnos call' one.keyed held moved
    exact ⟨one.updated db db' change, held', fun other owned => owned.updated db db' change⟩
  | opening _ call call' oracle moved =>
    rcases call.step_turnos call' moved with change | ⟨isPin, saved⟩
    · exact ⟨one.updated db db' change, trivial, fun other owned => owned.updated db db' change⟩
    · obtain ⟨isInsert, fresh, -⟩ := insertShift_eq_ok saved
      obtain ⟨command, state⟩ := call
      obtain rfl : state = .pin := isPin
      exact ⟨one.inserted indexed saved, trivial,
        fun other owned => owned.inserted db db' isInsert fresh⟩

theorem TillCall.Begins.held (begins : call.Begins) : call.Held db := by
  cases call with
  | opening call => trivial
  | shift call =>
    have reads : call.state = .read := begins
    simp [TillCall.Held, ShiftCall.Held, reads]

/-- In every run in which an insertion finds only open shifts of its own organization and branch,
a station has at most one active shift. -/
theorem one_active_shift_per_station (stationId : String) (pool pool' : Pool EdgeDb TillCall)
    (keyed : (pool.shared.turnos.map fun row => row.id).Nodup)
    (single : (pool.shared.activeShifts stationId).length ≤ 1)
    (begins : ∀ call ∈ pool.calls, call.Begins)
    (run : Reachable (IndexedMove stationId) LeavesTurnos pool pool') :
    (pool'.shared.activeShifts stationId).length ≤ 1 := by
  have holds := Holds.reachable (OneActive stationId) TillCall.Held
    (fun one held moved =>
      let ⟨one', held', _⟩ := IndexedMove.cases one held moved
      ⟨one', held'⟩)
    (fun one held owned moved => (IndexedMove.cases one held moved).2.2 _ owned)
    (fun one same => one.updated _ _ (by rw [same]; exact .refl _))
    (fun _ held same => held.updated _ _ (by rw [same]; exact .refl _))
    ⟨⟨keyed, single⟩, fun call member => (begins call member).held pool.shared⟩ run
  exact holds.1.single

/-! ### Runs of one till -/

def TillCall.next (oracle : OpenOracle × ShiftOracle) : EdgeDb × TillCall → EdgeDb × TillCall
  | (db, .opening call) => ((call.step oracle.1 db).1, .opening (call.step oracle.1 db).2)
  | (db, .shift call) => ((call.step oracle.2 db).1, .shift (call.step oracle.2 db).2)

theorem TillCall.next_moves (oracle : OpenOracle × ShiftOracle) (reached : EdgeDb × TillCall) :
    TillMove reached.1 reached.2 (TillCall.next oracle reached).1
      (TillCall.next oracle reached).2 := by
  obtain ⟨db, call | call⟩ := reached
  · exact .opening db _ call _ oracle.1 rfl
  · exact .shift db _ call _ oracle.2 rfl

/-- What the host answers while one call runs: the ids it draws start with `name`. -/
def tillOracle (name : String) : OpenOracle × ShiftOracle :=
  ({ pinValid := true, now := 1, shiftId := name, movementId := name ++ "-float" },
    { pinValid := true, now := 2, id := name ++ "-record"
      randomOp := "44444444-4444-4444-8444-444444444444", interruption := none })

def sampleTill (name : String) : EdgeDb × TillCall → EdgeDb × TillCall :=
  TillCall.next (tillOracle name)

def sampleShiftOpening (user : String) : TillCall :=
  .opening ⟨{ organizationId := "org", branchId := "branch", stationId := "caja-1"
              responsibleUserId := user, openedByUserId := none, openingCashFloat := 500000
              shiftNumber := none, assignmentStrategy := none, operatorPin := some "1234" }, .check⟩

def sampleTillCount : TillCall :=
  .shift ⟨.realizarArqueoCiego
    { shiftId := "b", performedByUserId := "bea", declaredCash := 500000, expectedVersion := 1
      performedByPin := some "1234" }, .read⟩

def sampleTillDay : List TillCall :=
  [sampleShiftOpening "ana", sampleShiftOpening "bea", sampleTillCount]

theorem sampleTillDay_begins : ∀ call ∈ sampleTillDay, call.Begins := by
  intro call member
  simp only [sampleTillDay, mem_cons, not_mem_nil, or_false] at member
  rcases member with rfl | rfl | rfl <;> rfl

/-- Ana has found the till free; Bea opens a shift and counts it; Ana's PIN arrives. -/
def sampleAsked : EdgeDb × TillCall := sampleTill "a" (empty, sampleShiftOpening "ana")
def sampleTillOpened : EdgeDb × TillCall :=
  (sampleTill "b")^[3] (sampleAsked.1, sampleShiftOpening "bea")
def sampleCounted : EdgeDb × TillCall := (sampleTill "b")^[3] (sampleTillOpened.1, sampleTillCount)
def sampleSecondShift : EdgeDb × TillCall := (sampleTill "a")^[2] (sampleCounted.1, sampleAsked.2)

theorem counted_shift_leaves_till_open :
    (∀ call ∈ sampleTillDay, call.Begins) ∧
    Reachable TillMove LeavesTurnos ⟨empty, sampleTillDay⟩
      ⟨sampleSecondShift.1, [sampleSecondShift.2, sampleTillOpened.2, sampleCounted.2]⟩ ∧
    (sampleSecondShift.1.activeShifts "caja-1").map (fun row => (row.id, row.status)) =
      [("b", .cerradoArqueo), ("a", .abierto)] := by
  have alone := fun name before after n db call final
      (ends : (sampleTill name)^[n] (db, call) = final) =>
    Reachable.iterate LeavesTurnos (sampleTill name) before after ends
      fun _ _ => TillCall.next_moves (tillOracle name) _
  refine ⟨sampleTillDay_begins, ?_, by decide +kernel⟩
  refine .trans (alone "a" [] [sampleShiftOpening "bea", sampleTillCount] 1 _ _ sampleAsked rfl) ?_
  refine .trans (alone "b" [sampleAsked.2] [sampleTillCount] 3 _ _ sampleTillOpened rfl) ?_
  refine .trans (alone "b" [sampleAsked.2, sampleTillOpened.2] [] 3 _ _ sampleCounted rfl) ?_
  exact alone "a" [] [sampleTillOpened.2, sampleCounted.2] 2 _ _ sampleSecondShift rfl

/-- Ana's PIN arrives before the count: the index refuses the second shift. -/
def sampleTurnedAway : EdgeDb × TillCall := sampleTill "a" (sampleTillOpened.1, sampleAsked.2)
def sampleCountedAlone : EdgeDb × TillCall :=
  (sampleTill "b")^[3] (sampleTurnedAway.1, sampleTillCount)

theorem indexed_alone (name : String) (before after : List TillCall) (n : Nat) {db : EdgeDb}
    (final : EdgeDb × TillCall) (ends : (sampleTill name)^[n] (db, call) = final)
    (indexed : ∀ k < n, ((sampleTill name)^[k] (db, call)).2.Indexed "caja-1"
      ((sampleTill name)^[k] (db, call)).1) :
    Reachable (IndexedMove "caja-1") LeavesTurnos
      ⟨db, before ++ call :: after⟩ ⟨final.1, before ++ final.2 :: after⟩ :=
  Reachable.iterate _ (sampleTill name) before after ends
    fun k lt => ⟨indexed k lt, TillCall.next_moves (tillOracle name) _⟩

instance (stationId : String) (db : EdgeDb) : DecidablePred (TillCall.Indexed stationId db) :=
  fun _ => by unfold TillCall.Indexed; split <;> infer_instance

theorem second_opening_refused :
    (sampleCountedAlone.1.activeShifts "caja-1").map (fun row => (row.id, row.status)) =
      [("b", .cerradoArqueo)] ∧
    (sampleCountedAlone.1.activeShifts "caja-1").length ≤ 1 := by
  refine ⟨by decide +kernel, ?_⟩
  refine one_active_shift_per_station "caja-1" ⟨empty, sampleTillDay⟩
    ⟨sampleCountedAlone.1, [sampleTurnedAway.2, sampleTillOpened.2, sampleCountedAlone.2]⟩
    (by decide) (by decide) sampleTillDay_begins ?_
  refine .trans (indexed_alone "a" [] [sampleShiftOpening "bea", sampleTillCount] 1 sampleAsked rfl
    (by decide +kernel)) ?_
  refine .trans (indexed_alone "b" [sampleAsked.2] [sampleTillCount] 3 sampleTillOpened rfl
    (by decide +kernel)) ?_
  refine .trans (indexed_alone "a" [] [sampleTillOpened.2, sampleTillCount] 1 sampleTurnedAway rfl
    (by decide +kernel)) ?_
  exact indexed_alone "b" [sampleTurnedAway.2, sampleTillOpened.2] [] 3 sampleCountedAlone rfl
    (by decide +kernel)

end TridentPos.Pos
