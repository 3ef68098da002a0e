import TridentPos.Pos.CashShift
import TridentPos.Pos.HeldAccounts

/-!
# Reconciling a shift

Commands on one cash shift and tenders that name it, suspended and resumed in any order. The
shift's own commands exclude each other by its version. A tender checks that the shift is open,
awaits the account and its payments, and then inserts its movement without the shift's version.
So the books of a shift close only if its blind count is saved while no cash tender is between
the check and the insertion, and from a list of movements that is still complete.
-/
namespace TridentPos.Pos

open Core Library Interleaving

/-! ### Runs -/

inductive DeskCall where
  | tender (call : TenderCall)
  | shift (call : ShiftCall)

inductive DeskMove (options : PaymentOptions) : EdgeDb → DeskCall → EdgeDb → DeskCall → Prop
  | tender (db db' : EdgeDb) (call call' : TenderCall) (moved : TenderMove options db call db' call') :
      DeskMove options db (.tender call) db' (.tender call')
  | shift (db db' : EdgeDb) (call call' : ShiftCall) (oracle : ShiftOracle)
      (moved : call.step oracle db = (db', call')) :
      DeskMove options db (.shift call) db' (.shift call')

structure LeavesShift (shiftId : String) (db db' : EdgeDb) : Prop where
  turnos : db'.turnoRows shiftId = db.turnoRows shiftId
  movimientos : db'.movimientosOf shiftId = db.movimientosOf shiftId
  arqueos : db'.arqueosOf shiftId = db.arqueosOf shiftId
  cortes : db'.cortesZOf shiftId = db.cortesZOf shiftId

structure OpenShift (shiftId : String) (db : EdgeDb) : Prop where
  stored : ∃ row, db.turnoRows shiftId = [row] ∧ row.status = .abierto
  cortes : db.cortesZOf shiftId = []

variable (shiftId : String)

def DeskCall.Begins : DeskCall → Prop
  | .tender call => call.state = .lookup
  | .shift call => call.command.shiftId = shiftId ∧ call.state = .read

/-! ### Timely counts -/

def TenderState.pastCheck : TenderState → Bool
  | .account | .payments _ | .commit .. => true
  | _ => false

/-- A tender that will insert a movement of the shift without looking at it again. -/
def TenderCall.Pending (call : TenderCall) : Prop :=
  call.state.pastCheck ∧ call.command.paymentMethod = .efectivo ∧
    call.command.turnoCajaId = shiftId
deriving Decidable

def DeskCall.Pending (shiftId : String) : DeskCall → Prop
  | .tender call => call.Pending shiftId
  | .shift _ => False

instance (shiftId : String) : (call : DeskCall) → Decidable (call.Pending shiftId)
  | .tender call => inferInstanceAs (Decidable (call.Pending shiftId))
  | .shift _ => isFalse id

def DeskCall.savesCount : DeskCall → Bool
  | .shift ⟨.realizarArqueoCiego _, .save ..⟩ => true
  | _ => false

def LetsCount (_ : EdgeDb) (call other : DeskCall) : Prop :=
  call.savesCount → ¬other.Pending shiftId
deriving Decidable

/-- A blind count about to be saved at the version it has read would list the same movements
again. -/
def CountsCurrent (db : EdgeDb) (call : ShiftCall) : Prop :=
  match call.command, call.state with
  | .realizarArqueoCiego _, .save shift movements =>
    ∀ row ∈ db.turnoRows shiftId, row.version = shift.version → db.listMovements shiftId = movements
  | _, _ => True

instance (shiftId : String) (db : EdgeDb) (call : ShiftCall) :
    Decidable (CountsCurrent shiftId db call) := by
  unfold CountsCurrent
  split <;> infer_instance

def DeskCall.Timely (db : EdgeDb) : DeskCall → Prop
  | .tender _ => True
  | .shift call => CountsCurrent shiftId db call

instance (shiftId : String) (db : EdgeDb) : (call : DeskCall) → Decidable (call.Timely shiftId db)
  | .tender _ => isTrue trivial
  | .shift call => inferInstanceAs (Decidable (CountsCurrent shiftId db call))

def TimelyMove (options : PaymentOptions) (shiftId : String) (db : EdgeDb) (call : DeskCall)
    (db' : EdgeDb) (call' : DeskCall) : Prop :=
  call.Timely shiftId db ∧ DeskMove options db call db' call'

/-! ### The invariant -/

structure Counted (row : TurnoCajaRow) (movements : List MovimientoCaja)
    (arqueos : List ArqueoCiego) : Prop where
  calculated : row.calculatedCashTotal = some (row.openingCashFloat + signedSum movements)
  declared : ∃ declared, row.closingDeclaredCash = some declared ∧
    row.cashDifference = some (declared - (row.openingCashFloat + signedSum movements))
  recorded : ∃ arqueo ∈ arqueos, arqueo.calculatedCash = row.openingCashFloat + signedSum movements

/-- A Corte Z carries the totals of the shift's blind count. -/
structure CutAs (row : TurnoCajaRow) (movements : List MovimientoCaja) (corte : CorteCaja) :
    Prop where
  calculated : corte.totalCalculado = row.openingCashFloat + signedSum movements
  declared : corte.totalDeclarado = row.closingDeclaredCash
  difference : corte.diferencia = row.cashDifference

structure Reconciled (shiftId : String) (db : EdgeDb) (row : TurnoCajaRow) : Prop where
  stored : db.turnoRows shiftId = [row]
  counted : row.status ≠ .abierto → Counted row (db.movimientosOf shiftId) (db.arqueosOf shiftId)
  cut : ∀ corte ∈ db.cortesZOf shiftId,
    row.status = .corteZEmitido ∧ CutAs row (db.movimientosOf shiftId) corte

/-- The shift a command holds is not newer than the stored row, and is that row while the
versions agree. -/
structure ShiftSeen (shiftId : String) (db : EdgeDb) (command : ShiftCommand) (shift : TurnoCaja) :
    Prop where
  id : shift.id = shiftId
  status : shift.status = command.needs
  version : ∀ row ∈ db.turnoRows shiftId, shift.version ≤ row.version
  current : ∀ row ∈ db.turnoRows shiftId, row.version = shift.version → shift.toTurnoCajaRow = row

def ShiftInStep (db : EdgeDb) (call : ShiftCall) : Prop :=
  call.command.shiftId = shiftId ∧
  match call.state with
  | .pin shift => ShiftSeen shiftId db call.command shift
  | .save shift movements =>
    ShiftSeen shiftId db call.command shift ∧
    (call.command.needs = .cerradoArqueo → ∀ row ∈ db.turnoRows shiftId,
      row.version = shift.version → signedSum movements = signedSum (db.movimientosOf shiftId))
  | _ => True

structure TenderInStep (options : PaymentOptions) (shiftId : String) (db : EdgeDb)
    (call : TenderCall) : Prop where
  built : ∀ cuenta existing params, call.state = .commit cuenta existing params →
    ∃ stamp, buildSettlement options.service call.command cuenta existing stamp = .ok params
  isOpen : call.Pending shiftId → ∀ row ∈ db.turnoRows shiftId, row.status = .abierto

def DeskCall.InStep (options : PaymentOptions) (shiftId : String) (db : EdgeDb) : DeskCall → Prop
  | .tender call => TenderInStep options shiftId db call
  | .shift call => ShiftInStep shiftId db call

/-! ### What a step does to the books -/

/-- A step that writes the books of the shift: it enters something while the shift is open, or
saves its blind count, or cuts it. -/
inductive ShiftEffect (shiftId : String) (db : EdgeDb) (call : DeskCall) (db' : EdgeDb)
    (row row' : TurnoCajaRow) : Prop
  | entered (isOpen : row.status = .abierto)
      (kept : ∃ version now, row' = { row with version := version, updatedAt := now })
      (grown : row' = row ∨ row.version < row'.version)
      (cortes : db'.cortesZOf shiftId = db.cortesZOf shiftId)
  | counted (saves : call.savesCount) (isOpen : row.status = .abierto)
      (grown : row.version < row'.version)
      (closed : row'.status = .cerradoArqueo)
      (totals : Counted row' (db.movimientosOf shiftId) (db'.arqueosOf shiftId))
      (movimientos : db'.movimientosOf shiftId = db.movimientosOf shiftId)
      (cortes : db'.cortesZOf shiftId = db.cortesZOf shiftId)
  | cut (wasCounted : row.status = .cerradoArqueo) (grown : row.version < row'.version)
      (kept : ∃ closedAt version now, row' = { row with
        status := .corteZEmitido, closedAt := closedAt, version := version, updatedAt := now })
      (movimientos : db'.movimientosOf shiftId = db.movimientosOf shiftId)
      (arqueos : db'.arqueosOf shiftId = db.arqueosOf shiftId)
      (cortes : ∃ corte, db'.cortesZOf shiftId = db.cortesZOf shiftId ++ [corte] ∧
        CutAs row (db.movimientosOf shiftId) corte)

section Books

variable {options : PaymentOptions} {shiftId : String} {db db' : EdgeDb} {mover : DeskCall}
  {row row' : TurnoCajaRow}

theorem Reconciled.no_cut (reconciled : Reconciled shiftId db row)
    (notCut : row.status ≠ .corteZEmitido) : db.cortesZOf shiftId = [] :=
  List.eq_nil_iff_forall_not_mem.mpr fun corte member => notCut (reconciled.cut corte member).1

theorem Reconciled.of_leaves (reconciled : Reconciled shiftId db row)
    (leaves : LeavesShift shiftId db db') : Reconciled shiftId db' row := by
  constructor
  · rw [leaves.turnos, reconciled.stored]
  · rw [leaves.movimientos, leaves.arqueos]
    exact reconciled.counted
  · rw [leaves.movimientos, leaves.cortes]
    exact reconciled.cut

/-- A call that waits keeps its place: the row it has read is still there, or is older than the
stored one. -/
theorem ShiftSeen.of_grown {command : ShiftCommand} {shift : TurnoCaja}
    (stored : db.turnoRows shiftId = [row])
    (stored' : db'.turnoRows shiftId = [row']) (grown : row' = row ∨ row.version < row'.version)
    (seen : ShiftSeen shiftId db command shift) : ShiftSeen shiftId db' command shift := by
  have notNewer : shift.version ≤ row.version := seen.version row (by simp [stored])
  have current := seen.current row (by simp [stored])
  refine ⟨seen.id, seen.status, ?_, ?_⟩
  · rintro other member
    obtain rfl : other = row' := by simpa [stored'] using member
    rcases grown with rfl | newer <;> omega
  · rintro other member same
    obtain rfl : other = row' := by simpa [stored'] using member
    rcases grown with rfl | newer
    · exact current same
    · omega

theorem ShiftInStep.of_leaves {call : ShiftCall} (leaves : LeavesShift shiftId db db')
    (inStep : ShiftInStep shiftId db call) : ShiftInStep shiftId db' call := by
  refine ⟨inStep.1, ?_⟩
  have place := inStep.2
  have keeps : ∀ shift, ShiftSeen shiftId db call.command shift →
      ShiftSeen shiftId db' call.command shift := by
    rintro shift ⟨id, status, version, current⟩
    rw [← leaves.turnos] at version current
    exact ⟨id, status, version, current⟩
  split at place
  next => exact keeps _ place
  next =>
    rw [leaves.turnos, leaves.movimientos]
    exact ⟨keeps _ place.1, place.2⟩
  next => trivial

section Effect

variable (stored : db.turnoRows shiftId = [row]) (stored' : db'.turnoRows shiftId = [row'])
  (effect : ShiftEffect shiftId db mover db' row row')

include effect

theorem ShiftEffect.isOpen (entered : db'.movimientosOf shiftId ≠ db.movimientosOf shiftId) :
    row.status = .abierto := by
  cases effect with
  | entered isOpen _ _ _ | counted _ isOpen _ _ _ _ _ => exact isOpen
  | cut _ _ _ movimientos _ _ => exact absurd movimientos entered

theorem ShiftEffect.grown : (row' = row ∧ row.status = .abierto) ∨ row.version < row'.version := by
  cases effect with
  | entered isOpen _ grown _ => exact grown.imp (fun same => ⟨same, isOpen⟩) id
  | counted _ _ grown _ _ _ _ | cut _ grown _ _ _ _ => exact .inr grown

include stored'

theorem Reconciled.of_effect (reconciled : Reconciled shiftId db row) :
    Reconciled shiftId db' row' := by
  refine ⟨stored', ?_, ?_⟩
  · intro notOpen
    cases effect with
    | entered isOpen kept grown cortes =>
      obtain ⟨version, now, rfl⟩ := kept
      exact absurd isOpen notOpen
    | counted saves isOpen grown closed totals movimientos cortes =>
      rw [movimientos]
      exact totals
    | cut wasCounted grown kept movimientos arqueos cortes =>
      -- the row keeps the totals of its count
      have totals := reconciled.counted (by simp [wasCounted])
      obtain ⟨closedAt, version, now, rfl⟩ := kept
      rw [movimientos, arqueos]
      exact ⟨totals.calculated, totals.declared, totals.recorded⟩
  · intro corte member
    cases effect with
    | entered isOpen kept grown cortes
    | counted saves isOpen grown closed totals movimientos cortes =>
      rw [cortes, reconciled.no_cut (by simp [isOpen])] at member
      simp at member
    | cut wasCounted grown kept movimientos arqueos cortes =>
      obtain ⟨saved, listed, cutAs⟩ := cortes
      rw [listed, reconciled.no_cut (by simp [wasCounted])] at member
      obtain rfl : corte = saved := by simpa using member
      obtain ⟨closedAt, version, now, rfl⟩ := kept
      rw [movimientos]
      exact ⟨rfl, cutAs.calculated, cutAs.declared, cutAs.difference⟩

include stored

theorem ShiftInStep.of_effect {call : ShiftCall} (inStep : ShiftInStep shiftId db call) :
    ShiftInStep shiftId db' call := by
  have grown := effect.grown
  refine ⟨inStep.1, ?_⟩
  have place := inStep.2
  have keeps (shift : TurnoCaja) (seen : ShiftSeen shiftId db call.command shift) :=
    seen.of_grown stored stored' (grown.imp And.left id)
  split at place
  next => exact keeps _ place
  next shift movements state =>
    obtain ⟨seen, listed⟩ := place
    refine ⟨keeps _ seen, ?_⟩
    rintro needs other member same
    obtain rfl : other = row' := by simpa [stored'] using member
    rcases grown with ⟨rfl, isOpen⟩ | newer
    · -- a Corte Z that is still current holds a counted shift, not an open one
      have isRow := seen.current other (by simp [stored]) same
      have isCounted : other.status = .cerradoArqueo := by
        rw [← isRow, ← needs, ← seen.status]
      simp [isOpen] at isCounted
    · have notNewer := seen.version row (by simp [stored])
      omega
  next => trivial

theorem TenderInStep.of_effect {call : TenderCall}
    (lets : LetsCount shiftId db mover (.tender call))
    (inStep : TenderInStep options shiftId db call) : TenderInStep options shiftId db' call := by
  refine ⟨inStep.built, fun pending other member => ?_⟩
  obtain rfl : other = row' := by simpa [stored'] using member
  have isOpen := inStep.isOpen pending row (by simp [stored])
  cases effect with
  | entered _ kept _ _ =>
    obtain ⟨version, now, rfl⟩ := kept
    exact isOpen
  | counted saves _ _ _ _ _ _ => exact absurd pending (lets saves)
  | cut wasCounted _ _ _ _ _ => simp [isOpen] at wasCounted

theorem DeskCall.InStep.of_effect {call : DeskCall} (lets : LetsCount shiftId db mover call)
    (inStep : call.InStep options shiftId db) : call.InStep options shiftId db' := by
  cases call with
  | tender call =>
    exact TenderInStep.of_effect stored stored' effect lets inStep
  | shift call =>
    exact ShiftInStep.of_effect stored stored' effect inStep

end Effect

/-! ### What the commands do -/

theorem ShiftSave.effect {oracle : ShiftOracle} {call : ShiftCall}
    (stored : db.turnoRows shiftId = [row])
    (inStep : ShiftInStep shiftId db call) (timely : CountsCurrent shiftId db call)
    (save : ShiftSave oracle db db' call) :
    ∃ row', db'.turnoRows shiftId = [row'] ∧ ShiftEffect shiftId db (.shift call) db' row row' := by
  have place := inStep.2
  cases save with
  | operador shift updated command isCommand state isUpdated saved =>
    simp only [state] at place
    obtain rfl := place.id
    subst isUpdated
    obtain ⟨version, stored', turnos, operadores, rfl⟩ :=
      saveShift_eq_ok row (by exact stored) saved
    obtain rfl := place.current row (by simp [stored]) version
    refine ⟨_, stored', .entered ?_ ⟨shift.version + 1, oracle.now, rfl⟩ (.inr ?_) rfl⟩
    · simpa [isCommand, ShiftCommand.needs] using place.status
    · exact Nat.lt_succ_self _
  | movimiento shift command movement isCommand state about saved =>
    simp only [state] at place
    obtain rfl := place.id
    obtain ⟨version, stored', turnos, rfl⟩ := addMovement_eq_ok row (by exact stored) saved
    obtain rfl := place.current row (by simp [stored]) version
    refine ⟨_, stored', .entered ?_ ⟨shift.version + 1, oracle.now, rfl⟩ (.inr ?_) rfl⟩
    · simpa [isCommand, ShiftCommand.needs] using place.status
    · exact Nat.lt_succ_self _
  | arqueo shift command movements calculated isCommand state isTotal saved =>
    simp only [state] at place
    obtain ⟨seen, -⟩ := place
    obtain rfl := seen.id
    obtain ⟨version, stored', turnos, rfl⟩ := saveArqueoCiego_eq_ok row (by exact stored) saved
    obtain rfl := seen.current row (by simp [stored]) version
    -- the list the count was made from is still complete
    have listed : db.listMovements shift.id = movements := by
      simp only [CountsCurrent, isCommand, state] at timely
      exact timely _ (by simp [stored]) version
    have total : calculated = shift.openingCashFloat + signedSum (db.movimientosOf shift.id) := by
      rw [isTotal, ← listed, signedSum_perm (listMovements_perm db shift.id)]
    refine ⟨_, stored', .counted ?_ ?_ (Nat.lt_succ_self _) rfl ⟨?_, ?_, ?_⟩ rfl rfl⟩
    · obtain ⟨_, _⟩ := call
      subst isCommand state
      rfl
    · simpa [isCommand, ShiftCommand.needs] using seen.status
    · simp [TurnoCaja.counted, TurnoCaja.saved, countedShift, total]
    · exact ⟨command.declaredCash, rfl,
        by simp [TurnoCaja.counted, TurnoCaja.saved, countedShift, total]⟩
    · exact ⟨blindCountOf oracle command shift calculated, by simp [EdgeDb.arqueosOf, blindCountOf],
        total⟩
  | corteZ shift closed command movements isCommand state isClosed saved =>
    simp only [state] at place
    obtain ⟨seen, listed⟩ := place
    obtain rfl := seen.id
    subst isClosed
    obtain ⟨version, stored', turnos, outbox, rfl⟩ := saveCorteZ_eq_ok row (by exact stored) saved
    obtain rfl := seen.current row (by simp [stored]) version
    have sum := listed (by simp [isCommand, ShiftCommand.needs]) _ (by simp [stored]) version
    refine ⟨_, stored', .cut ?_ (Nat.lt_succ_self _)
      ⟨some oracle.now, shift.version + 1, oracle.now, rfl⟩ rfl rfl
      ⟨corteZOf oracle command shift movements, ?_, ⟨?_, rfl, rfl⟩⟩⟩
    · simpa [isCommand, ShiftCommand.needs] using seen.status
    · simp [EdgeDb.cortesZOf, corteZOf]
    · rw [← sum]
      exact computeBreakdown_totalCalculado movements shift.openingCashFloat

theorem ShiftInStep.moves {oracle : ShiftOracle} {call call' : ShiftCall}
    (unique : (db.turnoRows shiftId).length ≤ 1)
    (inStep : ShiftInStep shiftId db call) (moved : call.step oracle db = (db', call')) :
    ShiftInStep shiftId db' call' := by
  obtain ⟨kept, cases⟩ := call.step_cases call' moved
  have released : call'.state.holdsShift = false → ShiftInStep shiftId db' call' := by
    intro free
    refine ⟨by rw [kept, inStep.1], ?_⟩
    unfold ShiftState.holdsShift at free
    split at free <;> simp_all
  rcases cases with ⟨rfl, free | rfl⟩ | ⟨rfl, shift, reads, accepted⟩ |
    ⟨rfl, shift, state, lists⟩ | ⟨-, free⟩
  · exact released free
  · exact inStep
  · obtain ⟨found, status⟩ := call.command.check_eq_ok accepted
    rw [inStep.1] at found
    obtain ⟨stored, isId⟩ := getShiftById_eq_some unique found
    refine ⟨by rw [kept, inStep.1], ?_⟩
    rw [reads, kept]
    refine ⟨isId, status, ?_, ?_⟩
    · rintro row member
      obtain rfl : row = shift.toTurnoCajaRow := by simpa [stored] using member
      exact Nat.le_refl _
    · rintro row member -
      obtain rfl : row = shift.toTurnoCajaRow := by simpa [stored] using member
      rfl
  · have seen := inStep.2
    simp only [state] at seen
    refine ⟨by rw [kept, inStep.1], ?_⟩
    rw [lists, kept]
    refine ⟨seen, fun _ row _ _ => ?_⟩
    rw [seen.id]
    exact signedSum_perm (listMovements_perm _ _)
  · exact released free

/-! ### What the tenders do -/

variable {params : AtomicSettlementParams}

theorem executeAtomicSettlement_movimientos {options : TenantOptions} {db db' : EdgeDb}
    {interruption : Option DomainError} {saved : Pago}
    (returned : executeAtomicSettlement options db params interruption = .ok (saved, db')) :
    db' = db ∨ (db'.turnos = db.turnos ∧ db'.arqueos = db.arqueos ∧ db'.cortes = db.cortes ∧
      db'.movimientos = db.movimientos ++ params.cashMovement.toList) := by
  unfold executeAtomicSettlement at returned
  split at returned
  next => exact .inl (Prod.mk.inj (Except.ok.inj returned)).2.symm
  simp only [Fallible.bind_eq_ok, Fallible.pure_eq_ok, Prod.mk.injEq] at returned
  obtain ⟨withPago, inserted, withCuenta, swapped, withMovement, moved, withEvent, enqueued, _, -,
    -, rfl⟩ := returned
  obtain ⟨-, -, rfl⟩ := (insertPago_eq_ok ..).mp inserted
  have movements := insertCashMovement_eq_ok moved
  subst movements
  obtain ⟨-, rfl⟩ := enqueueCuentaPagada_eq_ok enqueued
  rcases (saveCuenta_eq_ok ..).mp swapped with ⟨-, -, rfl⟩ | ⟨-, -, rfl⟩
  all_goals exact .inr ⟨rfl, rfl, rfl, rfl⟩

theorem buildSettlement_cashMovement {options : TenantOptions} {command : SubmitTenderCommand}
    {cuenta : Cuenta} {existing : List Pago} {stamp : Stamp} {movement : MovimientoCaja}
    (built : buildSettlement options command cuenta existing stamp = .ok params)
    (moves : params.cashMovement = some movement) :
    command.paymentMethod = .efectivo ∧ movement.turnoCajaId = command.turnoCajaId := by
  obtain ⟨-, cashGiven, changeDue, rfl⟩ := buildSettlement_eq_ok built
  simp only [settlementParams, cashMovementOf] at moves
  split at moves
  next isCash =>
    obtain rfl := Option.some.inj moves
    exact ⟨isCash, rfl⟩
  next => simp at moves

theorem TenderInStep.effect {call call' : TenderCall} (stored : db.turnoRows shiftId = [row])
    (inStep : TenderInStep options shiftId db call) (moved : TenderMove options db call db' call') :
    LeavesShift shiftId db db' ∨
      ∃ row', db'.turnoRows shiftId = [row'] ∧
        ShiftEffect shiftId db (.tender call) db' row row' := by
  obtain ⟨oracle, steps⟩ := moved
  obtain ⟨-, ⟨rfl, -⟩ | ⟨rfl, -⟩ | ⟨rfl, -⟩ | ⟨cuenta, existing, params, saved, result, state,
    committed, -⟩⟩ := TenderCall.step_cases steps
  iterate 3 exact .inl ⟨rfl, rfl, rfl, rfl⟩
  obtain ⟨stamp, built⟩ := inStep.built cuenta existing params state
  rcases executeAtomicSettlement_movimientos committed with
    rfl | ⟨turnos, arqueos, cortes, movimientos⟩
  · exact .inl ⟨rfl, rfl, rfl, rfl⟩
  · have turnoRows : db'.turnoRows shiftId = db.turnoRows shiftId := by
      simp only [EdgeDb.turnoRows, turnos]
    have cortesZ : db'.cortesZOf shiftId = db.cortesZOf shiftId := by
      simp only [EdgeDb.cortesZOf, cortes]
    cases cash : params.cashMovement with
    | none =>
      refine .inl ⟨turnoRows, ?_, by simp only [EdgeDb.arqueosOf, arqueos], cortesZ⟩
      simp [EdgeDb.movimientosOf, movimientos, cash]
    | some movement =>
      obtain ⟨isCash, names⟩ := buildSettlement_cashMovement built cash
      by_cases about : call.command.turnoCajaId = shiftId
      · have pending : call.Pending shiftId := ⟨by rw [state]; rfl, isCash, about⟩
        have isOpen := inStep.isOpen pending row (by simp [stored])
        exact .inr ⟨row, turnoRows.trans stored,
          .entered isOpen ⟨row.version, row.updatedAt, rfl⟩ (.inl rfl) cortesZ⟩
      · refine .inl ⟨turnoRows, ?_, by simp only [EdgeDb.arqueosOf, arqueos], cortesZ⟩
        simp [EdgeDb.movimientosOf, movimientos, cash, names, about]

theorem TenderCall.step_pastCheck {options : PaymentOptions} {oracle : TenderOracle}
    {db db' : EdgeDb} (call call' : TenderCall) (moved : call.step options oracle db = (db', call'))
    (past : call'.state.pastCheck) :
    call.state.pastCheck ∨
      (db' = db ∧
        ∃ shift, checkShift call.command (db.getShiftById call.command.turnoCajaId) = .ok shift) := by
  cases state : call.state with
  | account | payments | commit => exact .inl rfl
  | shift =>
    simp only [TenderCall.step, state] at moved
    split at moved <;> obtain ⟨rfl, rfl⟩ := Prod.mk.inj moved
    next => simp [TenderState.pastCheck] at past
    next shift accepted => exact .inr ⟨rfl, shift, accepted⟩
  | _ =>
    -- the remaining states lead to none that is past the check
    simp only [TenderCall.step, state] at moved
    repeat' split at moved
    all_goals
      obtain ⟨rfl, rfl⟩ := Prod.mk.inj moved
      simp [TenderState.pastCheck, state] at past

theorem TenderInStep.moves {call call' : TenderCall} (unique : (db.turnoRows shiftId).length ≤ 1)
    (inStep : TenderInStep options shiftId db call) (moved : TenderMove options db call db' call') :
    TenderInStep options shiftId db' call' := by
  obtain ⟨oracle, steps⟩ := moved
  obtain ⟨kept, cases⟩ := TenderCall.step_cases steps
  constructor
  · intro cuenta existing params state'
    rcases cases with ⟨-, free⟩ | ⟨-, read, reads, -⟩ | ⟨-, read, made, -, built, builds⟩ |
      ⟨-, -, -, -, result, -, -, done⟩
    · simp [state', TenderState.holdsAccount] at free
    · simp [state'] at reads
    · obtain ⟨rfl, rfl, rfl⟩ : read = cuenta ∧ _ = existing ∧ made = params := by
        simpa [state', eq_comm] using builds
      exact ⟨oracle.stamp, by rw [kept]; exact built⟩
    · simp [state'] at done
  · rintro ⟨past, isCash, names⟩
    rw [kept] at isCash names
    have same : db' = db := by
      rcases cases with ⟨same, -⟩ | ⟨same, -⟩ | ⟨same, -⟩ | ⟨_, _, _, _, result, -, -, done⟩
      iterate 3 exact same
      simp [done, TenderState.pastCheck] at past
    subst same
    rcases call.step_pastCheck call' steps past with
      already | ⟨-, shift, accepted⟩
    · exact inStep.isOpen ⟨already, isCash, names⟩
    · obtain ⟨found, isOpen⟩ := checkShift_eq_ok accepted
      rw [names] at found
      obtain ⟨stored, -⟩ := getShiftById_eq_some unique found
      rintro row member
      obtain rfl : row = shift.toTurnoCajaRow := by simpa [stored] using member
      exact isOpen

/-! ### Whole runs -/

theorem DeskCall.InStep.effect {call call' : DeskCall} (stored : db.turnoRows shiftId = [row])
    (inStep : call.InStep options shiftId db)
    (moved : TimelyMove options shiftId db call db' call') :
    LeavesShift shiftId db db' ∨
      ∃ row', db'.turnoRows shiftId = [row'] ∧ ShiftEffect shiftId db call db' row row' := by
  obtain ⟨timely, moved⟩ := moved
  cases moved with
  | tender _ call call' moved =>
    exact TenderInStep.effect stored inStep moved
  | shift _ call call' oracle moved =>
    obtain ⟨-, ⟨rfl, -⟩ | ⟨rfl, -⟩ | ⟨rfl, -⟩ | ⟨save, -⟩⟩ := call.step_cases call' moved
    iterate 3 exact .inl ⟨rfl, rfl, rfl, rfl⟩
    exact .inr (save.effect stored inStep timely)

theorem DeskCall.InStep.moves {call call' : DeskCall} (unique : (db.turnoRows shiftId).length ≤ 1)
    (inStep : call.InStep options shiftId db) (moved : TimelyMove options shiftId db call db' call') :
    call'.InStep options shiftId db' := by
  obtain ⟨-, moved⟩ := moved
  cases moved with
  | tender _ call call' moved =>
    exact TenderInStep.moves unique inStep moved
  | shift _ call call' oracle moved =>
    exact ShiftInStep.moves unique inStep moved

theorem DeskCall.InStep.of_leaves {call : DeskCall} (leaves : LeavesShift shiftId db db')
    (inStep : call.InStep options shiftId db) : call.InStep options shiftId db' := by
  cases call with
  | tender call =>
    refine ⟨inStep.built, ?_⟩
    rw [leaves.turnos]
    exact inStep.isOpen
  | shift call => exact ShiftInStep.of_leaves leaves inStep

theorem DeskCall.Begins.inStep {call : DeskCall} (begins : call.Begins shiftId) :
    call.InStep options shiftId db := by
  cases call with
  | tender call =>
    obtain ⟨command, state⟩ := call
    obtain rfl : state = .lookup := begins
    refine ⟨fun _ _ _ state => by simp at state, fun pending => ?_⟩
    simp [TenderCall.Pending, TenderState.pastCheck] at pending
  | shift call =>
    obtain ⟨command, state⟩ := call
    obtain ⟨about, rfl⟩ : command.shiftId = shiftId ∧ state = .read := begins
    exact ⟨about, trivial⟩

end Books

section Runs

variable (options : PaymentOptions) (shiftId : String) (db : EdgeDb)

theorem reconciled_reachable {calls : List DeskCall} {pool : Pool EdgeDb DeskCall}
    (opened : OpenShift shiftId db) (begins : ∀ call ∈ calls, call.Begins shiftId)
    (run : PermittedReachable (TimelyMove options shiftId) (LeavesShift shiftId)
      (LetsCount shiftId) ⟨db, calls⟩ pool) :
    Holds (fun db => ∃ row, Reconciled shiftId db row)
      (fun db call => call.InStep options shiftId db) pool := by
  refine Holds.permittedReachable _ _ ?_ ?_ ?_ ?_ ?_ run
  · rintro db call db' call' ⟨row, reconciled⟩ inStep moved
    have stored := reconciled.stored
    refine ⟨?_, inStep.moves (by simp [stored]) moved⟩
    rcases inStep.effect stored moved with leaves | ⟨row', stored', effect⟩
    · exact ⟨row, reconciled.of_leaves leaves⟩
    · exact ⟨row', reconciled.of_effect stored' effect⟩
  · rintro db call db' call' other ⟨row, reconciled⟩ inStep waits lets moved
    have stored := reconciled.stored
    rcases inStep.effect stored moved with leaves | ⟨row', stored', effect⟩
    · exact waits.of_leaves leaves
    · exact waits.of_effect stored stored' effect lets
  · rintro db db' ⟨row, reconciled⟩ leaves
    exact ⟨row, reconciled.of_leaves leaves⟩
  · rintro db db' call - inStep leaves
    exact inStep.of_leaves leaves
  · obtain ⟨⟨row, stored, isOpen⟩, cortes⟩ := opened
    refine ⟨⟨row, stored, fun notOpen => absurd isOpen notOpen, by simp [cortes]⟩, ?_⟩
    exact fun call member => (begins call member).inStep

/-- While blind counts are timely, movements are entered only in an open shift, and a Corte Z has
the total of the count, which is what the float and all movements of the shift come to. -/
theorem timely_counts_reconcile (calls : List DeskCall) (pool : Pool EdgeDb DeskCall)
    (opened : OpenShift shiftId db) (begins : ∀ call ∈ calls, call.Begins shiftId)
    (run : PermittedReachable (TimelyMove options shiftId) (LeavesShift shiftId)
      (LetsCount shiftId) ⟨db, calls⟩ pool) :
    (∀ pool', PermittedStep (TimelyMove options shiftId) (LeavesShift shiftId)
        (LetsCount shiftId) pool pool' →
      pool'.shared.movimientosOf shiftId ≠ pool.shared.movimientosOf shiftId →
      ∃ row, pool.shared.turnoRows shiftId = [row] ∧ row.status = .abierto) ∧
    (∀ corte ∈ pool.shared.cortesZOf shiftId,
      ∃ row declared, pool.shared.turnoRows shiftId = [row] ∧
        row.calculatedCashTotal = some corte.totalCalculado ∧
        (∃ arqueo ∈ pool.shared.arqueosOf shiftId, arqueo.calculatedCash = corte.totalCalculado) ∧
        corte.totalCalculado =
          row.openingCashFloat + signedSum (pool.shared.movimientosOf shiftId) ∧
        corte.totalDeclarado = some declared ∧
        corte.diferencia = some (declared - corte.totalCalculado)) := by
  obtain ⟨⟨row, reconciled⟩, each⟩ := reconciled_reachable options shiftId db opened begins run
  constructor
  · intro pool' step entered
    refine ⟨row, reconciled.stored, ?_⟩
    cases step with
    | call db db' call call' before after moved permitted =>
      rcases (each call (by simp)).effect reconciled.stored moved with leaves | ⟨row', -, effect⟩
      · exact absurd leaves.movimientos entered
      · exact effect.isOpen entered
    | others db db' calls leaves => exact absurd leaves.movimientos entered
  · intro corte member
    obtain ⟨isCut, cutAs⟩ := reconciled.cut corte member
    obtain ⟨calculated, ⟨declared, isDeclared, difference⟩, recorded⟩ :=
      reconciled.counted (by simp [isCut])
    rw [← cutAs.calculated] at calculated difference recorded
    exact ⟨row, declared, reconciled.stored, calculated, recorded, cutAs.calculated,
      cutAs.declared.trans isDeclared, cutAs.difference.trans difference⟩

end Runs

/-! ### Runs of one shift -/

def DeskCall.next (options : PaymentOptions) (oracle : TenderOracle × ShiftOracle) :
    EdgeDb × DeskCall → EdgeDb × DeskCall
  | (db, .tender call) => ((call.step options oracle.1 db).1, .tender (call.step options oracle.1 db).2)
  | (db, .shift call) => ((call.step oracle.2 db).1, .shift (call.step oracle.2 db).2)

theorem DeskCall.next_moves (options : PaymentOptions) (oracle : TenderOracle × ShiftOracle)
    (reached : EdgeDb × DeskCall) :
    DeskMove options reached.1 reached.2 (DeskCall.next options oracle reached).1
      (DeskCall.next options oracle reached).2 := by
  obtain ⟨db, call | call⟩ := reached
  · exact .tender db _ call _ ⟨oracle.1, rfl⟩
  · exact .shift db _ call _ oracle.2 rfl

def sampleDeskOracle : TenderOracle × ShiftOracle :=
  (sampleOracle "p1",
    { pinValid := true, now := 1, id := "x", randomOp := "44444444-4444-4444-8444-444444444444"
      interruption := none })

def sampleDesk : EdgeDb × DeskCall → EdgeDb × DeskCall :=
  DeskCall.next sampleOptions sampleDeskOracle

def sampleCashCall : DeskCall := .tender sampleCash

def sampleCount : DeskCall :=
  .shift ⟨.realizarArqueoCiego
    { shiftId := "t", performedByUserId := "ana", declaredCash := 640000, expectedVersion := 1
      performedByPin := some "1234" }, .read⟩

def sampleCut : DeskCall :=
  .shift ⟨.generarCorteZ
    { shiftId := "t", closedByUserId := "ana", expectedVersion := 2, closedByPin := some "1234" },
    .read⟩

/-- The tender stops before its commit, the shift is counted and cut, and the tender resumes. -/
def sampleStopped : EdgeDb × DeskCall := sampleDesk^[5] (sampleDb, sampleCashCall)
def sampleEarlyCount : EdgeDb × DeskCall := sampleDesk^[3] (sampleStopped.1, sampleCount)
def sampleEarlyCut : EdgeDb × DeskCall := sampleDesk^[3] (sampleEarlyCount.1, sampleCut)
def sampleLate : EdgeDb × DeskCall := sampleDesk (sampleEarlyCut.1, sampleStopped.2)

def sampleListing : EdgeDb × DeskCall := sampleDesk^[2] (sampleDb, sampleCount)
def sampleBetween : EdgeDb × DeskCall := sampleDesk^[6] (sampleListing.1, sampleCashCall)
def sampleStale : EdgeDb × DeskCall := sampleDesk (sampleBetween.1, sampleListing.2)
def sampleStaleCut : EdgeDb × DeskCall := sampleDesk^[3] (sampleStale.1, sampleCut)

def sampleDay : List DeskCall := [sampleCashCall, sampleCount, sampleCut]

theorem sampleDay_begins : ∀ call ∈ sampleDay, call.Begins "t" := by
  intro call member
  simp only [sampleDay, List.mem_cons, List.not_mem_nil, or_false] at member
  rcases member with rfl | rfl | rfl
  · exact rfl
  · exact ⟨rfl, rfl⟩
  · exact ⟨rfl, rfl⟩

theorem sampleDb_open : OpenShift "t" sampleDb := ⟨⟨sampleTurnoRow, by decide +kernel, rfl⟩, rfl⟩

/-- A pending tender enters its movement in a shift that was cut meanwhile, and a tender between
the listing and the saving of the count is in the Corte Z but not in the count. -/
theorem late_tenders_break_reconciliation :
    OpenShift "t" sampleDb ∧ (∀ call ∈ sampleDay, call.Begins "t") ∧
    (Reachable (DeskMove sampleOptions) (LeavesShift "t") ⟨sampleDb, sampleDay⟩
        ⟨sampleEarlyCut.1, [sampleStopped.2, sampleEarlyCount.2, sampleEarlyCut.2]⟩ ∧
      Interleaving.Step (DeskMove sampleOptions) (LeavesShift "t")
        ⟨sampleEarlyCut.1, [sampleStopped.2, sampleEarlyCount.2, sampleEarlyCut.2]⟩
        ⟨sampleLate.1, [sampleLate.2, sampleEarlyCount.2, sampleEarlyCut.2]⟩ ∧
      sampleLate.1.movimientosOf "t" ≠ sampleEarlyCut.1.movimientosOf "t" ∧
      (∃ row ∈ sampleEarlyCut.1.turnoRows "t", row.status ≠ .abierto) ∧
      ∃ corte ∈ sampleLate.1.cortesZOf "t", ∃ row ∈ sampleLate.1.turnoRows "t",
        corte.totalCalculado ≠ row.openingCashFloat + signedSum (sampleLate.1.movimientosOf "t")) ∧
    (Reachable (DeskMove sampleOptions) (LeavesShift "t") ⟨sampleDb, sampleDay⟩
        ⟨sampleStaleCut.1, [sampleBetween.2, sampleStale.2, sampleStaleCut.2]⟩ ∧
      ∃ corte ∈ sampleStaleCut.1.cortesZOf "t", ∃ row ∈ sampleStaleCut.1.turnoRows "t",
        row.calculatedCashTotal ≠ some corte.totalCalculado) := by
  have alone := fun before after n db call final (ends : sampleDesk^[n] (db, call) = final) =>
    Reachable.iterate (LeavesShift "t") sampleDesk before after ends
      fun _ _ => DeskCall.next_moves sampleOptions sampleDeskOracle _
  refine ⟨sampleDb_open, sampleDay_begins, ⟨?_, ?_, ?_, ?_, ?_⟩, ?_, ?_⟩
  · refine .trans (alone [] [sampleCount, sampleCut] 5 _ _ sampleStopped rfl) ?_
    refine .trans (alone [sampleStopped.2] [sampleCut] 3 _ _ sampleEarlyCount rfl) ?_
    exact alone [sampleStopped.2, sampleEarlyCount.2] [] 3 _ _ sampleEarlyCut rfl
  · exact .call _ _ _ _ [] [sampleEarlyCount.2, sampleEarlyCut.2]
      (DeskCall.next_moves sampleOptions sampleDeskOracle (sampleEarlyCut.1, sampleStopped.2))
  · decide +kernel
  · decide +kernel
  · decide +kernel
  · refine .trans (alone [sampleCashCall] [sampleCut] 2 _ _ sampleListing rfl) ?_
    refine .trans (alone [] [sampleListing.2, sampleCut] 6 _ _ sampleBetween rfl) ?_
    refine .trans (alone [sampleBetween.2] [sampleCut] 1 _ _ sampleStale rfl) ?_
    exact alone [sampleBetween.2, sampleStale.2] [] 3 _ _ sampleStaleCut rfl
  · decide +kernel

def sampleSeen : EdgeDb × DeskCall := sampleDesk (sampleStopped.1, sampleCount)
def sampleSold : EdgeDb × DeskCall := sampleDesk (sampleSeen.1, sampleStopped.2)
def sampleTimelyCount : EdgeDb × DeskCall := sampleDesk^[2] (sampleSold.1, sampleSeen.2)
def sampleTimelyCut : EdgeDb × DeskCall := sampleDesk^[3] (sampleTimelyCount.1, sampleCut)

theorem timely_alone (before after : List DeskCall) (n : Nat) {db : EdgeDb} {call : DeskCall}
    (final : EdgeDb × DeskCall) (ends : sampleDesk^[n] (db, call) = final)
    (timely : ∀ k < n, (sampleDesk^[k] (db, call)).2.Timely "t" (sampleDesk^[k] (db, call)).1)
    (lets : ∀ k < n, ∀ other ∈ before ++ after,
      LetsCount "t" (sampleDesk^[k] (db, call)).1 (sampleDesk^[k] (db, call)).2 other) :
    PermittedReachable (TimelyMove sampleOptions "t") (LeavesShift "t")
      (LetsCount "t") ⟨db, before ++ call :: after⟩ ⟨final.1, before ++ final.2 :: after⟩ :=
  PermittedReachable.iterate _ _ sampleDesk before after ends
    (fun k lt => ⟨timely k lt, DeskCall.next_moves sampleOptions sampleDeskOracle _⟩) lets

theorem sampleTimelyCut_reached :
    PermittedReachable (TimelyMove sampleOptions "t") (LeavesShift "t")
      (LetsCount "t") ⟨sampleDb, sampleDay⟩
      ⟨sampleTimelyCut.1, [sampleSold.2, sampleTimelyCount.2, sampleTimelyCut.2]⟩ := by
  refine .trans (timely_alone [] [sampleCount, sampleCut] 5 sampleStopped rfl
    (by decide +kernel) (by decide +kernel)) ?_
  refine .trans (timely_alone [sampleStopped.2] [sampleCut] 1 sampleSeen rfl
    (by decide +kernel) (by decide +kernel)) ?_
  refine .trans (timely_alone [] [sampleSeen.2, sampleCut] 1 sampleSold rfl
    (by decide +kernel) (by decide +kernel)) ?_
  refine .trans (timely_alone [sampleSold.2] [sampleCut] 2 sampleTimelyCount rfl
    (by decide +kernel) (by decide +kernel)) ?_
  exact timely_alone [sampleSold.2, sampleTimelyCount.2] [] 3 sampleTimelyCut rfl
    (by decide +kernel) (by decide +kernel)

theorem sample_count_reconciles :
    ∃ corte ∈ sampleTimelyCut.1.cortesZOf "t", corte.totalCalculado = 650000 ∧
      ∃ row declared, sampleTimelyCut.1.turnoRows "t" = [row] ∧
        row.calculatedCashTotal = some corte.totalCalculado ∧
        corte.totalDeclarado = some declared ∧
        corte.diferencia = some (declared - corte.totalCalculado) := by
  obtain ⟨-, cut⟩ := timely_counts_reconcile sampleOptions "t" sampleDb sampleDay _ sampleDb_open
    sampleDay_begins sampleTimelyCut_reached
  have stored : ∃ corte ∈ sampleTimelyCut.1.cortesZOf "t", corte.totalCalculado = 650000 := by
    decide +kernel
  obtain ⟨corte, member, total⟩ := stored
  obtain ⟨row, declared, stored, calculated, -, -, isDeclared, difference⟩ := cut corte member
  exact ⟨corte, member, total, row, declared, stored, calculated, isDeclared, difference⟩

end TridentPos.Pos
