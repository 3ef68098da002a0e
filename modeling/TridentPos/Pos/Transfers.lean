import TridentPos.Pos.AccountBooks
import TridentPos.Pos.SalonService

/-!
# Transfers

`transferCuentaSync` saves the source table, the target table and the account from what it read
before, each with the version it had then. Where source and target are one table the second save
expects a version the first one has already replaced: the transfer throws, and the table stays
free.
-/
namespace TridentPos.Pos

open Core Library

/-! ### What a transfer is asked for -/

structure TransferAllowed (validatePin : String → String → Bool) (db : EdgeDb)
    (input : TransferCuentaInput) (cuenta : Cuenta) (source target : Mesa) : Prop where
  pin : validatePin input.targetWaiterUserId input.targetWaiterPin
  account : db.getCuentaById input.cuentaId = some cuenta
  current : cuenta.version = input.expectedVersion
  fromMesa : db.getMesaById input.sourceMesaId = some source
  toMesa : db.getMesaById input.targetMesaId = some target
  rule : (validateTransfer source target cuenta input.context).allowed

structure Transferred (db : EdgeDb) (input : TransferCuentaInput) : Prop where
  target : ∃ mesa, db.getMesaById input.targetMesaId = some mesa ∧ mesa.status = .ocupada ∧
    mesa.currentAccountId = some input.cuentaId
  cuenta : ∃ cuenta, db.getCuentaById input.cuentaId = some cuenta ∧
    cuenta.mesaId = some input.targetMesaId ∧
    cuenta.currentWaiterUserId = some input.targetWaiterUserId
  source : input.sourceMesaId ≠ input.targetMesaId →
    ∃ mesa, db.getMesaById input.sourceMesaId = some mesa ∧ mesa.status = .disponible

structure TransferMeets (validatePin : String → String → Bool) (db : EdgeDb)
    (input : TransferCuentaInput) (now : Nat) : Prop where
  succeeds : ∀ cuenta source target, TransferAllowed validatePin db input cuenta source target →
    ∃ result db', transferCuentaSync validatePin db input now = (.ok result, db') ∧
      Transferred db' input
  unchanged : ∀ e db', transferCuentaSync validatePin db input now = (.error e, db') →
    ∀ id, db'.getMesaById id = db.getMesaById id ∧ db'.getCuentaById id = db.getCuentaById id

theorem planTransfer_eq_ok (validatePin : String → String → Bool) (db : EdgeDb)
    (input : TransferCuentaInput) (cuenta : Cuenta) (source target : Mesa) :
    planTransfer validatePin db input = .ok (cuenta, source, target) ↔
      TransferAllowed validatePin db input cuenta source target := by
  constructor
  · intro planned
    unfold planTransfer at planned
    split at planned
    next => simp at planned
    next pin =>
      split at planned
      next => simp at planned
      next read found =>
        split at planned
        next => simp at planned
        next current =>
          split at planned
          next => simp at planned
          next freed foundSource =>
            split at planned
            next => simp at planned
            next taken foundTarget =>
              dsimp only at planned
              split at planned
              next => simp at planned
              next allowed =>
                obtain ⟨rfl, rfl, rfl⟩ := planned
                exact ⟨by simpa using pin, found, not_not.mp current, foundSource, foundTarget,
                  by simpa using allowed⟩
  · rintro ⟨pin, found, current, foundSource, foundTarget, rule⟩
    simp [planTransfer, pin, found, current, foundSource, foundTarget, rule]

abbrev EdgeDb.reseated (db : EdgeDb) (source target : Mesa) (id : String) (now : Nat) : EdgeDb :=
  (db.replaceMesa (freedMesa source now)).replaceMesa (occupiedMesa target id now)

abbrev EdgeDb.transferred (db : EdgeDb) (input : TransferCuentaInput) (cuenta : Cuenta)
    (source target : Mesa) (now : Nat) : EdgeDb :=
  (db.reseated source target cuenta.id now).swapCuenta (transferredCuenta cuenta target input now)
    input.expectedVersion

section Saves

variable {validatePin : String → String → Bool} {db : EdgeDb} (keyed : db.MesasKeyed)
  (wellFormed : db.WellFormed) {input : TransferCuentaInput} (now : Nat) {cuenta : Cuenta}
  {source target : Mesa} (allowed : TransferAllowed validatePin db input cuenta source target)

include keyed allowed

theorem TransferAllowed.ids : source.id = input.sourceMesaId ∧ target.id = input.targetMesaId :=
  ⟨((getMesaById_eq_some keyed _ _).mp allowed.fromMesa).2,
    ((getMesaById_eq_some keyed _ _).mp allowed.toMesa).2⟩

theorem saveSource_iff (freed : EdgeDb) :
    db.saveMesa (freedMesa source now) source.version = .ok freed ↔
      source.version ≠ 0 ∧ freed = db.replaceMesa (freedMesa source now) := by
  have found : db.getMesaById (freedMesa source now).id = some source := by
    rw [← allowed.fromMesa, ← (TransferAllowed.ids keyed allowed).1]
    rfl
  rw [saveMesa_stored db freed keyed (freedMesa source now) source _ found]
  exact ⟨fun saved => ⟨saved.1, saved.2.2⟩, fun saved => ⟨saved.1, rfl, saved.2⟩⟩

theorem saveTarget_iff (occupied : EdgeDb) :
    (db.replaceMesa (freedMesa source now)).saveMesa (occupiedMesa target cuenta.id now)
        target.version = .ok occupied ↔
      input.sourceMesaId ≠ input.targetMesaId ∧ target.version ≠ 0 ∧
        occupied = db.reseated source target cuenta.id now := by
  obtain ⟨sourceId, targetId⟩ := TransferAllowed.ids keyed allowed
  have keyed' := replaceMesa_keyed (freedMesa source now) keyed
  have lookup := getMesaById_replaceMesa db (freedMesa source now) target.id
  have isSource : (freedMesa source now).id = input.sourceMesaId := sourceId
  rw [isSource, targetId, allowed.toMesa] at lookup
  by_cases same : input.targetMesaId = input.sourceMesaId
  · -- the row has the version after the first save
    have oneTable : source = target := by
      have found := allowed.toMesa
      rw [same, allowed.fromMesa] at found
      exact Option.some.inj found
    rw [if_pos same, Option.map_some] at lookup
    have bumped : ¬ (freedMesa source now).version = target.version := by
      simp [freedMesa, oneTable]
    rw [saveMesa_stored _ occupied keyed' (occupiedMesa target cuenta.id now) (freedMesa source now)
      _ (by rw [← lookup]; exact congrArg _ targetId)]
    simp [bumped, same]
  · rw [if_neg same] at lookup
    rw [saveMesa_stored _ occupied keyed' (occupiedMesa target cuenta.id now) target _
      (by rw [← lookup]; exact congrArg _ targetId)]
    exact ⟨fun saved => ⟨Ne.symm same, saved.1, saved.2.2⟩, fun saved => ⟨saved.2.1, rfl, saved.2.2⟩⟩

include wellFormed

omit keyed in
theorem saveMoved_iff (saved : EdgeDb) :
    (db.reseated source target cuenta.id now).saveCuenta (transferredCuenta cuenta target input now)
        input.expectedVersion = .ok saved ↔
      cuenta.version ≠ 0 ∧ saved = db.transferred input cuenta source target now := by
  have stored := getCuentaById_stored wellFormed allowed.account
  have found := findCuenta_of_cuentaRows db cuenta.id stored
  have row : cuenta.toCuentaRow ∈ db.cuentas := List.mem_of_find?_eq_some found
  rw [saveCuenta_eq_ok]
  constructor
  · rintro (⟨-, missing, -⟩ | ⟨nonzero, -, rfl⟩)
    · exact absurd (found.symm.trans missing) (by simp)
    · exact ⟨by rw [allowed.current]; exact nonzero, rfl⟩
  · rintro ⟨nonzero, rfl⟩
    exact .inr ⟨by rw [← allowed.current]; exact nonzero,
      ⟨cuenta.toCuentaRow, row, rfl, allowed.current⟩, rfl⟩

theorem transferCuentaSync_eq_ok (result : Cuenta × Mesa × Mesa) (db' : EdgeDb) :
    transferCuentaSync validatePin db input now = (.ok result, db') ↔
      (input.sourceMesaId ≠ input.targetMesaId ∧ source.version ≠ 0 ∧ target.version ≠ 0 ∧
        cuenta.version ≠ 0) ∧
      result = (transferredCuenta cuenta target input now, freedMesa source now,
        occupiedMesa target cuenta.id now) ∧
      db' = db.transferred input cuenta source target now := by
  have planned := (planTransfer_eq_ok ..).mpr allowed
  have first := saveSource_iff keyed now allowed
  have second := saveTarget_iff keyed now allowed
  have third := saveMoved_iff wellFormed now allowed
  rw [transferCuentaSync, planned]
  dsimp only
  constructor
  · intro returned
    split at returned
    next => simp at returned
    next freed frees =>
      obtain ⟨fromVersion, rfl⟩ := (first freed).mp frees
      split at returned
      next => simp at returned
      next occupied occupies =>
        obtain ⟨apart, toVersion, rfl⟩ := (second occupied).mp occupies
        split at returned
        next => simp at returned
        next saved saves =>
          obtain ⟨version, rfl⟩ := (third saved).mp saves
          simp only [Prod.mk.injEq, Except.ok.injEq] at returned
          exact ⟨⟨apart, fromVersion, toVersion, version⟩, returned.1.symm, returned.2.symm⟩
  · rintro ⟨⟨apart, fromVersion, toVersion, version⟩, rfl, rfl⟩
    rw [(first _).mpr ⟨fromVersion, rfl⟩]
    dsimp only
    rw [(second _).mpr ⟨apart, toVersion, rfl⟩]
    dsimp only
    rw [(third _).mpr ⟨version, rfl⟩]

theorem transferred_of_saves (apart : input.sourceMesaId ≠ input.targetMesaId) :
    Transferred (db.transferred input cuenta source target now) input := by
  obtain ⟨sourceId, targetId⟩ := TransferAllowed.ids keyed allowed
  have isId := getCuentaById_id allowed.account
  have stored := getCuentaById_stored wellFormed allowed.account
  have row : cuenta.toCuentaRow ∈ db.cuentas :=
    List.mem_of_find?_eq_some (findCuenta_of_cuentaRows db cuenta.id stored)
  have freedId : (freedMesa source now).id = input.sourceMesaId := sourceId
  have occupiedId : (occupiedMesa target cuenta.id now).id = input.targetMesaId := targetId
  have first := getMesaById_replaceMesa db (freedMesa source now)
  have second := getMesaById_replaceMesa (db.replaceMesa (freedMesa source now))
    (occupiedMesa target cuenta.id now)
  simp only [freedId, occupiedId] at first second
  refine ⟨⟨occupiedMesa target cuenta.id now, ?_, rfl, by simp [occupiedMesa, isId]⟩, ?_,
    fun _ => ⟨freedMesa source now, ?_, rfl⟩⟩
  · refine (second input.targetMesaId).trans ?_
    rw [if_pos rfl, first, if_neg apart.symm, allowed.toMesa]
    rfl
  · have rows := (swapCuenta_cuentaRows (transferredCuenta cuenta target input now)
      input.expectedVersion cuenta.toCuentaRow stored
      ⟨cuenta.toCuentaRow, row, rfl, allowed.current⟩).2
    have found := findCuenta_of_cuentaRows _ _ rows
    refine ⟨_, Option.map_eq_some_iff.mpr ⟨_, by rw [← isId]; exact found, rfl⟩, ?_, rfl⟩
    simp [overwriteCuenta, transferredCuenta, targetId]
  · refine (second input.sourceMesaId).trans ?_
    rw [if_neg apart, first, if_pos rfl, allowed.fromMesa]
    rfl

end Saves

/-- Transfers behave exactly on the inputs whose tables differ, when the rule allows them. -/
theorem transfer_meets_iff (validatePin : String → String → Bool) (db : EdgeDb)
    (keyed : db.MesasKeyed) (wellFormed : db.WellFormed) (input : TransferCuentaInput) (now : Nat) :
    TransferMeets validatePin db input now ↔
      ∀ cuenta source target, TransferAllowed validatePin db input cuenta source target →
        input.sourceMesaId ≠ input.targetMesaId ∧ source.version ≠ 0 ∧ target.version ≠ 0 ∧
          cuenta.version ≠ 0 := by
  constructor
  · intro meets cuenta source target allowed
    obtain ⟨result, db', returned, -⟩ := meets.succeeds cuenta source target allowed
    exact ((transferCuentaSync_eq_ok keyed wellFormed now allowed result db').mp returned).1
  · intro condition
    have succeeds (cuenta : Cuenta) (source target : Mesa)
        (allowed : TransferAllowed validatePin db input cuenta source target) :
        ∃ result db', transferCuentaSync validatePin db input now = (.ok result, db') ∧
          Transferred db' input := by
      have holds := condition cuenta source target allowed
      exact ⟨_, _, (transferCuentaSync_eq_ok keyed wellFormed now
        allowed _ _).mpr ⟨holds, rfl, rfl⟩, transferred_of_saves keyed
        wellFormed now allowed holds.1⟩
    refine ⟨succeeds, ?_⟩
    intro e db' returned id
    cases planned : planTransfer validatePin db input with
    | error refusal =>
      simp only [transferCuentaSync, planned, Prod.mk.injEq] at returned
      obtain ⟨-, rfl⟩ := returned
      exact ⟨rfl, rfl⟩
    | ok plan =>
      obtain ⟨cuenta, source, target⟩ := plan
      obtain ⟨result, after, made, -⟩ := succeeds cuenta source target
        ((planTransfer_eq_ok ..).mp planned)
      rw [made] at returned
      simp at returned

theorem transferCuentaSync_cases {validatePin : String → String → Bool} {db db' : EdgeDb}
    (keyed : db.MesasKeyed) (wellFormed : db.WellFormed) {input : TransferCuentaInput} {now : Nat}
    {result : Except DomainError (Cuenta × Mesa × Mesa)}
    (returned : transferCuentaSync validatePin db input now = (result, db')) :
    db' = db ∨ ∃ cuenta source target, TransferAllowed validatePin db input cuenta source target ∧
      (db' = db.replaceMesa (freedMesa source now) ∨
        (input.sourceMesaId ≠ input.targetMesaId ∧
          (cuenta.version = 0 ∧ db' = db.reseated source target cuenta.id now ∨
            db' = db.transferred input cuenta source target now))) := by
  unfold transferCuentaSync at returned
  split at returned
  next => exact .inl (Prod.mk.inj returned).2.symm
  next cuenta source target planned =>
    have allowed := (planTransfer_eq_ok ..).mp planned
    have first := saveSource_iff keyed now allowed
    have second := saveTarget_iff keyed now allowed
    have third := saveMoved_iff wellFormed now allowed
    split at returned
    next => exact .inl (Prod.mk.inj returned).2.symm
    next freed frees =>
      obtain ⟨-, rfl⟩ := (first freed).mp frees
      refine .inr ⟨cuenta, source, target, allowed, ?_⟩
      split at returned
      next => exact .inl (Prod.mk.inj returned).2.symm
      next occupied occupies =>
        obtain ⟨apart, -, rfl⟩ := (second occupied).mp occupies
        refine .inr ⟨apart, ?_⟩
        dsimp only at returned
        split at returned
        next e fails =>
          left
          refine ⟨?_, (Prod.mk.inj returned).2.symm⟩
          by_contra nonzero
          rw [(third _).mpr ⟨nonzero, rfl⟩] at fails
          simp at fails
        next saved saves =>
          obtain ⟨-, rfl⟩ := (third saved).mp saves
          exact .inr (Prod.mk.inj returned).2.symm

/-! ### A new waiter at the same table -/

def sampleMesa (id : String) : CreateMesaInput :=
  { id := id, roomName := "Terraza", tableNumber := id, posX := none, posY := none
    capacity := some 4 }

def sampleSeated : EdgeDb :=
  Fallible.stateAfter EdgeDb.empty do
    let (_, db) ← createMesaSync EdgeDb.empty (sampleMesa "m1") 0
    let (_, db) ← createMesaSync db (sampleMesa "m2") 0
    let (cuenta, _, db) ← openCuentaSync db
      { id := "c", mesaId := some "m1", epochId := "ep_1", accountType := .comedor
        openedByUserId := "ana", currentWaiterUserId := none, guestCount := none } 0
    return (cuenta, db)

def sampleTransfer (target : String) : TransferCuentaInput :=
  { cuentaId := "c", expectedVersion := 1, sourceMesaId := "m1", targetMesaId := target
    sourceWaiterUserId := "ana", targetWaiterUserId := "eva", targetWaiterPin := "1234"
    reason := none }

theorem sampleSeated_keyed : sampleSeated.MesasKeyed := by
  unfold EdgeDb.MesasKeyed
  decide +kernel

theorem sampleSeated_wellFormed : sampleSeated.WellFormed := by
  have cuentas : sampleSeated.cuentas.map CuentaRow.id = ["c"] := by decide +kernel
  have noItems : sampleSeated.items = [] := by decide +kernel
  have noPagos : sampleSeated.pagos = [] := by decide +kernel
  refine ⟨fun id => ?_, by simp [noItems], fun id _ => by
    simp [EdgeDb.itemRows, EdgeDb.pagosOf, noItems, noPagos]⟩
  have one := congrArg List.length cuentas
  rw [List.length_map] at one
  exact (List.length_filter_le _ _).trans one.le

/-- The rule allows another waiter at the same table; the transfer throws, and the table it was
made at is free although the account is open. -/
theorem same_table_transfer_throws :
    (∃ cuenta source target, TransferAllowed (fun _ _ => true) sampleSeated (sampleTransfer "m1")
      cuenta source target) ∧
    (transferCuentaSync (fun _ _ => true) sampleSeated (sampleTransfer "m1") 1).1.isOk = false ∧
    ((transferCuentaSync (fun _ _ => true) sampleSeated (sampleTransfer "m1") 1).2.getMesaById
      "m1").map Mesa.status = some .disponible ∧
    ¬ TransferMeets (fun _ _ => true) sampleSeated (sampleTransfer "m1") 1 := by
  have allowed : ∃ cuenta source target, TransferAllowed (fun _ _ => true) sampleSeated
      (sampleTransfer "m1") cuenta source target :=
    ⟨_, _, _, rfl, rfl, rfl, rfl, rfl, by decide +kernel⟩
  have throws :
      (transferCuentaSync (fun _ _ => true) sampleSeated (sampleTransfer "m1") 1).1.isOk = false := by
    decide +kernel
  refine ⟨allowed, throws, by decide +kernel, fun meets => ?_⟩
  obtain ⟨cuenta, source, target, allows⟩ := allowed
  obtain ⟨result, db', returned, -⟩ := meets.succeeds cuenta source target allows
  rw [returned] at throws
  simp [Except.isOk, Except.toBool] at throws

theorem other_table_transfer_meets :
    TransferMeets (fun _ _ => true) sampleSeated (sampleTransfer "m2") 1 := by
  refine (transfer_meets_iff (fun _ _ => true) sampleSeated sampleSeated_keyed
    sampleSeated_wellFormed (sampleTransfer "m2") 1).mpr ?_
  intro cuenta source target allowed
  have versions : (sampleSeated.getMesaById "m1").map Mesa.version = some 2 ∧
      (sampleSeated.getMesaById "m2").map Mesa.version = some 1 := by decide +kernel
  have fromVersion : some source.version = some 2 :=
    (congrArg (Option.map Mesa.version) allowed.fromMesa).symm.trans versions.1
  have toVersion : some target.version = some 1 :=
    (congrArg (Option.map Mesa.version) allowed.toMesa).symm.trans versions.2
  have version : cuenta.version = 1 := allowed.current
  simp only [Option.some.injEq] at fromVersion toVersion
  exact ⟨by decide, by omega, by omega, by omega⟩

end TridentPos.Pos
