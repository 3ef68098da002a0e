import TridentPos.Pos.CashShift
import TridentPos.Library.Grouping
import Mathlib.Algebra.BigOperators.Ring.Finset

/-!
# The breakdown of a shift by operator

`computeBreakdown` is one loop over the movements with a row for each operator. Its totals are sums
over the movements, and its rows are the sums of the partition of the movements by operator, so the
order in which the movements are listed does not matter.
-/
namespace TridentPos.Pos

open Core Library CashBreakdown List

/-! ### Sums over movements -/

def MovimientoCaja.ingreso (movement : MovimientoCaja) : Int :=
  if movement.movementType = .ingreso then movement.amount else 0

def MovimientoCaja.egreso (movement : MovimientoCaja) : Int :=
  if movement.movementType = .egreso ∨ movement.movementType = .devolucionEfectivo then
    movement.amount
  else 0

def MovimientoCaja.ventaEfectivo (movement : MovimientoCaja) : Int :=
  if movement.movementType = .ventaEfectivo then movement.amount else 0

def operatorTotals (operatorUserId : String) (movements : List MovimientoCaja) :
    OperatorBreakdown :=
  { operatorUserId := operatorUserId, totalIngresos := (movements.map MovimientoCaja.ingreso).sum
    totalEgresos := (movements.map MovimientoCaja.egreso).sum
    totalVentasEfectivo := (movements.map MovimientoCaja.ventaEfectivo).sum
    netCash := signedSum movements, movementsCount := movements.length }

def movementsOf (operatorUserId : String) (movements : List MovimientoCaja) : List MovimientoCaja :=
  movements.filter fun movement => movement.operatorUserId == operatorUserId

theorem OperatorBreakdown.record_eq (movement : MovimientoCaja) (stats : OperatorBreakdown) :
    stats.record movement =
      { operatorUserId := stats.operatorUserId
        totalIngresos := stats.totalIngresos + movement.ingreso
        totalEgresos := stats.totalEgresos + movement.egreso
        totalVentasEfectivo := stats.totalVentasEfectivo + movement.ventaEfectivo
        netCash := stats.netCash + movement.signed
        movementsCount := stats.movementsCount + 1 } := by
  cases kind : movement.movementType <;>
    simp [OperatorBreakdown.record, MovimientoCaja.ingreso, MovimientoCaja.egreso,
      MovimientoCaja.ventaEfectivo, MovimientoCaja.signed, kind, Int.sub_eq_add_neg]

variable (movements : List MovimientoCaja) (operatorUserId : String)

theorem foldl_record :
    movements.foldl (fun stats movement => OperatorBreakdown.record movement stats)
      (OperatorBreakdown.none operatorUserId) = operatorTotals operatorUserId movements := by
  -- from any row, the loop adds the sums of the movements
  have loop (stats : OperatorBreakdown) :
      movements.foldl (fun stats movement => OperatorBreakdown.record movement stats) stats =
        { operatorUserId := stats.operatorUserId
          totalIngresos := stats.totalIngresos + (movements.map MovimientoCaja.ingreso).sum
          totalEgresos := stats.totalEgresos + (movements.map MovimientoCaja.egreso).sum
          totalVentasEfectivo :=
            stats.totalVentasEfectivo + (movements.map MovimientoCaja.ventaEfectivo).sum
          netCash := stats.netCash + signedSum movements
          movementsCount := stats.movementsCount + movements.length } := by
    induction movements generalizing stats with
    | nil => simp [signedSum]
    | cons movement movements ih =>
      rw [foldl_cons, ih, OperatorBreakdown.record_eq]
      simp only [map_cons, sum_cons, signedSum, length_cons,
        OperatorBreakdown.mk.injEq, true_and]
      omega
  rw [loop]
  simp [OperatorBreakdown.none, operatorTotals]

/-! ### The loop groups -/

def byOperator : Grouping MovimientoCaja OperatorBreakdown String where
  key := MovimientoCaja.operatorUserId
  rowKey := OperatorBreakdown.operatorUserId
  empty := OperatorBreakdown.none
  record := OperatorBreakdown.record
  rowKey_empty := fun _ => rfl
  rowKey_record := fun movement stats => by rw [OperatorBreakdown.record_eq]

theorem byOperator_rowOf (movements : List MovimientoCaja) :
    byOperator.rowOf operatorUserId movements =
      operatorTotals operatorUserId (movementsOf operatorUserId movements) :=
  foldl_record _ _

theorem CashBreakdown.record_eq (breakdown : CashBreakdown) (movement : MovimientoCaja) :
    breakdown.record movement =
      { totalIngresos := breakdown.totalIngresos + movement.ingreso
        totalEgresos := breakdown.totalEgresos + movement.egreso
        totalVentasEfectivo := breakdown.totalVentasEfectivo + movement.ventaEfectivo
        desgloseOperadores := byOperator.add breakdown.desgloseOperadores movement } := by
  cases kind : movement.movementType <;>
    simp [record, MovimientoCaja.ingreso, MovimientoCaja.egreso,
      MovimientoCaja.ventaEfectivo, kind, byOperator, Grouping.add]

theorem computeBreakdown_eq :
    computeBreakdown movements =
      { totalIngresos := (movements.map MovimientoCaja.ingreso).sum
        totalEgresos := (movements.map MovimientoCaja.egreso).sum
        totalVentasEfectivo := (movements.map MovimientoCaja.ventaEfectivo).sum
        desgloseOperadores := byOperator.group movements } := by
  have loop (breakdown : CashBreakdown) :
      movements.foldl record breakdown =
        { totalIngresos := breakdown.totalIngresos + (movements.map MovimientoCaja.ingreso).sum
          totalEgresos := breakdown.totalEgresos + (movements.map MovimientoCaja.egreso).sum
          totalVentasEfectivo :=
            breakdown.totalVentasEfectivo + (movements.map MovimientoCaja.ventaEfectivo).sum
          desgloseOperadores := movements.foldl byOperator.add breakdown.desgloseOperadores } := by
    induction movements generalizing breakdown with
    | nil => simp
    | cons movement movements ih =>
      rw [foldl_cons, ih, record_eq]
      simp only [map_cons, sum_cons, foldl_cons, mk.injEq, and_true]
      omega
  rw [computeBreakdown, loop]
  simp [Grouping.group]

theorem mem_desgloseOperadores (row : OperatorBreakdown) :
    row ∈ (computeBreakdown movements).desgloseOperadores ↔
      ∃ movement ∈ movements, row = operatorTotals movement.operatorUserId
        (movementsOf movement.operatorUserId movements) := by
  rw [computeBreakdown_eq, Grouping.mem_group]
  simp only [byOperator_rowOf]
  rfl

/-! ### Permutations and concatenations -/

structure CashBreakdown.Agrees (breakdown other : CashBreakdown) : Prop where
  totalIngresos : breakdown.totalIngresos = other.totalIngresos
  totalEgresos : breakdown.totalEgresos = other.totalEgresos
  totalVentasEfectivo : breakdown.totalVentasEfectivo = other.totalVentasEfectivo
  rows : ∀ row, row ∈ breakdown.desgloseOperadores ↔ row ∈ other.desgloseOperadores

def OperatorBreakdown.add (stats other : OperatorBreakdown) : OperatorBreakdown :=
  { operatorUserId := stats.operatorUserId
    totalIngresos := stats.totalIngresos + other.totalIngresos
    totalEgresos := stats.totalEgresos + other.totalEgresos
    totalVentasEfectivo := stats.totalVentasEfectivo + other.totalVentasEfectivo
    netCash := stats.netCash + other.netCash
    movementsCount := stats.movementsCount + other.movementsCount }

def CashBreakdown.rowOf (breakdown : CashBreakdown) (operatorUserId : String) : OperatorBreakdown :=
  (breakdown.desgloseOperadores.find? fun row => row.operatorUserId == operatorUserId).getD
    (OperatorBreakdown.none operatorUserId)

structure CashBreakdown.IsSum (whole breakdown other : CashBreakdown) : Prop where
  totalIngresos : whole.totalIngresos = breakdown.totalIngresos + other.totalIngresos
  totalEgresos : whole.totalEgresos = breakdown.totalEgresos + other.totalEgresos
  totalVentasEfectivo :
    whole.totalVentasEfectivo = breakdown.totalVentasEfectivo + other.totalVentasEfectivo
  rows : ∀ operatorUserId, whole.rowOf operatorUserId =
    (breakdown.rowOf operatorUserId).add (other.rowOf operatorUserId)
  operators : ∀ operatorUserId,
    operatorUserId ∈ whole.desgloseOperadores.map OperatorBreakdown.operatorUserId ↔
      operatorUserId ∈ breakdown.desgloseOperadores.map OperatorBreakdown.operatorUserId ∨
        operatorUserId ∈ other.desgloseOperadores.map OperatorBreakdown.operatorUserId

theorem operatorTotals_perm {movements movements' : List MovimientoCaja}
    (same : movements.Perm movements') :
    operatorTotals operatorUserId movements = operatorTotals operatorUserId movements' := by
  simp only [operatorTotals, signedSum, (same.map _).sum_eq, same.length_eq]

theorem operatorTotals_append (movements movements' : List MovimientoCaja) :
    operatorTotals operatorUserId (movements ++ movements') =
      (operatorTotals operatorUserId movements).add (operatorTotals operatorUserId movements') := by
  simp [operatorTotals, OperatorBreakdown.add, signedSum]

theorem computeBreakdown_agrees {movements movements' : List MovimientoCaja}
    (same : movements.Perm movements') :
    (computeBreakdown movements).Agrees (computeBreakdown movements') := by
  have rows (row : OperatorBreakdown) : row ∈ (computeBreakdown movements).desgloseOperadores ↔
      row ∈ (computeBreakdown movements').desgloseOperadores := by
    simp only [mem_desgloseOperadores, same.mem_iff]
    refine exists_congr fun movement => and_congr_right fun _ => ?_
    rw [movementsOf, operatorTotals_perm _ (same.filter _), movementsOf]
  rw [computeBreakdown_eq, computeBreakdown_eq] at rows ⊢
  exact ⟨(same.map _).sum_eq, (same.map _).sum_eq, (same.map _).sum_eq, rows⟩

theorem computeBreakdown_operators :
    operatorUserId ∈
        (computeBreakdown movements).desgloseOperadores.map OperatorBreakdown.operatorUserId ↔
      ∃ movement ∈ movements, movement.operatorUserId = operatorUserId := by
  constructor
  · intro listed
    obtain ⟨row, member, rfl⟩ := mem_map.mp listed
    obtain ⟨movement, made, rfl⟩ := (mem_desgloseOperadores movements row).mp member
    exact ⟨movement, made, rfl⟩
  · rintro ⟨movement, made, rfl⟩
    exact mem_map.mpr ⟨_, (mem_desgloseOperadores movements _).mpr ⟨movement, made, rfl⟩, rfl⟩

theorem rowOf_computeBreakdown :
    (computeBreakdown movements).rowOf operatorUserId =
      operatorTotals operatorUserId (movementsOf operatorUserId movements) := by
  cases found : (computeBreakdown movements).desgloseOperadores.find? fun row =>
      row.operatorUserId == operatorUserId with
  | some row =>
    have isOperator : row.operatorUserId = operatorUserId := by simpa using find?_some found
    obtain ⟨movement, -, isRow⟩ :=
      (mem_desgloseOperadores movements row).mp (mem_of_find?_eq_some found)
    subst isRow
    subst isOperator
    simp only [rowOf, found, Option.getD_some]
    rfl
  | none =>
    have idle : movementsOf operatorUserId movements = [] := by
      refine filter_eq_nil_iff.mpr fun movement made isOperator => ?_
      obtain ⟨row, member, same⟩ := mem_map.mp ((computeBreakdown_operators movements
        operatorUserId).mpr ⟨movement, made, by simpa using isOperator⟩)
      exact find?_eq_none.mp found row member (by simpa using same)
    rw [idle]
    simp only [rowOf, found, Option.getD_none]
    rfl

theorem computeBreakdown_isSum (movements' : List MovimientoCaja) :
    (computeBreakdown (movements ++ movements')).IsSum (computeBreakdown movements)
      (computeBreakdown movements') := by
  refine ⟨?_, ?_, ?_, ?_, ?_⟩
  · simp [computeBreakdown_eq]
  · simp [computeBreakdown_eq]
  · simp [computeBreakdown_eq]
  · intro operatorUserId
    simp only [rowOf_computeBreakdown, movementsOf, filter_append, operatorTotals_append]
  · intro operatorUserId
    simp only [computeBreakdown_operators, mem_append]
    grind

/-- The breakdown of a shift partitions its movements by operator: one row for each operator with
the sums of the operator's movements, rows that add up to the totals, and totals and rows that do
not depend on the order of the movements and are added when lists are concatenated. -/
theorem computeBreakdown_partitions (openingCashFloat : Int) (movements : List MovimientoCaja) :
    ((computeBreakdown movements).desgloseOperadores.map OperatorBreakdown.operatorUserId).Nodup ∧
    (∀ row, row ∈ (computeBreakdown movements).desgloseOperadores ↔
      ∃ movement ∈ movements, row = operatorTotals movement.operatorUserId
        (movementsOf movement.operatorUserId movements)) ∧
    ((computeBreakdown movements).desgloseOperadores.map OperatorBreakdown.netCash).sum =
      (computeBreakdown movements).totalCalculado openingCashFloat - openingCashFloat ∧
    ((computeBreakdown movements).desgloseOperadores.map OperatorBreakdown.movementsCount).sum =
      movements.length ∧
    (∀ movements', movements.Perm movements' →
      (computeBreakdown movements).Agrees (computeBreakdown movements') ∧
      (computeBreakdown movements).totalCalculado openingCashFloat =
        (computeBreakdown movements').totalCalculado openingCashFloat) ∧
    ∀ movements', (computeBreakdown (movements ++ movements')).IsSum (computeBreakdown movements)
        (computeBreakdown movements') ∧
      (computeBreakdown (movements ++ movements')).totalCalculado openingCashFloat =
        (computeBreakdown movements).totalCalculado openingCashFloat +
          (computeBreakdown movements').totalCalculado openingCashFloat - openingCashFloat := by
  refine ⟨?_, mem_desgloseOperadores movements, ?_, ?_, ?_, ?_⟩
  · rw [computeBreakdown_eq]
    exact byOperator.nodup_group movements
  · rw [computeBreakdown_totalCalculado, computeBreakdown_eq]
    have sum := byOperator.sum_group OperatorBreakdown.netCash MovimientoCaja.signed movements
      (fun _ => rfl) fun movement stats => by
        show (stats.record movement).netCash = _
        rw [OperatorBreakdown.record_eq]
    simp only [sum, signedSum]
    omega
  · rw [computeBreakdown_eq]
    have sum := byOperator.sum_group (fun row => (row.movementsCount : Int)) (fun _ => 1) movements
      (fun _ => rfl) fun movement stats => by
        show ((stats.record movement).movementsCount : Int) = _
        rw [OperatorBreakdown.record_eq, Int.natCast_succ]
    have cast := Nat.cast_list_sum (R := Int) ((byOperator.group movements).map
      OperatorBreakdown.movementsCount)
    rw [map_map] at cast
    have total : (((byOperator.group movements).map OperatorBreakdown.movementsCount).sum : Int) =
        movements.length := cast.trans (sum.trans (by simp))
    exact_mod_cast total
  · intro movements' same
    refine ⟨computeBreakdown_agrees same, ?_⟩
    rw [computeBreakdown_totalCalculado, computeBreakdown_totalCalculado, signedSum_perm same]
  · intro movements'
    refine ⟨computeBreakdown_isSum movements movements', ?_⟩
    simp only [computeBreakdown_totalCalculado, signedSum_append]
    omega

def sampleMovimiento (operatorUserId : String) (movementType : MovimientoCajaType) (amount : Int) :
    MovimientoCaja :=
  { id := "m", turnoCajaId := "t", operatorUserId := operatorUserId, movementType := movementType
    amount := amount, reason := "", referenceId := none, createdAt := 0 }

def sampleMovimientos : List MovimientoCaja :=
  [sampleMovimiento "ana" .ventaEfectivo 600, sampleMovimiento "bea" .ingreso 50,
    sampleMovimiento "ana" .egreso 100]

/-- Ana sells and pays out, Bea pays in: in either order Ana has one row with both movements. -/
theorem swapped_movements_agree :
    (computeBreakdown sampleMovimientos).Agrees (computeBreakdown sampleMovimientos.reverse) ∧
    (computeBreakdown sampleMovimientos).desgloseOperadores =
      [⟨"ana", 0, 100, 600, 500, 2⟩, ⟨"bea", 50, 0, 0, 50, 1⟩] := by
  obtain ⟨-, -, -, -, agrees, -⟩ := computeBreakdown_partitions 1000 sampleMovimientos
  exact ⟨(agrees sampleMovimientos.reverse (by decide)).1, by decide⟩

end TridentPos.Pos
