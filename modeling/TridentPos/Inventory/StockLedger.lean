import TridentPos.Inventory.Kardex
import Mathlib.Data.List.Induction

/-!
# The stock ledger of one aggregate

A movement takes the aggregate's lock, sums the ledger, takes the next number and inserts its
row. As long as all transactions hash the same text for the aggregate, the lock makes these
statements one step: the committed rows are numbered from one and each carries the sum of the
movements up to it. The columns do not tell two spellings of a UUID apart, the lock does.
-/
namespace TridentPos.Inventory

open Core Library Interleaving LockedStore Fallible InventoryProgram InventoryDb List

/-! ### Ledgers in order -/

def Ledgered (rows : List StockLedgerRow) : Prop :=
  ∀ k, (lt : k < rows.length) →
    rows[k].movementSequenceNumber = k + 1 ∧ rows[k].balanceAfter = balanceOf (rows.take (k + 1))

instance (rows : List StockLedgerRow) : Decidable (Ledgered rows) :=
  inferInstanceAs (Decidable (∀ k, (lt : k < rows.length) → _))

variable (db : InventoryDb) (rows : List StockLedgerRow) (program : InventoryProgram)

theorem balanceOf_append (row : StockLedgerRow) :
    balanceOf (rows ++ [row]) = balanceOf rows + row.quantityDelta := by
  simp [balanceOf]

theorem ledgered_append (row : StockLedgerRow) :
    Ledgered (rows ++ [row]) ↔ Ledgered rows ∧ row.movementSequenceNumber = rows.length + 1 ∧
      row.balanceAfter = balanceOf rows + row.quantityDelta := by
  have earlier : ∀ k, (lt : k < rows.length) → (rows ++ [row])[k]? = some rows[k] ∧
      (rows ++ [row]).take (k + 1) = rows.take (k + 1) := by
    intro k lt
    exact ⟨by rw [getElem?_append_left lt, getElem?_eq_getElem lt],
      take_append_of_le_length lt⟩
  constructor
  · intro ledgered
    refine ⟨fun k lt => ?_, ?_⟩
    · have there := ledgered k (by simp; omega)
      rw [(earlier k lt).2, getElem_append_left lt] at there
      exact there
    · have last := ledgered rows.length (by simp)
      rw [take_of_length_le (by simp), balanceOf_append] at last
      simpa using last
  · rintro ⟨ledgered, number, balance⟩ k lt
    by_cases before : k < rows.length
    · rw [(earlier k before).2, getElem_append_left before]
      exact ledgered k before
    · obtain rfl : k = rows.length := by simp at lt; omega
      rw [take_of_length_le (by simp), balanceOf_append]
      simpa using ⟨number, balance⟩

theorem nextSequence_eq (ledgered : Ledgered rows) : nextSequence rows = rows.length + 1 := by
  induction rows using List.reverseRecOn with
  | nil => rfl
  | append_singleton rows row ih =>
    obtain ⟨inOrder, number, -⟩ := (ledgered_append rows row).mp ledgered
    have highest := ih inOrder
    simp only [nextSequence, Nat.add_right_cancel_iff] at highest ⊢
    rw [map_append, foldl_append, highest]
    simp [number]

/-! ### What a statement can do -/

def InventoryStage.Plain : InventoryStage → Prop
  | .checkWaste _ | .cost .. | .balance .. | .sequence .. | .insert .. => False
  | _ => True

theorem Purpose.next_plain (purpose : Purpose) (ids : StockIds) (row : StockLedgerRow) :
    (purpose.next ids row).Plain := by
  cases purpose <;> trivial

theorem InventoryProgram.afterDepletion_plain (result : InventoryResult) :
    (program.afterDepletion result).stage.Plain := by
  unfold afterDepletion
  split <;> trivial

inductive StockStep (hashtext : String → Int) (db : InventoryDb) (program : InventoryProgram) :
    InventoryEffect → Prop
  | locksWaste (command : RegisterWasteCommand) (stage : program.stage = .start)
      (task : program.task = .waste command) :
      StockStep hashtext db program
        (.acquires (aggregateLock hashtext command.ids) (program.goTo (.checkWaste command)))
  | locksIngredient (movement : StockMovement) (depletion : Depletion)
      (stage : program.stage = .lock movement depletion) :
      StockStep hashtext db program (.acquires (aggregateLock hashtext movement.ids)
        (program.goTo (.cost movement (.depletion depletion))))
  | locks (key : InventoryLock) (next : InventoryProgram)
      (wanted : program.wants hashtext = some key) (plain : next.stage.Plain) :
      StockStep hashtext db program (.acquires key next)
  | checks (command : RegisterWasteCommand) (movement : StockMovement) (purpose : Purpose)
      (stage : program.stage = .checkWaste command) (ids : movement.ids = command.ids) :
      StockStep hashtext db program (.reads (program.goTo (.cost movement purpose)))
  | prices (movement : StockMovement) (priced : PricedMovement) (purpose : Purpose)
      (stage : program.stage = .cost movement purpose) (ids : priced.ids = movement.ids) :
      StockStep hashtext db program (.reads (program.goTo (.balance priced purpose)))
  | sums (movement : PricedMovement) (priorBalance : Int) (purpose : Purpose)
      (stage : program.stage = .balance movement purpose)
      (summed : getDerivedPriorBalance db movement.ids = .ok priorBalance) :
      StockStep hashtext db program
        (.reads (program.goTo (.sequence movement priorBalance purpose)))
  | numbers (movement : PricedMovement) (priorBalance : Int) (purpose : Purpose) (id : Uuid)
      (row : StockLedgerRow) (stage : program.stage = .sequence movement priorBalance purpose)
      (numbered : ledgerRow db id movement priorBalance = .ok row) :
      StockStep hashtext db program (.reads (program.goTo (.insert movement.ids row purpose)))
  | inserts (ids : StockIds) (row : StockLedgerRow) (purpose : Purpose)
      (stage : program.stage = .insert ids row purpose) :
      StockStep hashtext db program (.writes (.ledger row) (program.goTo (purpose.next ids row)))
  | reads (next : InventoryProgram) (plain : next.stage.Plain) :
      StockStep hashtext db program (.reads next)
  | writes (write : InventoryWrite) (next : InventoryProgram)
      (other : ∀ row, write ≠ .ledger row) (plain : next.stage.Plain) :
      StockStep hashtext db program (.writes write next)
  | commits (next : InventoryProgram) (plain : next.stage.Plain) :
      StockStep hashtext db program (.commits next)
  | aborts (next : InventoryProgram) (plain : next.stage.Plain) :
      StockStep hashtext db program (.aborts next)

variable {movement : StockMovement} {command : RegisterWasteCommand}

theorem wasteMovement_ids (accepted : wasteMovement command = .ok movement) :
    movement.ids = command.ids := by
  simp only [wasteMovement, bind_eq_ok, pure_eq_ok] at accepted
  obtain ⟨quantity, -, rfl⟩ := accepted
  rfl

theorem InventoryProgram.statement_step {hashtext : String → Int} {oracle : InventoryOracle}
    {db : InventoryDb} (program : InventoryProgram) {effect : InventoryEffect}
    (stated : program.statement hashtext oracle db = .ok effect) :
    StockStep hashtext db program effect := by
  cases stage : program.stage <;> simp only [statement, stage, bind_eq_ok, pure_eq_ok] at stated
  case start =>
    split at stated
    next command task =>
      obtain rfl := pure_eq_ok.mp stated
      exact .locksWaste command stage task
    next event resolver task =>
      obtain rfl := pure_eq_ok.mp stated
      exact .locks _ _ (by simp only [wants, stage, task]) trivial
    next =>
      simp only [bind_eq_ok, pure_eq_ok] at stated
      obtain ⟨record, -, rfl⟩ := stated
      exact .reads _ trivial
  case sourceLock record =>
    split at stated <;> obtain rfl := pure_eq_ok.mp stated
    next task => exact .locks _ _ (by simp only [wants, stage, task]) trivial
    next => exact .reads _ (by rw [stage]; trivial)
  case rowLock record =>
    split at stated
    next =>
      simp only [bind_eq_ok, pure_eq_ok] at stated
      obtain ⟨locked, -, event, -, rfl⟩ := stated
      exact .locks _ _ (by simp only [wants, stage]) trivial
    next =>
      obtain rfl := pure_eq_ok.mp stated
      exact .reads _ (by rw [stage]; trivial)
  case checkOrder event =>
    obtain ⟨found, -, stated⟩ := stated
    split at stated <;> obtain rfl := pure_eq_ok.mp stated
    · exact .reads _ (program.afterDepletion_plain _)
    · exact .reads _ trivial
  case resolve event =>
    obtain ⟨resolution, -, stated⟩ := stated
    split at stated
    next =>
      simp only [bind_eq_ok, pure_eq_ok] at stated
      obtain ⟨row, -, rfl⟩ := stated
      exact .writes _ _ (by simp) (program.afterDepletion_plain _)
    next =>
      obtain rfl := pure_eq_ok.mp stated
      exact .reads _ trivial
  case ingredients depletion =>
    repeat' split at stated
    all_goals
      obtain rfl := pure_eq_ok.mp stated
      exact .reads _ trivial
  case lock movement depletion => exact stated ▸ .locksIngredient movement depletion stage
  case checkWaste command =>
    obtain ⟨found, -, stated⟩ := stated
    split at stated
    next =>
      obtain rfl := pure_eq_ok.mp stated
      exact .reads _ trivial
    next =>
      simp only [bind_eq_ok, pure_eq_ok] at stated
      obtain ⟨movement, made, rfl⟩ := stated
      exact .checks command movement _ stage (wasteMovement_ids made)
  case cost movement purpose =>
    obtain ⟨priced, accepted, rfl⟩ := stated
    exact .prices movement priced purpose stage (by rw [(priceMovement_eq_ok accepted).1])
  case balance movement purpose =>
    obtain ⟨priorBalance, summed, rfl⟩ := stated
    exact .sums movement priorBalance purpose stage summed
  case sequence movement priorBalance purpose =>
    obtain ⟨row, numbered, rfl⟩ := stated
    exact .numbers movement priorBalance purpose oracle.id row stage numbered
  case insert ids row purpose => exact stated ▸ .inserts ids row purpose stage
  case record row command => exact stated ▸ .writes _ _ (by simp) trivial
  case enqueue depletion =>
    obtain ⟨event, -, rfl⟩ := stated
    exact .writes _ _ (by simp) (program.afterDepletion_plain _)
  case markReplayed result =>
    split at stated
    next =>
      simp only [bind_eq_ok, pure_eq_ok] at stated
      obtain ⟨organization, -, id, -, rfl⟩ := stated
      exact .writes _ _ (by simp) trivial
    next =>
      obtain rfl := pure_eq_ok.mp stated
      exact .reads _ (by rw [stage]; trivial)
  case commit result => exact stated ▸ .commits _ trivial
  case done result => exact stated ▸ .reads _ (by rw [stage]; trivial)

theorem InventoryActs.step (hashtext : String → Int) (db : InventoryDb) (program : InventoryProgram)
    (effect : InventoryEffect) (acts : InventoryActs hashtext db program effect) :
    StockStep hashtext db program effect := by
  obtain ⟨oracle, rfl⟩ := acts
  unfold act
  split
  next result _ stage => exact .reads _ (by rw [stage]; trivial)
  next => exact .aborts _ trivial
  next =>
    split
    next => exact .aborts _ trivial
    next effect stated => exact program.statement_step stated

theorem InventoryActs.wanted (hashtext : String → Int) (db : InventoryDb)
    (program : InventoryProgram) (key : InventoryLock) (next : InventoryProgram)
    (acts : InventoryActs hashtext db program (.acquires key next)) :
    program.wants hashtext = some key := by
  cases acts.step with
  | locksWaste command stage task => simp only [wants, stage, task]
  | locksIngredient movement depletion stage => simp only [wants, stage]
  | locks _ _ wanted _ => exact wanted

/-! ### The guarded ledger -/

section Aggregate

variable (hashtext : String → Int) (text : String) (key : StockKey)

def Settled (rows : List StockLedgerRow) : InventoryStage → Prop
  | .sequence movement priorBalance _ =>
    movement.ids.key = .ok key → priorBalance = balanceOf rows
  | .insert _ row _ =>
    row.key = key → row.movementSequenceNumber = rows.length + 1 ∧
      row.balanceAfter = balanceOf rows + row.quantityDelta
  | _ => True

def Aside : InventoryStage → Prop
  | .checkWaste command => command.ids.key ≠ .ok key
  | .cost movement _ => movement.ids.key ≠ .ok key
  | .balance movement _ => movement.ids.key ≠ .ok key
  | .sequence movement _ _ => movement.ids.key ≠ .ok key
  | .insert _ row _ => row.key ≠ key
  | _ => True

def Keeps (rows : List StockLedgerRow) (session : InventorySession) : Prop :=
  Ledgered rows ∧ Settled key rows session.program.stage

def Leaves (session : InventorySession) : Prop :=
  (∀ row, .ledger row ∈ session.written → row.key ≠ key) ∧ Aside key session.program.stage

def SpelledAs (program : InventoryProgram) : Prop :=
  match program.stage, program.task with
  | .start, .waste command => command.ids.key = .ok key → command.ids.lockKey = text
  | .lock movement _, _ => movement.ids.key = .ok key → movement.ids.lockKey = text
  | _, _ => True

instance (program : InventoryProgram) : Decidable (SpelledAs text key program) := by
  unfold SpelledAs
  split <;> infer_instance

def SpelledMove (db : InventoryDb) (session : InventorySession) (db' : InventoryDb)
    (session' : InventorySession) : Prop :=
  SpelledAs text key session.program ∧ InventoryMove hashtext db session db' session'

def LeavesLedger (db db' : InventoryDb) : Prop := db'.ledgerOf key = db.ledgerOf key

variable {text key}

theorem InventoryStage.Plain.settled (stage : InventoryStage) (plain : stage.Plain) :
    Settled key rows stage := by
  cases stage <;> trivial

theorem InventoryStage.Plain.aside (stage : InventoryStage) (plain : stage.Plain) :
    Aside key stage := by
  cases stage <;> trivial

theorem getDerivedPriorBalance_eq_ok {db : InventoryDb} {ids : StockIds} {priorBalance : Int}
    (names : ids.key = .ok key) (summed : getDerivedPriorBalance db ids = .ok priorBalance) :
    priorBalance = balanceOf (db.ledgerOf key) := by
  simp only [getDerivedPriorBalance, names, bind_eq_ok, Except.ok.injEq, exists_eq_left'] at summed
  exact parseDecimal12x4_text _ _ summed

theorem ledgerRow_eq_ok {db : InventoryDb} {id : Uuid} {movement : PricedMovement}
    {priorBalance : Int} {row : StockLedgerRow}
    (numbered : ledgerRow db id movement priorBalance = .ok row) :
    movement.ids.key = .ok row.key ∧
      row.movementSequenceNumber = nextSequence (db.ledgerOf row.key) ∧
      row.balanceAfter = priorBalance + row.quantityDelta := by
  simp only [ledgerRow, bind_eq_ok, pure_eq_ok] at numbered
  obtain ⟨found, names, balanceAfter, added, -, -, -, -, -, -, -, -, rfl⟩ := numbered
  exact ⟨names, rfl, checkRange_eq_ok added⟩

theorem ledgerOf_apply (db : InventoryDb) (write : InventoryWrite) :
    (db.apply write).ledgerOf key = db.ledgerOf key ++
      match write with
      | .ledger row => if row.key = key then [row] else []
      | _ => [] := by
  cases write with
  | ledger row =>
    by_cases same : row.key = key <;> simp [apply, ledgerOf, same]
  | quarantine row =>
    simp only [apply, append_nil]
    split <;> rfl
  | _ => simp [apply, ledgerOf]

theorem Leaves.ledgerOf_visible (session : InventorySession) (leaves : Leaves key session) :
    (session.visible apply db).ledgerOf key = db.ledgerOf key := by
  refine visible_kept (ledgerOf · key) fun db write member => ?_
  rw [ledgerOf_apply]
  cases write with
  | ledger row => simp [leaves.1 row member]
  | _ => simp

/-! ### One step -/

theorem StockStep.settled {db : InventoryDb} {program next : InventoryProgram}
    (step : StockStep hashtext db program (.reads next)) (ledgered : Ledgered (db.ledgerOf key))
    (settled : Settled key (db.ledgerOf key) program.stage) :
    Settled key (db.ledgerOf key) next.stage := by
  cases step with
  | checks | prices => trivial
  | sums movement priorBalance purpose stage summed =>
    exact fun names => getDerivedPriorBalance_eq_ok names summed
  | numbers movement priorBalance purpose id row stage numbered =>
    rintro rfl
    obtain ⟨names, number, balance⟩ := ledgerRow_eq_ok numbered
    rw [stage] at settled
    exact ⟨by rw [number, nextSequence_eq _ ledgered], by rw [balance, settled names]⟩
  | reads _ plain => exact plain.settled _

theorem StockStep.aside {db : InventoryDb} {program next : InventoryProgram}
    (step : StockStep hashtext db program (.reads next)) (aside : Aside key program.stage) :
    Aside key next.stage := by
  cases step with
  | checks command movement purpose stage ids | prices movement priced purpose stage ids =>
    rw [stage] at aside
    simpa only [Aside, goTo, ids] using aside
  | sums movement priorBalance purpose stage summed =>
    rw [stage] at aside
    exact aside
  | numbers movement priorBalance purpose id row stage numbered =>
    obtain ⟨names, -, -⟩ := ledgerRow_eq_ok numbered
    rw [stage] at aside
    rintro rfl
    exact aside names
  | reads _ plain => exact plain.aside

theorem StockStep.locks_aside {db : InventoryDb} {program next : InventoryProgram}
    {lock : InventoryLock} (step : StockStep hashtext db program (.acquires lock next))
    (spelled : SpelledAs text key program) (other : lock ≠ .advisory (hashtext text)) :
    Aside key next.stage := by
  cases step with
  | locksWaste command stage task =>
    simp only [SpelledAs, stage, task] at spelled
    intro names
    exact other (by rw [aggregateLock, spelled names])
  | locksIngredient movement depletion stage =>
    simp only [SpelledAs, stage] at spelled
    intro names
    exact other (by rw [aggregateLock, spelled names])
  | locks _ _ _ plain => exact plain.aside

theorem StockStep.locks_settled {db : InventoryDb} {program next : InventoryProgram}
    {lock : InventoryLock} (rows : List StockLedgerRow)
    (step : StockStep hashtext db program (.acquires lock next)) :
    Settled key rows next.stage := by
  cases step with
  | locksWaste | locksIngredient => trivial
  | locks _ _ _ plain => exact plain.settled _

theorem StockStep.ledgered {db : InventoryDb} {program next : InventoryProgram}
    {write : InventoryWrite} (step : StockStep hashtext db program (.writes write next))
    (ledgered : Ledgered (db.ledgerOf key)) (settled : Settled key (db.ledgerOf key) program.stage) :
    Ledgered ((db.apply write).ledgerOf key) := by
  rw [ledgerOf_apply]
  cases step with
  | inserts ids row purpose stage =>
    rw [stage] at settled
    by_cases same : row.key = key
    · simp only [same, if_true]
      exact (ledgered_append _ row).mpr ⟨ledgered, settled same⟩
    · simpa [same] using ledgered
  | writes _ _ other _ =>
    cases write with
    | ledger row => exact absurd rfl (other row)
    | _ => simpa using ledgered

theorem StockStep.writes_plain (next : InventoryProgram) (write : InventoryWrite)
    (step : StockStep hashtext db program (.writes write next)) : next.stage.Plain := by
  cases step with
  | inserts ids row purpose _ => exact purpose.next_plain ids row
  | writes _ _ _ plain => exact plain

theorem StockStep.writes_leaves {db : InventoryDb} {program next : InventoryProgram}
    {row : StockLedgerRow} (step : StockStep hashtext db program (.writes (.ledger row) next))
    (aside : Aside key program.stage) : row.key ≠ key := by
  cases step with
  | inserts ids row purpose stage =>
    rw [stage] at aside
    exact aside
  | writes _ _ other _ => exact absurd rfl (other row)

theorem leaves_start {program : InventoryProgram} (plain : program.stage.Plain) :
    Leaves key (.start program) :=
  ⟨by simp [Session.start], plain.aside⟩

abbrev StockInOrder (hashtext : String → Int) (text : String) (key : StockKey) :
    InventoryDb → InventorySession → Prop :=
  InOrder apply (fun db => db.ledgerOf key) (.advisory (hashtext text)) (Keeps key) (Leaves key)

theorem inOrder_start (db : InventoryDb) (program : InventoryProgram)
    (plain : program.stage.Plain) : StockInOrder hashtext text key db (.start program) :=
  ⟨fun held => by simp [Session.start] at held, fun _ => leaves_start plain⟩

theorem StockInOrder.sees {db : InventoryDb} {session : InventorySession}
    (ledgered : Ledgered (db.ledgerOf key)) (inOrder : StockInOrder hashtext text key db session) :
    Ledgered ((session.visible apply db).ledgerOf key) := by
  by_cases held : .advisory (hashtext text) ∈ session.locks
  · exact (inOrder.1 held).1
  · rw [(inOrder.2 held).ledgerOf_visible]
    exact ledgered

theorem StockInOrder.moves {db db' : InventoryDb} {session session' : InventorySession}
    (ledgered : Ledgered (db.ledgerOf key)) (inOrder : StockInOrder hashtext text key db session)
    (moved : SpelledMove hashtext text key db session db' session') :
    Ledgered (db'.ledgerOf key) ∧ StockInOrder hashtext text key db' session' := by
  obtain ⟨spelled, moved⟩ := moved
  have sees := inOrder.sees hashtext ledgered
  cases moved with
  | acquires lock next act =>
    refine ⟨ledgered, fun _ => ⟨sees, act.step.locks_settled _ _⟩, fun notHeld => ?_⟩
    rw [mem_cons, not_or] at notHeld
    exact ⟨(inOrder.2 notHeld.2).1, act.step.locks_aside _ spelled (Ne.symm notHeld.1)⟩
  | reads next act =>
    refine ⟨ledgered, fun held => ⟨sees, ?_⟩, fun notHeld => ?_⟩
    · exact act.step.settled _ sees (inOrder.1 held).2
    · exact ⟨(inOrder.2 notHeld).1, act.step.aside _ (inOrder.2 notHeld).2⟩
  | writes write next act =>
    have plain := act.step.writes_plain
    refine ⟨ledgered, fun held => ?_, fun notHeld => ?_⟩
    · rw [visible_append]
      exact ⟨act.step.ledgered _ sees (inOrder.1 held).2, plain.settled _⟩
    · obtain ⟨others, aside⟩ := inOrder.2 notHeld
      refine ⟨fun row member => ?_, plain.aside⟩
      rcases mem_append.mp member with earlier | last
      · exact others row earlier
      · obtain rfl : .ledger row = write := by simpa using last
        exact act.step.writes_leaves _ aside
  | commits next act _ =>
    cases act.step with
    | commits _ plain => exact ⟨sees, inOrder_start hashtext _ next plain⟩
  | aborts next act =>
    cases act.step with
    | aborts _ plain => exact ⟨ledgered, inOrder_start hashtext _ next plain⟩

end Aggregate

/-! ### Whole runs -/

def InventoryProgram.Begins (program : InventoryProgram) : Prop :=
  (∃ command, registerWaste command = .ok program) ∨
  (∃ event resolver, program = onKdsOrderProduced event resolver) ∨
  ∃ organizationId quarantineId resolver,
    program = replayQuarantinedDepletion organizationId quarantineId resolver

theorem InventoryProgram.Begins.plain (program : InventoryProgram) (begins : program.Begins) :
    program.stage.Plain := by
  rcases begins with ⟨command, accepted⟩ | ⟨event, resolver, rfl⟩ | ⟨_, _, _, rfl⟩
  · simp only [registerWaste, bind_eq_ok, pure_eq_ok] at accepted
    obtain ⟨-, -, rfl⟩ := accepted
    trivial
  · trivial
  · trivial

theorem begins_of_valid (valid : validateWasteCommand command = .ok ()) :
    (⟨.waste command, .start⟩ : InventoryProgram).Begins := by
  refine .inl ⟨command, ?_⟩
  rw [registerWaste, valid]
  rfl

/-- While every transaction spells the ids of an aggregate the same way, the committed rows of
the aggregate are numbered from one and carry their running balance. -/
theorem stock_ledger_in_order (hashtext : String → Int) (text : String) (key : StockKey)
    (db : InventoryDb) (programs : List InventoryProgram)
    (pool : Pool InventoryDb InventorySession)
    (start : Ledgered (db.ledgerOf key)) (begins : ∀ program ∈ programs, program.Begins)
    (run : PermittedReachable (SpelledMove hashtext text key) (LeavesLedger key)
      (Grants (wants hashtext)) ⟨db, programs.map Session.start⟩ pool) :
    Ledgered (pool.shared.ledgerOf key) := by
  refine (guarded_reachable (fun db : InventoryDb => db.ledgerOf key) (.advisory (hashtext text))
    (Keeps key) (Leaves key)
    (fun _ _ _ _ acts => acts.wanted) (fun moved => moved.2) ?_ ?_ (fun same => same)
    (fun ledgered inOrder moved => StockInOrder.moves hashtext ledgered inOrder moved)
    start ?_ (exclusive_start programs) run).1
  · intro db db' write same
    simp only [ledgerOf_apply, same]
  · exact fun leaves => leaves.ledgerOf_visible _
  · intro session member
    obtain ⟨program, listed, rfl⟩ := mem_map.mp member
    exact inOrder_start hashtext db program (begins program listed).plain

/-! ### Two spellings of one ingredient -/

def sampleIds (ingredientId : String) : StockIds :=
  ⟨"00000000-0000-4000-8000-000000000001", "00000000-0000-4000-8000-000000000002",
    "00000000-0000-4000-8000-000000000003", ingredientId⟩

def sampleKey : StockKey := ⟨0x40008000000000000001, 0x40008000000000000002,
  0x40008000000000000003, 0xaaaaaaaaaaaa4aaa8aaaaaaaaaaaaaaa⟩

def lowerIds : StockIds := sampleIds "aaaaaaaa-aaaa-4aaa-8aaa-aaaaaaaaaaaa"
def upperIds : StockIds := sampleIds "AAAAAAAA-AAAA-4AAA-8AAA-AAAAAAAAAAAA"

def sampleHash (text : String) : Int :=
  if text = lowerIds.lockKey then 2097953176
  else if text = upperIds.lockKey then 37808107
  else 0

def sampleWaste (ids : StockIds) (quantity commandId : String) : RegisterWasteCommand :=
  { organizationId := ids.organizationId, branchId := ids.branchId
    warehouseId := ids.warehouseId, ingredientId := ids.ingredientId, quantity := quantity
    reasonCode := "caducado", photoAttachmentUrl := "foto", commandId := commandId
    notes := none, actorId := none }

def sampleOracle (id : Uuid) : InventoryOracle :=
  { id := id, now := 1, cost := some "10.0000"
    recipes := fun _ => some ⟨"r", "1.0000", .ok [⟨lowerIds.ingredientId, "0.5000"⟩]⟩
    interruption := none }

def sampleStep (id : Uuid) : InventoryDb × InventorySession → InventoryDb × InventorySession :=
  Session.next apply (act sampleHash (sampleOracle id))

theorem sampleStep_moves (id : Uuid) {reached : InventoryDb × InventorySession}
    (valid : Session.Valid apply InventoryDb.Consistent reached) :
    InventoryMove sampleHash reached.1 reached.2 (sampleStep id reached).1
      (sampleStep id reached).2 :=
  Session.next_moves _ _ reached ⟨sampleOracle id, rfl⟩ valid

abbrev Free (id : Uuid) :
    List InventorySession → Nat → InventoryDb × InventorySession → Prop :=
  Session.Free apply (act sampleHash (sampleOracle id)) InventoryDb.Consistent (wants sampleHash)

def sampleThree : InventoryProgram := ⟨.waste (sampleWaste lowerIds "3.0000" "w1"), .start⟩
def sampleFive : InventoryProgram := ⟨.waste (sampleWaste upperIds "5.0000" "w2"), .start⟩

/-- The first has summed the ledger; the second runs to its commit; the first goes on. -/
def sampleSummed : InventoryDb × InventorySession := (sampleStep 1)^[4] (.empty, .start sampleThree)
def sampleMeanwhile : InventoryDb × InventorySession :=
  (sampleStep 2)^[8] (sampleSummed.1, .start sampleFive)
def sampleAfter : InventoryDb × InventorySession :=
  (sampleStep 1)^[4] (sampleMeanwhile.1, sampleSummed.2)

-- one evaluation, so that the kernel reads every id once
theorem two_spellings_run :
    validateWasteCommand (sampleWaste lowerIds "3.0000" "w1") = .ok () ∧
    validateWasteCommand (sampleWaste upperIds "5.0000" "w2") = .ok () ∧
    Free 1 [.start sampleFive] 4 (.empty, .start sampleThree) ∧
    Free 2 [sampleSummed.2] 8 (sampleSummed.1, .start sampleFive) ∧
    Free 1 [sampleMeanwhile.2] 4 (sampleMeanwhile.1, sampleSummed.2) ∧
    ((sampleAfter.1.ledgerOf sampleKey).map fun row =>
      (row.movementSequenceNumber, row.quantityDelta, row.balanceAfter)) =
        [(1, -50000, -50000), (2, -30000, -30000)] ∧
    ¬Ledgered (sampleAfter.1.ledgerOf sampleKey) := by
  decide +kernel

/-- The second movement carries a balance that knows nothing of the first. -/
theorem two_spellings_break_balance :
    (∀ program ∈ [sampleThree, sampleFive], program.Begins) ∧
    Ledgered (empty.ledgerOf sampleKey) ∧
    PermittedReachable (InventoryMove sampleHash) (LeavesLedger sampleKey)
      (Grants (wants sampleHash))
      ⟨.empty, [sampleThree, sampleFive].map Session.start⟩
      ⟨sampleAfter.1, [sampleAfter.2, sampleMeanwhile.2]⟩ ∧
    ((sampleAfter.1.ledgerOf sampleKey).map fun row =>
      (row.movementSequenceNumber, row.quantityDelta, row.balanceAfter)) =
        [(1, -50000, -50000), (2, -30000, -30000)] ∧
    ¬Ledgered (sampleAfter.1.ledgerOf sampleKey) := by
  obtain ⟨three, five, sums, meanwhile, after, rows, broken⟩ := two_spellings_run
  refine ⟨?_, by simp [Ledgered, empty, ledgerOf], ?_, rows, broken⟩
  · simp only [mem_cons, not_mem_nil, or_false]
    rintro program (rfl | rfl)
    · exact begins_of_valid three
    · exact begins_of_valid five
  · have alone : ∀ id before after n final {db session},
        (sampleStep id)^[n] (db, session) = final → Free id (before ++ after) n (db, session) →
        PermittedReachable (InventoryMove sampleHash) (LeavesLedger sampleKey)
          (Grants (wants sampleHash)) ⟨db, before ++ session :: after⟩
          ⟨final.1, before ++ final.2 :: after⟩ :=
      fun id _ _ _ _ _ _ => Session.Free.reachable _ _ _ fun _ _ => ⟨sampleOracle id, rfl⟩
    refine .trans (alone 1 [] [.start sampleFive] 4 sampleSummed rfl sums) ?_
    refine .trans (alone 2 [sampleSummed.2] [] 8 sampleMeanwhile rfl meanwhile) ?_
    exact alone 1 [] [sampleMeanwhile.2] 4 sampleAfter rfl after

def sampleOrder : InventoryProgram :=
  onKdsOrderProduced ⟨lowerIds.organizationId, lowerIds.branchId, lowerIds.warehouseId, "o1",
    [⟨"p", "2.0000", []⟩]⟩ none

/-- The order has its ingredients and wants the lock; the waste runs to its commit. -/
def sampleResolved :
    InventoryDb × InventorySession := (sampleStep 1)^[4] (.empty, .start sampleOrder)
def sampleWasted : InventoryDb × InventorySession :=
  (sampleStep 2)^[8] (sampleResolved.1, .start sampleThree)
def sampleDepleted : InventoryDb × InventorySession :=
  (sampleStep 1)^[8] (sampleWasted.1, sampleResolved.2)

def FreeSpelled (id : Uuid) (others : List InventorySession) (n : Nat)
    (reached : InventoryDb × InventorySession) : Prop :=
  Free id others n reached ∧ Along (sampleStep id)
    (fun reached => SpelledAs lowerIds.lockKey sampleKey reached.2.program) n reached
deriving Decidable

theorem spelled_alone (id : Uuid) (before after : List InventorySession) (n : Nat)
    {db : InventoryDb} {session : InventorySession} (final : InventoryDb × InventorySession)
    (ends : (sampleStep id)^[n] (db, session) = final)
    (free : FreeSpelled id (before ++ after) n (db, session)) :
    PermittedReachable (SpelledMove sampleHash lowerIds.lockKey sampleKey)
      (LeavesLedger sampleKey) (Grants (wants sampleHash))
      ⟨db, before ++ session :: after⟩ ⟨final.1, before ++ final.2 :: after⟩ :=
  PermittedReachable.iterate _ _ (sampleStep id) before after ends
    (fun k lt => ⟨free.2.iterate _ _ _ _ k lt, sampleStep_moves id (free.1.iterate _ _ _ _ k lt).1⟩)
    (fun k lt => (free.1.iterate _ _ _ _ k lt).2)

theorem sample_order_run :
    validateWasteCommand (sampleWaste lowerIds "3.0000" "w1") = .ok () ∧
    FreeSpelled 1 [.start sampleThree] 4 (.empty, .start sampleOrder) ∧
    FreeSpelled 2 [sampleResolved.2] 8 (sampleResolved.1, .start sampleThree) ∧
    FreeSpelled 1 [sampleWasted.2] 8 (sampleWasted.1, sampleResolved.2) ∧
    ((sampleDepleted.1.ledgerOf sampleKey).map fun row =>
      (row.movementSequenceNumber, row.quantityDelta, row.balanceAfter)) =
        [(1, -30000, -30000), (2, -10000, -40000)] := by
  decide +kernel

theorem sample_ledger_in_order :
    ((sampleDepleted.1.ledgerOf sampleKey).map fun row =>
      (row.movementSequenceNumber, row.quantityDelta, row.balanceAfter)) =
        [(1, -30000, -30000), (2, -10000, -40000)] ∧
    Ledgered (sampleDepleted.1.ledgerOf sampleKey) := by
  obtain ⟨three, resolves, wastes, depletes, rows⟩ := sample_order_run
  have inOrder := fun (final : InventoryDb × InventorySession) =>
    stock_ledger_in_order sampleHash lowerIds.lockKey sampleKey .empty [sampleOrder, sampleThree]
      ⟨final.1, [final.2, sampleWasted.2]⟩
  refine ⟨rows, inOrder sampleDepleted (by simp [Ledgered, empty, ledgerOf]) ?_ ?_⟩
  · simp only [mem_cons, not_mem_nil, or_false]
    rintro program (rfl | rfl)
    · exact .inr (.inl ⟨_, _, rfl⟩)
    · exact begins_of_valid three
  · refine .trans (spelled_alone 1 [] [.start sampleThree] 4 sampleResolved rfl resolves) ?_
    refine .trans (spelled_alone 2 [sampleResolved.2] [] 8 sampleWasted rfl wastes) ?_
    exact spelled_alone 1 [] [sampleWasted.2] 8 sampleDepleted rfl depletes

end TridentPos.Inventory
