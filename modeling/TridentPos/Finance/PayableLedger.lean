import TridentPos.Finance.AccountsPayable
import Mathlib.Algebra.Order.BigOperators.Group.List

/-!
# The ledger of a payable record

The balance of a record is its total without the payments that were not reversed. Payments and
reversals are written under the lock of the record, and every decision is taken on what is read
under that lock, so this holds in every committed state, however the transactions interleave.
-/
namespace TridentPos.Finance

open Core Library Interleaving LockedStore Fallible PayableProgram FinanceDb List

/-! ### Books in order -/

def amountOf (kind : FinanceTransactionKind) (payments : List PaymentRow) : Int :=
  ((payments.filter fun row => row.transactionKind == kind).map PaymentRow.amount).sum

structure Balanced (payable : PayableRow) (payments : List PaymentRow) : Prop where
  balance : payable.balanceDue =
    payable.totalAmount - amountOf .apply payments + amountOf .reversal payments
  nonneg : 0 ≤ payable.balanceDue
  atMost : payable.balanceDue ≤ payable.totalAmount
  paid : payable.status = .paid ↔ payable.balanceDue = 0

structure Paired (payments : List PaymentRow) : Prop where
  ids : (payments.map PaymentRow.id).Nodup
  applies : ∀ row ∈ payments, row.transactionKind = .apply → row.reversalOfTransactionId = none
  reverses : ∀ row ∈ payments, row.transactionKind = .reversal →
    ∃ original ∈ payments, original.transactionKind = .apply ∧
      row.reversalOfTransactionId = some original.id ∧ row.amount = original.amount
  once : (payments.filterMap PaymentRow.reversalOfTransactionId).Nodup

abbrev Books := Option PayableRow × List PaymentRow

def Kept (books : Books) : Prop := Paired books.2 ∧ ∀ payable ∈ books.1, Balanced payable books.2

def FinanceDb.books (db : FinanceDb) (key : PayableKey) : Books :=
  (db.payable key, db.paymentsOf key)

def Linked (payments : List PaymentRow) (row : PaymentRow) : Prop :=
  ∀ id, row.reversalOfTransactionId = some id →
    ∃ original ∈ payments, original.key = row.key ∧ original.id = id

@[simp] theorem amountOf_append (kind : FinanceTransactionKind) (payments : List PaymentRow)
    (row : PaymentRow) :
    amountOf kind (payments ++ [row]) =
      amountOf kind payments + if row.transactionKind = kind then row.amount else 0 := by
  by_cases same : row.transactionKind = kind <;> simp [amountOf, filter_append, same]

variable {payments more : List PaymentRow} {original row : PaymentRow}

theorem Paired.amount (paired : Paired payments) {reversal : PaymentRow}
    (isOriginal : original ∈ payments) (isReversal : reversal ∈ payments)
    (undoes : reversal.reversalOfTransactionId = some original.id) :
    reversal.transactionKind = .reversal ∧ reversal.amount = original.amount := by
  have kind : reversal.transactionKind = .reversal := by
    cases kind : reversal.transactionKind with
    | apply => simp [paired.applies reversal isReversal kind] at undoes
    | reversal => rfl
  obtain ⟨other, isOther, -, named, amount⟩ := paired.reverses reversal isReversal kind
  obtain rfl : other = original := inj_on_of_nodup_map paired.ids isOther isOriginal
    (Option.some.inj (named.symm.trans undoes))
  exact ⟨kind, amount⟩

theorem Paired.append (paired : Paired payments) (fresh : row.id ∉ payments.map PaymentRow.id)
    (applies : row.transactionKind = .apply → row.reversalOfTransactionId = none)
    (reverses : row.transactionKind = .reversal → ∃ original ∈ payments,
      original.transactionKind = .apply ∧ row.reversalOfTransactionId = some original.id ∧
        row.amount = original.amount)
    (first : ∀ id, row.reversalOfTransactionId = some id →
      ∀ other ∈ payments, other.reversalOfTransactionId ≠ some id) :
    Paired (payments ++ [row]) := by
  refine ⟨?_, ?_, ?_, ?_⟩
  · rw [map_append, map_singleton]
    exact Table.nodup_append_singleton paired.ids fresh
  · intro other member isApply
    rcases mem_append.mp member with earlier | last
    · exact paired.applies other earlier isApply
    · obtain rfl := mem_singleton.mp last
      exact applies isApply
  · intro other member isReversal
    obtain ⟨own, isOwn, facts⟩ : ∃ original ∈ payments, original.transactionKind = .apply ∧
        other.reversalOfTransactionId = some original.id ∧ other.amount = original.amount := by
      rcases mem_append.mp member with earlier | last
      · exact paired.reverses other earlier isReversal
      · obtain rfl := mem_singleton.mp last
        exact reverses isReversal
    exact ⟨own, mem_append_left _ isOwn, facts⟩
  · rw [filterMap_append]
    cases undoes : row.reversalOfTransactionId with
    | none => simpa [undoes] using paired.once
    | some id =>
      have unnamed : id ∉ payments.filterMap PaymentRow.reversalOfTransactionId := by
        intro named
        obtain ⟨other, isOther, same⟩ := mem_filterMap.mp named
        exact first id undoes other isOther same
      simpa [undoes] using Table.nodup_append_singleton paired.once unnamed

/-! ### Decisions -/

variable {scaled value : Int}

theorem parseDecimal12x4_text (parsed : parseDecimal12x4 (formatDecimal12x4 scaled) = .ok value) :
    value = scaled := by
  rw [parseDecimal12x4, mapError_eq_ok] at parsed
  exact decimalStringToScaledBigInt_text parsed

theorem numericColumn_text (read : numericColumn (formatDecimal12x4 scaled) = .ok value) :
    value = scaled := by
  rw [numericColumn, mapError_eq_ok] at read
  exact decimalStringToScaledBigInt_text read

variable {payable : PayableRow} {newBalance : NewBalance} {text : String} {posting : Posting}
  (db : FinanceDb) (session : PayableSession) (program : PayableProgram)

theorem numericColumn_parsed {stored : Int} (parsed : parseDecimal12x4 text = .ok value)
    (read : numericColumn text = .ok stored) : stored = value := by
  rw [parseDecimal12x4, mapError_eq_ok] at parsed
  rw [numericColumn, parsed] at read
  exact (Except.ok.inj read).symm

theorem cmpScale4_eq_ok {a b : String} {order : Ordering} (compared : cmpScale4 a b = .ok order) :
    ∃ scaledA scaledB, parseDecimal12x4 a = .ok scaledA ∧ parseDecimal12x4 b = .ok scaledB ∧
      order = compare scaledA scaledB := by
  simp only [cmpScale4, bind_eq_ok, pure_eq_ok] at compared
  obtain ⟨scaledA, readA, scaledB, readB, rfl⟩ := compared
  exact ⟨scaledA, scaledB, readA, readB, rfl⟩

theorem parse_zeroScale4 (parsed : parseDecimal12x4 zeroScale4 = .ok value) : value = 0 :=
  parseDecimal12x4_text parsed

theorem isPositiveScale4_eq_ok {positive : Bool} (tested : isPositiveScale4 text = .ok positive) :
    ∃ value, parseDecimal12x4 text = .ok value ∧ (positive ↔ 0 < value) := by
  simp only [isPositiveScale4, bind_eq_ok, pure_eq_ok] at tested
  obtain ⟨order, compared, rfl⟩ := tested
  obtain ⟨value, zero, read, readZero, rfl⟩ := cmpScale4_eq_ok compared
  rw [parse_zeroScale4 readZero, beq_iff_eq, compare_gt_iff_gt]
  exact ⟨value, read, Iff.rfl⟩

theorem isZeroScale4_eq_ok {zero : Bool}
    (tested : isZeroScale4 (formatDecimal12x4 scaled) = .ok zero) : zero ↔ scaled = 0 := by
  simp only [isZeroScale4, bind_eq_ok, pure_eq_ok] at tested
  obtain ⟨order, compared, rfl⟩ := tested
  obtain ⟨value, none, read, readZero, rfl⟩ := cmpScale4_eq_ok compared
  rw [parse_zeroScale4 readZero, parseDecimal12x4_text read, beq_iff_eq, compare_eq_iff_eq]

theorem applyPayment_eq_ok
    (accepted : applyPaymentToAccountsPayable (mapApRow payable) text = .ok newBalance) :
    ∃ amount, parseDecimal12x4 text = .ok amount ∧ 0 < amount ∧ amount ≤ payable.balanceDue ∧
      newBalance.newBalanceDue = formatDecimal12x4 (payable.balanceDue - amount) ∧
      (newBalance.newStatus = .paid ↔ payable.balanceDue - amount = 0) := by
  simp only [applyPaymentToAccountsPayable, subScale4, bind_eq_ok, guard_eq_ok,
    pure_eq_ok] at accepted
  obtain ⟨positive, tested, refused, -, -, order, compared, within, newText,
    ⟨balance, readBalance, amount, read, rfl⟩, zero, isZero, rfl⟩ := accepted
  obtain ⟨value, readValue, isPositive⟩ := isPositiveScale4_eq_ok tested
  obtain rfl : value = amount := Except.ok.inj (readValue.symm.trans read)
  obtain ⟨first, second, readFirst, readSecond, rfl⟩ := cmpScale4_eq_ok compared
  obtain rfl : first = value := Except.ok.inj (readFirst.symm.trans read)
  obtain rfl : second = balance := Except.ok.inj (readSecond.symm.trans readBalance)
  obtain rfl : second = payable.balanceDue := parseDecimal12x4_text readBalance
  rw [compare_gt_iff_gt] at within
  refine ⟨first, read, isPositive.mp (by simpa using refused), by omega, rfl, ?_⟩
  rw [← isZeroScale4_eq_ok isZero]
  cases zero <;> simp

theorem reversePayment_eq_ok {amount : Int}
    (accepted : reversePaymentOnAccountsPayable (mapApRow payable) (formatDecimal12x4 amount) =
      .ok newBalance) :
    0 < amount ∧ payable.balanceDue + amount ≤ payable.totalAmount ∧
      newBalance.newBalanceDue = formatDecimal12x4 (payable.balanceDue + amount) ∧
      newBalance.newStatus ≠ .paid := by
  simp only [reversePaymentOnAccountsPayable, addScale4, bind_eq_ok, guard_eq_ok,
    pure_eq_ok] at accepted
  obtain ⟨positive, tested, refused, -, newText, ⟨balance, readBalance, again, read, rfl⟩,
    order, compared, within, last, -, rfl⟩ := accepted
  obtain ⟨value, readValue, isPositive⟩ := isPositiveScale4_eq_ok tested
  obtain rfl : value = amount := parseDecimal12x4_text readValue
  obtain rfl : again = value := parseDecimal12x4_text read
  obtain rfl : balance = payable.balanceDue := parseDecimal12x4_text readBalance
  obtain ⟨first, second, readFirst, readSecond, rfl⟩ := cmpScale4_eq_ok compared
  obtain rfl := parseDecimal12x4_text readFirst
  obtain rfl : second = payable.totalAmount := parseDecimal12x4_text readSecond
  rw [compare_gt_iff_gt] at within
  refine ⟨isPositive.mp (by simpa using refused), by omega, rfl, ?_⟩
  split <;> simp

/-! ### Postings -/

def Fits (books : Books) (posting : Posting) : Prop :=
  ∀ (row : PaymentRow) (balanceDue : Int), row.transactionKind = posting.kind →
    numericColumn posting.amount = .ok row.amount →
    row.reversalOfTransactionId = posting.reversalOf →
    row.id ∉ books.2.map PaymentRow.id →
    numericColumn posting.newBalance.newBalanceDue = .ok balanceDue →
    Kept (books.1.map (PayableRow.set balanceDue posting.newBalance.newStatus), books.2 ++ [row])

theorem fits_apply (kept : Kept (some payable, payments))
    (accepted : applyPaymentToAccountsPayable (mapApRow payable) text = .ok newBalance) :
    Fits (some payable, payments) ⟨.apply, text, none, newBalance⟩ := by
  intro row balanceDue kind amount undoes fresh newRead
  obtain ⟨paired, balanced⟩ := kept
  have before := balanced payable rfl
  obtain ⟨value, read, positive, within, newText, status⟩ := applyPayment_eq_ok accepted
  have isValue := numericColumn_parsed read amount
  rw [newText] at newRead
  obtain rfl := numericColumn_text newRead
  refine ⟨paired.append fresh (fun _ => undoes) (by simp [kind]) (by simp [undoes]), ?_⟩
  rintro _ ⟨rfl⟩
  have total : payable.balanceDue =
      payable.totalAmount - amountOf .apply payments + amountOf .reversal payments := before.balance
  have upper := before.atMost
  refine ⟨?_, ?_, ?_, ?_⟩
  · simp only [PayableRow.set, amountOf_append, kind, if_true, reduceCtorEq, if_false]
    omega
  · simp only [PayableRow.set]
    omega
  · simp only [PayableRow.set]
    omega
  · exact status

theorem not_reversed {db : FinanceDb} {key : PayableKey} (paired : Paired (db.paymentsOf key))
    (isOriginal : original ∈ db.paymentsOf key)
    (less : db.totalReversed original.organizationId original.id < original.amount) :
    ∀ other ∈ db.paymentsOf key, other.reversalOfTransactionId ≠ some original.id := by
  intro other isOther undoes
  obtain ⟨-, amount⟩ := paired.amount isOriginal isOther undoes
  obtain ⟨storedOther, otherKey⟩ := mem_filter.mp isOther
  obtain ⟨-, originalKey⟩ := mem_filter.mp isOriginal
  have sameOrganization : other.organizationId = original.organizationId := by
    have same : other.key = original.key := by
      rw [beq_iff_eq.mp otherKey, beq_iff_eq.mp originalKey]
    exact congrArg Prod.fst same
  have counted : other.amount ∈ (db.payments.filter fun row =>
      row.organizationId == original.organizationId &&
        row.reversalOfTransactionId == some original.id).map PaymentRow.amount :=
    mem_map_of_mem (mem_filter.mpr ⟨storedOther, by simp [sameOrganization, undoes]⟩)
  have atLeast : other.amount ≤ db.totalReversed original.organizationId original.id := by
    refine single_le_sum (fun amount member => ?_) _ counted
    obtain ⟨row, -, rfl⟩ := mem_map.mp member
    exact Int.le_of_lt row.amountPositive
  omega

theorem reverseOriginal_eq_ok {db : FinanceDb}
    (accepted : reverseOriginal db payable original = .ok posting) :
    db.totalReversed original.organizationId original.id < original.amount ∧
      posting.kind = .reversal ∧ posting.amount = formatDecimal12x4 original.amount ∧
      posting.reversalOf = some original.id ∧
      reversePaymentOnAccountsPayable (mapApRow payable) (formatDecimal12x4 original.amount) =
        .ok posting.newBalance := by
  simp only [reverseOriginal, bind_eq_ok, guard_eq_ok, pure_eq_ok, not_not] at accepted
  obtain ⟨order, compared, less, newBalance, reversed, rfl⟩ := accepted
  obtain ⟨first, second, readFirst, readSecond, rfl⟩ := cmpScale4_eq_ok compared
  obtain rfl := parseDecimal12x4_text readFirst
  obtain rfl := parseDecimal12x4_text readSecond
  exact ⟨compare_lt_iff_lt.mp less, rfl, rfl, rfl, reversed⟩

theorem fits_reversal {db : FinanceDb} {key : PayableKey} (kept : Kept (db.books key))
    (found : db.payable key = some payable) (isOriginal : original ∈ db.paymentsOf key)
    (applied : original.transactionKind = .apply)
    (accepted : reverseOriginal db payable original = .ok posting) :
    Fits (db.books key) posting := by
  have books : db.books key = (some payable, db.paymentsOf key) := by rw [books, found]
  rw [books] at kept ⊢
  intro row balanceDue kind amount undoes fresh newRead
  obtain ⟨less, isReversal, isAmount, isOf, reversed⟩ := reverseOriginal_eq_ok accepted
  obtain ⟨positive, within, newText, status⟩ := reversePayment_eq_ok reversed
  obtain ⟨paired, balanced⟩ := kept
  have before := balanced payable rfl
  rw [isReversal] at kind
  rw [isAmount] at amount
  rw [isOf] at undoes
  rw [newText] at newRead
  obtain rfl := numericColumn_text newRead
  have isValue := numericColumn_text amount
  refine ⟨paired.append fresh (by simp [kind]) (fun _ => ⟨_, isOriginal, applied, undoes, isValue⟩)
    (by simpa [undoes] using not_reversed paired isOriginal less), ?_⟩
  rintro _ ⟨rfl⟩
  have total : payable.balanceDue = payable.totalAmount - amountOf .apply (db.paymentsOf key) +
      amountOf .reversal (db.paymentsOf key) := before.balance
  have lower := before.nonneg
  refine ⟨?_, ?_, ?_, ?_⟩
  · simp only [PayableRow.set, amountOf_append, kind, if_true, reduceCtorEq, if_false]
    omega
  · simp only [PayableRow.set]
    omega
  · simp only [PayableRow.set]
    omega
  · simp only [PayableRow.set, status, false_iff]
    omega

/-! ### What a statement can do -/

def PayableStage.Calm : PayableStage → Prop
  | .start | .duplicate _ | .lock | .commit _ | .done _ => True
  | _ => False

inductive PayableStep (dates : DateReading) (db : FinanceDb) (program : PayableProgram) :
    PayableEffect → Prop
  | locks (key : PayableKey) (payable : PayableRow) (stage : program.stage = .lock)
      (names : program.task.key = .ok key) (found : db.payable key = some payable) :
      PayableStep dates db program (.acquires key (program.goTo (.recheck payable)))
  | decides (payable : PayableRow) (text : String) (newBalance : NewBalance)
      (stage : program.stage = .recheck payable)
      (accepted : applyPaymentToAccountsPayable (mapApRow payable) text = .ok newBalance) :
      PayableStep dates db program
        (.reads (program.goTo (.insert ⟨.apply, text, none, newBalance⟩)))
  | seeks (payable : PayableRow) (stage : program.stage = .recheck payable) :
      PayableStep dates db program (.reads (program.goTo (.original payable)))
  | finds (key : PayableKey) (payable : PayableRow) (original : PaymentRow)
      (stage : program.stage = .original payable) (names : program.task.key = .ok key)
      (isOriginal : original ∈ db.paymentsOf key) (applied : original.transactionKind = .apply) :
      PayableStep dates db program (.reads (program.goTo (.reversals payable original)))
  | sums (payable : PayableRow) (original : PaymentRow) (posting : Posting)
      (stage : program.stage = .reversals payable original)
      (accepted : reverseOriginal db payable original = .ok posting) :
      PayableStep dates db program (.reads (program.goTo (.insert posting)))
  | inserts (key : PayableKey) (posting : Posting) (row : PaymentRow)
      (stage : program.stage = .insert posting) (names : program.task.key = .ok key)
      (isKey : row.key = key) (kind : row.transactionKind = posting.kind)
      (amount : numericColumn posting.amount = .ok row.amount)
      (undoes : row.reversalOfTransactionId = posting.reversalOf)
      (fresh : row.id ∉ db.payments.map PaymentRow.id) :
      PayableStep dates db program
        (.writes (.payment row) (program.goTo (.update row posting.newBalance)))
  | updates (key : PayableKey) (row : PaymentRow) (newBalance : NewBalance) (balanceDue : Int)
      (result : PaymentResult) (stage : program.stage = .update row newBalance)
      (names : program.task.key = .ok key)
      (read : numericColumn newBalance.newBalanceDue = .ok balanceDue) :
      PayableStep dates db program
        (.writes (.balance key balanceDue newBalance.newStatus) (program.goTo (.commit result)))
  | reads (stage : PayableStage) (calm : stage.Calm)
      (whole : ∀ row newBalance, program.stage ≠ .update row newBalance) :
      PayableStep dates db program (.reads (program.goTo stage))
  | rests : PayableStep dates db program (.reads program)
  | commits (result : PaymentResult) (next : PayableStage) (stage : program.stage = .commit result)
      (calm : next.Calm) : PayableStep dates db program (.commits (program.goTo next))
  | aborts (next : PayableStage) (calm : next.Calm) :
      PayableStep dates db program (.aborts (program.goTo next))

theorem findPayable_eq_ok {db : FinanceDb} {task : PayableTask} {found : Option PayableRow}
    (looked : findPayable db task = .ok found) :
    ∃ key, task.key = .ok key ∧ db.payable key = found := by
  simp only [findPayable, bind_eq_ok, pure_eq_ok] at looked
  exact looked

theorem payable_key {db : FinanceDb} {key : PayableKey} (found : db.payable key = some payable) :
    payable.key = key := by
  have isKey := find?_some found
  exact beq_iff_eq.mp isKey

theorem findOriginal_eq_ok {db : FinanceDb} {command : ReverseAccountsPayablePaymentCommand}
    (looked : findOriginal db command = .ok original) :
    ∃ key, (PayableTask.reverses command).key = .ok key ∧ original ∈ db.paymentsOf key ∧
      original.transactionKind = .apply := by
  simp only [findOriginal, bind_eq_ok] at looked
  obtain ⟨key, names, id, -, looked⟩ := looked
  split at looked
  next => exact absurd looked throw_ne_ok
  next row found =>
    simp only [thrown_eq_ok, pure_eq_ok] at looked
    obtain ⟨applied, rfl⟩ := looked
    exact ⟨key, names, mem_of_find?_eq_some found, not_not.mp applied⟩

variable {dates : DateReading}

theorem paymentRow_eq_ok {oracle : FinanceOracle} {task : PayableTask} {reference : String}
    (made : paymentRow dates oracle task reference posting = .ok row) :
    task.key = .ok row.key ∧ row.transactionKind = posting.kind ∧
      numericColumn posting.amount = .ok row.amount ∧
      row.reversalOfTransactionId = posting.reversalOf := by
  simp only [paymentRow, bind_eq_ok] at made
  obtain ⟨key, names, branchId, -, amount, read, date, -, made⟩ := made
  obtain ⟨-, made⟩ := refused_eq_ok.mp made
  split at made
  next =>
    obtain rfl := pure_eq_ok.mp made
    exact ⟨names, rfl, read, rfl⟩
  next => exact absurd made throw_ne_ok

theorem checkUnique_eq_ok {db : FinanceDb} (checked : checkUnique db row = .ok ()) :
    row.id ∉ db.payments.map PaymentRow.id := by
  simp only [checkUnique, refused_eq_ok] at checked
  obtain ⟨absent, checked⟩ := checked
  intro member
  obtain ⟨stored, isStored, same⟩ := mem_map.mp member
  exact absent (any_eq_true.mpr ⟨stored, isStored, by simp [same]⟩)

theorem PayableProgram.statement_step {oracle : FinanceOracle} {db : FinanceDb}
    (program : PayableProgram) {effect : PayableEffect}
    (stated : program.statement dates oracle db = .ok effect) :
    PayableStep dates db program effect := by
  cases stage : program.stage <;> simp only [statement, stage, bind_eq_ok, pure_eq_ok] at stated
  case start =>
    obtain ⟨found, -, stated⟩ := stated
    split at stated
    next =>
      obtain rfl := pure_eq_ok.mp stated
      exact .reads _ trivial (by simp [stage])
    next =>
      simp only [bind_eq_ok, pure_eq_ok] at stated
      obtain ⟨-, -, rfl⟩ := stated
      exact .reads _ trivial (by simp [stage])
  case duplicate payment =>
    obtain ⟨found, -, stated⟩ := stated
    split at stated
    next => exact absurd stated throw_ne_ok
    next =>
      obtain rfl := pure_eq_ok.mp stated
      exact .reads _ trivial (by simp [stage])
  case lock =>
    obtain ⟨found, looked, stated⟩ := stated
    split at stated
    next => exact absurd stated throw_ne_ok
    next payable =>
      obtain rfl := pure_eq_ok.mp stated
      obtain ⟨key, names, isFound⟩ := findPayable_eq_ok looked
      rw [payable_key isFound]
      exact .locks key payable stage names isFound
  case recheck payable =>
    obtain ⟨-, -, found, -, stated⟩ := stated
    split at stated
    next =>
      simp only [bind_eq_ok, pure_eq_ok] at stated
      obtain ⟨-, -, rfl⟩ := stated
      exact .reads _ trivial (by simp [stage])
    split at stated
    next command task =>
      simp only [bind_eq_ok, pure_eq_ok] at stated
      obtain ⟨newBalance, accepted, rfl⟩ := stated
      exact .decides payable _ newBalance stage accepted
    next =>
      obtain rfl := pure_eq_ok.mp stated
      exact .seeks payable stage
  case original payable =>
    split at stated
    next command task =>
      simp only [bind_eq_ok, pure_eq_ok] at stated
      obtain ⟨original, looked, rfl⟩ := stated
      obtain ⟨key, names, isOriginal, applied⟩ := findOriginal_eq_ok looked
      exact .finds key payable original stage (task ▸ names) isOriginal applied
    next =>
      obtain rfl := pure_eq_ok.mp stated
      exact .rests
  case reversals payable original =>
    obtain ⟨posting, accepted, rfl⟩ := stated
    exact .sums payable original posting stage accepted
  case insert posting =>
    obtain ⟨row, made, _, checked, rfl⟩ := stated
    obtain ⟨names, kind, amount, undoes⟩ := paymentRow_eq_ok made
    exact .inserts row.key posting row stage names rfl kind amount undoes
      (checkUnique_eq_ok checked)
  case update row newBalance =>
    obtain ⟨key, names, balanceDue, read, stated⟩ := stated
    split at stated
    next => exact absurd stated throw_ne_ok
    next payable _ =>
      obtain rfl := pure_eq_ok.mp stated
      exact .updates key row newBalance balanceDue _ stage names read
  case commit result => exact stated ▸ .commits result _ stage trivial
  case done result => exact stated ▸ .rests

theorem PayableActs.step (dates : DateReading) (db : FinanceDb) (program : PayableProgram)
    (effect : PayableEffect) (acts : PayableActs dates db program effect) :
    PayableStep dates db program effect := by
  obtain ⟨oracle, rfl⟩ := acts
  unfold act
  split
  next => exact .rests
  next => exact .aborts _ trivial
  next =>
    split
    next => exact .aborts _ trivial
    next effect stated => exact program.statement_step stated

theorem PayableActs.wanted (dates : DateReading) (db : FinanceDb) (program : PayableProgram)
    (key : PayableKey) (next : PayableProgram)
    (acts : PayableActs dates db program (.acquires key next)) : program.wants = some key := by
  cases acts.step with
  | locks _ payable stage names _ =>
    simp [wants, stage, names, Except.toOption]

/-! ### The guarded books -/

def FinanceWrite.key : FinanceWrite → PayableKey
  | .payment row => row.key
  | .balance key _ _ => key

section Record

variable (dates) (key : PayableKey)

def Settled (books : Books) : PayableStage → Prop
  | .recheck payable => Kept books ∧ books.1 = some payable
  | .original payable => Kept books ∧ books.1 = some payable
  | .reversals payable original => Kept books ∧ books.1 = some payable ∧
      original ∈ books.2 ∧ original.transactionKind = .apply
  | .insert posting => Kept books ∧ Fits books posting
  | .update _ newBalance => ∀ balanceDue, numericColumn newBalance.newBalanceDue = .ok balanceDue →
      Kept (books.1.map (PayableRow.set balanceDue newBalance.newStatus), books.2)
  | _ => Kept books

def Keeps (books : Books) (session : PayableSession) : Prop :=
  session.program.task.key = .ok key ∧ Settled books session.program.stage

def Leaves (session : PayableSession) : Prop :=
  (∀ write ∈ session.written, write.key ≠ key) ∧
    (session.program.stage.Calm ∨ session.program.task.key ≠ .ok key)

def LeavesRecord (db db' : FinanceDb) : Prop :=
  db'.payable key = db.payable key ∧ db'.payments = db.payments

variable {dates key}

theorem books_payment (row : PaymentRow) :
    (db.apply (.payment row)).books key =
      (db.payable key, db.paymentsOf key ++ if row.key = key then [row] else []) := by
  by_cases same : row.key = key <;>
    simp [books, apply, payable, paymentsOf, filter_append, same]

theorem books_balance (own : PayableKey) (balanceDue : Int) (status : AccountsPayableStatus) :
    (db.apply (.balance own balanceDue status)).books key =
      (if own = key then (db.payable key).map (PayableRow.set balanceDue status)
        else db.payable key, db.paymentsOf key) := by
  refine Prod.ext ?_ rfl
  by_cases same : own = key
  · subst same
    rw [if_pos rfl]
    exact Table.find?_updateWhere_self _ _ _ fun row hit => hit
  · rw [if_neg same]
    refine Table.find?_updateWhere_other _ _ _ _ (fun row hit => ?_) (fun row hit => ?_)
    · rw [beq_iff_eq.mp hit]
      exact beq_false_of_ne same
    · have kept : (PayableRow.set balanceDue status row).key = own := beq_iff_eq.mp hit
      rw [kept]
      exact beq_false_of_ne same

variable {write : FinanceWrite}

theorem books_other (other : write.key ≠ key) : (db.apply write).books key = db.books key := by
  cases write with
  | payment row =>
    have otherRow : row.key ≠ key := other
    rw [books_payment, if_neg otherRow, append_nil]
    rfl
  | balance own balanceDue status =>
    have otherRow : own ≠ key := other
    rw [books_balance, if_neg otherRow]
    rfl

theorem books_apply_congr {db db' : FinanceDb} (write : FinanceWrite)
    (same : db.books key = db'.books key) :
    (db.apply write).books key = (db'.apply write).books key := by
  obtain ⟨samePayable, samePayments⟩ := Prod.mk.inj same
  cases write with
  | payment row => rw [books_payment, books_payment, samePayable, samePayments]
  | balance own balanceDue status =>
    rw [books_balance, books_balance, samePayable, samePayments]

theorem Leaves.books_visible (db : FinanceDb) {session : PayableSession}
    (leaves : Leaves key session) :
    (session.visible apply db).books key = db.books key :=
  visible_kept (books · key) fun db write member => books_other db (leaves.1 write member)

/-! ### One step -/

theorem PayableStage.Calm.settled {books : Books} {stage : PayableStage} (calm : stage.Calm)
    (kept : Kept books) : Settled books stage := by
  cases stage <;> first | exact kept | exact calm.elim

theorem Settled.kept {books : Books} {stage : PayableStage} (settled : Settled books stage)
    (whole : ∀ row newBalance, stage ≠ .update row newBalance) : Kept books := by
  cases stage with
  | recheck | original | reversals | insert => exact settled.1
  | update row newBalance => exact absurd rfl (whole row newBalance)
  | _ => exact settled

theorem PayableStep.settled {db : FinanceDb} {program next : PayableProgram}
    (step : PayableStep dates db program (.reads next)) (names : program.task.key = .ok key)
    (settled : Settled (db.books key) program.stage) :
    next.task.key = .ok key ∧ Settled (db.books key) next.stage := by
  cases step with
  | decides payable text newBalance stage accepted =>
    rw [stage] at settled
    obtain ⟨kept, isPayable⟩ := settled
    have books : db.books key = (some payable, db.paymentsOf key) := Prod.ext isPayable rfl
    refine ⟨names, kept, ?_⟩
    rw [books] at kept ⊢
    exact fits_apply kept accepted
  | seeks payable stage =>
    rw [stage] at settled
    exact ⟨names, settled⟩
  | finds own payable original stage ownNames isOriginal applied =>
    obtain rfl : own = key := Except.ok.inj (ownNames.symm.trans names)
    rw [stage] at settled
    exact ⟨names, settled.1, settled.2, isOriginal, applied⟩
  | sums payable original posting stage accepted =>
    rw [stage] at settled
    obtain ⟨kept, isPayable, isOriginal, applied⟩ := settled
    exact ⟨names, kept, fits_reversal kept isPayable isOriginal applied accepted⟩
  | reads stage calm whole => exact ⟨names, calm.settled (settled.kept whole)⟩
  | rests => exact ⟨names, settled⟩

theorem PayableStep.aside {db : FinanceDb} {program next : PayableProgram}
    (step : PayableStep dates db program (.reads next))
    (aside : program.stage.Calm ∨ program.task.key ≠ .ok key) :
    next.stage.Calm ∨ next.task.key ≠ .ok key := by
  cases step with
  | decides payable _ _ stage _ | seeks payable stage | finds _ payable original stage _ _ _
  | sums payable original posting stage _ =>
    exact .inr (aside.resolve_left (by simp [stage, PayableStage.Calm]))
  | reads stage calm _ => exact .inl calm
  | rests => exact aside

theorem PayableStep.writes_settled {db : FinanceDb} {program next : PayableProgram}
    (step : PayableStep dates db program (.writes write next)) (names : program.task.key = .ok key)
    (settled : Settled (db.books key) program.stage) :
    next.task.key = .ok key ∧ Settled ((db.apply write).books key) next.stage := by
  cases step with
  | inserts own posting row stage ownNames isKey kind amount undoes fresh =>
    obtain rfl : own = key := Except.ok.inj (ownNames.symm.trans names)
    rw [stage] at settled
    refine ⟨names, fun balanceDue read => ?_⟩
    rw [books_payment, if_pos isKey]
    refine settled.2 row balanceDue kind amount undoes (fun member => fresh ?_) read
    exact (filter_sublist.map _).subset member
  | updates own row newBalance balanceDue result stage ownNames read =>
    obtain rfl : own = key := Except.ok.inj (ownNames.symm.trans names)
    rw [stage] at settled
    refine ⟨names, ?_⟩
    rw [books_balance, if_pos rfl]
    exact settled balanceDue read

theorem PayableStep.writes_aside {db : FinanceDb} {program next : PayableProgram}
    (step : PayableStep dates db program (.writes write next))
    (aside : program.stage.Calm ∨ program.task.key ≠ .ok key) :
    write.key ≠ key ∧ (next.stage.Calm ∨ next.task.key ≠ .ok key) := by
  cases step with
  | inserts own posting row stage ownNames isKey _ _ _ _ =>
    have other := aside.resolve_left (by simp [stage, PayableStage.Calm])
    exact ⟨fun same => other (by rw [ownNames, ← isKey]; exact congrArg _ same), .inr other⟩
  | updates own row newBalance balanceDue result stage ownNames _ =>
    have other := aside.resolve_left (by simp [stage, PayableStage.Calm])
    exact ⟨fun same => other (by rw [ownNames]; exact congrArg _ same), .inr other⟩

abbrev PayableInOrder (key : PayableKey) : FinanceDb → PayableSession → Prop :=
  InOrder apply (fun db => db.books key) key (Keeps key) (Leaves key)

theorem inOrder_start (db : FinanceDb) {program : PayableProgram} (calm : program.stage.Calm) :
    PayableInOrder key db (.start program) :=
  ⟨fun held => by simp [Session.start] at held, fun _ => ⟨by simp [Session.start], .inl calm⟩⟩

theorem PayableInOrder.moves {db' : FinanceDb} {session session' : PayableSession}
    (kept : Kept (db.books key)) (inOrder : PayableInOrder key db session)
    (moved : PayableMove dates db session db' session') :
    Kept (db'.books key) ∧ PayableInOrder key db' session' := by
  obtain ⟨whileHeld, whileNot⟩ := inOrder
  cases moved with
  | acquires own next act =>
    refine ⟨kept, ?_⟩
    cases act.step with
    | locks _ payable stage names found =>
      have sees : Kept ((session.visible apply db).books key) := by
        by_cases held : key ∈ session.locks
        · have settled := (whileHeld held).2
          rw [stage] at settled
          exact settled
        · rw [(whileNot held).books_visible]
          exact kept
      by_cases same : own = key
      · subst same
        exact ⟨fun _ => ⟨names, sees, found⟩, fun notHeld => absurd mem_cons_self notHeld⟩
      · have other : session.program.task.key ≠ .ok key := fun isKey =>
          same (Except.ok.inj (names.symm.trans isKey))
        refine ⟨fun held => ?_, fun notHeld => ?_⟩
        · rcases mem_cons.mp held with rfl | already
          · exact absurd rfl same
          · exact absurd (whileHeld already).1 other
        · exact ⟨(whileNot fun already => notHeld (mem_cons_of_mem _ already)).1, .inr other⟩
  | reads next act =>
    refine ⟨kept, fun held => ?_, fun notHeld => ?_⟩
    · exact act.step.settled (whileHeld held).1 (whileHeld held).2
    · exact ⟨(whileNot notHeld).1, act.step.aside (whileNot notHeld).2⟩
  | writes write next act =>
    refine ⟨kept, fun held => ?_, fun notHeld => ?_⟩
    · have settled := act.step.writes_settled (whileHeld held).1 (whileHeld held).2
      rw [visible_append]
      exact settled
    · obtain ⟨other, aside⟩ := act.step.writes_aside (whileNot notHeld).2
      refine ⟨fun written member => ?_, aside⟩
      rcases mem_append.mp member with earlier | last
      · exact (whileNot notHeld).1 written earlier
      · obtain rfl := mem_singleton.mp last
        exact other
  | commits next act valid =>
    cases act.step with
    | commits result next stage calm =>
      refine ⟨?_, inOrder_start _ calm⟩
      by_cases held : key ∈ session.locks
      · have settled := (whileHeld held).2
        rw [stage] at settled
        exact settled
      · rw [(whileNot held).books_visible]
        exact kept
  | aborts next act =>
    cases act.step with
    | aborts next calm => exact ⟨kept, inOrder_start _ calm⟩

end Record

/-! ### Reversals stay on their record -/

def FinanceWrite.payment? : FinanceWrite → Option PaymentRow
  | .payment row => some row
  | .balance .. => none

theorem payments_visible (db : FinanceDb) :
    (session.visible apply db).payments =
      db.payments ++ session.written.filterMap FinanceWrite.payment? := by
  unfold Session.visible
  induction session.written generalizing db with
  | nil => simp
  | cons write rest ih =>
    rw [foldl_cons, ih]
    cases write <;> simp [apply, FinanceWrite.payment?, filterMap_cons]

theorem Linked.mono (subset : payments ⊆ more) (linked : Linked payments row) :
    Linked more row := by
  intro id undoes
  obtain ⟨original, isOriginal, facts⟩ := linked id undoes
  exact ⟨original, subset isOriginal, facts⟩

def AllLinked (db : FinanceDb) : Prop :=
  (db.payments.map PaymentRow.id).Nodup ∧ ∀ row ∈ db.payments, Linked db.payments row

def Aims (payments : List PaymentRow) (program : PayableProgram) : Prop :=
  match program.stage with
  | .reversals _ original => original ∈ payments ∧ program.task.key = .ok original.key
  | .insert posting => ∀ id, posting.reversalOf = some id →
      ∃ original ∈ payments, original.id = id ∧ program.task.key = .ok original.key
  | _ => True

def LinkedSession (db : FinanceDb) (session : PayableSession) : Prop :=
  (∀ row ∈ session.written.filterMap FinanceWrite.payment?,
    Linked (session.visible apply db).payments row) ∧
  Aims (session.visible apply db).payments session.program

theorem Aims.mono {program : PayableProgram} (subset : payments ⊆ more)
    (aims : Aims payments program) : Aims more program := by
  unfold Aims at aims ⊢
  split at aims
  next => exact ⟨subset aims.1, aims.2⟩
  next =>
    intro id undoes
    obtain ⟨original, isOriginal, facts⟩ := aims id undoes
    exact ⟨original, subset isOriginal, facts⟩
  next => trivial

theorem LinkedSession.stable (db' : FinanceDb) {session : PayableSession}
    (subset : db.payments ⊆ db'.payments) (linked : LinkedSession db session) :
    LinkedSession db' session := by
  have grown : (session.visible apply db).payments ⊆
      (session.visible apply db').payments := by
    rw [payments_visible, payments_visible]
    exact append_subset.mpr ⟨fun row member => mem_append_left _ (subset member),
      subset_append_right _ _⟩
  exact ⟨fun row member => (linked.1 row member).mono grown, linked.2.mono grown⟩

theorem PayableStage.Calm.aims (payments : List PaymentRow) {program : PayableProgram}
    (calm : program.stage.Calm) : Aims payments program := by
  unfold Aims
  split
  next stage => simp [stage, PayableStage.Calm] at calm
  next stage => simp [stage, PayableStage.Calm] at calm
  next => trivial

theorem PayableStep.aims {db : FinanceDb} {program next : PayableProgram}
    (step : PayableStep dates db program (.reads next)) (aims : Aims db.payments program) :
    Aims db.payments next := by
  cases step with
  | decides => exact fun id undoes => nomatch undoes
  | seeks => trivial
  | finds key payable original stage names isOriginal _ =>
    obtain ⟨stored, isKey⟩ := mem_filter.mp isOriginal
    exact ⟨stored, by rw [beq_iff_eq.mp isKey]; exact names⟩
  | sums payable original posting stage accepted =>
    obtain ⟨-, -, -, isOf, -⟩ := reverseOriginal_eq_ok accepted
    simp only [Aims, stage] at aims
    intro id undoes
    exact ⟨original, aims.1, Option.some.inj (isOf.symm.trans undoes), aims.2⟩
  | reads stage calm _ => exact PayableStage.Calm.aims _ calm
  | rests => exact aims

theorem PayableStep.linked {db : FinanceDb} {program next : PayableProgram}
    (step : PayableStep dates db program (.writes (.payment row) next))
    (aims : Aims db.payments program) : Linked db.payments row := by
  cases step with
  | inserts key posting _ stage names isKey _ _ undoes _ =>
    simp only [Aims, stage] at aims
    intro id isOf
    obtain ⟨original, isOriginal, isId, sameKey⟩ := aims id (undoes ▸ isOf)
    exact ⟨original, isOriginal, by rw [isKey]; exact Except.ok.inj (sameKey.symm.trans names), isId⟩

theorem PayableStep.writes_aims {db : FinanceDb} {program next : PayableProgram}
    {write : FinanceWrite} (payments : List PaymentRow)
    (step : PayableStep dates db program (.writes write next)) : Aims payments next := by
  cases step <;> trivial

theorem LinkedSession.start (db : FinanceDb) {program : PayableProgram}
    (calm : program.stage.Calm) : LinkedSession db (.start program) :=
  ⟨by simp [Session.start], PayableStage.Calm.aims _ calm⟩

theorem LinkedSession.moves {db db' : FinanceDb} {session session' : PayableSession}
    (all : AllLinked db) (linked : LinkedSession db session)
    (moved : PayableMove dates db session db' session') :
    AllLinked db' ∧ LinkedSession db' session' := by
  obtain ⟨written, aims⟩ := linked
  cases moved with
  | acquires own next act =>
    cases act.step with
    | locks => trivial
  | reads next act => exact ⟨all, written, act.step.aims aims⟩
  | writes write next act =>
    refine ⟨all, fun row member => ?_, act.step.writes_aims _⟩
    have grown : (session.visible apply db).payments ⊆
        ((⟨session.locks, session.written ++ [write], next⟩ : PayableSession).visible
          apply db).payments := by
      rw [payments_visible, payments_visible, filterMap_append, ← append_assoc]
      exact subset_append_left _ _
    rw [filterMap_append] at member
    rcases mem_append.mp member with earlier | last
    · exact (written row earlier).mono grown
    · cases write with
      | payment own =>
        obtain rfl : row = own := by simpa [FinanceWrite.payment?] using last
        exact (act.step.linked aims).mono grown
      | balance => simp [FinanceWrite.payment?] at last
  | commits next act valid =>
    cases act.step with
    | commits result next stage calm =>
      refine ⟨⟨valid.1, fun row member => ?_⟩, LinkedSession.start _ calm⟩
      have stored := member
      rw [payments_visible] at stored
      rcases mem_append.mp stored with committed | own
      · refine (all.2 row committed).mono ?_
        rw [payments_visible]
        exact subset_append_left _ _
      · exact written row own
  | aborts next act =>
    cases act.step with
    | aborts next calm => exact ⟨all, LinkedSession.start _ calm⟩

/-! ### Whole runs -/

def FinanceDb.reversalsOf (db : FinanceDb) (payment : PaymentRow) : List PaymentRow :=
  db.payments.filter fun row => row.organizationId == payment.organizationId &&
    row.reversalOfTransactionId == some payment.id

/-- The record agrees with its payments, and every payment is undone at most once, in full. -/
def Reconciled (db : FinanceDb) (key : PayableKey) : Prop :=
  (∀ payable, db.payable key = some payable → Balanced payable (db.paymentsOf key)) ∧
  ∀ payment ∈ db.paymentsOf key, payment.transactionKind = .apply →
    (db.reversalsOf payment).length ≤ 1 ∧
      ∀ reversal ∈ db.reversalsOf payment,
        reversal.transactionKind = .reversal ∧ reversal.amount = payment.amount

theorem length_filter_eq_count {α β : Type} [DecidableEq β] (f : α → Option β) (b : β)
    (rows : List α) :
    (rows.filter fun row => f row == some b).length = (rows.filterMap f).count b := by
  induction rows with
  | nil => rfl
  | cons row rows ih =>
    cases value : f row with
    | none => simp [value, ih]
    | some c => by_cases same : c = b <;> simp [value, same, ih]

theorem reversalsOf_eq {db : FinanceDb} {key : PayableKey} {payment : PaymentRow}
    (all : AllLinked db) (isPayment : payment ∈ db.paymentsOf key) :
    db.reversalsOf payment =
      (db.paymentsOf key).filter fun row => row.reversalOfTransactionId == some payment.id := by
  obtain ⟨stored, isKey⟩ := mem_filter.mp isPayment
  have key_eq : payment.key = key := beq_iff_eq.mp isKey
  rw [paymentsOf, filter_filter]
  refine filter_congr fun row member => ?_
  by_cases undoes : row.reversalOfTransactionId = some payment.id
  · obtain ⟨original, isOriginal, sameKey, sameId⟩ := all.2 row member payment.id undoes
    obtain rfl : original = payment := inj_on_of_nodup_map all.1 isOriginal stored sameId
    have sameOrganization : row.organizationId = original.organizationId :=
      congrArg Prod.fst sameKey.symm
    simp [undoes, sameOrganization, ← sameKey, key_eq]
  · rw [beq_false_of_ne undoes, Bool.and_false, Bool.false_and]

theorem reconciled_of_kept {key : PayableKey} (all : AllLinked db) (kept : Kept (db.books key)) :
    Reconciled db key := by
  obtain ⟨paired, balanced⟩ := kept
  refine ⟨balanced, fun payment isPayment _ => ?_⟩
  rw [reversalsOf_eq all isPayment]
  refine ⟨?_, fun reversal isReversal => ?_⟩
  · rw [length_filter_eq_count]
    exact nodup_iff_count_le_one.mp paired.once payment.id
  · obtain ⟨member, undoes⟩ := mem_filter.mp isReversal
    exact paired.amount isPayment member (beq_iff_eq.mp undoes)

theorem kept_of_created (key : PayableKey) (payable : PayableRow)
    (found : db.payable key = some payable) (unpaid : db.paymentsOf key = [])
    (due : payable.balanceDue = payable.totalAmount) (positive : 0 < payable.totalAmount)
    (status : payable.status = .pending) : Kept (db.books key) := by
  rw [books, found, unpaid]
  refine ⟨⟨nodup_nil, by simp, by simp, nodup_nil⟩, ?_⟩
  rintro _ ⟨rfl⟩
  refine ⟨by simp [amountOf, due], by omega, by omega, ?_⟩
  simp only [status, reduceCtorEq, false_iff]
  omega

def PayableProgram.Begins (program : PayableProgram) : Prop :=
  (∃ command, applyAccountsPayablePayment command = .ok program) ∨
    ∃ command, reverseAccountsPayablePayment command = .ok program

theorem PayableProgram.Begins.stage (begins : program.Begins) : program.stage = .start := by
  rcases begins with ⟨command, accepted⟩ | ⟨command, accepted⟩
  · simp only [applyAccountsPayablePayment, guard_eq_ok, bind_eq_ok, pure_eq_ok] at accepted
    obtain ⟨-, -, -, rfl⟩ := accepted
    rfl
  · simp only [reverseAccountsPayablePayment, guard_eq_ok, pure_eq_ok] at accepted
    obtain ⟨-, rfl⟩ := accepted
    rfl

/-- However payments and reversals interleave, with retries and rollbacks, in every committed state
the record agrees with its payments. -/
theorem payable_ledger_reconciled (dates : DateReading) (key : PayableKey) (db : FinanceDb)
    (programs : List PayableProgram) (pool : Pool FinanceDb PayableSession)
    (begins : ∀ program ∈ programs, program.Begins) (kept : Kept (db.books key))
    (linked : AllLinked db)
    (run : PermittedReachable (PayableMove dates) (LeavesRecord key)
      (Grants wants) ⟨db, programs.map Session.start⟩ pool) :
    Reconciled pool.shared key := by
  have calm : ∀ program ∈ programs, program.stage.Calm := fun program member => by
    rw [(begins program member).stage]
    trivial
  have started : ∀ session ∈ (programs.map Session.start : List PayableSession),
      ∃ program, program.stage.Calm ∧ session = .start program := by
    intro session member
    obtain ⟨program, listed, rfl⟩ := mem_map.mp member
    exact ⟨program, calm program listed, rfl⟩
  obtain ⟨books, -⟩ : Holds (fun db => Kept (db.books key)) (PayableInOrder key) pool := by
    refine guarded_reachable (fun db : FinanceDb => db.books key) key (Keeps key) (Leaves key)
      (fun _ _ _ _ acts => acts.wanted) (fun moved => moved)
      books_apply_congr (fun leaves => leaves.books_visible _) ?_
      (fun kept inOrder moved => PayableInOrder.moves _ kept inOrder moved)
      kept ?_ (exclusive_start programs) run
    · intro db db' leaves
      simp only [books, paymentsOf, leaves.1, leaves.2]
    · intro session member
      obtain ⟨program, calm, rfl⟩ := started session member
      exact inOrder_start db calm
  obtain ⟨all, -⟩ : Holds AllLinked LinkedSession pool := by
    refine Holds.permittedReachable AllLinked LinkedSession
      (fun all linked moved => linked.moves all moved) ?_ ?_ ?_ ⟨linked, ?_⟩ run
    · intro db session db' session' other _ _ linkedToo _ moved
      refine linkedToo.stable db db' ?_
      rcases Move.store_cases moved with rfl | rfl
      · exact List.Subset.refl _
      · rw [payments_visible]
        exact subset_append_left _ _
    · intro db db' all leaves
      simpa only [AllLinked, leaves.2] using all
    · intro db db' session _ linkedToo leaves
      exact linkedToo.stable db db' (by rw [leaves.2]; exact List.Subset.refl _)
    · intro session member
      obtain ⟨program, calm, rfl⟩ := started session member
      exact LinkedSession.start db calm
  exact reconciled_of_kept pool.shared all books

/-! ### A payment and its reversal -/

def sampleDb : FinanceDb :=
  { payables := [⟨1, 2, 3, 4, 5, 1000000, 1000000, "2026-10-01", .pending⟩], payments := [] }

def samplePayment : ApplyAccountsPayablePaymentCommand :=
  { organizationId := Uuid.write 2, branchId := Uuid.write 3, accountsPayableId := Uuid.write 1
    paymentAmount := "60.0000", referenceId := some "P-1", reference := none, paymentDate := none }

def sampleReversal : ReverseAccountsPayablePaymentCommand :=
  { organizationId := Uuid.write 2, branchId := Uuid.write 3, accountsPayableId := Uuid.write 1
    originalPaymentTransactionId := Uuid.write 10, reversalReferenceId := "R-1"
    reversalDate := none }

def sampleDates : DateReading := ⟨fun _ => none, fun _ => none⟩

def sampleNext (id : Uuid) : FinanceDb × PayableSession → FinanceDb × PayableSession :=
  Session.next apply (act sampleDates ⟨id, 0, none⟩)

abbrev SampleFree (id : Uuid) : List PayableSession → Nat → FinanceDb × PayableSession → Prop :=
  Session.Free apply (act sampleDates ⟨id, 0, none⟩) FinanceDb.Consistent wants

def sampleApplies : PayableProgram := ⟨.applies samplePayment, "P-1", .start⟩
def sampleReverses : PayableProgram := ⟨.reverses sampleReversal, "R-1", .start⟩

/-- The reversal has looked for its reference; the payment runs to its commit; the reversal goes
on and finds the payment. -/
def sampleLooked :
    FinanceDb × PayableSession := (sampleNext 20)^[1] (sampleDb, .start sampleReverses)
def samplePaid : FinanceDb × PayableSession :=
  (sampleNext 10)^[6] (sampleLooked.1, .start sampleApplies)
def sampleReversed :
    FinanceDb × PayableSession := (sampleNext 20)^[7] (samplePaid.1, sampleLooked.2)

theorem sample_payable_run :
    trimmed "P-1" = "P-1" ∧ trimmed "R-1" = "R-1" ∧
    parseDecimal12x4 samplePayment.paymentAmount = .ok 600000 ∧
    SampleFree 20 [.start sampleApplies] 1 (sampleDb, .start sampleReverses) ∧
    SampleFree 10 [sampleLooked.2] 6 (sampleLooked.1, .start sampleApplies) ∧
    SampleFree 20 [samplePaid.2] 7 (samplePaid.1, sampleLooked.2) ∧
    (samplePaid.1.payable (2, 1)).map PayableRow.balanceDue = some 400000 ∧
    (sampleReversed.1.paymentsOf (2, 1)).map PaymentRow.amount = [600000, 600000] := by
  decide +kernel

theorem sample_alone (id : Uuid) (before after : List PayableSession) (n : Nat) {db : FinanceDb}
    {session : PayableSession} (final : FinanceDb × PayableSession)
    (ends : (sampleNext id)^[n] (db, session) = final)
    (free : SampleFree id (before ++ after) n (db, session)) :
    PermittedReachable (PayableMove sampleDates) (LeavesRecord (2, 1))
      (Grants wants) ⟨db, before ++ session :: after⟩ ⟨final.1, before ++ final.2 :: after⟩ :=
  Session.Free.reachable _ _ _ (fun _ _ => ⟨⟨id, 0, none⟩, rfl⟩) ends free

theorem sample_payable_reconciled :
    (sampleReversed.1.paymentsOf (2, 1)).map PaymentRow.amount = [600000, 600000] ∧
      Reconciled sampleReversed.1 (2, 1) := by
  obtain ⟨isPayment, isReversal, amount, looks, pays, reverses, -, rows⟩ := sample_payable_run
  have reconciled := fun (final : FinanceDb × PayableSession) begins kept linked =>
    payable_ledger_reconciled sampleDates (2, 1) sampleDb [sampleReverses, sampleApplies]
      ⟨final.1, [final.2, samplePaid.2]⟩ begins kept linked
  refine ⟨rows, reconciled sampleReversed ?_ ?_ (by simp [AllLinked, sampleDb]) ?_⟩
  · simp only [mem_cons, not_mem_nil, or_false]
    rintro program (rfl | rfl)
    · refine .inr ⟨sampleReversal, ?_⟩
      rfl
    · refine .inl ⟨samplePayment, ?_⟩
      rfl
  · exact kept_of_created sampleDb (2, 1) _ rfl rfl rfl (by decide) rfl
  · refine .trans (sample_alone 20 [] [.start sampleApplies] 1 sampleLooked rfl looks) ?_
    refine .trans (sample_alone 10 [sampleLooked.2] [] 6 samplePaid rfl pays) ?_
    exact sample_alone 20 [] [samplePaid.2] 7 sampleReversed rfl reverses

end TridentPos.Finance
