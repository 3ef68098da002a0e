import TridentPos.Core.Money
import TridentPos.Core.Text
import TridentPos.Library.Fallible
import TridentPos.Library.LockedStore
import TridentPos.Library.Table
import TridentPos.Library.Uuid
import Mathlib.Algebra.Order.Ring.Int

/-!
# Accounts payable

`applyAccountsPayablePayment` and `reverseAccountsPayablePayment`, statement by statement. Both
look for their reference first, lock the record, look again under the lock, insert a payment and
update the record.
-/
namespace TridentPos.Finance

open Core Library LockedStore

inductive FinanceErrorKind where
  | accountsPayableOverpayment
  | accountsPayableInvalidState
  | invalidFinancialAmount
  | paymentReferenceRequired
  | paymentIdempotencyConflict
  | paymentTransactionNotFound
  | paymentAlreadyReversed
  | typeError
  | databaseError
deriving DecidableEq

structure FinanceError where
  kind : FinanceErrorKind
  message : String
deriving DecidableEq

/-! ### Numerics -/

def zeroScale4 : String := "0.0000"

def parseDecimal12x4 (text : String) : Except FinanceError Int :=
  (decimalStringToScaledBigInt text).mapError fun message =>
    ⟨.invalidFinancialAmount, "Invalid Scale-4 financial amount '" ++ text ++ "': " ++ message⟩

def formatDecimal12x4 (scaled : Int) : String := scaledBigIntToDecimalString scaled

def addScale4 (a b : String) : Except FinanceError String := do
  let scaledA ← parseDecimal12x4 a
  let scaledB ← parseDecimal12x4 b
  return formatDecimal12x4 (scaledA + scaledB)

def subScale4 (a b : String) : Except FinanceError String := do
  let scaledA ← parseDecimal12x4 a
  let scaledB ← parseDecimal12x4 b
  return formatDecimal12x4 (scaledA - scaledB)

def cmpScale4 (a b : String) : Except FinanceError Ordering := do
  let scaledA ← parseDecimal12x4 a
  let scaledB ← parseDecimal12x4 b
  return compare scaledA scaledB

def isZeroScale4 (text : String) : Except FinanceError Bool := do
  return (← cmpScale4 text zeroScale4) == .eq

def isPositiveScale4 (text : String) : Except FinanceError Bool := do
  return (← cmpScale4 text zeroScale4) == .gt

/-! ### Domain -/

inductive AccountsPayableStatus where
  | pending
  | partiallyPaid
  | paid
  | cancelled
deriving DecidableEq

structure AccountsPayable where
  (id organizationId branchId supplierId purchaseReceiptId totalAmount balanceDue : String)
  dueDate : String
  status : AccountsPayableStatus

structure NewBalance where
  newBalanceDue : String
  newStatus : AccountsPayableStatus

def applyPaymentToAccountsPayable (ap : AccountsPayable) (paymentAmount : String) :
    Except FinanceError NewBalance := do
  if !(← isPositiveScale4 paymentAmount) then
    throw ⟨.accountsPayableOverpayment,
      "Payment amount must be positive, received '" ++ paymentAmount ++ "'"⟩
  if ap.status = .paid then
    throw ⟨.accountsPayableInvalidState,
      "Cannot apply payment to an already PAID accounts payable record"⟩
  if ap.status = .cancelled then
    throw ⟨.accountsPayableInvalidState,
      "Cannot apply payment to a CANCELLED accounts payable record"⟩
  if (← cmpScale4 paymentAmount ap.balanceDue) = .gt then
    throw ⟨.accountsPayableOverpayment, "Payment amount '" ++ paymentAmount ++
      "' exceeds current balance due '" ++ ap.balanceDue ++ "'"⟩
  let newBalanceDue ← subScale4 ap.balanceDue paymentAmount
  return ⟨newBalanceDue, if ← isZeroScale4 newBalanceDue then .paid else .partiallyPaid⟩

def reversePaymentOnAccountsPayable (ap : AccountsPayable) (reversalAmount : String) :
    Except FinanceError NewBalance := do
  if !(← isPositiveScale4 reversalAmount) then
    throw ⟨.accountsPayableOverpayment,
      "Reversal amount must be positive, received '" ++ reversalAmount ++ "'"⟩
  if ap.status = .cancelled then
    throw ⟨.accountsPayableInvalidState,
      "Cannot reverse payment on a CANCELLED accounts payable record"⟩
  let newBalanceDue ← addScale4 ap.balanceDue reversalAmount
  if (← cmpScale4 newBalanceDue ap.totalAmount) = .gt then
    throw ⟨.accountsPayableOverpayment, "Reversal amount '" ++ reversalAmount ++
      "' would cause balance due '" ++ newBalanceDue ++ "' to exceed original total '" ++
      ap.totalAmount ++ "'"⟩
  let order ← cmpScale4 newBalanceDue ap.totalAmount
  return ⟨newBalanceDue, if order = .eq then .pending else .partiallyPaid⟩

/-! ### Tables -/

structure PayableRow where
  (id organizationId branchId supplierId purchaseReceiptId : Uuid)
  (totalAmount balanceDue : Int)
  dueDate : String
  status : AccountsPayableStatus

inductive FinanceTransactionKind where
  | apply
  | reversal
deriving DecidableEq

/-- A row of `accounts_payable_payments`, with its check of the amount. Dates are instants in
milliseconds, as the driver returns them. -/
structure PaymentRow where
  (id organizationId branchId accountsPayableId : Uuid)
  transactionKind : FinanceTransactionKind
  amount : Int
  amountPositive : 0 < amount
  paymentDate : Int
  referenceId : String
  reversalOfTransactionId : Option Uuid

abbrev PayableKey := Uuid × Uuid

def PayableRow.key (row : PayableRow) : PayableKey := (row.organizationId, row.id)

def PaymentRow.key (row : PaymentRow) : PayableKey := (row.organizationId, row.accountsPayableId)

structure FinanceDb where
  payables : List PayableRow
  payments : List PaymentRow

variable (db : FinanceDb)

def FinanceDb.Consistent : Prop :=
  (db.payments.map PaymentRow.id).Nodup ∧
  (db.payments.map fun row => (row.organizationId, row.referenceId)).Nodup
deriving Decidable

def FinanceDb.payable (key : PayableKey) : Option PayableRow :=
  db.payables.find? fun row => row.key == key

def FinanceDb.paymentsOf (key : PayableKey) : List PaymentRow :=
  db.payments.filter fun row => row.key == key

inductive FinanceWrite where
  | payment (row : PaymentRow)
  | balance (key : PayableKey) (balanceDue : Int) (status : AccountsPayableStatus)

def PayableRow.set (balanceDue : Int) (status : AccountsPayableStatus) (row : PayableRow) :
    PayableRow :=
  { row with balanceDue := balanceDue, status := status }

def FinanceDb.apply : FinanceWrite → FinanceDb
  | .payment row => { db with payments := db.payments ++ [row] }
  | .balance key balanceDue status =>
    { db with
      payables := Table.updateWhere (fun row => row.key == key) (PayableRow.set balanceDue status)
        db.payables }

def mapApRow (row : PayableRow) : AccountsPayable :=
  { id := row.id.write, organizationId := row.organizationId.write, branchId := row.branchId.write
    supplierId := row.supplierId.write, purchaseReceiptId := row.purchaseReceiptId.write
    totalAmount := formatDecimal12x4 row.totalAmount, balanceDue := formatDecimal12x4 row.balanceDue
    dueDate := row.dueDate, status := row.status }

/-! ### Commands -/

structure ApplyAccountsPayablePaymentCommand where
  (organizationId branchId accountsPayableId paymentAmount : String)
  (referenceId reference paymentDate : Option String)

structure ReverseAccountsPayablePaymentCommand where
  (organizationId branchId accountsPayableId originalPaymentTransactionId : String)
  reversalReferenceId : String
  reversalDate : Option String

inductive PayableTask where
  | applies (command : ApplyAccountsPayablePaymentCommand)
  | reverses (command : ReverseAccountsPayablePaymentCommand)

def PayableTask.organizationId : PayableTask → String
  | .applies command => command.organizationId
  | .reverses command => command.organizationId

def PayableTask.branchId : PayableTask → String
  | .applies command => command.branchId
  | .reverses command => command.branchId

def PayableTask.accountsPayableId : PayableTask → String
  | .applies command => command.accountsPayableId
  | .reverses command => command.accountsPayableId

def PayableTask.date : PayableTask → Option String
  | .applies command => command.paymentDate
  | .reverses command => command.reversalDate

inductive PaymentResultStatus where
  | applied
  | duplicateAccepted
deriving DecidableEq

structure PaymentResult where
  status : PaymentResultStatus
  accountsPayable : PayableRow
  payment : PaymentRow

/-- A payment that was decided on: the texts and ids of its row and the new balance. -/
structure Posting where
  kind : FinanceTransactionKind
  amount : String
  reversalOf : Option Uuid
  newBalance : NewBalance

/-- The next statement of a transaction, with what it has read so far. -/
inductive PayableStage where
  | start
  | duplicate (payment : PaymentRow)
  | lock
  | recheck (payable : PayableRow)
  | original (payable : PayableRow)
  | reversals (payable : PayableRow) (original : PaymentRow)
  | insert (posting : Posting)
  | update (row : PaymentRow) (newBalance : NewBalance)
  | commit (result : PaymentResult)
  | done (result : Except FinanceError PaymentResult)

structure PayableProgram where
  task : PayableTask
  reference : String
  stage : PayableStage

def applyAccountsPayablePayment (command : ApplyAccountsPayablePaymentCommand) :
    Except FinanceError PayableProgram := do
  let referenceId := trimmed ((command.referenceId.or command.reference).getD "")
  if referenceId = "" then
    throw ⟨.paymentReferenceRequired, "Payment reference ID is required"⟩
  let _ ← parseDecimal12x4 command.paymentAmount
  return ⟨.applies command, referenceId, .start⟩

def reverseAccountsPayablePayment (command : ReverseAccountsPayablePaymentCommand) :
    Except FinanceError PayableProgram := do
  let reversalRef := trimmed command.reversalReferenceId
  if reversalRef = "" then
    throw ⟨.paymentReferenceRequired, "Reversal reference ID is required"⟩
  return ⟨.reverses command, reversalRef, .start⟩

/-! ### Statements -/

/-- How a text is read as an instant: by `new Date` and by a `timestamptz` column. -/
structure DateReading where
  (parse column : String → Option Int)

/-- What the surroundings decide in one step: the ids and the clock of the database, and what
interrupts the transaction, if anything. -/
structure FinanceOracle where
  id : Uuid
  now : Int
  interruption : Option FinanceError

def readUuid (text : String) : Except FinanceError Uuid :=
  match Uuid.read text with
  | none => .error ⟨.databaseError, "invalid input syntax for type uuid: \"" ++ text ++ "\""⟩
  | some uuid => .ok uuid

def PayableTask.key (task : PayableTask) : Except FinanceError PayableKey := do
  let organizationId ← readUuid task.organizationId
  let id ← readUuid task.accountsPayableId
  return (organizationId, id)

def findPayable (task : PayableTask) : Except FinanceError (Option PayableRow) := do
  let key ← task.key
  return db.payable key

def findReference (task : PayableTask) (reference : String) :
    Except FinanceError (Option PaymentRow) := do
  let organizationId ← readUuid task.organizationId
  return db.payments.find? fun row => row.organizationId == organizationId &&
    row.referenceId == reference

section Statements

variable (dates : DateReading)

def matchesTransactionDate (persisted : Int) (incoming : Option String) :
    Except FinanceError Bool :=
  match incoming with
  | none => return true
  | some "" => return true
  | some text =>
    match dates.parse text with
    | none => throw ⟨.invalidFinancialAmount, "Invalid date/time format: " ++ text⟩
    | some instant => return instant == persisted

def PayableTask.matches (task : PayableTask) (row : PaymentRow) : Except FinanceError Bool :=
  if row.accountsPayableId.write ≠ task.accountsPayableId ∨ row.branchId.write ≠ task.branchId then
    return false
  else
    match task with
    | .applies command => do
      if row.transactionKind ≠ .apply then return false
      else if (← cmpScale4 (formatDecimal12x4 row.amount) command.paymentAmount) ≠ .eq then
        return false
      else matchesTransactionDate dates row.paymentDate command.paymentDate
    | .reverses command => do
      if row.transactionKind ≠ .reversal then return false
      else if row.reversalOfTransactionId.map Uuid.write ≠
          some command.originalPaymentTransactionId then return false
      else matchesTransactionDate dates row.paymentDate command.reversalDate

def conflictError (task : PayableTask) (reference : String) : FinanceError :=
  match task with
  | .applies _ => ⟨.paymentIdempotencyConflict, "Payment reference '" ++ reference ++
      "' already exists with different transaction facts"⟩
  | .reverses _ => ⟨.paymentIdempotencyConflict, "Reversal reference '" ++ reference ++
      "' already exists with different transaction facts"⟩

def checkFacts (task : PayableTask) (reference : String) (row : PaymentRow) :
    Except FinanceError Unit := do
  if !(← task.matches dates row) then throw (conflictError task reference)

def checkBranch (payable : PayableRow) (branchId : String) : Except FinanceError Unit :=
  if payable.branchId.write ≠ branchId then
    .error ⟨.accountsPayableInvalidState, "Branch mismatch for accounts payable: record is branch '" ++
      payable.branchId.write ++ "', command specifies '" ++ branchId ++ "'"⟩
  else .ok ()

variable (db : FinanceDb) (program : PayableProgram) (oracle : FinanceOracle)

def findOriginal (command : ReverseAccountsPayablePaymentCommand) :
    Except FinanceError PaymentRow := do
  let key ← (PayableTask.reverses command).key
  let id ← readUuid command.originalPaymentTransactionId
  match (db.paymentsOf key).find? fun row => row.id == id with
  | none => throw ⟨.paymentTransactionNotFound, "Original payment transaction '" ++
      command.originalPaymentTransactionId ++ "' not found on accounts payable '" ++
      command.accountsPayableId ++ "'"⟩
  | some row =>
    if row.transactionKind ≠ .apply then
      throw ⟨.accountsPayableInvalidState, "Cannot reverse transaction '" ++
        command.originalPaymentTransactionId ++ "': not an APPLY transaction"⟩
    else return row

def FinanceDb.totalReversed (organizationId paymentId : Uuid) : Int :=
  ((db.payments.filter fun row => row.organizationId == organizationId &&
    row.reversalOfTransactionId == some paymentId).map PaymentRow.amount).sum

/-- The rest of the reversal once the sum of the earlier ones is known. -/
def reverseOriginal (payable : PayableRow) (original : PaymentRow) :
    Except FinanceError Posting := do
  let totalReversed := formatDecimal12x4 (db.totalReversed original.organizationId original.id)
  if (← cmpScale4 totalReversed (formatDecimal12x4 original.amount)) ≠ .lt then
    throw ⟨.paymentAlreadyReversed, "Payment transaction '" ++ original.id.write ++
      "' is already fully reversed"⟩
  let newBalance ← reversePaymentOnAccountsPayable (mapApRow payable)
    (formatDecimal12x4 original.amount)
  return ⟨.reversal, formatDecimal12x4 original.amount, some original.id, newBalance⟩

def numericColumn (text : String) : Except FinanceError Int :=
  (decimalStringToScaledBigInt text).mapError fun _ => ⟨.databaseError, "numeric field overflow"⟩

def dateColumn (now : Int) (date : Option String) : Except FinanceError Int :=
  match date with
  | none => return now
  | some text =>
    match dates.column text with
    | none => throw ⟨.databaseError,
        "invalid input syntax for type timestamp with time zone: \"" ++ text ++ "\""⟩
    | some instant => return instant

def checkViolation (constraint : String) : FinanceError :=
  ⟨.databaseError, "new row for relation \"accounts_payable_payments\" violates check constraint \"" ++
    constraint ++ "\""⟩

def uniqueViolation (constraint : String) : FinanceError :=
  ⟨.databaseError, "duplicate key value violates unique constraint \"" ++ constraint ++ "\""⟩

def paymentRow (task : PayableTask) (reference : String)
    (posting : Posting) : Except FinanceError PaymentRow := do
  let key ← task.key
  let branchId ← readUuid task.branchId
  let amount ← numericColumn posting.amount
  let paymentDate ← dateColumn dates oracle.now task.date
  if reference.length > 100 then
    throw ⟨.databaseError, "value too long for type character varying(100)"⟩
  else if amountPositive : 0 < amount then
    return {
      id := oracle.id, organizationId := key.1, branchId := branchId, accountsPayableId := key.2
      transactionKind := posting.kind, amount := amount, amountPositive := amountPositive
      paymentDate := paymentDate, referenceId := reference
      reversalOfTransactionId := posting.reversalOf }
  else throw (checkViolation "chk_ap_pay_amount_positive")

/-- An insert fails on a key that its transaction sees; a key that another one inserts at the same
time is found out at the commit. -/
def checkUnique (row : PaymentRow) : Except FinanceError Unit :=
  if db.payments.any fun stored => stored.id == row.id then
    .error (uniqueViolation "accounts_payable_payments_pkey")
  else if db.payments.any fun stored => stored.organizationId == row.organizationId &&
      stored.referenceId == row.referenceId then
    .error (uniqueViolation "uq_ap_payments_org_ref")
  else .ok ()

def undefinedRowError : FinanceError :=
  ⟨.typeError, "Cannot read properties of undefined (reading 'id')"⟩

/-! ### Steps -/

def PayableProgram.goTo (stage : PayableStage) : PayableProgram :=
  { program with stage := stage }

abbrev PayableEffect := Effect FinanceWrite PayableKey PayableProgram

def PayableProgram.statement (db : FinanceDb) (program : PayableProgram) :
    Except FinanceError PayableEffect :=
  match program.stage with
  | .start => do
    match ← findReference db program.task program.reference with
    | none => return .reads (program.goTo .lock)
    | some payment =>
      checkFacts dates program.task program.reference payment
      return .reads (program.goTo (.duplicate payment))
  | .duplicate payment => do
    match ← findPayable db program.task with
    | none => throw undefinedRowError
    | some payable =>
      return .reads (program.goTo (.commit ⟨.duplicateAccepted, payable, payment⟩))
  | .lock => do
    match ← findPayable db program.task with
    | none => throw ⟨.accountsPayableInvalidState, "Accounts payable record '" ++
        program.task.accountsPayableId ++ "' not found"⟩
    | some payable => return .acquires payable.key (program.goTo (.recheck payable))
  | .recheck payable => do
    checkBranch payable program.task.branchId
    match ← findReference db program.task program.reference with
    | some payment =>
      checkFacts dates program.task program.reference payment
      return .reads (program.goTo (.commit ⟨.duplicateAccepted, payable, payment⟩))
    | none =>
      match program.task with
      | .applies command =>
        let newBalance ← applyPaymentToAccountsPayable (mapApRow payable) command.paymentAmount
        return .reads (program.goTo (.insert ⟨.apply, command.paymentAmount, none, newBalance⟩))
      | .reverses _ => return .reads (program.goTo (.original payable))
  | .original payable =>
    match program.task with
    | .reverses command => do
      let original ← findOriginal db command
      return .reads (program.goTo (.reversals payable original))
    | .applies _ => return .reads program
  | .reversals payable original => do
    let posting ← reverseOriginal db payable original
    return .reads (program.goTo (.insert posting))
  | .insert posting => do
    let row ← paymentRow dates oracle program.task program.reference posting
    checkUnique db row
    return .writes (.payment row) (program.goTo (.update row posting.newBalance))
  | .update row newBalance => do
    let key ← program.task.key
    let balanceDue ← numericColumn newBalance.newBalanceDue
    match db.payable key with
    | none => throw undefinedRowError
    | some payable =>
      return .writes (.balance key balanceDue newBalance.newStatus) (program.goTo
        (.commit ⟨.applied, payable.set balanceDue newBalance.newStatus, row⟩))
  | .commit result => return .commits (program.goTo (.done (.ok result)))
  | .done _ => return .reads program

def PayableProgram.act (db : FinanceDb) (program : PayableProgram) : PayableEffect :=
  match program.stage, oracle.interruption with
  | .done _, _ => .reads program
  | _, some error => .aborts (program.goTo (.done (.error error)))
  | _, none =>
    match program.statement dates oracle db with
    | .error error => .aborts (program.goTo (.done (.error error)))
    | .ok effect => effect

def PayableActs (effect : PayableEffect) : Prop :=
  ∃ oracle, program.act dates oracle db = effect

def PayableProgram.wants : Option PayableKey :=
  match program.stage with
  | .lock => program.task.key.toOption
  | _ => none

abbrev PayableSession := Session FinanceWrite PayableKey PayableProgram

abbrev PayableMove : FinanceDb → PayableSession → FinanceDb → PayableSession → Prop :=
  Move FinanceDb.apply FinanceDb.Consistent (PayableActs dates)

end Statements

end TridentPos.Finance
