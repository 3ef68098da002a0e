import TridentPos.Core.FolioContracts
import TridentPos.Library.Fallible
import TridentPos.Library.Table

/-!
# Leases on an edge node

`FolioPersistence` of `folio-persistence.ts`: the table `local_folio_leases`, one row for each
folio type. Folios are the numbers of the source, which nothing there requires to be integers.
An operation that throws leaves the table as it was.
-/
namespace TridentPos.Folio

open Core Library Fallible

structure LocalFolioLeaseRecord where
  folioType : FolioType
  (epochId fencingToken : String)
  (rangeStart rangeEnd currentFolio : ℚ)
  status : LocalFolioLeaseStatus
deriving DecidableEq

structure SetActiveLeaseInput where
  folioType : FolioType
  (epochId fencingToken : String)
  (rangeStart rangeEnd : ℚ)
  currentFolio : Option ℚ

inductive FolioError where
  | invalidRange (rangeStart rangeEnd : ℚ)
  | invalidEpochId (epochId : String)
  | invalidFencingToken
  | outsideBounds (currentFolio rangeStart rangeEnd : ℚ)
  | epoch (message : String)
  | staleEpoch (epochId currentEpochId : String)
  | conflictingToken (epochId : String)
  | conflictingRange (rangeStart rangeEnd : ℚ) (epochId : String)
  | regression (currentFolio existing : ℚ)
  | unavailable (folioType : FolioType)
  | revoked (folioType : FolioType)
  | exhausted (folioType : FolioType) (rangeStart rangeEnd : ℚ)
deriving DecidableEq

variable (table : List LocalFolioLeaseRecord) (folioType : FolioType)

def getLocalLease : Option LocalFolioLeaseRecord :=
  table.find? fun row => row.folioType == folioType

/-- `INSERT ... ON CONFLICT(folio_type) DO UPDATE`. -/
def storeLease (record : LocalFolioLeaseRecord) : List LocalFolioLeaseRecord :=
  Table.upsert (fun row => row.folioType == record.folioType) (fun _ => record) record table

def checkReplacement (current : Option LocalFolioLeaseRecord) (input : SetActiveLeaseInput)
    (initialFolio : ℚ) : Except FolioError Unit :=
  match current with
  | none => .ok ()
  | some current => do
    let cmp ← (compareEpochs input.epochId current.epochId).mapError .epoch
    if cmp < 0 then .error (.staleEpoch input.epochId current.epochId)
    else if cmp = 0 then
      if input.fencingToken ≠ current.fencingToken then .error (.conflictingToken input.epochId)
      else if input.rangeStart ≠ current.rangeStart ∨ input.rangeEnd ≠ current.rangeEnd then
        .error (.conflictingRange input.rangeStart input.rangeEnd input.epochId)
      else if initialFolio < current.currentFolio then
        .error (.regression initialFolio current.currentFolio)
      else .ok ()
    else .ok ()

def initialFolioOf (input : SetActiveLeaseInput) : ℚ :=
  input.currentFolio.getD (input.rangeStart - 1)

def installedRecord (input : SetActiveLeaseInput) : LocalFolioLeaseRecord :=
  { folioType := input.folioType, epochId := input.epochId, fencingToken := input.fencingToken
    rangeStart := input.rangeStart, rangeEnd := input.rangeEnd, currentFolio := initialFolioOf input
    status := if initialFolioOf input = input.rangeEnd then .exhausted else .active }

def setActiveLease (input : SetActiveLeaseInput) : Except FolioError (List LocalFolioLeaseRecord) :=
  if input.rangeStart < 1 ∨ input.rangeEnd < input.rangeStart then
    .error (.invalidRange input.rangeStart input.rangeEnd)
  else if !isValidEpochId input.epochId then .error (.invalidEpochId input.epochId)
  else if input.fencingToken = "" then .error .invalidFencingToken
  else if initialFolioOf input < input.rangeStart - 1 ∨ initialFolioOf input > input.rangeEnd then
    .error (.outsideBounds (initialFolioOf input) input.rangeStart input.rangeEnd)
  else do
    checkReplacement (getLocalLease table input.folioType) input (initialFolioOf input)
    return storeLease table (installedRecord input)

def nextFolioOf (lease : LocalFolioLeaseRecord) : ℚ :=
  if lease.currentFolio < lease.rangeStart then lease.rangeStart else lease.currentFolio + 1

def updateLease (f : LocalFolioLeaseRecord → LocalFolioLeaseRecord) : List LocalFolioLeaseRecord :=
  Table.updateWhere (fun row => row.folioType == folioType) f table

/-- The last test marks the row exhausted before it throws; the rollback undoes the mark. -/
def consumeNextFolio : Except FolioError (ℚ × List LocalFolioLeaseRecord) :=
  match getLocalLease table folioType with
  | none => .error (.unavailable folioType)
  | some lease =>
    if lease.status = .revoked then .error (.revoked folioType)
    else if lease.status = .exhausted ∨ lease.currentFolio ≥ lease.rangeEnd then
      .error (.exhausted folioType lease.rangeStart lease.rangeEnd)
    else if nextFolioOf lease > lease.rangeEnd then
      .error (.exhausted folioType lease.rangeStart lease.rangeEnd)
    else
      .ok (nextFolioOf lease, updateLease table folioType fun row =>
        { row with
          currentFolio := nextFolioOf lease
          status := if nextFolioOf lease = lease.rangeEnd then .exhausted else .active })

def revokeLease : List LocalFolioLeaseRecord :=
  updateLease table folioType fun row => { row with status := .revoked }

/-! ### What the operations leave in the table -/

theorem getLocalLease_folioType {table : List LocalFolioLeaseRecord} {folioType : FolioType}
    {lease : LocalFolioLeaseRecord} (found : getLocalLease table folioType = some lease) :
    lease.folioType = folioType := by
  simpa using List.find?_some found

theorem getLocalLease_storeLease (record : LocalFolioLeaseRecord) (folioType : FolioType) :
    getLocalLease (storeLease table record) folioType =
      if folioType = record.folioType then some record else getLocalLease table folioType := by
  split
  next same =>
    subst same
    unfold getLocalLease storeLease
    rw [Table.find?_upsert_self _ _ _ _ (by simp) (by simp)]
    cases table.find? fun row => row.folioType == record.folioType <;> rfl
  next other =>
    apply Table.find?_upsert_other
    · intro row hit
      have is : row.folioType = record.folioType := by simpa using hit
      simpa [is] using Ne.symm other
    · intro row _
      simpa using Ne.symm other
    · simpa using Ne.symm other

theorem getLocalLease_updateLease (changed folioType : FolioType)
    {f : LocalFolioLeaseRecord → LocalFolioLeaseRecord}
    (kept : ∀ row, (f row).folioType = row.folioType) :
    getLocalLease (updateLease table changed f) folioType =
      if folioType = changed then (getLocalLease table folioType).map f
      else getLocalLease table folioType := by
  split
  next same =>
    subst same
    exact Table.find?_updateWhere_self _ _ _ fun row hit => by simpa [kept] using hit
  next other =>
    apply Table.find?_updateWhere_other
    · intro row hit
      have is : row.folioType = changed := by simpa using hit
      simpa [is] using Ne.symm other
    · intro row hit
      have is : row.folioType = changed := by simpa using hit
      simpa [kept, is] using Ne.symm other

theorem checkReplacement_eq_ok {current : LocalFolioLeaseRecord} {input : SetActiveLeaseInput}
    {initialFolio : ℚ} {numInput numCurrent : Nat}
    (parsedInput : parseEpochNumber input.epochId = .ok numInput)
    (parsedCurrent : parseEpochNumber current.epochId = .ok numCurrent)
    (accepted : checkReplacement (some current) input initialFolio = .ok ()) :
    numCurrent < numInput ∨ (numCurrent = numInput ∧ current.currentFolio ≤ initialFolio) := by
  simp only [checkReplacement, compareEpochs_of_parse parsedInput parsedCurrent,
    Except.mapError, ok_bind] at accepted
  obtain ⟨notOlder, accepted⟩ := refused_eq_ok.mp accepted
  split at accepted
  next same =>
    simp only [refused_eq_ok] at accepted
    obtain ⟨-, -, forward, -⟩ := accepted
    exact .inr ⟨by omega, not_lt.mp forward⟩
  next different => exact .inl (by omega)

structure SetActiveLeaseInput.WellFormed (input : SetActiveLeaseInput) : Prop where
  positive : 1 ≤ input.rangeStart
  range : input.rangeStart ≤ input.rangeEnd
  epochId : isValidEpochId input.epochId
  fencingToken : input.fencingToken ≠ ""
  lower : input.rangeStart - 1 ≤ initialFolioOf input
  upper : initialFolioOf input ≤ input.rangeEnd

theorem setActiveLease_eq_ok_iff (table' : List LocalFolioLeaseRecord)
    (input : SetActiveLeaseInput) :
    setActiveLease table input = .ok table' ↔ input.WellFormed ∧
      checkReplacement (getLocalLease table input.folioType) input (initialFolioOf input) = .ok () ∧
      table' = storeLease table (installedRecord input) := by
  simp only [setActiveLease, refused_eq_ok, bind_eq_ok, pure_eq_ok, not_or, not_lt]
  constructor
  · rintro ⟨⟨positive, range⟩, epoch, token, ⟨lower, upper⟩, ⟨⟩, accepted, rfl⟩
    exact ⟨⟨positive, range, by simpa using epoch, token, lower, upper⟩, accepted, rfl⟩
  · rintro ⟨formed, accepted, rfl⟩
    exact ⟨⟨formed.positive, formed.range⟩, by simp [formed.epochId], formed.fencingToken,
      ⟨formed.lower, formed.upper⟩, (), accepted, rfl⟩

theorem setActiveLease_eq_ok {table table' : List LocalFolioLeaseRecord}
    {input : SetActiveLeaseInput} (installed : setActiveLease table input = .ok table') :
    checkReplacement (getLocalLease table input.folioType) input (initialFolioOf input) = .ok () ∧
      table' = storeLease table (installedRecord input) :=
  ((setActiveLease_eq_ok_iff table table' input).mp installed).2

/-- A folio comes from the stored lease: beyond its counter, inside its range, and the counter
moves there. -/
theorem consumeNextFolio_eq_ok {table table' : List LocalFolioLeaseRecord} {folioType : FolioType}
    {folio : ℚ} (consumed : consumeNextFolio table folioType = .ok (folio, table')) :
    ∃ lease, getLocalLease table folioType = some lease ∧ lease.currentFolio < folio ∧
      lease.rangeStart ≤ folio ∧ folio ≤ lease.rangeEnd ∧
      ∃ status, table' = updateLease table folioType fun row =>
        { row with currentFolio := folio, status := status } := by
  unfold consumeNextFolio at consumed
  split at consumed
  next => simp at consumed
  next lease found =>
    simp only [refused_eq_ok, Except.ok.injEq, Prod.mk.injEq] at consumed
    obtain ⟨-, -, within, rfl, rfl⟩ := consumed
    refine ⟨lease, found, ?_, ?_, not_lt.mp within, _, rfl⟩ <;> unfold nextFolioOf
    · split <;> linarith
    · split
      next => exact le_rfl
      next started => linarith

end TridentPos.Folio
