import TridentPos.Core.FolioContracts
import TridentPos.Library.Fallible
import TridentPos.Library.Table
import Mathlib.Data.List.Sort

/-!
# Cloud leases

`CloudLeaseManager` of `leases.ts`: the table `folio_leases`, the allocation of a range and the
heartbeat. Both run in a transaction under the advisory lock of their organization, branch and
folio type, so each is one step on the table; a call that throws rolls back.
-/
namespace TridentPos.Folio

open Core Library Fallible

structure FolioLeaseError where
  (message code : String)
  httpStatus : Nat
  (activeLeaseId activeEpoch : Option String)
deriving DecidableEq

structure LeaseGrant where
  (id organizationId branchId : String)
  folioType : FolioType
  (epochId fencingToken : String)
  (rangeStart rangeEnd : Nat)
deriving DecidableEq

structure FolioLeaseRecord extends LeaseGrant where
  highWaterMark : Nat
  status : CloudFolioLeaseStatus
deriving DecidableEq

structure CloudLeases where
  branches : List (String × String)
  leases : List FolioLeaseRecord
deriving DecidableEq

structure AllocateLeaseOptions where
  (organizationId branchId : String)
  folioType : FolioType
  requestedBlockSize : Option Int
  isDisasterRecoveryReplacement : Bool

structure HeartbeatLeaseOptions where
  (organizationId branchId leaseId : String)
  folioType : FolioType
  (epochId fencingToken : String)
  currentFolio : Int

structure HeartbeatAckResult where
  leaseId : String
  highWaterMark : Int
  activeEpoch : String

structure LeaseMint where
  (id fencingToken : String)

/-! ### Errors -/

def folioLeaseError (message code : String) (httpStatus : Nat) : FolioLeaseError :=
  ⟨message, code, httpStatus, none, none⟩

def invalidBlockSizeError (requested : Int) : FolioLeaseError :=
  folioLeaseError ("Invalid requestedBlockSize '" ++ toString requested ++
    "'. Must be an integer between " ++ toString minBlockSize ++ " and " ++
    toString maxBlockSize ++ ". Clamping is strictly prohibited.") "INVALID_BLOCK_SIZE" 400

variable (s : CloudLeases) (options : AllocateLeaseOptions)

def unauthorizedBranchError : FolioLeaseError :=
  folioLeaseError ("Branch '" ++ options.branchId ++
    "' does not exist or does not belong to organization '" ++ options.organizationId ++ "'")
    "UNAUTHORIZED_BRANCH" 403

def activeLeaseExistsError (row : FolioLeaseRecord) : FolioLeaseError :=
  { message := "An active folio lease ('" ++ row.id ++ "', epoch: '" ++ row.epochId ++
      "') already exists for organization '" ++ options.organizationId ++ "', branch '" ++
      options.branchId ++ "', folio type '" ++ options.folioType.text ++
      "'. New leases cannot be allocated until the current lease is EXHAUSTED or replaced via " ++
      "governed disaster recovery."
    code := "ACTIVE_LEASE_EXISTS", httpStatus := 409, activeLeaseId := some row.id
    activeEpoch := some row.epochId }

def leaseRevokedError (message : String) (activeEpoch : String) : FolioLeaseError :=
  { message := message, code := "LEASE_REVOKED", httpStatus := 403, activeLeaseId := none
    activeEpoch := some activeEpoch }

def plainLeaseError (message : String) : FolioLeaseError := folioLeaseError message "" 500

def liftEpoch {α : Type} (result : Except String α) : Except FolioLeaseError α :=
  result.mapError plainLeaseError

/-! ### Allocation -/

def blockSizeOf : Except FolioLeaseError Nat :=
  match options.requestedBlockSize with
  | none => .ok defaultBlockSize
  | some requested =>
    if requested < minBlockSize ∨ requested > maxBlockSize then
      .error (invalidBlockSizeError requested)
    else .ok requested.toNat

def CloudLeases.leasesOf (organizationId branchId : String)
    (folioType : FolioType) : List FolioLeaseRecord :=
  s.leases.filter fun row =>
    row.organizationId == organizationId && row.branchId == branchId && row.folioType == folioType

/-- `ORDER BY range_end DESC`. -/
def CloudLeases.historical (organizationId branchId : String)
    (folioType : FolioType) : List FolioLeaseRecord :=
  (s.leasesOf organizationId branchId folioType).insertionSort fun a b => b.rangeEnd ≤ a.rangeEnd

def CloudLeases.setLease (id : String) (f : FolioLeaseRecord → FolioLeaseRecord) : CloudLeases :=
  { s with leases := Table.updateWhere (fun row => row.id == id) f s.leases }

/-- The lease in force is replaced in disaster recovery and refuses an ordinary request. -/
def supersedeActive (rows : List FolioLeaseRecord) : Except FolioLeaseError CloudLeases :=
  match rows.find? fun row => row.status == .active || row.status == .allocated with
  | none => .ok s
  | some row =>
    if options.isDisasterRecoveryReplacement then
      .ok (s.setLease row.id fun row => { row with status := .abandonedContingencyRange })
    else .error (activeLeaseExistsError options row)

def maxRangeAndEpoch : List FolioLeaseRecord → Nat → Nat → Except FolioLeaseError (Nat × Nat)
  | [], maxRangeEnd, maxEpochNumber => .ok (maxRangeEnd, maxEpochNumber)
  | row :: rows, maxRangeEnd, maxEpochNumber => do
    let epNum ← liftEpoch (parseEpochNumber row.epochId)
    maxRangeAndEpoch rows (if row.rangeEnd > maxRangeEnd then row.rangeEnd else maxRangeEnd)
      (if epNum > maxEpochNumber then epNum else maxEpochNumber)

def nextRange (rows : List FolioLeaseRecord) : Except FolioLeaseError (Nat × String) :=
  if rows.isEmpty then .ok (greenfieldInitialRangeStart, "ep_1")
  else do
    let (maxRangeEnd, maxEpochNumber) ← maxRangeAndEpoch rows 0 0
    let nextEpoch ← liftEpoch (formatEpochId (maxEpochNumber + 1))
    return (maxRangeEnd + 1, nextEpoch)

def CloudLeases.insertLease (lease : FolioLeaseRecord) : Except FolioLeaseError CloudLeases :=
  if s.leases.any fun row => row.id == lease.id then
    .error (plainLeaseError "duplicate key value violates unique constraint \"folio_leases_pkey\"")
  else if (s.leasesOf lease.organizationId lease.branchId lease.folioType).any fun row =>
      row.epochId == lease.epochId then
    .error (plainLeaseError
      "duplicate key value violates unique constraint \"uq_folio_leases_epoch\"")
  else .ok { s with leases := s.leases ++ [lease] }

def newLease (mint : LeaseMint) (rangeStart : Nat)
    (epochId : String) (blockSize : Nat) : FolioLeaseRecord :=
  { id := mint.id, organizationId := options.organizationId, branchId := options.branchId
    folioType := options.folioType, epochId := epochId, fencingToken := mint.fencingToken
    rangeStart := rangeStart, rangeEnd := rangeStart + blockSize - 1
    highWaterMark := rangeStart - 1, status := .active }

def checkBranch : Except FolioLeaseError Unit :=
  if (options.organizationId, options.branchId) ∈ s.branches then .ok ()
  else .error (unauthorizedBranchError options)

def allocateLease (mint : LeaseMint) : Except FolioLeaseError (FolioLeaseRecord × CloudLeases) := do
  let blockSize ← blockSizeOf options
  checkBranch s options
  let rows := s.historical options.organizationId options.branchId options.folioType
  let s ← supersedeActive s options rows
  let (rangeStart, nextEpoch) ← nextRange rows
  let lease := newLease options mint rangeStart nextEpoch blockSize
  let s ← s.insertLease lease
  return (lease, s)

/-! ### Heartbeat -/

def checkHeartbeat (options : HeartbeatLeaseOptions) (activeLease : FolioLeaseRecord) :
    Except FolioLeaseError Unit := do
  let epochComparison ← liftEpoch (compareEpochs options.epochId activeLease.epochId)
  if epochComparison < 0 then
    .error (leaseRevokedError ("Lease epoch '" ++ options.epochId ++
      "' has been revoked. Authoritative active epoch is '" ++ activeLease.epochId ++ "'.")
      activeLease.epochId)
  else if epochComparison > 0 then
    .error (folioLeaseError ("Incoming epoch '" ++ options.epochId ++
      "' exceeds authoritative active epoch '" ++ activeLease.epochId ++ "'.") "INVALID_EPOCH" 400)
  else if options.leaseId ≠ activeLease.id then
    .error (leaseRevokedError ("Lease ID '" ++ options.leaseId ++
      "' does not match authoritative active lease '" ++ activeLease.id ++
      "'. Lease superseded or revoked.") activeLease.epochId)
  else if options.fencingToken ≠ activeLease.fencingToken then
    .error (folioLeaseError ("Fencing token mismatch for lease '" ++ activeLease.id ++
      "'. Authentication failed.") "INVALID_FENCING_TOKEN" 403)
  else if options.currentFolio < (activeLease.rangeStart : Int) - 1 ∨
      options.currentFolio > activeLease.rangeEnd then
    .error (folioLeaseError ("currentFolio " ++ toString options.currentFolio ++
      " is outside authoritative range [" ++ toString activeLease.rangeStart ++ ", " ++
      toString activeLease.rangeEnd ++ "]") "FOLIO_OUT_OF_RANGE" 400)
  else if options.currentFolio < activeLease.highWaterMark then
    .error (folioLeaseError ("currentFolio " ++ toString options.currentFolio ++
      " regresses prior high-water mark " ++ toString activeLease.highWaterMark ++
      ". Monotonic progression violation.") "HIGH_WATER_REGRESSION" 400)
  else if activeLease.status = .revoked ∨ activeLease.status = .abandonedContingencyRange then
    .error (leaseRevokedError ("Lease '" ++ activeLease.id ++ "' is in status '" ++
      activeLease.status.text ++ "' and cannot accept heartbeats.") activeLease.epochId)
  else .ok ()

def heartbeat (options : HeartbeatLeaseOptions) :
    Except FolioLeaseError (HeartbeatAckResult × CloudLeases) :=
  match (s.historical options.organizationId options.branchId options.folioType).head? with
  | none => .error (folioLeaseError ("No folio lease found for organization '" ++
      options.organizationId ++ "', branch '" ++ options.branchId ++ "', folio type '" ++
      options.folioType.text ++ "'.") "LEASE_NOT_FOUND" 404)
  | some activeLease => do
    checkHeartbeat options activeLease
    let newStatus : CloudFolioLeaseStatus :=
      if options.currentFolio = activeLease.rangeEnd then .exhausted else .active
    return ({ leaseId := activeLease.id, highWaterMark := options.currentFolio
              activeEpoch := activeLease.epochId },
      s.setLease activeLease.id fun row =>
        { row with highWaterMark := options.currentFolio.toNat, status := newStatus })

/-! ### What the two operations do to the grants -/

def CloudLeases.grants : List LeaseGrant :=
  s.leases.map FolioLeaseRecord.toLeaseGrant

theorem grants_setLease (id : String) {f : FolioLeaseRecord → FolioLeaseRecord}
    (kept : ∀ row, (f row).toLeaseGrant = row.toLeaseGrant) :
    (s.setLease id f).grants = s.grants :=
  Table.map_updateWhere _ f _ s.leases kept

variable {options} {rows : List FolioLeaseRecord} {s s' : CloudLeases}

theorem supersedeActive_eq_ok (superseded : supersedeActive s options rows = .ok s') :
    s'.grants = s.grants := by
  unfold supersedeActive at superseded
  split at superseded
  next =>
    obtain rfl := Except.ok.inj superseded
    rfl
  next row _ =>
    split at superseded
    next =>
      obtain rfl := Except.ok.inj superseded
      exact grants_setLease s row.id fun _ => rfl
    next => simp at superseded

theorem liftEpoch_eq_ok {α : Type} (result : Except String α) (value : α) :
    liftEpoch result = .ok value ↔ result = .ok value :=
  mapError_eq_ok result plainLeaseError value

theorem maxRangeAndEpoch_eq_ok (rows : List FolioLeaseRecord) (rangeEnd epoch : Nat)
    (result : Nat × Nat) (returned : maxRangeAndEpoch rows rangeEnd epoch = .ok result) :
    rangeEnd ≤ result.1 ∧ epoch ≤ result.2 ∧
      ∀ row ∈ rows, row.rangeEnd ≤ result.1 ∧
        ∃ n, parseEpochNumber row.epochId = .ok n ∧ n ≤ result.2 := by
  induction rows generalizing rangeEnd epoch with
  | nil =>
    obtain rfl := Except.ok.inj returned
    simp
  | cons row rows ih =>
    simp only [maxRangeAndEpoch, bind_eq_ok, liftEpoch_eq_ok] at returned
    obtain ⟨epNum, parsed, rest⟩ := returned
    obtain ⟨rangeUp, epochUp, bounds⟩ := ih _ _ rest
    refine ⟨?_, ?_, ?_⟩
    · split at rangeUp <;> omega
    · split at epochUp <;> omega
    · intro other member
      rcases List.mem_cons.mp member with rfl | later
      · refine ⟨?_, epNum, parsed, ?_⟩
        · split at rangeUp <;> omega
        · split at epochUp <;> omega
      · exact bounds other later

theorem nextRange_eq_ok {rangeStart : Nat} {epochId : String}
    (returned : nextRange rows = .ok (rangeStart, epochId)) :
    1 ≤ rangeStart ∧ ∃ n, parseEpochNumber epochId = .ok n ∧
      ∀ row ∈ rows, row.rangeEnd < rangeStart ∧
        ∃ m, parseEpochNumber row.epochId = .ok m ∧ m < n := by
  unfold nextRange at returned
  split at returned
  next empty =>
    obtain ⟨rfl, rfl⟩ := returned
    have none : rows = [] := by simpa using empty
    refine ⟨by decide, 1, by decide, ?_⟩
    simp [none]
  simp only [bind_eq_ok, liftEpoch_eq_ok, pure_eq_ok, Prod.mk.injEq] at returned
  obtain ⟨⟨maxEnd, maxEpoch⟩, maxima, nextEpoch, formatted, rfl, rfl⟩ := returned
  obtain ⟨-, -, bounds⟩ := maxRangeAndEpoch_eq_ok _ _ _ _ maxima
  refine ⟨by omega, maxEpoch + 1, parseEpochNumber_formatEpochId _ _ formatted, ?_⟩
  intro row member
  obtain ⟨within, m, parsed, below⟩ := bounds row member
  exact ⟨by omega, m, parsed, by omega⟩

theorem blockSizeOf_eq_ok {blockSize : Nat} (accepted : blockSizeOf options = .ok blockSize) :
    minBlockSize ≤ blockSize := by
  unfold blockSizeOf at accepted
  split at accepted
  next =>
    obtain rfl := Except.ok.inj accepted
    decide
  next requested _ =>
    simp only [refused_eq_ok, Except.ok.injEq] at accepted
    omega

variable {lease : FolioLeaseRecord}

theorem insertLease_eq_ok (inserted : s.insertLease lease = .ok s') :
    (∀ row ∈ s.leases, row.id ≠ lease.id) ∧ s' = { s with leases := s.leases ++ [lease] } := by
  simp only [CloudLeases.insertLease, refused_eq_ok, Except.ok.injEq] at inserted
  obtain ⟨fresh, -, rfl⟩ := inserted
  refine ⟨?_, rfl⟩
  intro row member same
  exact fresh (List.any_eq_true.mpr ⟨row, member, by simpa using same⟩)

def LeaseGrant.Before (a b : LeaseGrant) : Prop :=
  a.rangeEnd < b.rangeStart ∧
    ∃ m n, parseEpochNumber a.epochId = .ok m ∧ parseEpochNumber b.epochId = .ok n ∧ m < n

def LeaseGrant.SameKey (a b : LeaseGrant) : Prop :=
  a.organizationId = b.organizationId ∧ a.branchId = b.branchId ∧ a.folioType = b.folioType

theorem allocateLease_eq_ok {mint : LeaseMint}
    (returned : allocateLease s options mint = .ok (lease, s')) :
    s'.grants = s.grants ++ [lease.toLeaseGrant] ∧
      1 ≤ lease.rangeStart ∧ lease.rangeStart ≤ lease.rangeEnd ∧
      (∃ n, parseEpochNumber lease.epochId = .ok n) ∧
      ∀ grant ∈ s.grants, grant.SameKey lease.toLeaseGrant → grant.Before lease.toLeaseGrant := by
  simp only [allocateLease, bind_eq_ok, pure_eq_ok] at returned
  obtain ⟨blockSize, sized, _, -, superseded, supersedes, ⟨rangeStart, epochId⟩, next, inserted,
    inserts, finish⟩ := returned
  obtain ⟨rfl, rfl⟩ := Prod.mk.inj finish
  obtain ⟨-, rfl⟩ := insertLease_eq_ok inserts
  obtain ⟨positive, n, parsed, beyond⟩ := nextRange_eq_ok next
  have sizes := blockSizeOf_eq_ok sized
  refine ⟨?_, positive, ?_, ⟨n, parsed⟩, ?_⟩
  · rw [← supersedeActive_eq_ok supersedes]
    simp [CloudLeases.grants]
  · simp only [newLease, minBlockSize] at sizes ⊢
    omega
  · intro grant member key
    obtain ⟨row, stored, rfl⟩ := List.mem_map.mp member
    have listed : row ∈ s.historical options.organizationId options.branchId options.folioType := by
      obtain ⟨organization, branch, type⟩ := key
      rw [CloudLeases.historical, List.mem_insertionSort, CloudLeases.leasesOf]
      simp only [newLease] at organization branch type
      simp [stored, organization, branch, type]
    obtain ⟨below, m, parsedRow, older⟩ := beyond row listed
    exact ⟨below, m, n, parsedRow, parsed, older⟩

theorem heartbeat_eq_ok {options : HeartbeatLeaseOptions} {result : HeartbeatAckResult}
    (returned : heartbeat s options = .ok (result, s')) : s'.grants = s.grants := by
  unfold heartbeat at returned
  split at returned
  next => simp at returned
  next activeLease _ =>
    simp only [bind_eq_ok, pure_eq_ok, Prod.mk.injEq] at returned
    obtain ⟨_, -, -, rfl⟩ := returned
    exact grants_setLease s activeLease.id fun _ => rfl

def sampleAllocation (recovery : Bool) : AllocateLeaseOptions :=
  { organizationId := "o", branchId := "b", folioType := .ticket, requestedBlockSize := some 10
    isDisasterRecoveryReplacement := recovery }

end TridentPos.Folio
