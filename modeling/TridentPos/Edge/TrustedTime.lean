import TridentPos.Edge.SecureStore
import Mathlib.Tactic.Linarith

/-!
# Trusted time of the edge host

`TrustedTimeManager` of `trusted-time.ts`: the time of the cloud is kept in an anchor row whose tag
is an HMAC under a key of the secure store, and a manager that does not trust the row is locked.
-/
namespace TridentPos.Edge

open Library

structure TrustedTimeAnchor where
  (lastKnownCloudTime localWallTimeAtLastCloudSync : ℚ)
  anchorVersion : ℕ
  updatedAt : ℚ
  integrityTag : String

structure RollbackDetails where
  (lastKnownCloudTime currentWallTime driftSeconds : ℚ)

structure TrustedTimeManager where
  tCloud : Option ℚ := none
  m0 : Option ℤ := none
  isLocked : Bool := false
  lockReason : Option String := none
  rollbacksReported : List RollbackDetails := []

structure Clocks where
  wallTime : ℚ
  monotonic : ℤ

def anchorKeyName : String := "trusted_time_anchor_hmac_key"

def rollbackThresholdSeconds : ℚ := 300

/-- A value of `crypto.randomBytes(32)`. -/
abbrev AnchorKey := { bytes : List UInt8 // bytes.length = 32 }

def textLength (text : String) : ℕ :=
  (text.toList.map fun c => if c.toNat < 0x10000 then 1 else 2).sum

def computeAnchorIntegrityTag (host : Host) (key : List UInt8) (record : TrustedTimeAnchor) :
    String :=
  host.hmacSha256Hex key
    ("TRIDENTPOS:TIME_ANCHOR:v1:" ++ host.numberText 1 ++ ":" ++
      host.numberText record.lastKnownCloudTime ++ ":" ++
      host.numberText record.localWallTimeAtLastCloudSync ++ ":" ++
      host.numberText record.anchorVersion ++ ":" ++ host.numberText record.updatedAt)

namespace TrustedTimeManager

def triggerRollbackLock (reason : String) (details : RollbackDetails)
    (manager : TrustedTimeManager) : TrustedTimeManager :=
  { manager with
    isLocked := true, lockReason := some reason
    rollbacksReported := manager.rollbacksReported ++ [details] }

def lockedError (manager : TrustedTimeManager) : EdgeError :=
  .clockRollbackLock
    ("Operation blocked: system is CLOCK_ROLLBACK_LOCKED. " ++ manager.lockReason.getD "null")

/-- `crypto.timingSafeEqual` of the bytes of two texts. -/
def timingSafeEqual (a b : String) : Except EdgeError Bool :=
  let bytesA := Utf8.encode a.toList
  let bytesB := Utf8.encode b.toList
  if bytesA.length = bytesB.length then .ok (bytesA == bytesB)
  else .error (.range "Input buffers must have the same byte length")

section Construction

variable (host : Host) (store : EdgeSecureStore)

def verifyAnchor (integrityKey : List UInt8) (row : TrustedTimeAnchor) (clocks : Clocks) :
    Except EdgeError TrustedTimeManager := do
  let manager : TrustedTimeManager := {}
  let details : RollbackDetails := ⟨row.lastKnownCloudTime, clocks.wallTime, 0⟩
  if integrityKey.length ≠ 32 then
    return manager.triggerRollbackLock
      "Invalid trusted time anchor integrity key length in EdgeSecureStore. Failing closed." details
  let expectedTag := computeAnchorIntegrityTag host integrityKey row
  if row.integrityTag = "" ∨ textLength row.integrityTag ≠ textLength expectedTag then
    return manager.triggerRollbackLock
      "Corrupted or malformed trusted time anchor integrity tag. Failing closed." details
  let tagMatches ← timingSafeEqual row.integrityTag expectedTag
  if !tagMatches then
    return manager.triggerRollbackLock
      "Cryptographic integrity verification failed for trusted time anchor. Tampering detected. Failing closed."
      details
  if clocks.wallTime < row.lastKnownCloudTime - rollbackThresholdSeconds then
    let drift := row.lastKnownCloudTime - clocks.wallTime
    return manager.triggerRollbackLock
      ("Clock rollback detected on restart: current wall clock (" ++ host.numberText clocks.wallTime ++
        ") is " ++ host.numberText drift ++ "s behind persisted cloud anchor (" ++
        host.numberText row.lastKnownCloudTime ++ ")")
      { details with driftSeconds := drift }
  return { manager with
    tCloud := some (max row.lastKnownCloudTime clocks.wallTime), m0 := some clocks.monotonic }

/-- The constructor: a fresh start has neither an anchor nor a key. -/
def loadPersistedAnchor (files : Files) (anchor : Option TrustedTimeAnchor) (clocks : Clocks) :
    Except EdgeError TrustedTimeManager :=
  let manager : TrustedTimeManager := {}
  let hasKey := store.hasSecret host anchorKeyName files
  match anchor with
  | none =>
    if hasKey then
      .ok (manager.triggerRollbackLock
        "Active Edge node trusted time anchor row missing from database while integrity key is present. Anchor deletion or tampering detected. Failing closed."
        ⟨0, clocks.wallTime, 0⟩)
    else .ok manager
  | some row =>
    let details : RollbackDetails := ⟨row.lastKnownCloudTime, clocks.wallTime, 0⟩
    if hasKey then
      match store.loadSecret host anchorKeyName files with
      | .error err => .ok (manager.triggerRollbackLock
          ("Failed to load trusted time anchor integrity key from EdgeSecureStore: " ++ err.message)
          details)
      | .ok integrityKey => verifyAnchor host integrityKey row clocks
    else
      .ok (manager.triggerRollbackLock
        "Active Edge node trusted time anchor missing cryptographic integrity key in EdgeSecureStore. Failing closed."
        details)

end Construction

def getTrustedEffectiveTime (manager : TrustedTimeManager) (clocks : Clocks) : Except EdgeError ℚ :=
  if manager.isLocked then .error manager.lockedError
  else
    match manager.tCloud, manager.m0 with
    | some tCloud, some m0 => .ok (tCloud + ((clocks.monotonic - m0).tdiv 1000000000 : ℤ))
    | _, _ => .error (.clockRollbackLock
        "Trusted time uninitialized: initial bootstrap requires authenticated cloud time synchronization")

end TrustedTimeManager

/-! ### Synchronisation -/

/-- The manager of a process, with the store's files and the anchor row it shares with the managers
before and after it. -/
structure TrustedTime where
  manager : TrustedTimeManager
  files : Files
  anchor : Option TrustedTimeAnchor

/-- What a call of `syncCloudTime` draws: a name for the temporary file and a new key. -/
structure SyncDraws where
  uuid : String
  newKey : AnchorKey

open TrustedTimeManager

namespace TrustedTime

variable (host : Host) (store : EdgeSecureStore)

/-- The new time may lie behind the effective one by no more than the threshold. -/
def rollbackDuringSync (tCloudSeconds : ℚ) (clocks : Clocks) (time : TrustedTime) :
    Except EdgeError (Option (ℚ × ℚ)) :=
  match time.manager.tCloud with
  | none => .ok none
  | some _ => do
    let currentEffective ← time.manager.getTrustedEffectiveTime clocks
    if tCloudSeconds < currentEffective - rollbackThresholdSeconds then
      return some (currentEffective, currentEffective - tCloudSeconds)
    else return none

def ensureKey (draws : SyncDraws) (files : Files) : Except EdgeError Files :=
  if store.hasSecret host anchorKeyName files then .ok files
  else store.storeSecret host draws.uuid anchorKeyName draws.newKey.val files

def persistAnchor (integrityKey : List UInt8) (tCloudSeconds : ℚ) (clocks : Clocks)
    (time : TrustedTime) : TrustedTime :=
  let record : TrustedTimeAnchor :=
    { lastKnownCloudTime := tCloudSeconds, localWallTimeAtLastCloudSync := clocks.wallTime
      anchorVersion := (time.anchor.map (·.anchorVersion)).getD 0 + 1, updatedAt := clocks.wallTime
      integrityTag := "" }
  { time with
    manager := { time.manager with
      tCloud := some tCloudSeconds, m0 := some clocks.monotonic, isLocked := false
      lockReason := none }
    anchor := some { record with
      integrityTag := computeAnchorIntegrityTag host integrityKey record } }

/-- The answer of the call and what it leaves behind: a call that fails may have locked the manager
or stored a key. -/
def syncCloudTime (draws : SyncDraws) (tCloudSeconds : ℚ) (clocks : Clocks) (time : TrustedTime) :
    Except EdgeError Unit × TrustedTime :=
  if time.manager.isLocked then (.error time.manager.lockedError, time)
  else
    match rollbackDuringSync tCloudSeconds clocks time with
    | .error err => (.error err, time)
    | .ok (some (currentEffective, drift)) =>
      let reason := "Clock rollback detected during sync: new cloud time (" ++
        host.numberText tCloudSeconds ++ ") is " ++ host.numberText drift ++
        "s behind active trusted time (" ++ host.numberText currentEffective ++ ")"
      (.error (.clockRollbackLock reason), { time with
        manager := time.manager.triggerRollbackLock reason
          ⟨currentEffective, tCloudSeconds, drift⟩ })
    | .ok none =>
      match ensureKey host store draws time.files with
      | .error err => (.error err, time)
      | .ok files =>
        match store.loadSecret host anchorKeyName files with
        | .error err => (.error err, { time with files })
        | .ok integrityKey => (.ok (),
            persistAnchor host integrityKey tCloudSeconds clocks { time with files })

def restart (clocks : Clocks) (time : TrustedTime) : Except EdgeError TrustedTime :=
  (loadPersistedAnchor host store time.files time.anchor clocks).map
    fun manager => { time with manager }

/-! ### Anchors under the stored key -/

structure Sealed (key : List UInt8) (time : TrustedTime) : Prop where
  hasKey : store.hasSecret host anchorKeyName time.files
  loads : store.loadSecret host anchorKeyName time.files = .ok key
  anchored : ∃ row, time.anchor = some row ∧
    row.integrityTag = computeAnchorIntegrityTag host key row

variable {key : List UInt8} (draws : SyncDraws) (tCloudSeconds : ℚ) (clocks : Clocks)
  (time : TrustedTime)

theorem persistAnchor_sealed (hasKey : store.hasSecret host anchorKeyName time.files)
    (loads : store.loadSecret host anchorKeyName time.files = .ok key) :
    Sealed host store key (persistAnchor host key tCloudSeconds clocks time) :=
  { hasKey, loads, anchored := ⟨_, rfl, rfl⟩ }

/-- A call is refused and touches no more than the manager, or it finds or makes a key, loads it
and writes the anchor. -/
theorem syncCloudTime_cases :
    (∃ manager, (syncCloudTime host store draws tCloudSeconds clocks time).2 =
      { time with manager }) ∨
    ∃ files, ensureKey host store draws time.files = .ok files ∧
      ((∃ err, store.loadSecret host anchorKeyName files = .error err ∧
        (syncCloudTime host store draws tCloudSeconds clocks time).2 = { time with files }) ∨
      ∃ key, store.loadSecret host anchorKeyName files = .ok key ∧
        (syncCloudTime host store draws tCloudSeconds clocks time).2 =
          persistAnchor host key tCloudSeconds clocks { time with files }) := by
  rw [syncCloudTime]
  split
  next => exact .inl ⟨time.manager, rfl⟩
  split
  next => exact .inl ⟨time.manager, rfl⟩
  next => exact .inl ⟨_, rfl⟩
  next =>
    split
    next => exact .inl ⟨time.manager, rfl⟩
    next files ensured =>
      refine .inr ⟨files, ensured, ?_⟩
      split
      next err loading => exact .inl ⟨err, loading, rfl⟩
      next key loading => exact .inr ⟨key, loading, rfl⟩

theorem ensureKey_of_hasSecret {files : Files}
    (hasKey : store.hasSecret host anchorKeyName files) :
    ensureKey host store draws files = .ok files := by
  rw [ensureKey, if_pos hasKey]

theorem syncCloudTime_sealed (before : Sealed host store key time) :
    Sealed host store key (syncCloudTime host store draws tCloudSeconds clocks time).2 := by
  rcases syncCloudTime_cases host store draws tCloudSeconds clocks time with
    ⟨manager, after⟩ | ⟨files, ensured, outcome⟩
  · rw [after]
    exact ⟨before.hasKey, before.loads, before.anchored⟩
  · rw [ensureKey_of_hasSecret host store draws before.hasKey] at ensured
    obtain rfl := Except.ok.inj ensured
    rw [before.loads] at outcome
    rcases outcome with ⟨err, failed, _⟩ | ⟨loaded, same, after⟩
    · cases failed
    · obtain rfl := Except.ok.inj same
      rw [after]
      exact persistAnchor_sealed host store tCloudSeconds clocks _ before.hasKey before.loads

theorem syncCloudTime_first {draws : SyncDraws} {tCloudSeconds : ℚ} {clocks : Clocks}
    (absent : store.hasSecret host anchorKeyName time.files = false)
    (made : store.hasSecret host anchorKeyName
      (syncCloudTime host store draws tCloudSeconds clocks time).2.files) :
    Sealed host store (Utf8.encode (Utf8.decode draws.newKey.val))
      (syncCloudTime host store draws tCloudSeconds clocks time).2 := by
  obtain ⟨stored, storing, hasKey, loads⟩ :=
    store.load_store host draws.uuid anchorKeyName draws.newKey.val time.files
  rcases syncCloudTime_cases host store draws tCloudSeconds clocks time with
    ⟨manager, after⟩ | ⟨files, ensured, outcome⟩
  · rw [after, absent] at made
    cases made
  · rw [ensureKey, absent, if_neg Bool.false_ne_true, storing] at ensured
    obtain rfl := Except.ok.inj ensured
    rw [loads] at outcome
    rcases outcome with ⟨err, failed, _⟩ | ⟨loaded, same, after⟩
    · cases failed
    · obtain rfl := Except.ok.inj same
      rw [after]
      exact persistAnchor_sealed host store tCloudSeconds clocks _ hasKey loads

theorem timingSafeEqual_self (text : String) : timingSafeEqual text text = .ok true := by
  simp [timingSafeEqual]

theorem loadPersistedAnchor_of_sealed {clocks : Clocks} {row : TrustedTimeAnchor}
    (after : Sealed host store key time) (stored : time.anchor = some row)
    (ahead : row.lastKnownCloudTime ≤ clocks.wallTime) :
    loadPersistedAnchor host store time.files time.anchor clocks =
      .ok (if key.length = 32 then
          { tCloud := some clocks.wallTime, m0 := some clocks.monotonic }
        else triggerRollbackLock
          "Invalid trusted time anchor integrity key length in EdgeSecureStore. Failing closed."
          ⟨row.lastKnownCloudTime, clocks.wallTime, 0⟩ {}) := by
  obtain ⟨row', stored', tagged⟩ := after.anchored
  obtain rfl : row = row' := Option.some.inj (stored.symm.trans stored')
  have nonempty : row.integrityTag ≠ "" := by
    intro empty
    have long := host.hmacSha256Hex_length key
    rw [tagged] at empty
    have := long _ ▸ congrArg String.length empty
    simp at this
  have onTime : ¬clocks.wallTime < row.lastKnownCloudTime - rollbackThresholdSeconds := by
    rw [rollbackThresholdSeconds]
    linarith
  simp only [loadPersistedAnchor, stored, after.hasKey, after.loads, if_true, verifyAnchor]
  split
  next short => rfl
  next full =>
    rw [if_pos (not_not.mp full), ← tagged, if_neg (by simp [nonempty]), timingSafeEqual_self]
    simp only [Fallible.ok_bind, Bool.not_true, Bool.false_eq_true, if_false, max_eq_right ahead]
    rfl

/-! ### Runs -/

inductive TimeCall where
  | sync (draws : SyncDraws) (tCloudSeconds : ℚ) (clocks : Clocks)
  | restart (clocks : Clocks)

/-- A call that throws in the constructor leaves the manager as it was. -/
def next : TimeCall → TrustedTime
  | .sync draws tCloudSeconds clocks => (syncCloudTime host store draws tCloudSeconds clocks time).2
  | .restart clocks =>
    match restart host store clocks time with
    | .ok time' => time'
    | .error _ => time

def run (calls : List TimeCall) (time : TrustedTime) : TrustedTime :=
  calls.foldl (next host store) time

theorem next_sealed (call : TimeCall) (time : TrustedTime) (before : Sealed host store key time) :
    Sealed host store key (next host store time call) := by
  cases call with
  | sync draws tCloudSeconds clocks =>
    exact syncCloudTime_sealed host store draws tCloudSeconds clocks time before
  | restart clocks =>
    rw [next, restart]
    cases loadPersistedAnchor host store time.files time.anchor clocks with
    | error err => exact before
    | ok manager => exact ⟨before.hasKey, before.loads, before.anchored⟩

theorem run_sealed (calls : List TimeCall) (time : TrustedTime)
    (before : Sealed host store key time) : Sealed host store key (run host store calls time) := by
  induction calls generalizing time with
  | nil => exact before
  | cons call calls ih => exact ih _ (next_sealed host store call time before)

def StoresKey : Prop :=
  store.hasSecret host anchorKeyName time.files = false ∧
    store.hasSecret host anchorKeyName
      (syncCloudTime host store draws tCloudSeconds clocks time).2.files

/-- The stored key is read back as it was, and a manager built with the wall clock not behind the
anchor takes its time from it and is not locked. -/
structure Trusts (key : AnchorKey) (time : TrustedTime) : Prop where
  sameKey : store.loadSecret host anchorKeyName time.files = .ok key.val
  accepts : ∀ clocks row, time.anchor = some row → row.lastKnownCloudTime ≤ clocks.wallTime →
    ∃ manager, loadPersistedAnchor host store time.files time.anchor clocks =
      .ok manager ∧ manager.isLocked = false ∧
      manager.tCloud = some (max row.lastKnownCloudTime clocks.wallTime)

theorem trusts_iff {key : AnchorKey}
    (after : Sealed host store (Utf8.encode (Utf8.decode key.val)) time) :
    Trusts host store key time ↔ Utf8.WellFormed key.val := by
  rw [← Utf8.encode_decode_iff]
  constructor
  · intro trusts
    exact Except.ok.inj (after.loads.symm.trans trusts.sameKey)
  · intro same
    rw [same] at after
    refine ⟨after.loads, fun clocks row stored ahead => ?_⟩
    rw [loadPersistedAnchor_of_sealed host store time after stored ahead,
      if_pos key.property, max_eq_right ahead]
    exact ⟨_, rfl, rfl, rfl⟩

end TrustedTime

open TrustedTime

/-- A secret comes back as it was stored exactly when its bytes are UTF-8; and exactly then a key
made by `syncCloudTime` is read back, and its anchor trusted, after any further calls. -/
theorem secrets_kept_iff (host : Host) (store : EdgeSecureStore) :
    (∀ uuid keyName secretBytes files,
      store.Keeps host uuid keyName secretBytes files ↔ Utf8.WellFormed secretBytes) ∧
    ∀ draws tCloudSeconds clocks time,
      TrustedTime.StoresKey host store draws tCloudSeconds clocks time → ∀ calls,
      (TrustedTime.Trusts host store draws.newKey (run host store calls
        (syncCloudTime host store draws tCloudSeconds clocks time).2) ↔
      Utf8.WellFormed draws.newKey.val) := by
  refine ⟨store.keeps_iff host, ?_⟩
  intro draws tCloudSeconds clocks time stores calls
  have first := syncCloudTime_first host store time stores.1 stores.2
  exact trusts_iff host store _ (run_sealed host store calls _ first)

/-! ### A key that is not UTF-8 -/

def sampleStorage : SafeStorage where
  isEncryptionAvailable := .ok true
  selectedStorageBackend := some (.ok "gnome_libsecret")
  encryptString text := [0x76, 0x31, 0x30] ++ Utf8.encode text
  decryptString bytes := .ok (Utf8.decode (bytes.drop 3))
  decrypt_encrypt text := by
    exact congrArg Except.ok (Utf8.decode_encode text)

def sampleStore : EdgeSecureStore where
  storageDir := "/var/lib/edge"
  backend := { safeStorage := some sampleStorage, platform := .linux }
  available := by decide +kernel
  notBasicText := by decide +kernel

def sampleHost : Host where
  join directory name := directory ++ "/" ++ name
  numberText number := if number = 1 then "1" else "1700000000"
  hmacSha256Hex key _ :=
    if key.length = 32 then "b13972bdcaf6694bd2e13067b8d2b98c86c90992f09fce8df5a53fa8840b43ca"
    else "20b729e922042beb45522faa12892b335e7e099039ebf749b0ed5c9aecca5be2"
  hmacSha256Hex_length key text := by
    split <;> decide +kernel

def sampleClocks : Clocks := { wallTime := 1700000000, monotonic := 0 }

def freshTime : TrustedTime := { manager := {}, files := fun _ => none, anchor := none }

def draws (byte : UInt8) : SyncDraws :=
  { uuid := "6f1c2f0e-5a43-4c3b-9a51-0c6a3f6f9a10"
    newKey := ⟨List.replicate 32 byte, List.length_replicate⟩ }

/-- A key of 32 letters is kept through a restart and another synchronisation. -/
theorem letters_kept :
    TrustedTime.StoresKey sampleHost sampleStore (draws 0x41) 1700000000 sampleClocks freshTime ∧
    TrustedTime.Trusts sampleHost sampleStore (draws 0x41).newKey
      (run sampleHost sampleStore
        [.restart sampleClocks, .sync (draws 0xFF) 1700000000 sampleClocks]
        (syncCloudTime sampleHost sampleStore (draws 0x41) 1700000000 sampleClocks
          freshTime).2) := by
  have stores : TrustedTime.StoresKey sampleHost sampleStore (draws 0x41) 1700000000 sampleClocks
      freshTime := by
    constructor <;> rfl
  refine ⟨stores, ((secrets_kept_iff sampleHost sampleStore).2 _ _ _ _ stores _).mpr ?_⟩
  exact ⟨List.replicate 32 'A', by decide +kernel⟩

/-- A key of 32 bytes `0xFF` is read back as 96 bytes, and the next manager is locked. -/
theorem drawn_key_locks :
    let after := (syncCloudTime sampleHost sampleStore (draws 0xFF) 1700000000
      sampleClocks freshTime).2
    ¬sampleStore.Keeps sampleHost "temp" "tls_key" [0xFF] freshTime.files ∧
    (sampleStore.loadSecret sampleHost anchorKeyName after.files).map List.length = .ok 96 ∧
    (loadPersistedAnchor sampleHost sampleStore after.files after.anchor
      sampleClocks).map (·.isLocked) = .ok true := by
  refine ⟨?_, by decide +kernel, by decide +kernel⟩
  unfold EdgeSecureStore.Keeps
  decide +kernel

end TridentPos.Edge
