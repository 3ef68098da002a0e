import TridentPos.Folio.EdgeLeases

/-!
# Revoked leases

What `revokeLease` of `folio-persistence.ts` is for: a node whose lease was revoked issues no
folio of that type until a lease of a newer epoch arrives. `setActiveLease` compares a lease of
the same epoch with the stored one but for its status, and computes the new status from the
counter, so the revoked lease itself, sent once more, is in force again.
-/
namespace TridentPos.Folio

open Core Library Fallible

/-- A call on a node. One that throws leaves the table as it was. -/
inductive FolioCall where
  | setActive (input : SetActiveLeaseInput)
  | consume (folioType : FolioType)
  | revoke (folioType : FolioType)

variable (table : List LocalFolioLeaseRecord) (folioType : FolioType)

def FolioCall.next : FolioCall → List LocalFolioLeaseRecord
  | .setActive input =>
    match setActiveLease table input with
    | .ok table' => table'
    | .error _ => table
  | .consume folioType => stateAfter table (consumeNextFolio table folioType)
  | .revoke folioType => revokeLease table folioType

def runCalls (calls : List FolioCall) : List LocalFolioLeaseRecord :=
  calls.foldl FolioCall.next table

def FolioCall.InstallsNewer (epochId : String) : FolioCall → Prop
  | .setActive input => input.folioType = folioType ∧
      (∃ table', setActiveLease table input = .ok table') ∧
      ∃ cmp, compareEpochs input.epochId epochId = .ok cmp ∧ 0 < cmp
  | .consume _ => False
  | .revoke _ => False

def Refuses : Prop :=
  ∀ result, consumeNextFolio table folioType ≠ .ok result

/-- Along the calls `consumeNextFolio` refuses in every state, up to the first lease of a newer
epoch. -/
def FencedUntilNewer (folioType : FolioType) (epochId : String)
    (table : List LocalFolioLeaseRecord) : List FolioCall → Prop
  | [] => Refuses table folioType
  | call :: calls => Refuses table folioType ∧
      (call.InstallsNewer table folioType epochId ∨
        FencedUntilNewer folioType epochId (call.next table) calls)

/-- The input is the stored lease once more, its counter not moved back, with a folio left to
issue. -/
structure Replays (current : LocalFolioLeaseRecord) (input : SetActiveLeaseInput) : Prop where
  epoch : compareEpochs input.epochId current.epochId = .ok 0
  fencingToken : input.fencingToken = current.fencingToken
  rangeStart : input.rangeStart = current.rangeStart
  rangeEnd : input.rangeEnd = current.rangeEnd
  forward : current.currentFolio ≤ initialFolioOf input
  room : nextFolioOf (installedRecord input) ≤ input.rangeEnd

def FolioCall.ReplaysStored :
    FolioCall → Prop
  | .setActive input => input.folioType = folioType ∧
      ∃ current, getLocalLease table folioType = some current ∧ Replays current input
  | .consume _ => False
  | .revoke _ => False

/-- No call, up to the first lease of a newer epoch, sends the stored lease once more. -/
def NeverReplayed (folioType : FolioType) (epochId : String)
    (table : List LocalFolioLeaseRecord) : List FolioCall → Prop
  | [] => True
  | call :: calls => ¬call.ReplaysStored table folioType ∧
      (call.InstallsNewer table folioType epochId ∨
        NeverReplayed folioType epochId (call.next table) calls)

/-! ### Leases on a node -/

structure LocalFolioLeaseRecord.WellFormed (lease : LocalFolioLeaseRecord) : Prop where
  positive : 1 ≤ lease.rangeStart
  range : lease.rangeStart ≤ lease.rangeEnd
  epochId : isValidEpochId lease.epochId
  fencingToken : lease.fencingToken ≠ ""
  lower : lease.rangeStart - 1 ≤ lease.currentFolio

def LocalFolioLeaseRecord.HasRoom (lease : LocalFolioLeaseRecord) : Prop :=
  nextFolioOf lease ≤ lease.rangeEnd

variable {lease : LocalFolioLeaseRecord}

theorem hasRoom_iff (range : lease.rangeStart ≤ lease.rangeEnd) :
    lease.HasRoom ↔
      lease.currentFolio < lease.rangeStart ∨ lease.currentFolio + 1 ≤ lease.rangeEnd := by
  unfold LocalFolioLeaseRecord.HasRoom nextFolioOf
  split
  next below => simp [below, range]
  next started => simp [started]

theorem not_hasRoom_of_end (range : lease.rangeStart ≤ lease.rangeEnd)
    (used : lease.rangeEnd ≤ lease.currentFolio) : ¬lease.HasRoom := by
  rw [hasRoom_iff range]
  rintro (below | under) <;> linarith

theorem refuses_iff {table : List LocalFolioLeaseRecord} {folioType : FolioType}
    (found : getLocalLease table folioType = some lease)
    (range : lease.rangeStart ≤ lease.rangeEnd) :
    Refuses table folioType ↔ lease.status ≠ .active ∨ ¬lease.HasRoom := by
  have stopped (used : lease.rangeEnd ≤ lease.currentFolio) := not_hasRoom_of_end range used
  unfold Refuses consumeNextFolio
  simp only [found]
  cases lease.status with
  | revoked | exhausted => simp
  | active =>
    by_cases used : lease.rangeEnd ≤ lease.currentFolio
    · simp [used, stopped used]
    · by_cases room : lease.HasRoom
      · have fits : ¬nextFolioOf lease > lease.rangeEnd := not_lt.mpr room
        simp [used, fits, room]
      · have beyond : nextFolioOf lease > lease.rangeEnd := not_le.mp room
        simp [beyond, room]

/-! ### One call -/

inductive LeaseAfter (table : List LocalFolioLeaseRecord) (folioType : FolioType)
    (current : Option LocalFolioLeaseRecord) : FolioCall → Option LocalFolioLeaseRecord → Prop
  | kept (call : FolioCall) : LeaseAfter table folioType current call current
  | installed (input : SetActiveLeaseInput) (type : input.folioType = folioType)
      (formed : input.WellFormed)
      (accepted : checkReplacement current input (initialFolioOf input) = .ok ()) :
      LeaseAfter table folioType current (.setActive input) (some (installedRecord input))
  | consumed (lease : LocalFolioLeaseRecord) (folio : ℚ) (status : LocalFolioLeaseStatus)
      (found : current = some lease) (issued : ¬Refuses table folioType)
      (forward : lease.currentFolio < folio) :
      LeaseAfter table folioType current (.consume folioType)
        (some { lease with currentFolio := folio, status := status })
  | revoked : LeaseAfter table folioType current (.revoke folioType)
      (current.map fun lease => { lease with status := .revoked })

theorem FolioCall.leaseAfter (call : FolioCall) (table : List LocalFolioLeaseRecord)
    (folioType : FolioType) :
    LeaseAfter table folioType (getLocalLease table folioType) call
      (getLocalLease (call.next table) folioType) := by
  cases call with
  | setActive input =>
    simp only [FolioCall.next]
    split
    next table' installed =>
      obtain ⟨formed, accepted, rfl⟩ := (setActiveLease_eq_ok_iff _ _ _).mp installed
      rw [getLocalLease_storeLease]
      split
      next same =>
        subst same
        exact .installed input rfl formed accepted
      next => exact .kept _
    next => exact .kept _
  | consume changed =>
    simp only [FolioCall.next]
    cases outcome : consumeNextFolio table changed with
    | error e => exact .kept _
    | ok result =>
      obtain ⟨folio, table'⟩ := result
      obtain ⟨lease, found, forward, -, -, status, rfl⟩ := consumeNextFolio_eq_ok outcome
      simp only [stateAfter]
      rw [getLocalLease_updateLease _ _ _ (by intro row; rfl)]
      split
      next same =>
        subst same
        rw [found]
        exact .consumed lease folio status rfl (fun refused => refused _ outcome) forward
      next => exact .kept _
  | revoke changed =>
    simp only [FolioCall.next, revokeLease]
    rw [getLocalLease_updateLease _ _ _ (by intro row; rfl)]
    split
    next same =>
      subst same
      exact .revoked
    next => exact .kept _

def WellFormedAt (table : List LocalFolioLeaseRecord) (folioType : FolioType) : Prop :=
  ∀ lease, getLocalLease table folioType = some lease → lease.WellFormed

theorem FolioCall.next_wellFormed (call : FolioCall) (table : List LocalFolioLeaseRecord)
    (folioType : FolioType) (formed : WellFormedAt table folioType) :
    WellFormedAt (call.next table) folioType := by
  intro lease found
  have after := call.leaseAfter table folioType
  rw [found] at after
  generalize current : getLocalLease table folioType = stored at after
  generalize result : some lease = kept at after
  cases after with
  | kept => exact formed lease (by rw [current, result])
  | installed input type inputFormed accepted =>
    obtain rfl := Option.some.inj result
    exact ⟨inputFormed.positive, inputFormed.range, inputFormed.epochId, inputFormed.fencingToken,
      inputFormed.lower⟩
  | consumed before folio status was issued forward =>
    obtain rfl := Option.some.inj result
    have known := formed before (by rw [current, was])
    exact ⟨known.positive, known.range, known.epochId, known.fencingToken,
      known.lower.trans forward.le⟩
  | revoked =>
    obtain ⟨before, was, rfl⟩ := Option.map_eq_some_iff.mp result.symm
    have known := formed before (by rw [current, was])
    exact ⟨known.positive, known.range, known.epochId, known.fencingToken, known.lower⟩

theorem runCalls_wellFormed (calls : List FolioCall) (table : List LocalFolioLeaseRecord)
    (folioType : FolioType) (formed : WellFormedAt table folioType) :
    WellFormedAt (runCalls table calls) folioType := by
  induction calls generalizing table with
  | nil => exact formed
  | cons call calls ih => exact ih (call.next table) (call.next_wellFormed table folioType formed)

/-! ### The fence -/

structure Barred (folioType : FolioType) (epochId : String) (table : List LocalFolioLeaseRecord)
    (lease : LocalFolioLeaseRecord) : Prop where
  found : getLocalLease table folioType = some lease
  formed : lease.WellFormed
  epoch : parseEpochNumber lease.epochId = parseEpochNumber epochId
  stopped : lease.status = .revoked ∨ ¬lease.HasRoom

theorem Barred.refuses (folioType : FolioType) (epochId : String)
    (table : List LocalFolioLeaseRecord) (lease : LocalFolioLeaseRecord)
    (barred : Barred folioType epochId table lease) : Refuses table folioType := by
  rw [refuses_iff barred.found barred.formed.range]
  rcases barred.stopped with revoked | full
  · exact .inl (by simp [revoked])
  · exact .inr full

theorem isValidEpochId_of_parse {epochId : String} {num : Nat}
    (parsed : parseEpochNumber epochId = .ok num) : isValidEpochId epochId := by
  unfold parseEpochNumber at parsed
  unfold isValidEpochId
  cases digits : epochDigits epochId with
  | none => simp [digits] at parsed
  | some _ => rfl

theorem compareEpochs_congr (a b c : String) (same : parseEpochNumber b = parseEpochNumber c) :
    compareEpochs a b = compareEpochs a c := by
  simp only [compareEpochs, same]

theorem compareEpochs_eq_zero {a b : String} (same : compareEpochs a b = .ok 0) :
    parseEpochNumber a = parseEpochNumber b := by
  simp only [compareEpochs, bind_eq_ok, pure_eq_ok] at same
  obtain ⟨numA, parsedA, numB, parsedB, equal⟩ := same
  rw [parsedA, parsedB]
  congr 1
  omega

theorem checkReplacement_some_iff (current : LocalFolioLeaseRecord) (input : SetActiveLeaseInput)
    (initialFolio : ℚ) :
    checkReplacement (some current) input initialFolio = .ok () ↔
      (∃ cmp, compareEpochs input.epochId current.epochId = .ok cmp ∧ 0 < cmp) ∨
      (compareEpochs input.epochId current.epochId = .ok 0 ∧
        input.fencingToken = current.fencingToken ∧ input.rangeStart = current.rangeStart ∧
        input.rangeEnd = current.rangeEnd ∧ current.currentFolio ≤ initialFolio) := by
  unfold checkReplacement
  cases compared : compareEpochs input.epochId current.epochId with
  | error e => simp [compared, Except.mapError]
  | ok cmp =>
    simp only [compared, Except.mapError, ok_bind]
    rcases lt_trichotomy cmp 0 with older | rfl | newer
    · simp [older, older.ne, not_lt.mpr older.le]
    · by_cases token : input.fencingToken = current.fencingToken
      · by_cases start : input.rangeStart = current.rangeStart
        · by_cases stop : input.rangeEnd = current.rangeEnd
          · by_cases back : initialFolio < current.currentFolio
            · simp [token, start, stop, back]
            · simp [token, start, stop, back, not_lt.mp back]
          · simp [token, start, stop]
        · simp [token, start]
      · simp [token]
    · simp [newer, newer.ne', not_lt.mpr newer.le]

section Fence

variable {folioType} {epochId : String} {table}

theorem Barred.step (barred : Barred folioType epochId table lease) {call : FolioCall}
    (fresh : ¬call.ReplaysStored table folioType) :
    call.InstallsNewer table folioType epochId ∨
      ∃ lease', Barred folioType epochId (call.next table) lease' := by
  have formed := call.next_wellFormed table folioType fun stored found => by
    obtain rfl := Option.some.inj (barred.found.symm.trans found)
    exact barred.formed
  have after := call.leaseAfter table folioType
  rw [barred.found] at after
  generalize result : getLocalLease (call.next table) folioType = left at after
  cases after with
  | kept => exact .inr ⟨lease, result, barred.formed, barred.epoch, barred.stopped⟩
  | installed input type inputFormed accepted =>
    rcases (checkReplacement_some_iff _ _ _).mp accepted with newer | same
    · rw [compareEpochs_congr _ _ _ barred.epoch] at newer
      refine .inl ⟨type, ⟨_, (setActiveLease_eq_ok_iff _ _ _).mpr ⟨inputFormed, ?_, rfl⟩⟩, newer⟩
      rw [type, barred.found]
      exact accepted
    · obtain ⟨epoch, token, start, stop, forward⟩ := same
      refine .inr ⟨_, result, formed _ result,
        (compareEpochs_eq_zero epoch).trans barred.epoch, .inr fun room => fresh ?_⟩
      exact ⟨type, lease, barred.found, epoch, token, start, stop, forward, room⟩
  | consumed before folio status was issued forward => exact absurd barred.refuses issued
  | revoked => exact .inr ⟨_, result, formed _ result, barred.epoch, .inl rfl⟩

theorem Barred.replayed (barred : Barred folioType epochId table lease) {call : FolioCall}
    (replayed : call.ReplaysStored table folioType) :
    ¬call.InstallsNewer table folioType epochId ∧ ¬Refuses (call.next table) folioType := by
  cases call with
  | consume _ | revoke _ => exact replayed.elim
  | setActive input =>
    obtain ⟨type, stored, found, replays⟩ := replayed
    obtain rfl := Option.some.inj (barred.found.symm.trans found)
    have range : input.rangeStart ≤ input.rangeEnd := by
      rw [replays.rangeStart, replays.rangeEnd]
      exact barred.formed.range
    have below : initialFolioOf input < input.rangeEnd := by
      by_contra used
      exact not_hasRoom_of_end range (not_lt.mp used) replays.room
    have formed : input.WellFormed :=
      { positive := replays.rangeStart ▸ barred.formed.positive, range := range
        epochId := by
          have same := replays.epoch
          simp only [compareEpochs, bind_eq_ok] at same
          obtain ⟨num, parsed, -⟩ := same
          exact isValidEpochId_of_parse parsed
        fencingToken := replays.fencingToken ▸ barred.formed.fencingToken
        lower := by
          rw [replays.rangeStart]
          exact barred.formed.lower.trans replays.forward
        upper := below.le }
    have accepted : setActiveLease table input = .ok (storeLease table (installedRecord input)) := by
      refine (setActiveLease_eq_ok_iff _ _ _).mpr ⟨formed, ?_, rfl⟩
      rw [type, barred.found, checkReplacement_some_iff]
      exact .inr ⟨replays.epoch, replays.fencingToken, replays.rangeStart, replays.rangeEnd,
        replays.forward⟩
    constructor
    · rintro ⟨-, -, cmp, compared, positive⟩
      rw [← compareEpochs_congr _ _ _ barred.epoch, replays.epoch] at compared
      obtain rfl := Except.ok.inj compared
      exact absurd positive (lt_irrefl 0)
    · simp only [FolioCall.next, accepted]
      rw [refuses_iff ((getLocalLease_storeLease _ _ _).trans (if_pos type.symm)) range]
      rintro (inactive | full)
      · exact inactive (if_neg below.ne)
      · exact full replays.room

theorem Barred.fenced_iff (barred : Barred folioType epochId table lease) (calls : List FolioCall) :
    FencedUntilNewer folioType epochId table calls ↔
      NeverReplayed folioType epochId table calls := by
  induction calls generalizing table lease with
  | nil => exact iff_of_true barred.refuses trivial
  | cons call calls ih =>
    constructor
    · rintro ⟨-, rest⟩
      by_cases replays : call.ReplaysStored table folioType
      · obtain ⟨notNewer, issues⟩ := barred.replayed replays
        -- the rest of the run starts from a table that issues
        have refused : Refuses (call.next table) folioType := by
          have fenced := rest.resolve_left notNewer
          cases calls with
          | nil => exact fenced
          | cons _ _ => exact fenced.1
        exact absurd refused issues
      · refine ⟨replays, ?_⟩
        rcases barred.step replays with newer | ⟨lease', barred'⟩
        · exact .inl newer
        · exact rest.imp id (ih barred').mp
    · rintro ⟨fresh, rest⟩
      refine ⟨barred.refuses, ?_⟩
      rcases barred.step fresh with newer | ⟨lease', barred'⟩
      · exact .inl newer
      · exact rest.imp id (ih barred').mpr

end Fence

/-- After `revokeLease`, whatever calls came before, the node issues nothing until a lease of a
newer epoch arrives, exactly in the runs that do not send the revoked lease once more with a
folio left. -/
theorem revocation_fences_iff (before after : List FolioCall) (folioType : FolioType)
    (lease : LocalFolioLeaseRecord)
    (stored : getLocalLease (runCalls [] before) folioType = some lease) :
    FencedUntilNewer folioType lease.epochId (revokeLease (runCalls [] before) folioType) after ↔
      NeverReplayed folioType lease.epochId (revokeLease (runCalls [] before) folioType) after := by
  have empty : WellFormedAt [] folioType := by
    intro lease found
    simp [getLocalLease] at found
  have formed := runCalls_wellFormed before [] folioType empty lease stored
  have barred : Barred folioType lease.epochId (revokeLease (runCalls [] before) folioType)
      { lease with status := .revoked } :=
    { found := by
        rw [revokeLease, getLocalLease_updateLease _ _ _ (by intro row; rfl), if_pos rfl, stored]
        rfl
      formed := ⟨formed.positive, formed.range, formed.epochId, formed.fencingToken, formed.lower⟩
      epoch := rfl, stopped := .inl rfl }
  exact barred.fenced_iff after

def sampleLeaseInput (epochId : String) : SetActiveLeaseInput :=
  { folioType := .ticket, epochId := epochId, fencingToken := "t", rangeStart := 1, rangeEnd := 10
    currentFolio := none }

/-- A lease is installed, revoked and sent once more: the node issues folio 1. -/
theorem revoked_lease_replayed :
    ¬FencedUntilNewer .ticket "ep_1"
      (revokeLease (runCalls [] [.setActive (sampleLeaseInput "ep_1")]) .ticket)
      [.setActive (sampleLeaseInput "ep_1")] := by
  rintro ⟨-, ⟨-, -, cmp, compared, positive⟩ | refused⟩
  · rw [show compareEpochs (sampleLeaseInput "ep_1").epochId "ep_1" = .ok 0 by decide] at compared
    obtain rfl := Except.ok.inj compared
    exact absurd positive (by decide)
  · exact refused (1, [{ installedRecord (sampleLeaseInput "ep_1") with currentFolio := 1 }])
      (by decide +kernel)

/-- A lease of the next epoch ends the fence. -/
theorem newer_lease_ends_fence :
    FencedUntilNewer .ticket "ep_1"
      (revokeLease (runCalls [] [.setActive (sampleLeaseInput "ep_1")]) .ticket)
      [.consume .ticket, .setActive (sampleLeaseInput "ep_2"), .consume .ticket] := by
  refine (revocation_fences_iff [.setActive (sampleLeaseInput "ep_1")] _ .ticket
    (installedRecord (sampleLeaseInput "ep_1")) (by decide +kernel)).mpr ⟨id, .inr ⟨?_, .inl ?_⟩⟩
  · rintro ⟨-, current, found, replays⟩
    have known : current.epochId = "ep_1" := by
      have stored := congrArg (Option.map LocalFolioLeaseRecord.epochId) found
      exact (Option.some.inj (stored.symm.trans (by decide +kernel)))
    have same := replays.epoch
    rw [known] at same
    exact absurd same (by decide)
  · exact ⟨rfl, ⟨[installedRecord (sampleLeaseInput "ep_2")], by decide +kernel⟩, 1, by decide,
      by decide⟩

end TridentPos.Folio
