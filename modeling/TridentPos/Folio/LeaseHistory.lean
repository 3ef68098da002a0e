import TridentPos.Folio.CloudLeases
import TridentPos.Library.Tiling

/-!
# The leases of one key

What the allocations and heartbeats of `leases.ts` make of the leases of one organization,
branch and folio type: a history that only grows at its end and changes only in its latest
lease. Each transaction on the table is one step of every history, and the invariants are those
of the histories.
-/
namespace TridentPos.Folio

open Core Library Fallible Tiles CloudLeases List

/-! ### Histories -/

variable (lease : FolioLeaseRecord)

/-- A lease no transaction writes any more: used up, or abandoned in disaster recovery. -/
def FolioLeaseRecord.Closed : Prop :=
  (lease.status = .exhausted ∧ lease.highWaterMark = lease.rangeEnd) ∨
    lease.status = .abandonedContingencyRange

def FolioLeaseRecord.superseded : FolioLeaseRecord :=
  if lease.status = .active ∨ lease.status = .allocated then
    { lease with status := .abandonedContingencyRange }
  else lease

def FolioLeaseRecord.beaten (currentFolio : Nat) : FolioLeaseRecord :=
  { lease with
    highWaterMark := currentFolio
    status := if currentFolio = lease.rangeEnd then .exhausted else .active }

def TilesFrom (leases : List FolioLeaseRecord) (next : Nat) : Prop :=
  Tiles (fun lease : FolioLeaseRecord => lease.rangeStart) (fun lease => lease.rangeEnd)
    greenfieldInitialRangeStart leases next

structure History (leases : List FolioLeaseRecord) : Prop where
  tiles : ∃ next, TilesFrom leases next
  epochs : leases.map (fun lease => lease.epochId) =
    (List.range leases.length).map fun i => epochText (i + 1)
  safe : leases.length ≤ maxSafeInteger
  marks : ∀ lease ∈ leases,
    lease.rangeStart ≤ lease.highWaterMark + 1 ∧ lease.highWaterMark ≤ lease.rangeEnd
  earlier : ∀ lease ∈ leases.dropLast, lease.Closed
  latest : ∀ lease ∈ leases.getLast?, lease.status = .active ∨ lease.Closed

structure Follows (leases : List FolioLeaseRecord) (lease : FolioLeaseRecord) : Prop where
  start : TilesFrom leases lease.rangeStart
  range : lease.rangeStart ≤ lease.rangeEnd
  epochId : lease.epochId = epochText (leases.length + 1)
  safe : leases.length + 1 ≤ maxSafeInteger
  highWaterMark : lease.highWaterMark = lease.rangeStart - 1
  status : lease.status = .active

inductive HistoryStep : List FolioLeaseRecord → List FolioLeaseRecord → Prop
  | kept (leases : List FolioLeaseRecord) : HistoryStep leases leases
  | granted (leases : List FolioLeaseRecord) (lease : FolioLeaseRecord)
      (follows : Follows leases lease) :
      HistoryStep leases (leases.map FolioLeaseRecord.superseded ++ [lease])
  | heartbeat (leases : List FolioLeaseRecord) (lease : FolioLeaseRecord) (currentFolio : Nat)
      (open' : lease.status ≠ .abandonedContingencyRange)
      (forward : lease.highWaterMark ≤ currentFolio) (within : currentFolio ≤ lease.rangeEnd) :
      HistoryStep (leases ++ [lease]) (leases ++ [lease.beaten currentFolio])

theorem superseded_grant : lease.superseded.toLeaseGrant = lease.toLeaseGrant := by
  unfold FolioLeaseRecord.superseded
  split <;> rfl

theorem superseded_highWaterMark : lease.superseded.highWaterMark = lease.highWaterMark := by
  unfold FolioLeaseRecord.superseded
  split <;> rfl

variable {last lease : FolioLeaseRecord} {before : List FolioLeaseRecord}
  {options : HeartbeatLeaseOptions} (s : CloudLeases) (organizationId : String)
  (leases : List FolioLeaseRecord) (branchId : String) (folioType : FolioType)

theorem Closed.superseded_eq (closed : lease.Closed) : lease.superseded = lease := by
  unfold FolioLeaseRecord.superseded
  rcases closed with ⟨exhausted, -⟩ | abandoned
  · simp [exhausted]
  · simp [abandoned]

theorem superseded_closed (known : lease.status = .active ∨ lease.Closed) :
    lease.superseded.Closed := by
  rcases known with active | closed
  · exact .inr (by simp [FolioLeaseRecord.superseded, active])
  · rw [Closed.superseded_eq closed]
    exact closed

theorem beaten_closed_eq {currentFolio : Nat} (open' : lease.status ≠ .abandonedContingencyRange)
    (forward : lease.highWaterMark ≤ currentFolio) (within : currentFolio ≤ lease.rangeEnd)
    (closed : lease.Closed) : lease.beaten currentFolio = lease := by
  rcases closed with ⟨exhausted, full⟩ | abandoned
  · have same : currentFolio = lease.rangeEnd := by omega
    obtain ⟨grant, mark, status⟩ := lease
    simp_all [FolioLeaseRecord.beaten]
  · exact absurd abandoned open'

theorem History.nil : History [] := ⟨⟨_, rfl⟩, rfl, Nat.zero_le _, by simp, by simp, by simp⟩

theorem History.known (history : History leases) {lease : FolioLeaseRecord}
    (member : lease ∈ leases) : lease.status = .active ∨ lease.Closed := by
  rcases leases.eq_nil_or_concat' with rfl | ⟨before, last, rfl⟩
  · simp at member
  · rcases mem_append.mp member with old | new
    · exact .inr (history.earlier lease (by simpa using old))
    · exact history.latest lease (by simp_all)

theorem History.closed_of_ne_last (history : History (before ++ [last]))
    (member : lease ∈ before ++ [last]) (different : lease ≠ last) : lease.Closed := by
  rcases mem_append.mp member with old | new
  · exact history.earlier lease (by simpa using old)
  · exact absurd (mem_singleton.mp new) different

theorem History.inForce_unique {leases : List FolioLeaseRecord} (history : History leases)
    {a b : FolioLeaseRecord} (memberA : a ∈ leases) (memberB : b ∈ leases)
    (openA : ¬a.Closed) (openB : ¬b.Closed) : a = b := by
  rcases leases.eq_nil_or_concat' with rfl | ⟨before, last, rfl⟩
  · simp at memberA
  · have isA : a = last := by
      by_contra different
      exact openA (history.closed_of_ne_last memberA different)
    have isB : b = last := by
      by_contra different
      exact openB (history.closed_of_ne_last memberB different)
    rw [isA, isB]

theorem HistoryStep.preserves (leases' : List FolioLeaseRecord) (step : HistoryStep leases leases')
    (history : History leases) : History leases' := by
  cases step with
  | kept => exact history
  | granted _ lease follows =>
    have grants := superseded_grant
    constructor
    · refine ⟨lease.rangeEnd + 1, snoc ?_ rfl follows.range⟩
      refine map _ _ _ _ ?_ ?_ follows.start
      · exact fun row => congrArg LeaseGrant.rangeStart (grants row)
      · exact fun row => congrArg LeaseGrant.rangeEnd (grants row)
    · have same : (fun row : FolioLeaseRecord => row.epochId) ∘ FolioLeaseRecord.superseded =
          fun row => row.epochId :=
        funext fun row => congrArg LeaseGrant.epochId (grants row)
      simp only [map_append, map_map, same, history.epochs, length_append,
        length_map, length_cons, length_nil, range_succ, map_cons,
        map_nil, follows.epochId, zero_add]
    · simpa using follows.safe
    · intro row member
      rcases mem_append.mp member with old | new
      · obtain ⟨before, known, rfl⟩ := mem_map.mp old
        rw [superseded_highWaterMark, congrArg LeaseGrant.rangeStart (grants before),
          congrArg LeaseGrant.rangeEnd (grants before)]
        exact history.marks before known
      · obtain rfl := mem_singleton.mp new
        have range := follows.range
        have mark := follows.highWaterMark
        omega
    · intro row member
      rw [dropLast_concat] at member
      obtain ⟨before, known, rfl⟩ := mem_map.mp member
      exact superseded_closed (history.known leases known)
    · intro row member
      simp only [getLast?_concat, Option.mem_some_iff] at member
      subst member
      exact .inl follows.status
  | heartbeat before lease currentFolio open' forward within =>
    constructor
    · obtain ⟨next, tiles⟩ := history.tiles
      obtain ⟨middle, left, right⟩ := append_iff.mp tiles
      exact ⟨next, append_iff.mpr ⟨middle, left, right⟩⟩
    · simpa [FolioLeaseRecord.beaten] using history.epochs
    · simpa using history.safe
    · intro row member
      rcases mem_append.mp member with old | new
      · exact history.marks row (mem_append_left _ old)
      · obtain rfl := mem_singleton.mp new
        have marks := history.marks lease (by simp)
        simp only [FolioLeaseRecord.beaten]
        omega
    · intro row member
      exact history.earlier row (by simpa using member)
    · intro row member
      simp only [getLast?_concat, Option.mem_some_iff] at member
      subst member
      by_cases full : currentFolio = lease.rangeEnd
      · exact .inr (.inl ⟨by simp [FolioLeaseRecord.beaten, full], full⟩)
      · exact .inl (by simp [FolioLeaseRecord.beaten, full])

/-- A step keeps every lease, its high-water mark does not fall, and a closed one stays as it is. -/
structure Retains (leases leases' : List FolioLeaseRecord) : Prop where
  forward : ∀ lease ∈ leases, ∃ lease' ∈ leases', lease'.toLeaseGrant = lease.toLeaseGrant ∧
    lease.highWaterMark ≤ lease'.highWaterMark
  closed : ∀ lease ∈ leases, lease.Closed → lease ∈ leases'

theorem Retains.refl : Retains leases leases :=
  ⟨fun lease member => ⟨lease, member, rfl, le_rfl⟩, fun _ member _ => member⟩

theorem Retains.trans {a b c : List FolioLeaseRecord} (first : Retains a b) (second : Retains b c) :
    Retains a c := by
  constructor
  · intro lease member
    obtain ⟨middle, inB, grantB, upB⟩ := first.forward lease member
    obtain ⟨last, inC, grantC, upC⟩ := second.forward middle inB
    exact ⟨last, inC, grantC.trans grantB, upB.trans upC⟩
  · intro lease member closed
    exact second.closed lease (first.closed lease member closed) closed

theorem HistoryStep.retains (leases' : List FolioLeaseRecord) (step : HistoryStep leases leases') :
    Retains leases leases' := by
  cases step with
  | kept => exact Retains.refl leases
  | granted _ lease follows =>
    constructor
    · intro row member
      exact ⟨row.superseded, mem_append_left _ (mem_map_of_mem member),
        superseded_grant row, (superseded_highWaterMark row).ge⟩
    · intro row member closed
      refine mem_append_left _ (mem_map.mpr ⟨row, member, ?_⟩)
      exact Closed.superseded_eq closed
  | heartbeat before lease currentFolio open' forward within =>
    constructor
    · intro row member
      rcases mem_append.mp member with old | new
      · exact ⟨row, mem_append_left _ old, rfl, le_rfl⟩
      · obtain rfl := mem_singleton.mp new
        exact ⟨row.beaten currentFolio, by simp, rfl, forward⟩
    · intro row member closed
      rcases mem_append.mp member with old | new
      · exact mem_append_left _ old
      · obtain rfl := mem_singleton.mp new
        rw [beaten_closed_eq open' forward within closed]
        exact member

/-! ### The table -/

def CloudLeases.Keyed (s : CloudLeases) : Prop := (s.leases.map fun lease => lease.id).Nodup

theorem CloudLeases.Keyed.eq_of_id (keyed : s.Keyed) {a b : FolioLeaseRecord}
    (memberA : a ∈ s.leases) (memberB : b ∈ s.leases) (same : a.id = b.id) : a = b :=
  inj_on_of_nodup_map keyed memberA memberB same

theorem mem_leasesOf (row : FolioLeaseRecord) :
    row ∈ s.leasesOf organizationId branchId folioType ↔ row ∈ s.leases ∧
      row.organizationId = organizationId ∧ row.branchId = branchId ∧ row.folioType = folioType := by
  simp [leasesOf, mem_filter, and_assoc]

theorem CloudLeases.Keyed.leasesOf (keyed : s.Keyed) (organizationId branchId : String)
    (folioType : FolioType) :
    ((s.leasesOf organizationId branchId folioType).map fun lease => lease.id).Nodup :=
  keyed.sublist (filter_sublist.map _)

theorem leasesOf_setLease (id : String) (f g : FolioLeaseRecord → FolioLeaseRecord)
    (organizationId branchId : String) (folioType : FolioType)
    (grants : ∀ row, (f row).toLeaseGrant = row.toLeaseGrant)
    (changes : ∀ row ∈ s.leasesOf organizationId branchId folioType,
      (if row.id = id then f row else row) = g row) :
    (s.setLease id f).leasesOf organizationId branchId folioType =
      (s.leasesOf organizationId branchId folioType).map g := by
  unfold leasesOf setLease at *
  rw [Table.filter_updateWhere]
  · apply map_congr_left
    intro row member
    rw [← changes row member]
    simp
  · intro row _
    rw [congrArg LeaseGrant.organizationId (grants row), congrArg LeaseGrant.branchId (grants row),
      congrArg LeaseGrant.folioType (grants row)]

theorem leasesOf_setLease_other {s : CloudLeases} (keyed : s.Keyed) {row : FolioLeaseRecord}
    (stored : row ∈ s.leases) (f : FolioLeaseRecord → FolioLeaseRecord)
    (organizationId branchId : String) (folioType : FolioType)
    (grants : ∀ row, (f row).toLeaseGrant = row.toLeaseGrant)
    (other : row ∉ s.leasesOf organizationId branchId folioType) :
    (s.setLease row.id f).leasesOf organizationId branchId folioType =
      s.leasesOf organizationId branchId folioType := by
  rw [leasesOf_setLease s row.id f id _ _ _ grants, map_id]
  intro listed member
  split
  next same =>
    have is := keyed.eq_of_id s ((mem_leasesOf _ _ _ _ _).mp member).1 stored same
    exact absurd (is ▸ member) other
  next => rfl

theorem setLease_keyed {s : CloudLeases} (id : String) {f : FolioLeaseRecord → FolioLeaseRecord}
    (grants : ∀ row, (f row).toLeaseGrant = row.toLeaseGrant) (keyed : s.Keyed) :
    (s.setLease id f).Keyed := by
  have ids := Table.map_updateWhere (fun row => row.id == id) f (fun row => row.id) s.leases
    fun row => congrArg LeaseGrant.id (grants row)
  unfold CloudLeases.Keyed setLease
  rw [ids]
  exact keyed

theorem historical_eq_reverse {s : CloudLeases} {organizationId branchId : String}
    {folioType : FolioType} (history : History (s.leasesOf organizationId branchId folioType)) :
    s.historical organizationId branchId folioType =
      (s.leasesOf organizationId branchId folioType).reverse := by
  obtain ⟨next, tiles⟩ := history.tiles
  have ordered := ordered _ _ _ tiles
  have valid := bounds _ _ _ tiles
  have increasing : (s.leasesOf organizationId branchId folioType).Pairwise
      fun a b => a.rangeEnd < b.rangeEnd := by
    refine ordered.imp_of_mem fun memberA memberB apart => ?_
    exact lt_of_lt_of_le apart (valid _ memberB).2.1
  have distinct : ((s.leasesOf organizationId branchId folioType).map
      fun lease => lease.rangeEnd).Nodup :=
    pairwise_map.mpr (increasing.imp ne_of_lt)
  refine List.Perm.eq_of_pairwise ?_ (pairwise_insertionSort _ _)
    (pairwise_reverse.mpr (increasing.imp le_of_lt))
    ((perm_insertionSort _ _).trans (reverse_perm _).symm)
  intro a b memberA memberB above below
  exact inj_on_of_nodup_map distinct ((mem_insertionSort _).mp memberA)
    (mem_reverse.mp memberB) (le_antisymm below above)

/-! ### Allocation -/

theorem parseEpochNumber_epochText (n : Nat) (positive : 0 < n) (safe : n ≤ maxSafeInteger) :
    parseEpochNumber (epochText n) = .ok n := by
  apply parseEpochNumber_formatEpochId
  unfold formatEpochId
  rw [if_neg (by omega)]

theorem History.epochs_append (history : History (before ++ [last])) :
    before.map (fun lease => lease.epochId) =
        (List.range before.length).map (fun i => epochText (i + 1)) ∧
      last.epochId = epochText (before.length + 1) := by
  have epochs := history.epochs
  simp only [map_append, map_cons, map_nil, length_append, length_cons,
    length_nil, zero_add, range_succ] at epochs
  obtain ⟨left, right⟩ := append_inj' epochs rfl
  exact ⟨left, by simpa using right⟩

theorem maxRangeAndEpoch_of_le (rows : List FolioLeaseRecord) (maxRangeEnd maxEpoch : Nat)
    (below : ∀ row ∈ rows, row.rangeEnd ≤ maxRangeEnd ∧
      ∃ n, parseEpochNumber row.epochId = .ok n ∧ n ≤ maxEpoch) :
    maxRangeAndEpoch rows maxRangeEnd maxEpoch = .ok (maxRangeEnd, maxEpoch) := by
  induction rows with
  | nil => rfl
  | cons row rows ih =>
    obtain ⟨range, n, parsed, epoch⟩ := below row mem_cons_self
    have rest := ih fun other member => below other (mem_cons_of_mem _ member)
    simp only [maxRangeAndEpoch, parsed, liftEpoch, Except.mapError, ok_bind,
      if_neg (not_lt.mpr range), if_neg (not_lt.mpr epoch)]
    exact rest

theorem maxRangeAndEpoch_history (history : History (before ++ [last])) :
    maxRangeAndEpoch (before ++ [last]).reverse 0 0 = .ok (last.rangeEnd, before.length + 1) := by
  have safe : before.length + 1 ≤ maxSafeInteger := by simpa using history.safe
  obtain ⟨epochs, epoch⟩ := history.epochs_append
  have parsed := parseEpochNumber_epochText (before.length + 1) (by omega) safe
  obtain ⟨next, tiles⟩ := history.tiles
  obtain ⟨middle, left, begins, valid, -⟩ := append_iff.mp tiles
  have above : middle ≤ last.rangeEnd := begins ▸ valid
  have rest : maxRangeAndEpoch before.reverse last.rangeEnd (before.length + 1) =
      .ok (last.rangeEnd, before.length + 1) := by
    apply maxRangeAndEpoch_of_le
    intro row member
    have old := mem_reverse.mp member
    have bounds := bounds _ _ _ left row old
    refine ⟨by omega, ?_⟩
    have listed := mem_map_of_mem (f := fun lease : FolioLeaseRecord => lease.epochId) old
    rw [epochs] at listed
    obtain ⟨i, within, text⟩ := mem_map.mp listed
    have index := mem_range.mp within
    refine ⟨i + 1, ?_, by omega⟩
    rw [← text, parseEpochNumber_epochText (i + 1) (by omega) (by omega)]
  have range : (if last.rangeEnd > 0 then last.rangeEnd else 0) = last.rangeEnd := by
    split <;> omega
  rw [reverse_concat]
  simp only [maxRangeAndEpoch, epoch, parsed, liftEpoch, Except.mapError, ok_bind, range,
    if_pos (Nat.succ_pos before.length)]
  exact rest

theorem nextRange_history {leases : List FolioLeaseRecord} (history : History leases)
    {rangeStart : Nat} {epochId : String}
    (returned : nextRange leases.reverse = .ok (rangeStart, epochId)) :
    TilesFrom leases rangeStart ∧ epochId = epochText (leases.length + 1) ∧
      leases.length + 1 ≤ maxSafeInteger := by
  rcases leases.eq_nil_or_concat' with rfl | ⟨before, last, rfl⟩
  · simp only [nextRange, reverse_nil, isEmpty_nil, if_true, Except.ok.injEq,
      Prod.mk.injEq] at returned
    obtain ⟨rfl, rfl⟩ := returned
    exact ⟨rfl, by decide, by decide⟩
  · have nonempty : (before ++ [last]).reverse.isEmpty = false := by simp
    simp only [nextRange, nonempty, Bool.false_eq_true, if_false,
      maxRangeAndEpoch_history history, ok_bind, bind_eq_ok,
      pure_eq_ok, liftEpoch_eq_ok, Prod.mk.injEq] at returned
    obtain ⟨nextEpoch, formatted, rfl, rfl⟩ := returned
    obtain ⟨next, tiles⟩ := history.tiles
    obtain ⟨middle, left, begins, valid, ends⟩ := append_iff.mp tiles
    simp only [formatEpochId, refused_eq_ok] at formatted
    obtain ⟨safe, formatted⟩ := formatted
    refine ⟨snoc left begins valid, ?_, ?_⟩
    · simpa using (Except.ok.inj formatted).symm
    · simp only [length_append, length_cons, length_nil]
      omega

theorem supersedeActive_history {s s' : CloudLeases} {options : AllocateLeaseOptions}
    (keyed : s.Keyed)
    (history : History (s.leasesOf options.organizationId options.branchId options.folioType))
    (superseded : supersedeActive s options
      (s.leasesOf options.organizationId options.branchId options.folioType).reverse = .ok s') :
    s'.Keyed ∧
      s'.leasesOf options.organizationId options.branchId options.folioType =
        (s.leasesOf options.organizationId options.branchId options.folioType).map
          FolioLeaseRecord.superseded ∧
      ∀ organizationId branchId folioType,
        ¬(options.organizationId = organizationId ∧ options.branchId = branchId ∧
          options.folioType = folioType) →
        s'.leasesOf organizationId branchId folioType =
          s.leasesOf organizationId branchId folioType := by
  unfold supersedeActive at superseded
  split at superseded
  next none =>
    obtain rfl := Except.ok.inj superseded
    refine ⟨keyed, ?_, fun _ _ _ _ => rfl⟩
    have same : ∀ row ∈ s.leasesOf options.organizationId options.branchId options.folioType,
        row.superseded = row := by
      intro row member
      have idle := find?_eq_none.mp none row (mem_reverse.mpr member)
      exact if_neg (by simpa using idle)
    rw [map_congr_left same, map_id']
  next row found =>
    split at superseded
    next =>
      obtain rfl := Except.ok.inj superseded
      have listed := mem_reverse.mp (mem_of_find?_eq_some found)
      have inForce : row.status = .active ∨ row.status = .allocated := by
        simpa using find?_some found
      have stored := ((mem_leasesOf _ _ _ _ _).mp listed)
      have isOpen (other : FolioLeaseRecord)
          (working : other.status = .active ∨ other.status = .allocated) : ¬other.Closed := by
        rintro (⟨exhausted, -⟩ | abandoned)
        · simp [exhausted] at working
        · simp [abandoned] at working
      refine ⟨setLease_keyed _ (fun _ => rfl) keyed, ?_, ?_⟩
      · apply leasesOf_setLease
        · exact fun _ => rfl
        · intro other member
          by_cases working : other.status = .active ∨ other.status = .allocated
          · have is := history.inForce_unique member listed (isOpen other working)
              (isOpen row inForce)
            rw [if_pos (congrArg (fun lease : FolioLeaseRecord => lease.id) is)]
            exact (if_pos working).symm
          · have apart : other.id ≠ row.id := by
              intro same
              have is := keyed.eq_of_id s ((mem_leasesOf _ _ _ _ _).mp member).1 stored.1 same
              exact working (is ▸ inForce)
            rw [if_neg apart]
            exact (if_neg working).symm
      · intro organizationId branchId folioType other
        apply leasesOf_setLease_other keyed stored.1
        · exact fun _ => rfl
        · intro member
          obtain ⟨-, organization, branch, type⟩ := (mem_leasesOf _ _ _ _ _).mp member
          obtain ⟨-, organization', branch', type'⟩ := stored
          exact other ⟨organization' ▸ organization, branch' ▸ branch, type' ▸ type⟩
    next => simp at superseded

theorem leasesOf_append_self (lease : FolioLeaseRecord) :
    leasesOf { s with leases := s.leases ++ [lease] } lease.organizationId
        lease.branchId lease.folioType =
      s.leasesOf lease.organizationId lease.branchId lease.folioType ++ [lease] := by
  simp [leasesOf]

theorem leasesOf_append_other {organizationId branchId : String} {folioType : FolioType}
    (other : ¬(lease.organizationId = organizationId ∧ lease.branchId = branchId ∧
      lease.folioType = folioType)) :
    leasesOf { s with leases := s.leases ++ [lease] } organizationId branchId folioType =
      s.leasesOf organizationId branchId folioType := by
  simpa [leasesOf] using other

def Histories (s : CloudLeases) : Prop :=
  ∀ organizationId branchId folioType, History (s.leasesOf organizationId branchId folioType)

def HistoriesStep (s s' : CloudLeases) : Prop :=
  s'.Keyed ∧ ∀ organizationId branchId folioType,
    HistoryStep (s.leasesOf organizationId branchId folioType)
      (s'.leasesOf organizationId branchId folioType)

theorem allocateLease_history {s s' : CloudLeases} {options : AllocateLeaseOptions}
    {mint : LeaseMint} (keyed : s.Keyed) (histories : Histories s)
    (returned : allocateLease s options mint = .ok (lease, s')) :
    HistoriesStep s s' := by
  have history := histories options.organizationId options.branchId options.folioType
  simp only [allocateLease, bind_eq_ok, pure_eq_ok, historical_eq_reverse history] at returned
  obtain ⟨blockSize, sized, _, -, middle, supersedes, ⟨rangeStart, epochId⟩, next, inserted,
    inserts, finish⟩ := returned
  obtain ⟨rfl, rfl⟩ := Prod.mk.inj finish
  obtain ⟨fresh, rfl⟩ := insertLease_eq_ok inserts
  obtain ⟨keyed', mine, others⟩ := supersedeActive_history keyed history supersedes
  obtain ⟨tiles, epoch, safe⟩ := nextRange_history history next
  have sizes := blockSizeOf_eq_ok sized
  refine ⟨?_, ?_⟩
  · unfold CloudLeases.Keyed
    rw [map_append]
    refine Table.nodup_append_singleton keyed' ?_
    intro taken
    obtain ⟨row, member, same⟩ := mem_map.mp taken
    exact fresh row member same
  · intro organizationId branchId folioType
    by_cases same : options.organizationId = organizationId ∧ options.branchId = branchId ∧
        options.folioType = folioType
    · obtain ⟨rfl, rfl, rfl⟩ := same
      have appended := leasesOf_append_self middle (newLease options mint rangeStart epochId blockSize)
      refine appended.symm ▸ mine.symm ▸ .granted _ _ ⟨tiles, ?_, epoch, safe, rfl, rfl⟩
      simp only [newLease, minBlockSize] at sizes ⊢
      omega
    · rw [leasesOf_append_other _ same, others _ _ _ same]
      exact .kept _

/-! ### Heartbeats -/

theorem checkHeartbeat_eq_ok (accepted : checkHeartbeat options lease = .ok ()) :
    options.currentFolio ≤ lease.rangeEnd ∧ lease.highWaterMark ≤ options.currentFolio ∧
      lease.status ≠ .abandonedContingencyRange := by
  simp only [checkHeartbeat, bind_eq_ok, refused_eq_ok] at accepted
  obtain ⟨comparison, -, -, -, -, -, inside, forward, usable, -⟩ := accepted
  exact ⟨by omega, by omega, fun abandoned => usable (.inr abandoned)⟩

theorem heartbeat_history {s s' : CloudLeases} {result : HeartbeatAckResult} (keyed : s.Keyed)
    (histories : Histories s) (returned : heartbeat s options = .ok (result, s')) :
    HistoriesStep s s' := by
  have history := histories options.organizationId options.branchId options.folioType
  unfold heartbeat at returned
  rw [historical_eq_reverse history, head?_reverse] at returned
  split at returned
  next => simp at returned
  next lease latest =>
    obtain ⟨before, ends⟩ := getLast?_eq_some_iff.mp latest
    have listed : lease ∈ s.leasesOf options.organizationId options.branchId options.folioType :=
      mem_of_getLast? latest
    have stored := (mem_leasesOf _ _ _ _ _).mp listed
    simp only [bind_eq_ok, pure_eq_ok, Prod.mk.injEq] at returned
    obtain ⟨_, accepted, -, rfl⟩ := returned
    obtain ⟨within, forward, usable⟩ := checkHeartbeat_eq_ok accepted
    refine ⟨setLease_keyed _ (fun _ => rfl) keyed, ?_⟩
    intro organizationId branchId folioType
    by_cases same : lease ∈ s.leasesOf organizationId branchId folioType
    · obtain ⟨-, organization, branch, type⟩ := (mem_leasesOf _ _ _ _ _).mp same
      obtain ⟨inTable, organization', branch', type'⟩ := stored
      obtain rfl := organization.symm.trans organization'
      obtain rfl := branch.symm.trans branch'
      obtain rfl := type.symm.trans type'
      have status : (options.currentFolio = lease.rangeEnd) =
          (options.currentFolio.toNat = lease.rangeEnd) := propext (by omega)
      rw [leasesOf_setLease s lease.id _
        (fun row => if row.id = lease.id then lease.beaten options.currentFolio.toNat else row)
        _ _ _ (by intro row; rfl)]
      · have distinct := keyed.leasesOf s options.organizationId options.branchId options.folioType
        rw [ends] at distinct ⊢
        have kept : ∀ row ∈ before,
            (if row.id = lease.id then lease.beaten options.currentFolio.toNat else row) = row := by
          intro row member
          have apart : row.id ≠ lease.id := by
            intro clash
            simp only [map_append, map_cons, map_nil, nodup_append] at distinct
            exact distinct.2.2 _ (mem_map_of_mem member) _ (mem_singleton.mpr rfl) clash
          exact if_neg apart
        rw [map_append, map_congr_left kept, map_id', map_cons, if_pos rfl]
        exact .heartbeat before lease _ usable (by omega) (by omega)
      · intro row member
        split
        next clash =>
          have is := keyed.eq_of_id s ((mem_leasesOf _ _ _ _ _).mp member).1 inTable clash
          subst is
          simp only [FolioLeaseRecord.beaten, status]
        next => rfl
    · rw [leasesOf_setLease_other keyed stored.1 _ _ _ _ (by intro row; rfl) same]
      exact .kept _

/-! ### Runs -/

/-- One transaction. A call that throws rolls back and changes nothing. -/
inductive CloudStep : CloudLeases → CloudLeases → Prop
  | allocate (s : CloudLeases) (options : AllocateLeaseOptions) (mint : LeaseMint) :
      CloudStep s (stateAfter s (allocateLease s options mint))
  | heartbeat (s : CloudLeases) (options : HeartbeatLeaseOptions) :
      CloudStep s (stateAfter s (heartbeat s options))

theorem CloudStep.history (s' : CloudLeases) (step : CloudStep s s') (keyed : s.Keyed)
    (histories : Histories s) :
    HistoriesStep s s' := by
  cases step with
  | allocate options mint =>
    cases outcome : allocateLease s options mint with
    | error e => exact ⟨keyed, fun _ _ _ => .kept _⟩
    | ok result => exact allocateLease_history keyed histories outcome
  | heartbeat options =>
    cases outcome : Folio.heartbeat s options with
    | error e => exact ⟨keyed, fun _ _ _ => .kept _⟩
    | ok result => exact heartbeat_history keyed histories outcome

theorem CloudStep.run {s s' : CloudLeases} (run : Relation.ReflTransGen CloudStep s s')
    (keyed : s.Keyed) (histories : Histories s) :
    s'.Keyed ∧ Histories s' ∧ ∀ organizationId branchId folioType,
      Retains (s.leasesOf organizationId branchId folioType)
        (s'.leasesOf organizationId branchId folioType) := by
  induction run with
  | refl => exact ⟨keyed, histories, fun _ _ _ => Retains.refl _⟩
  | tail _ step ih =>
    obtain ⟨keyedMiddle, historiesMiddle, retained⟩ := ih
    obtain ⟨keyed', steps⟩ := step.history _ _ keyedMiddle historiesMiddle
    refine ⟨keyed', ?_, ?_⟩
    · exact fun o b t => (steps o b t).preserves _ _ (historiesMiddle o b t)
    · exact fun o b t => (retained o b t).trans (steps o b t).retains

structure LeasesSound (byRange : List FolioLeaseRecord) : Prop where
  disjoint : byRange.Pairwise fun a b => a.rangeEnd < b.rangeStart
  gapless : ∀ folio, (∃ lease ∈ byRange, lease.rangeStart ≤ folio ∧ folio ≤ lease.rangeEnd) ↔
    1 ≤ folio ∧ ∃ lease ∈ byRange, folio ≤ lease.rangeEnd
  epochs : byRange.map (fun lease => lease.epochId) =
    (List.range byRange.length).map fun i => epochText (i + 1)
  active : (byRange.filter fun lease => lease.status == .active).length ≤ 1
  marks : ∀ lease ∈ byRange, 1 ≤ lease.rangeStart ∧ lease.rangeStart ≤ lease.rangeEnd ∧
    lease.rangeStart - 1 ≤ lease.highWaterMark ∧ lease.highWaterMark ≤ lease.rangeEnd

theorem History.active_le_one (history : History leases) :
    (leases.filter fun lease => lease.status == .active).length ≤ 1 := by
  rcases leases.eq_nil_or_concat' with rfl | ⟨before, last, rfl⟩
  · simp
  · have none : (before.filter fun lease => lease.status == .active) = [] := by
      rw [filter_eq_nil_iff]
      intro lease member active
      rcases history.earlier lease (by simpa using member) with ⟨exhausted, -⟩ | abandoned
      · simp [exhausted] at active
      · simp [abandoned] at active
    rw [filter_append, none, nil_append]
    exact length_filter_le _ [last]

theorem History.sound (leases : List FolioLeaseRecord) (history : History leases) :
    LeasesSound leases := by
  obtain ⟨next, tiles⟩ := history.tiles
  have bounds := bounds _ _ _ tiles
  refine ⟨ordered _ _ _ tiles, ?_, history.epochs, history.active_le_one, ?_⟩
  · intro folio
    have covered := covers _ _ _ tiles folio
    constructor
    · rintro ⟨lease, member, above, below⟩
      exact ⟨(covered.mp ⟨lease, member, above, below⟩).1, lease, member, below⟩
    · rintro ⟨positive, lease, member, below⟩
      exact covered.mpr ⟨positive, lt_of_le_of_lt below (bounds lease member).2.2⟩
  · intro lease member
    have marks := history.marks lease member
    obtain ⟨positive, valid, -⟩ := bounds lease member
    exact ⟨positive, valid, by omega, marks.2⟩

theorem History.closed (history : History leases) {lease : FolioLeaseRecord}
    (member : lease ∈ leases)
    (done : lease.status = .exhausted ∨ lease.status = .abandonedContingencyRange ∨
      ∃ other ∈ leases, lease.rangeEnd < other.rangeEnd) : lease.Closed := by
  rcases done with exhausted | abandoned | ⟨other, listed, beyond⟩
  · exact (history.known leases member).resolve_left (by simp [exhausted])
  · exact .inr abandoned
  · rcases leases.eq_nil_or_concat' with rfl | ⟨before, last, rfl⟩
    · simp at member
    · apply history.closed_of_ne_last member
      rintro rfl
      obtain ⟨next, tiles⟩ := history.tiles
      have ordered := (pairwise_append.mp (ordered _ _ _ tiles)).2.2
      have valid := bounds _ _ _ tiles
      rcases mem_append.mp listed with old | same
      · have apart := ordered other old lease (by simp)
        have range := (valid lease member).2.1
        omega
      · obtain rfl := mem_singleton.mp same
        exact absurd beyond (lt_irrefl _)

/-- In every run of allocations and heartbeats the leases of a key tile the folios from 1 on in
the order of their epochs, at most one is active, and every high-water mark is within its range.
Later a lease is still there with a mark that has not fallen, and one that was used up, abandoned
or not the latest is exactly as it was. -/
theorem lease_histories_sound (branches : List (String × String)) (s s' : CloudLeases)
    (run : Relation.ReflTransGen CloudStep { branches := branches, leases := [] } s)
    (later : Relation.ReflTransGen CloudStep s s')
    (organizationId branchId : String) (folioType : FolioType) :
    LeasesSound (s.historical organizationId branchId folioType).reverse ∧
    ∀ lease ∈ s.leasesOf organizationId branchId folioType,
      (∃ lease' ∈ s'.leasesOf organizationId branchId folioType, lease'.id = lease.id) ∧
      ∀ lease' ∈ s'.leases, lease'.id = lease.id →
        lease.highWaterMark ≤ lease'.highWaterMark ∧
        (lease.status = .exhausted ∨ lease.status = .abandonedContingencyRange ∨
            (∃ other ∈ s.leasesOf organizationId branchId folioType,
              lease.rangeEnd < other.rangeEnd) →
          lease' = lease) := by
  obtain ⟨keyed, histories, -⟩ := CloudStep.run run .nil fun _ _ _ => History.nil
  obtain ⟨keyed', -, retained⟩ := CloudStep.run later keyed histories
  have history := histories organizationId branchId folioType
  have retains := retained organizationId branchId folioType
  rw [historical_eq_reverse history, reverse_reverse]
  refine ⟨history.sound, ?_⟩
  intro lease member
  obtain ⟨after, listed, grant, forward⟩ := retains.forward lease member
  have sameId : after.id = lease.id := congrArg LeaseGrant.id grant
  refine ⟨⟨after, listed, sameId⟩, ?_⟩
  intro lease' stored clash
  have is := keyed'.eq_of_id s' stored ((mem_leasesOf _ _ _ _ _).mp listed).1
    (clash.trans sameId.symm)
  refine ⟨is ▸ forward, fun done => ?_⟩
  have kept := retains.closed lease member (history.closed _ member done)
  exact keyed'.eq_of_id s' stored ((mem_leasesOf _ _ _ _ _).mp kept).1 clash

def sampleHeartbeat : HeartbeatLeaseOptions :=
  { organizationId := "o", branchId := "b", leaseId := "l1", folioType := .ticket
    epochId := "ep_1", fencingToken := "t1", currentFolio := 4 }

def sampleBranch : CloudLeases := { branches := [("o", "b")], leases := [] }

def sampleAllocated : CloudLeases :=
  stateAfter sampleBranch (allocateLease sampleBranch (sampleAllocation false) ⟨"l1", "t1"⟩)

def sampleReported : CloudLeases :=
  stateAfter sampleAllocated (heartbeat sampleAllocated sampleHeartbeat)

def sampleReplaced : CloudLeases :=
  stateAfter sampleReported (allocateLease sampleReported (sampleAllocation true) ⟨"l2", "t2"⟩)

theorem sampleReported_reachable :
    Relation.ReflTransGen CloudStep { branches := [("o", "b")], leases := [] } sampleReported :=
  .head (.allocate _ (sampleAllocation false) ⟨"l1", "t1"⟩) (.single (.heartbeat _ sampleHeartbeat))

/-- The first lease is abandoned at folio 4 and the next one begins at folio 11. -/
theorem sample_histories_sound :
    sampleReplaced.leases.map (fun lease =>
      (lease.rangeStart, lease.rangeEnd, lease.highWaterMark, lease.status)) =
        [(1, 10, 4, .abandonedContingencyRange), (11, 20, 10, .active)] ∧
    LeasesSound (sampleReplaced.historical "o" "b" .ticket).reverse ∧
    ∀ lease ∈ sampleReported.leasesOf "o" "b" .ticket, ∀ lease' ∈ sampleReplaced.leases,
      lease'.id = lease.id → lease.highWaterMark ≤ lease'.highWaterMark := by
  have replaced : Relation.ReflTransGen CloudStep sampleReported sampleReplaced :=
    .single (.allocate _ (sampleAllocation true) ⟨"l2", "t2"⟩)
  refine ⟨by decide +kernel, ?_, ?_⟩
  · exact (lease_histories_sound _ _ _ (sampleReported_reachable.trans replaced) .refl "o" "b"
      .ticket).1
  · intro lease member lease' stored same
    exact (((lease_histories_sound _ _ _ sampleReported_reachable replaced "o" "b" .ticket).2 lease
      member).2 lease' stored same).1

end TridentPos.Folio
