import TridentPos.Folio.CloudLeases
import TridentPos.Folio.EdgeLeases

/-!
# No folio twice

The cloud and any number of nodes of one branch. The cloud hands out ranges in the order of
their epochs; a node only moves to a later epoch, or forward inside its own. A folio is
therefore behind the counter of the node that issued it or in a range that node has left, and
no other node ever had that range.
-/
namespace TridentPos.Folio

open Core Library List

/-- A folio `consumeNextFolio` returned: where, and under which installed lease. -/
structure IssuedFolio where
  node : Nat
  lease : LocalFolioLeaseRecord
  folio : ℚ

/-- The cloud, the table of each node, and the folios returned so far, oldest first. -/
structure FolioSystem where
  cloud : CloudLeases
  nodes : Nat → List LocalFolioLeaseRecord
  issued : List IssuedFolio

def leaseInput (grant : LeaseGrant) (currentFolio : Option ℚ) : SetActiveLeaseInput :=
  { folioType := grant.folioType, epochId := grant.epochId, fencingToken := grant.fencingToken
    rangeStart := grant.rangeStart, rangeEnd := grant.rangeEnd, currentFolio := currentFolio }

def FolioSystem.initial (branches : List (String × String)) : FolioSystem :=
  { cloud := { branches := branches, leases := [] }, nodes := fun _ => [], issued := [] }

def FolioSystem.setNode (s : FolioSystem) (node : Nat) (table : List LocalFolioLeaseRecord) :
    FolioSystem :=
  { s with nodes := Function.update s.nodes node table }

variable (s : FolioSystem) (branches : List (String × String)) (grant : LeaseGrant)
  (table : List LocalFolioLeaseRecord)

@[simp] theorem FolioSystem.setNode_self (node : Nat) (table : List LocalFolioLeaseRecord) :
    (s.setNode node table).nodes node = table := by
  simp [FolioSystem.setNode]

theorem FolioSystem.setNode_other {node other : Nat} (different : other ≠ node) :
    (s.setNode node table).nodes other = s.nodes other := by
  simp [FolioSystem.setNode, different]

def FolioSystem.issue (s : FolioSystem) (entry : IssuedFolio) : FolioSystem :=
  { s with issued := s.issued ++ [entry] }

section System

variable (organizationId branchId : String) (home : LeaseGrant → Nat)

inductive FolioStep : FolioSystem → FolioSystem → Prop
  | allocate (s : FolioSystem) (options : AllocateLeaseOptions) (mint : LeaseMint)
      (lease : FolioLeaseRecord) (cloud : CloudLeases)
      (returned : allocateLease s.cloud options mint = .ok (lease, cloud)) :
      FolioStep s { s with cloud := cloud }
  | heartbeat (s : FolioSystem) (options : HeartbeatLeaseOptions) (result : HeartbeatAckResult)
      (cloud : CloudLeases) (returned : heartbeat s.cloud options = .ok (result, cloud)) :
      FolioStep s { s with cloud := cloud }
  | install (s : FolioSystem) (grant : LeaseGrant) (currentFolio : Option ℚ)
      (table : List LocalFolioLeaseRecord) (granted : grant ∈ s.cloud.grants)
      (organization : grant.organizationId = organizationId) (branch : grant.branchId = branchId)
      (installed : setActiveLease (s.nodes (home grant)) (leaseInput grant currentFolio) = .ok table) :
      FolioStep s (s.setNode (home grant) table)
  | consume (s : FolioSystem) (node : Nat) (folioType : FolioType) (lease : LocalFolioLeaseRecord)
      (folio : ℚ) (table : List LocalFolioLeaseRecord)
      (current : getLocalLease (s.nodes node) folioType = some lease)
      (consumed : consumeNextFolio (s.nodes node) folioType = .ok (folio, table)) :
      FolioStep s ((s.setNode node table).issue ⟨node, lease, folio⟩)
  | revoke (s : FolioSystem) (node : Nat) (folioType : FolioType) :
      FolioStep s (s.setNode node (revokeLease (s.nodes node) folioType))

structure InstalledFrom (cloud : CloudLeases) (node : Nat) (lease : LocalFolioLeaseRecord)
    (grant : LeaseGrant) : Prop where
  granted : grant ∈ cloud.grants
  organization : grant.organizationId = organizationId
  branch : grant.branchId = branchId
  home : home grant = node
  folioType : lease.folioType = grant.folioType
  epochId : lease.epochId = grant.epochId
  rangeStart : lease.rangeStart = grant.rangeStart
  rangeEnd : lease.rangeEnd = grant.rangeEnd

/-- The table of a node has gone past a folio of the grant: within the same epoch its counter
has, or it holds a later epoch. -/
def LeftBehind (table : List LocalFolioLeaseRecord) (grant : LeaseGrant) (folio : ℚ) : Prop :=
  ∃ current m n, getLocalLease table grant.folioType = some current ∧
    parseEpochNumber grant.epochId = .ok m ∧ parseEpochNumber current.epochId = .ok n ∧
    (m < n ∨ (m = n ∧ folio ≤ current.currentFolio))

structure FolioInvariant (s : FolioSystem) : Prop where
  ordered : s.cloud.grants.Pairwise fun a b => a.SameKey b → a.Before b
  valid : ∀ grant ∈ s.cloud.grants, grant.rangeStart ≤ grant.rangeEnd ∧
    ∃ n, parseEpochNumber grant.epochId = .ok n
  installed : ∀ node folioType lease, getLocalLease (s.nodes node) folioType = some lease →
    ∃ grant, InstalledFrom organizationId branchId home s.cloud node lease grant
  inside : ∀ entry ∈ s.issued,
    entry.lease.rangeStart ≤ entry.folio ∧ entry.folio ≤ entry.lease.rangeEnd
  behind : ∀ entry ∈ s.issued, ∃ grant,
    InstalledFrom organizationId branchId home s.cloud entry.node entry.lease grant ∧
      LeftBehind (s.nodes entry.node) grant entry.folio
  increasing : s.issued.Pairwise fun a b =>
    a.node = b.node → a.lease.folioType = b.lease.folioType → a.folio < b.folio
  distinct : s.issued.Pairwise fun a b =>
    a.lease.folioType = b.lease.folioType → a.folio ≠ b.folio

variable {organizationId branchId home}

/-! ### The grants -/

theorem InstalledFrom.sameKey {cloud : CloudLeases} {nodeA nodeB : Nat}
    {leaseA leaseB : LocalFolioLeaseRecord} {a b : LeaseGrant}
    (fromA : InstalledFrom organizationId branchId home cloud nodeA leaseA a)
    (fromB : InstalledFrom organizationId branchId home cloud nodeB leaseB b)
    (type : leaseA.folioType = leaseB.folioType) : a.SameKey b :=
  ⟨fromA.organization.trans fromB.organization.symm, fromA.branch.trans fromB.branch.symm,
    fromA.folioType.symm.trans (type.trans fromB.folioType)⟩

theorem InstalledFrom.mono {cloud cloud' : CloudLeases} {node : Nat} {lease : LocalFolioLeaseRecord}
    {grant : LeaseGrant} (more : ∀ grant ∈ cloud.grants, grant ∈ cloud'.grants)
    (origin : InstalledFrom organizationId branchId home cloud node lease grant) :
    InstalledFrom organizationId branchId home cloud' node lease grant :=
  { origin with granted := more grant origin.granted }

theorem LeftBehind.update {changed : FolioType} {f : LocalFolioLeaseRecord → LocalFolioLeaseRecord}
    (type : ∀ row, (f row).folioType = row.folioType) (epoch : ∀ row, (f row).epochId = row.epochId)
    (counter : ∀ row, getLocalLease table changed = some row →
      row.currentFolio ≤ (f row).currentFolio) (grant : LeaseGrant) (folio : ℚ)
    (left : LeftBehind table grant folio) :
    LeftBehind (updateLease table changed f) grant folio := by
  obtain ⟨current, m, n, found, parsed, parsedCurrent, order⟩ := left
  by_cases hit : grant.folioType = changed
  · refine ⟨f current, m, n, ?_, parsed, by rw [epoch]; exact parsedCurrent, ?_⟩
    · rw [getLocalLease_updateLease _ _ _ type, if_pos hit, found, Option.map_some]
    · have grows := counter current (hit ▸ found)
      rcases order with older | ⟨same, below⟩
      · exact .inl older
      · exact .inr ⟨same, below.trans grows⟩
  · refine ⟨current, m, n, ?_, parsed, parsedCurrent, order⟩
    rw [getLocalLease_updateLease _ _ _ type, if_neg hit, found]

section Steps

variable {s} (inv : FolioInvariant organizationId branchId home s)

include inv

theorem FolioInvariant.compare {a b : LeaseGrant} (grantedA : a ∈ s.cloud.grants)
    (grantedB : b ∈ s.cloud.grants) (key : a.SameKey b) : a = b ∨ a.Before b ∨ b.Before a := by
  have back : b.SameKey a := ⟨key.1.symm, key.2.1.symm, key.2.2.symm⟩
  obtain ⟨i, hi, rfl⟩ := getElem_of_mem grantedA
  obtain ⟨j, hj, rfl⟩ := getElem_of_mem grantedB
  rcases lt_trichotomy i j with earlier | rfl | later
  · exact .inr (.inl (pairwise_iff_getElem.mp inv.ordered i j hi hj earlier key))
  · exact .inl rfl
  · exact .inr (.inr (pairwise_iff_getElem.mp inv.ordered j i hj hi later back))

/-! ### The cloud's steps -/

theorem FolioInvariant.of_cloud (cloud : CloudLeases)
    (more : ∀ grant ∈ s.cloud.grants, grant ∈ cloud.grants)
    (ordered : cloud.grants.Pairwise fun a b => a.SameKey b → a.Before b)
    (valid : ∀ grant ∈ cloud.grants, grant.rangeStart ≤ grant.rangeEnd ∧
      ∃ n, parseEpochNumber grant.epochId = .ok n) :
    FolioInvariant organizationId branchId home { s with cloud := cloud } := by
  refine ⟨ordered, valid, ?_, inv.inside, ?_, inv.increasing, inv.distinct⟩
  · intro node folioType lease found
    obtain ⟨grant, origin⟩ := inv.installed node folioType lease found
    exact ⟨grant, origin.mono more⟩
  · intro entry member
    obtain ⟨grant, origin, left⟩ := inv.behind entry member
    exact ⟨grant, origin.mono more, left⟩

theorem FolioInvariant.allocate {options : AllocateLeaseOptions} {mint : LeaseMint}
    {lease : FolioLeaseRecord} {cloud : CloudLeases}
    (returned : allocateLease s.cloud options mint = .ok (lease, cloud)) :
    FolioInvariant organizationId branchId home { s with cloud := cloud } := by
  obtain ⟨grants, -, range, parsed, beyond⟩ := allocateLease_eq_ok returned
  apply inv.of_cloud
  · intro grant member
    rw [grants]
    exact mem_append_left _ member
  · rw [grants, pairwise_append]
    refine ⟨inv.ordered, pairwise_singleton _ _, ?_⟩
    intro grant member last isLast key
    obtain rfl := mem_singleton.mp isLast
    exact beyond grant member key
  · intro grant member
    rw [grants, mem_append, mem_singleton] at member
    rcases member with earlier | rfl
    · exact inv.valid grant earlier
    · exact ⟨range, parsed⟩

/-! ### The nodes' steps -/

theorem FolioInvariant.of_node (node : Nat) (table : List LocalFolioLeaseRecord)
    (installed : ∀ folioType lease, getLocalLease table folioType = some lease → ∃ grant,
      InstalledFrom organizationId branchId home s.cloud node lease grant)
    (forward : ∀ grant folio, LeftBehind (s.nodes node) grant folio → LeftBehind table grant
      folio) : FolioInvariant organizationId branchId home (s.setNode node table) := by
  refine ⟨inv.ordered, inv.valid, ?_, inv.inside, ?_, inv.increasing, inv.distinct⟩
  · intro other folioType lease found
    by_cases same : other = node
    · subst same
      rw [FolioSystem.setNode_self] at found
      exact installed folioType lease found
    · rw [s.setNode_other _ same] at found
      exact inv.installed other folioType lease found
  · intro entry member
    obtain ⟨grant, origin, left⟩ := inv.behind entry member
    refine ⟨grant, origin, ?_⟩
    by_cases same : entry.node = node
    · rw [same, FolioSystem.setNode_self]
      exact forward grant entry.folio (same ▸ left)
    · rw [s.setNode_other _ same]
      exact left

theorem FolioInvariant.installed_update {node : Nat} {changed : FolioType}
    {f : LocalFolioLeaseRecord → LocalFolioLeaseRecord}
    (kept : ∀ row, (f row).folioType = row.folioType ∧ (f row).epochId = row.epochId ∧ (f
      row).rangeStart = row.rangeStart ∧ (f row).rangeEnd = row.rangeEnd) (folioType : FolioType)
    (lease : LocalFolioLeaseRecord)
    (found : getLocalLease (updateLease (s.nodes node) changed f) folioType = some lease) :
    ∃ grant, InstalledFrom organizationId branchId home s.cloud node lease grant := by
  rw [getLocalLease_updateLease _ _ _ fun row => (kept row).1] at found
  split at found
  next =>
    obtain ⟨old, stored, rfl⟩ := Option.map_eq_some_iff.mp found
    obtain ⟨grant, origin⟩ := inv.installed node folioType old stored
    obtain ⟨type, epoch, start, last⟩ := kept old
    exact ⟨grant, { origin with
      folioType := type.trans origin.folioType, epochId := epoch.trans origin.epochId
      rangeStart := start.trans origin.rangeStart, rangeEnd := last.trans origin.rangeEnd }⟩
  next => exact inv.installed node folioType lease found

theorem FolioInvariant.revoke (node : Nat) (folioType : FolioType) :
    FolioInvariant organizationId branchId home
      (s.setNode node (revokeLease (s.nodes node) folioType)) := by
  apply inv.of_node
  · exact inv.installed_update fun _ => ⟨rfl, rfl, rfl, rfl⟩
  · exact LeftBehind.update _ (fun _ => rfl) (fun _ => rfl) fun _ _ => le_rfl

theorem FolioInvariant.install {currentFolio : Option ℚ} {table : List LocalFolioLeaseRecord}
    (granted : grant ∈ s.cloud.grants) (organization : grant.organizationId = organizationId)
    (branch : grant.branchId = branchId)
    (installed : setActiveLease (s.nodes (home grant)) (leaseInput grant currentFolio) = .ok
      table) : FolioInvariant organizationId branchId home (s.setNode (home grant) table) := by
  obtain ⟨accepted, rfl⟩ := setActiveLease_eq_ok installed
  obtain ⟨-, n, parsed⟩ := inv.valid grant granted
  apply inv.of_node
  · intro folioType lease found
    rw [getLocalLease_storeLease] at found
    split at found
    next =>
      obtain rfl := Option.some.inj found
      exact ⟨grant, granted, organization, branch, rfl, rfl, rfl, rfl, rfl⟩
    next => exact inv.installed _ folioType lease found
  · rintro old folio ⟨current, m, k, found, parsedOld, parsedCurrent, order⟩
    by_cases hit : old.folioType = grant.folioType
    · -- the new lease stands where the node had `current`
      rw [hit] at found
      have accepted' : checkReplacement (some current) (leaseInput grant currentFolio)
          (initialFolioOf (leaseInput grant currentFolio)) = .ok () := found ▸ accepted
      have replaces := checkReplacement_eq_ok parsed parsedCurrent accepted'
      refine ⟨installedRecord (leaseInput grant currentFolio), m, n, ?_, parsedOld, parsed, ?_⟩
      · rw [getLocalLease_storeLease]
        exact if_pos hit
      · rcases replaces with newer | ⟨same, forward⟩
        · exact .inl (by omega)
        · rcases order with older | ⟨same', below⟩
          · exact .inl (by omega)
          · exact .inr ⟨by omega, below.trans forward⟩
    · refine ⟨current, m, k, ?_, parsedOld, parsedCurrent, order⟩
      rw [getLocalLease_storeLease]
      exact (if_neg hit).trans found

section Issued

variable {node : Nat} {folioType : FolioType} {lease : LocalFolioLeaseRecord} {folio : ℚ}
  {entry : IssuedFolio} (found : getLocalLease (s.nodes node) folioType = some lease)
  (start : lease.rangeStart ≤ folio) (member : entry ∈ s.issued)
  (type : entry.lease.folioType = lease.folioType)

include found start member type

theorem FolioInvariant.issued_lt (beyond : lease.currentFolio < folio)
    (sameNode : entry.node = node) : entry.folio < folio := by
  obtain ⟨old, originOld, current, m, n, stored, parsedOld, parsedCurrent, order⟩ :=
    inv.behind entry member
  obtain ⟨grant, origin⟩ := inv.installed node folioType lease found
  have leaseType := getLocalLease_folioType found
  have isLease : current = lease := by
    rw [sameNode, ← originOld.folioType, type, leaseType, found] at stored
    exact (Option.some.inj stored).symm
  subst isLease
  have key : old.SameKey grant := originOld.sameKey origin type
  have parsedGrant : parseEpochNumber grant.epochId = .ok n := origin.epochId ▸ parsedCurrent
  rcases order with older | ⟨-, below⟩
  · -- the epoch of the entry is over, and its range ends before the new one starts
    have before : old.Before grant := by
      rcases inv.compare originOld.granted origin.granted key with
        rfl | before | ⟨-, k, l, parsedK, parsedL, after⟩
      · rw [parsedOld] at parsedGrant
        exact absurd (Except.ok.inj parsedGrant) (by omega)
      · exact before
      · rw [parsedGrant] at parsedK
        rw [parsedOld] at parsedL
        have := Except.ok.inj parsedK
        have := Except.ok.inj parsedL
        omega
    have ends := (inv.inside entry member).2
    rw [originOld.rangeEnd] at ends
    rw [origin.rangeStart] at start
    have apart : (old.rangeEnd : ℚ) < grant.rangeStart := Nat.cast_lt.mpr before.1
    linarith
  · linarith

theorem FolioInvariant.issued_ne (last : folio ≤ lease.rangeEnd) (otherNode : entry.node ≠ node) :
    entry.folio ≠ folio := by
  obtain ⟨old, originOld, -⟩ := inv.behind entry member
  obtain ⟨grant, origin⟩ := inv.installed node folioType lease found
  have key : old.SameKey grant := originOld.sameKey origin type
  have inside := inv.inside entry member
  rw [originOld.rangeStart, originOld.rangeEnd] at inside
  rw [origin.rangeStart] at start
  rw [origin.rangeEnd] at last
  rcases inv.compare originOld.granted origin.granted key with rfl | before | after
  · exact absurd (originOld.home.symm.trans origin.home) otherNode
  · have apart : (old.rangeEnd : ℚ) < grant.rangeStart := Nat.cast_lt.mpr before.1
    linarith [inside.1, inside.2]
  · have apart : (grant.rangeEnd : ℚ) < old.rangeStart := Nat.cast_lt.mpr after.1
    linarith [inside.1, inside.2]

end Issued

theorem FolioInvariant.consume {node : Nat} {folioType : FolioType} {lease : LocalFolioLeaseRecord}
    {folio : ℚ} {table : List LocalFolioLeaseRecord}
    (found : getLocalLease (s.nodes node) folioType = some lease)
    (consumed : consumeNextFolio (s.nodes node) folioType = .ok (folio, table)) :
    FolioInvariant organizationId branchId home
      ((s.setNode node table).issue ⟨node, lease, folio⟩) := by
  obtain ⟨lease', found', beyond, start, last, status, rfl⟩ := consumeNextFolio_eq_ok consumed
  obtain rfl : lease' = lease := Option.some.inj (found'.symm.trans found)
  -- the counter of the lease moves to the folio; the list of folios is the old one for now
  have moved : FolioInvariant organizationId branchId home
      (s.setNode node (updateLease (s.nodes node) folioType fun row =>
        { row with currentFolio := folio, status := status })) := by
    apply inv.of_node
    · exact inv.installed_update fun _ => ⟨rfl, rfl, rfl, rfl⟩
    · refine LeftBehind.update _ (fun _ => rfl) (fun _ => rfl) fun row stored => ?_
      obtain rfl := Option.some.inj (found.symm.trans stored)
      exact beyond.le
  obtain ⟨grant, origin⟩ := inv.installed node folioType lease' found
  obtain ⟨-, n, parsed⟩ := inv.valid grant origin.granted
  have type := getLocalLease_folioType found
  refine ⟨moved.ordered, moved.valid, moved.installed, ?_, ?_, ?_, ?_⟩
  · exact forall_mem_append.mpr ⟨inv.inside, forall_mem_singleton.mpr ⟨start, last⟩⟩
  · refine forall_mem_append.mpr ⟨moved.behind, forall_mem_singleton.mpr ?_⟩
    refine ⟨grant, origin, { lease' with currentFolio := folio, status := status }, n, n, ?_,
      parsed, origin.epochId ▸ parsed, .inr ⟨rfl, le_rfl⟩⟩
    show getLocalLease ((s.setNode node _).nodes node) grant.folioType = _
    rw [FolioSystem.setNode_self, getLocalLease_updateLease, origin.folioType.symm.trans type,
      if_pos rfl, found, Option.map_some]
    exact fun _ => rfl
  · apply pairwise_append.mpr
    refine ⟨inv.increasing, pairwise_singleton _ _, ?_⟩
    intro entry member new isNew sameNode sameType
    obtain rfl := mem_singleton.mp isNew
    exact inv.issued_lt found start member sameType beyond sameNode
  · apply pairwise_append.mpr
    refine ⟨inv.distinct, pairwise_singleton _ _, ?_⟩
    intro entry member new isNew sameType
    obtain rfl := mem_singleton.mp isNew
    by_cases sameNode : entry.node = node
    · exact (inv.issued_lt found start member sameType beyond sameNode).ne
    · exact inv.issued_ne found start member sameType last sameNode

/-! ### Every run -/

theorem FolioStep.preserves (s' : FolioSystem)
    (step : FolioStep organizationId branchId home s s') :
    FolioInvariant organizationId branchId home s' := by
  cases step with
  | allocate options mint lease cloud returned => exact inv.allocate returned
  | heartbeat options result cloud returned =>
    have same := heartbeat_eq_ok returned
    exact inv.of_cloud cloud (by simp [same]) (same ▸ inv.ordered) (same ▸ inv.valid)
  | install grant currentFolio table granted organization branch installed =>
    exact inv.install grant granted organization branch installed
  | consume node folioType lease folio table current consumed =>
    exact inv.consume current consumed
  | revoke node folioType => exact inv.revoke node folioType

end Steps

theorem FolioInvariant.initial :
    FolioInvariant organizationId branchId home (FolioSystem.initial branches) :=
  ⟨.nil, by simp [FolioSystem.initial, CloudLeases.grants],
    by simp [FolioSystem.initial, getLocalLease], by simp [FolioSystem.initial],
    by simp [FolioSystem.initial], .nil, .nil⟩

theorem FolioInvariant.reachable (s : FolioSystem)
    (run : Relation.ReflTransGen (FolioStep organizationId branchId home)
      (FolioSystem.initial branches) s) : FolioInvariant organizationId branchId home s := by
  induction run with
  | refl => exact FolioInvariant.initial branches
  | tail _ step ih => exact step.preserves ih _

def FolioSystem.foliosOf (s : FolioSystem) (folioType : FolioType) : List ℚ :=
  (s.issued.filter fun entry => entry.lease.folioType == folioType).map IssuedFolio.folio

def FolioSystem.foliosAt (s : FolioSystem) (node : Nat) (folioType : FolioType) : List ℚ :=
  (s.issued.filter fun entry =>
    entry.node == node && entry.lease.folioType == folioType).map IssuedFolio.folio

/-- In every run of the cloud and the nodes of a branch no folio is returned twice, each node
returns its folios in increasing order, and each folio lies in the range of the lease the node
had when it returned it. -/
theorem folios_unique_increasing_in_range (branches : List (String × String)) (s : FolioSystem)
    (run : Relation.ReflTransGen (FolioStep organizationId branchId home)
      (FolioSystem.initial branches) s) :
    (∀ folioType, (s.foliosOf folioType).Nodup) ∧
    (∀ node folioType, (s.foliosAt node folioType).Pairwise (· < ·)) ∧
    ∀ entry ∈ s.issued,
      entry.lease.rangeStart ≤ entry.folio ∧ entry.folio ≤ entry.lease.rangeEnd := by
  have inv := FolioInvariant.reachable branches s run
  refine ⟨fun folioType => ?_, fun node folioType => ?_, inv.inside⟩
  · rw [FolioSystem.foliosOf, List.Nodup, pairwise_map, pairwise_filter]
    refine inv.distinct.imp fun apart typeA typeB => apart ?_
    rw [beq_iff_eq] at typeA typeB
    rw [typeA, typeB]
  · rw [FolioSystem.foliosAt, pairwise_map, pairwise_filter]
    refine inv.increasing.imp fun below atA atB => ?_
    simp only [Bool.and_eq_true, beq_iff_eq] at atA atB
    exact below (by rw [atA.1, atB.1]) (by rw [atA.2, atB.2])

end System

/-! ### A replacement in disaster recovery -/

def sampleGrant (id : String) (epochId : String) (rangeStart rangeEnd : Nat) : LeaseGrant :=
  { id := id, organizationId := "o", branchId := "b", folioType := .ticket, epochId := epochId
    fencingToken := id, rangeStart := rangeStart, rangeEnd := rangeEnd }

def sampleFirstGrant : LeaseGrant := sampleGrant "l1" "ep_1" 1 10

def sampleSecondGrant : LeaseGrant := sampleGrant "l2" "ep_2" 11 20

def sampleCloud (leases : List FolioLeaseRecord) : CloudLeases :=
  { branches := [("o", "b")], leases := leases }

def sampleHome (grant : LeaseGrant) : Nat :=
  if grant.epochId == "ep_1" then 0 else 1

def sampleLocal (grant : LeaseGrant) (currentFolio : ℚ) : LocalFolioLeaseRecord :=
  { folioType := .ticket, epochId := grant.epochId, fencingToken := grant.fencingToken
    rangeStart := grant.rangeStart, rangeEnd := grant.rangeEnd, currentFolio := currentFolio
    status := .active }

def sampleBefore : FolioSystem :=
  ((({ FolioSystem.initial [("o", "b")] with
      cloud := sampleCloud [⟨sampleFirstGrant, 0, .active⟩] } : FolioSystem).setNode 0
    [sampleLocal sampleFirstGrant 0]).setNode 0 [sampleLocal sampleFirstGrant 1]).issue
      ⟨0, sampleLocal sampleFirstGrant 0, 1⟩

def sampleAfter : FolioSystem :=
  ((({ sampleBefore with
      cloud := sampleCloud [⟨sampleFirstGrant, 0, .abandonedContingencyRange⟩,
        ⟨sampleSecondGrant, 10, .active⟩] } : FolioSystem).setNode 1
    [sampleLocal sampleSecondGrant 10]).setNode 1 [sampleLocal sampleSecondGrant 11]).issue
      ⟨1, sampleLocal sampleSecondGrant 10, 11⟩

theorem sampleBefore_reachable :
    Relation.ReflTransGen (FolioStep "o" "b" sampleHome) (FolioSystem.initial [("o", "b")])
      sampleBefore :=
  .head (.allocate _ (sampleAllocation false) ⟨"l1", "l1"⟩ ⟨sampleFirstGrant, 0, .active⟩ _
      (by decide +kernel))
    (.head (.install _ sampleFirstGrant none _ (by decide) rfl rfl (by decide +kernel))
      (.single (.consume _ 0 .ticket _ 1 _ (by decide +kernel) (by decide +kernel))))

theorem sampleAfter_reachable :
    Relation.ReflTransGen (FolioStep "o" "b" sampleHome) (FolioSystem.initial [("o", "b")])
      sampleAfter :=
  sampleBefore_reachable.trans
    (.head (.allocate _ (sampleAllocation true) ⟨"l2", "l2"⟩ ⟨sampleSecondGrant, 10, .active⟩ _
        (by decide +kernel))
      (.head (.install _ sampleSecondGrant none _ (by decide) rfl rfl (by decide +kernel))
        (.single (.consume _ 1 .ticket _ 11 _ (by decide +kernel) (by decide +kernel)))))

theorem sample_folios_apart :
    sampleAfter.foliosOf .ticket = [1, 11] ∧ (sampleAfter.foliosOf .ticket).Nodup :=
  ⟨by decide +kernel,
    (folios_unique_increasing_in_range [("o", "b")] sampleAfter sampleAfter_reachable).1 .ticket⟩

end TridentPos.Folio
