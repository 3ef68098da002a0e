import TridentPos.Pos.AccountBooks
import Mathlib.Algebra.Order.BigOperators.Group.List
import Mathlib.Tactic.Ring

/-!
# Splitting an account

What `prorateSplit` makes of an account without tips, and what `splitCuentaSync` leaves in the
tables: the sub-accounts it has saved, up to the first that fails, and the original as `ANULADA`
once all are saved. The items stay with the original: a sub-account saves them again under their
ids, and an update of a stored item keeps the account it belongs to.
-/
namespace TridentPos.Pos

open Core Library Fallible List CuentaItem

/-! ### Shares -/

variable {totalRatio totalSubtotal : Int}

theorem prorated_running {total running ratio rest : Int} (nonneg : 0 ≤ total * ratio)
    (positive : 0 < totalRatio)
    (taken : running * totalRatio ≤ total * (totalRatio - (ratio + rest))) :
    (running + (total * ratio).tdiv totalRatio) * totalRatio ≤ total * (totalRatio - rest) := by
  have truncated : (total * ratio).tdiv totalRatio * totalRatio ≤ total * ratio := by
    rw [Int.tdiv_eq_ediv_of_nonneg nonneg]
    exact Int.ediv_mul_le _ positive.ne'
  calc (running + (total * ratio).tdiv totalRatio) * totalRatio
      = running * totalRatio + (total * ratio).tdiv totalRatio * totalRatio := by ring
    _ ≤ total * (totalRatio - (ratio + rest)) + total * ratio := add_le_add taken truncated
    _ = total * (totalRatio - rest) := by ring

structure SubAccount (original : Cuenta) (sub : Cuenta) : Prop where
  status : sub.status = .abierta
  parent : sub.parentCuentaId = some original.id
  tips : sub.tipsTotal = 0
  total : 0 ≤ sub.totalAmount
  items : ∀ item ∈ sub.items, item ∈ original.items

variable {partitions : List SplitPartitionPlan} {original : Cuenta} (now : Nat)
  (validatePin : String → String → Bool)

theorem ratioLoop_sub (untipped : original.tipsTotal = 0) (total : 0 ≤ original.totalAmount)
    (positive : 0 < totalRatio) {plans : List SplitPartitionPlan}
    (ratios : ∀ plan ∈ plans, 0 ≤ ratioOf plan) (index : Nat) (running : SplitShare)
    (noTips : running.tipsTotal = 0)
    (taken : running.totalAmount * totalRatio ≤
      original.totalAmount * (totalRatio - (plans.map ratioOf).sum)) :
    ∀ sub ∈ ratioLoop original totalRatio now plans index running, SubAccount original sub := by
  induction plans generalizing index running with
  | nil => simp [ratioLoop]
  | cons plan rest ih =>
    have ratio := ratios plan mem_cons_self
    cases rest with
    | nil =>
      -- the last partition takes what is left
      intro sub member
      obtain rfl : sub = subCuenta original plan.partitionId index
        ((shareOf original).residual running) [] now := by simpa [ratioLoop] using member
      refine ⟨rfl, rfl, ?_, ?_, by simp [subCuenta]⟩
      · simp [subCuenta, SplitShare.residual, shareOf, untipped, noTips]
      · have bound : running.totalAmount * totalRatio ≤ original.totalAmount * totalRatio := by
          refine taken.trans (mul_le_mul_of_nonneg_left ?_ total)
          simp [ratio]
        have covered := le_of_mul_le_mul_right bound positive
        simp only [subCuenta, SplitShare.residual, shareOf]
        omega
    | cons next rest =>
      intro sub member
      rw [ratioLoop, mem_cons] at member
      have product : 0 ≤ original.totalAmount * ratioOf plan := mul_nonneg total ratio
      rcases member with rfl | later
      · refine ⟨rfl, rfl, ?_, ?_, by simp [subCuenta]⟩
        · simp [subCuenta, SplitShare.prorated, shareOf, untipped]
        · exact Int.tdiv_nonneg product positive.le
      · refine ih (fun plan member => ratios plan (mem_cons_of_mem _ member)) (index + 1) _ ?_ ?_
          sub later
        · simp [SplitShare.add, SplitShare.prorated, shareOf, untipped, noTips]
        · rw [map_cons, sum_cons] at taken
          exact prorated_running product positive taken

theorem mem_partItems (items : List CuentaItem) (plan : SplitPartitionPlan) (item : CuentaItem)
    (member : item ∈ partItems (activeItems items) plan) : item ∈ items := by
  obtain ⟨id, -, found⟩ := mem_filterMap.mp member
  have active := mem_reverse.mp (mem_of_find?_eq_some found)
  exact (mem_filter.mp active).1

structure SoundItem (item : CuentaItem) : Prop where
  total : item.total = item.subtotal - item.discountAmountApplied + item.taxAmountApplied
  nonneg : 0 ≤ item.total

theorem itemsShare_total {items : List CuentaItem} (tips : Int)
    (sound : ∀ item ∈ items, SoundItem item) :
    (itemsShare items tips).totalAmount = (items.map total).sum + tips := by
  have lines : (items.map total).sum = (items.map subtotal).sum -
      (items.map discountAmountApplied).sum +
      (items.map taxAmountApplied).sum := by
    induction items with
    | nil => rfl
    | cons item items ih =>
      have first := (sound item mem_cons_self).total
      have rest := ih fun other member => sound other (mem_cons_of_mem _ member)
      simp only [map_cons, sum_cons]
      omega
  simp only [itemsShare, lines]

theorem itemsLoop_sub (untipped : original.tipsTotal = 0)
    (sound : ∀ item ∈ original.items, SoundItem item) (plans : List SplitPartitionPlan)
    (index : Nat) :
    ∀ sub ∈ itemsLoop original (activeItems original.items) totalSubtotal now plans index 0,
      SubAccount original sub := by
  induction plans generalizing index with
  | nil => simp [itemsLoop]
  | cons plan rest ih =>
    have noTips (subtotal : Int) (isLast : Bool) :
        proratedTips original totalSubtotal subtotal 0 isLast = 0 := by
      simp [proratedTips, untipped]
    intro sub member
    simp only [itemsLoop, noTips, add_zero, mem_cons] at member
    rcases member with rfl | later
    · have ofOriginal := mem_partItems original.items plan
      refine ⟨rfl, rfl, rfl, ?_, ofOriginal⟩
      have soundPart : ∀ item ∈ partItems (activeItems original.items) plan, SoundItem item :=
        fun item member => sound item (ofOriginal item member)
      simp only [subCuenta, itemsShare_total 0 soundPart, add_zero]
      apply sum_nonneg
      intro amount listed
      obtain ⟨item, inPart, rfl⟩ := mem_map.mp listed
      exact (soundPart item inPart).nonneg
    · exact ih (index + 1) sub later

def RatiosNonneg (partitions : List SplitPartitionPlan) : Prop :=
  (∀ plan ∈ partitions, (plan.itemIds.getD []).isEmpty) → ∀ plan ∈ partitions, 0 ≤ ratioOf plan
deriving Decidable

variable {subs : List Cuenta}

theorem prorateSplit_eq_ok {now : Nat} (split : prorateSplit original partitions now = .ok subs) :
    2 ≤ partitions.length ∧
      (((∃ plan ∈ partitions, plan.itemIds.getD [] ≠ []) ∧
          (∃ assigned, assignItems (partitions.flatMap fun plan => plan.itemIds.getD []) [] =
            .ok assigned ∧ assigned.length = (activeItems original.items).length) ∧
          subs = itemsLoop original (activeItems original.items)
            ((activeItems original.items).map subtotal).sum now partitions 0 0) ∨
        ((∀ plan ∈ partitions, plan.itemIds.getD [] = []) ∧ 0 < (partitions.map ratioOf).sum ∧
          subs = ratioLoop original (partitions.map ratioOf).sum now partitions 0 .zero)) := by
  simp only [prorateSplit, refused_eq_ok] at split
  obtain ⟨enough, split⟩ := split
  refine ⟨by omega, ?_⟩
  split at split
  next byItems =>
    left
    simp only [splitByItems, bind_eq_ok] at split
    obtain ⟨assigned, assigns, built⟩ := split
    simp only [thrown_eq_ok, pure_eq_ok] at built
    obtain ⟨counted, rfl⟩ := built
    exact ⟨by simpa using byItems, ⟨assigned, assigns, not_not.mp counted⟩, rfl⟩
  next byRatio =>
    right
    simp only [splitByRatio, refused_eq_ok, Except.ok.injEq] at split
    obtain ⟨positive, rfl⟩ := split
    exact ⟨by simpa using byRatio, by omega, rfl⟩

theorem prorateSplit_sub {now : Nat} (untipped : original.tipsTotal = 0)
    (total : 0 ≤ original.totalAmount) (sound : ∀ item ∈ original.items, SoundItem item)
    (ratios : RatiosNonneg partitions) (split : prorateSplit original partitions now = .ok subs) :
    ∀ sub ∈ subs, SubAccount original sub := by
  obtain ⟨-, ⟨-, -, rfl⟩ | ⟨byRatio, positive, rfl⟩⟩ := prorateSplit_eq_ok split
  · exact itemsLoop_sub now untipped sound partitions 0
  · have nonneg := ratios (by simpa using byRatio)
    refine ratioLoop_sub now untipped total positive nonneg 0 .zero rfl ?_
    simp [SplitShare.zero]

theorem ratioLoop_ids (original : Cuenta) (totalRatio : Int) (now : Nat)
    (plans : List SplitPartitionPlan) (index : Nat) (running : SplitShare) :
    (ratioLoop original totalRatio now plans index running).map (fun sub => sub.id) =
      plans.map SplitPartitionPlan.partitionId := by
  induction plans generalizing index running with
  | nil => rfl
  | cons plan rest ih =>
    cases rest with
    | nil => rfl
    | cons next rest =>
      rw [ratioLoop, map_cons, ih]
      rfl

theorem itemsLoop_ids (original : Cuenta) (active : List CuentaItem) (totalSubtotal : Int)
    (now : Nat) (plans : List SplitPartitionPlan) (index : Nat) (running : Int) :
    (itemsLoop original active totalSubtotal now plans index running).map (fun sub => sub.id) =
      plans.map SplitPartitionPlan.partitionId := by
  induction plans generalizing index running with
  | nil => rfl
  | cons plan rest ih =>
    simp only [itemsLoop, map_cons, ih]
    rfl

theorem itemsLoop_items (original : Cuenta) (now : Nat) (plans : List SplitPartitionPlan)
    (index : Nat) (running : Int) :
    ∀ sub ∈ itemsLoop original (activeItems original.items) totalSubtotal now plans index running,
      ∀ item ∈ sub.items, item ∈ original.items := by
  induction plans generalizing index running with
  | nil => simp [itemsLoop]
  | cons plan rest ih =>
    simp only [itemsLoop, forall_mem_cons]
    exact ⟨mem_partItems original.items plan, ih _ _⟩

theorem itemsLoop_subCuenta (original : Cuenta) {active : List CuentaItem} (now : Nat)
    (plans : List SplitPartitionPlan) (index : Nat) (running : Int) :
    ∀ sub ∈ itemsLoop original active totalSubtotal now plans index running,
      ∃ id index share items, sub = subCuenta original id index share items now := by
  induction plans generalizing index running with
  | nil => simp [itemsLoop]
  | cons plan rest ih =>
    simp only [itemsLoop, forall_mem_cons]
    exact ⟨⟨_, _, _, _, rfl⟩, ih _ _⟩

theorem ratioLoop_subCuenta (original : Cuenta) (totalRatio : Int) (now : Nat)
    (plans : List SplitPartitionPlan) (index : Nat) (running : SplitShare) :
    ∀ sub ∈ ratioLoop original totalRatio now plans index running,
      ∃ id index share, sub = subCuenta original id index share [] now := by
  induction plans generalizing index running with
  | nil => simp [ratioLoop]
  | cons plan rest ih =>
    cases rest with
    | nil =>
      simp only [ratioLoop, forall_mem_singleton]
      exact ⟨_, _, _, rfl⟩
    | cons next rest =>
      simp only [ratioLoop, forall_mem_cons]
      exact ⟨⟨_, _, _, rfl⟩, ih _ _⟩

theorem prorateSplit_subCuenta {original : Cuenta} {partitions : List SplitPartitionPlan}
    {now : Nat} (split : prorateSplit original partitions now = .ok subs) :
    ∀ sub ∈ subs, ∃ id index share items, sub = subCuenta original id index share items now := by
  obtain ⟨-, ⟨-, -, rfl⟩ | ⟨-, -, rfl⟩⟩ := prorateSplit_eq_ok split
  · exact itemsLoop_subCuenta original now partitions 0 0
  · intro sub member
    obtain ⟨id, index, share, rfl⟩ := ratioLoop_subCuenta original _ now partitions 0 _ sub member
    exact ⟨id, index, share, [], rfl⟩

theorem prorateSplit_ids {now : Nat} (split : prorateSplit original partitions now = .ok subs) :
    subs.map (fun sub => sub.id) = partitions.map SplitPartitionPlan.partitionId := by
  obtain ⟨-, ⟨-, -, rfl⟩ | ⟨-, -, rfl⟩⟩ := prorateSplit_eq_ok split
  · exact itemsLoop_ids ..
  · exact ratioLoop_ids ..

theorem prorateSplit_items {now : Nat} (split : prorateSplit original partitions now = .ok subs) :
    ∀ sub ∈ subs, ∀ item ∈ sub.items, item ∈ original.items := by
  obtain ⟨-, ⟨-, -, rfl⟩ | ⟨-, -, rfl⟩⟩ := prorateSplit_eq_ok split
  · exact itemsLoop_items original now partitions 0 0
  · intro sub member item inSub
    obtain ⟨id, index, share, rfl⟩ := ratioLoop_subCuenta original _ now partitions 0 _ sub member
    simp [subCuenta] at inSub

theorem prorateSplit_modificadores {now : Nat}
    (split : prorateSplit original partitions now = .ok subs) :
    ∀ sub ∈ subs, ∀ row ∈ sub.modificadores, row ∈ original.modificadores := by
  intro sub member row inSub
  obtain ⟨id, index, share, items, rfl⟩ := prorateSplit_subCuenta split sub member
  obtain ⟨item, -, listed⟩ := mem_flatMap.mp inSub
  exact mem_of_mem_filter listed

/-! ### The tables after a split -/

theorem planSplit_eq_ok {db : EdgeDb} {input : SplitCuentaInput} {now : Nat} {cuenta : Cuenta}
    (planned : planSplit validatePin db input now = .ok (cuenta, subs)) :
    db.getCuentaById input.cuentaId = some cuenta ∧
      (cuenta.status = .abierta ∨ cuenta.status = .impresa) ∧
      prorateSplit cuenta input.partitions now = .ok subs ∧
      (subs.map fun sub => sub.totalAmount).sum = cuenta.totalAmount := by
  obtain ⟨-, planned⟩ := refused_eq_ok.mp planned
  split at planned
  next => simp at planned
  next read found =>
    simp only [refused_eq_ok, thrown_eq_ok, bind_eq_ok, pure_eq_ok, Prod.mk.injEq] at planned
    obtain ⟨payable, -, parts, prorated, same, rfl, rfl⟩ := planned
    refine ⟨found, ?_, prorated, not_not.mp same⟩
    by_contra neither
    exact payable (by simpa only [ne_eq, not_or] using neither)

def EdgeDb.insertCuentas (db : EdgeDb) (subs : List Cuenta) : EdgeDb :=
  { db with cuentas := db.cuentas ++ subs.map fun sub => sub.toCuentaRow }

theorem insertCuentas_cuentaRows (db : EdgeDb) (subs : List Cuenta) (id : String) :
    (db.insertCuentas subs).cuentaRows id =
      db.cuentaRows id ++ (subs.filter fun sub => sub.id == id).map fun sub => sub.toCuentaRow := by
  rw [EdgeDb.cuentaRows, EdgeDb.insertCuentas, filter_append, filter_map]
  rfl

theorem saveSubCuentas_eq (db db' : EdgeDb) (subs : List Cuenta) (outcome : Except DomainError Unit)
    (unique : (db.items.map CuentaItem.id).Nodup)
    (stored : ∀ sub ∈ subs, (∀ item ∈ sub.items, item ∈ db.items) ∧
      ∀ row ∈ sub.modificadores, row ∈ db.modificadores.rows)
    (returned : saveSubCuentas db subs = (outcome, db')) :
    ∃ saved rest, subs = saved ++ rest ∧ (outcome = .ok () → rest = []) ∧
      db' = db.insertCuentas saved ∧ (saved.map fun sub => sub.id).Nodup ∧
      ∀ sub ∈ saved, db.cuentaRows sub.id = [] := by
  induction subs generalizing db with
  | nil =>
    obtain ⟨rfl, rfl⟩ := Prod.mk.inj returned
    exact ⟨[], [], rfl, fun _ => rfl, by simp [EdgeDb.insertCuentas], by simp, by simp⟩
  | cons sub subs ih =>
    rw [saveSubCuentas] at returned
    split at returned
    next e failed =>
      obtain ⟨rfl, rfl⟩ := Prod.mk.inj returned
      exact ⟨[], sub :: subs, rfl, by simp, by simp [EdgeDb.insertCuentas], by simp, by simp⟩
    next first saves =>
      rcases (saveCuenta_eq_ok ..).mp saves with ⟨-, missing, rfl⟩ | ⟨nonzero, -, -⟩
      · rw [EdgeDb.insertCuenta, persistItems_stored _ _ unique (stored sub mem_cons_self).1,
          ModificadorTable.persist_stored _ (stored sub mem_cons_self).2] at returned
        obtain ⟨saved, rest, rfl, finished, rfl, distinct, absent⟩ := ih (db.insertCuentas [sub])
          unique (fun other member => stored other (mem_cons_of_mem _ member)) returned
        have absent' (other : Cuenta) (member : other ∈ saved) :
            db.cuentaRows other.id = [] ∧ sub.id ≠ other.id := by
          have gone := absent other member
          rw [insertCuentas_cuentaRows, append_eq_nil_iff] at gone
          exact ⟨gone.1, by simpa using gone.2⟩
        refine ⟨sub :: saved, rest, rfl, finished, by simp [EdgeDb.insertCuentas], ?_, ?_⟩
        · rw [map_cons, nodup_cons]
          refine ⟨fun clash => ?_, distinct⟩
          obtain ⟨other, member, same⟩ := mem_map.mp clash
          exact (absent' other member).2 same.symm
        · intro other member
          rcases mem_cons.mp member with rfl | later
          · exact (findCuenta_eq_none _ _).mp missing
          · exact (absent' other later).1
      · exact absurd rfl nonzero

/-- What a split leaves: the sub-accounts it saved, and everything but the original as it was. -/
structure SplitInto (db db' : EdgeDb) (cuenta : Cuenta) (saved : List Cuenta) : Prop where
  items : db'.items = db.items
  modificadores : db'.modificadores = db.modificadores
  pagos : db'.pagos = db.pagos
  fresh : ∀ sub ∈ saved, db.cuentaRows sub.id = []
  subs : ∀ sub ∈ saved, db'.cuentaRows sub.id = [sub.toCuentaRow]
  others : ∀ id, id ∉ saved.map (fun sub => sub.id) → id ≠ cuenta.id →
    db'.cuentaRows id = db.cuentaRows id

section Insert

variable (db : EdgeDb) {saved : List Cuenta}

theorem insertCuentas_other {id : String} (other : id ∉ saved.map (fun sub => sub.id)) :
    (db.insertCuentas saved).cuentaRows id = db.cuentaRows id := by
  have none : (saved.filter fun sub => sub.id == id) = [] := by
    rw [filter_eq_nil_iff]
    intro sub member same
    exact other (mem_map.mpr ⟨sub, member, by simpa using same⟩)
  rw [insertCuentas_cuentaRows, none, map_nil, append_nil]

theorem insertCuentas_sub (distinct : (saved.map fun sub => sub.id).Nodup) {sub : Cuenta}
    (member : sub ∈ saved) (fresh : db.cuentaRows sub.id = []) :
    (db.insertCuentas saved).cuentaRows sub.id = [sub.toCuentaRow] := by
  have alone : (saved.filter fun other => other.id == sub.id) = [sub] := by
    induction saved with
    | nil => simp at member
    | cons first rest ih =>
      rw [map_cons, nodup_cons] at distinct
      rcases mem_cons.mp member with rfl | later
      · have none : (rest.filter fun other => other.id == sub.id) = [] := by
          rw [filter_eq_nil_iff]
          intro other inRest same
          exact distinct.1 (mem_map.mpr ⟨other, inRest, by simpa using same⟩)
        simp [none]
      · have apart : first.id ≠ sub.id := by
          intro same
          exact distinct.1 (mem_map.mpr ⟨sub, later, same.symm⟩)
        simpa [apart] using ih distinct.2 later
  rw [insertCuentas_cuentaRows, fresh, alone]
  rfl

theorem insertCuentas_splitInto {cuenta : Cuenta}
    (stored : db.cuentaRows cuenta.id = [cuenta.toCuentaRow])
    (distinct : (saved.map fun sub => sub.id).Nodup)
    (fresh : ∀ sub ∈ saved, db.cuentaRows sub.id = []) :
    SplitInto db (db.insertCuentas saved) cuenta saved ∧
      (db.insertCuentas saved).cuentaRows cuenta.id = [cuenta.toCuentaRow] := by
  have kept : cuenta.id ∉ saved.map (fun sub => sub.id) := by
    intro clash
    obtain ⟨sub, member, same⟩ := mem_map.mp clash
    have none := fresh sub member
    rw [same, stored] at none
    simp at none
  refine ⟨⟨rfl, rfl, rfl, fresh, ?_, fun id other _ => insertCuentas_other db other⟩, ?_⟩
  · exact fun sub member => insertCuentas_sub db distinct member (fresh sub member)
  · rw [insertCuentas_other db kept, stored]

end Insert

theorem SplitInto.annul (db between : EdgeDb) (cuenta : Cuenta) (saved : List Cuenta)
    (now expectedVersion : Nat) (unique : (db.items.map CuentaItem.id).Nodup)
    (read : ∀ item ∈ cuenta.items, item ∈ db.items)
    (modified : ∀ row ∈ cuenta.modificadores, row ∈ db.modificadores.rows)
    (stored : between.cuentaRows cuenta.id = [cuenta.toCuentaRow])
    (known : db.cuentaRows cuenta.id ≠ []) (into : SplitInto db between cuenta saved)
    (swapped : ∃ row ∈ between.cuentas, row.id = cuenta.id ∧ row.version = expectedVersion) :
    SplitInto db (between.swapCuenta (closedCuenta cuenta .anulada now) expectedVersion) cuenta
        saved ∧
      (between.swapCuenta (closedCuenta cuenta .anulada now) expectedVersion).cuentaRows cuenta.id =
        [(closedCuenta cuenta .anulada now).toCuentaRow] := by
  have rows := swapCuenta_cuentaRows (closedCuenta cuenta .anulada now) expectedVersion _
    stored swapped
  refine ⟨⟨?_, ?_, into.pagos, into.fresh, ?_, ?_⟩, rows.2⟩
  · rw [← into.items]
    exact persistItems_stored between.items cuenta.items (into.items ▸ unique) (into.items ▸ read)
  · rw [← into.modificadores]
    exact ModificadorTable.persist_stored _ (into.modificadores ▸ modified)
  · intro sub member
    have apart : sub.id ≠ cuenta.id := by
      intro same
      exact known (same ▸ into.fresh sub member)
    rw [swapCuenta_cuentaRows_other (closedCuenta ..) _ sub.id apart]
    exact into.subs sub member
  · intro id other apart
    rw [swapCuenta_cuentaRows_other (closedCuenta ..) _ id apart]
    exact into.others id other apart

inductive SplitEnds (db db' : EdgeDb) (cuenta : Cuenta) (saved rest : List Cuenta) (now : Nat) :
    Except DomainError (Cuenta × List Cuenta × Option Mesa) → Prop
  | early (e : DomainError) (original : db'.cuentaRows cuenta.id = [cuenta.toCuentaRow])
      (mesas : db'.mesas = db.mesas) : SplitEnds db db' cuenta saved rest now (.error e)
  | unlinked (e : DomainError) (all : rest = [])
      (original : db'.cuentaRows cuenta.id = [(closedCuenta cuenta .anulada now).toCuentaRow])
      (mesas : db'.mesas = db.mesas) (fails : relinkMesa db' cuenta saved now = .error e) :
      SplitEnds db db' cuenta saved rest now (.error e)
  | finished (between : EdgeDb) (mesa : Option Mesa) (all : rest = [])
      (original : db'.cuentaRows cuenta.id = [(closedCuenta cuenta .anulada now).toCuentaRow])
      (mesas : between.mesas = db.mesas)
      (relinked : relinkMesa between cuenta saved now = .ok (mesa, db')) :
      SplitEnds db db' cuenta saved rest now (.ok (closedCuenta cuenta .anulada now, saved, mesa))

theorem SplitEnds.original_row (db db' : EdgeDb) (cuenta : Cuenta) (saved rest : List Cuenta)
    (now : Nat) (result : Except DomainError (Cuenta × List Cuenta × Option Mesa))
    (ends : SplitEnds db db' cuenta saved rest now result) :
    db'.cuentaRows cuenta.id = [cuenta.toCuentaRow] ∨
      (rest = [] ∧ db'.cuentaRows cuenta.id = [(closedCuenta cuenta .anulada now).toCuentaRow]) := by
  cases ends with
  | early e original => exact .inl original
  | unlinked e all original | finished between mesa all original => exact .inr ⟨all, original⟩

theorem splitCuentaSync_splitInto {db db' : EdgeDb} (wellFormed : db.WellFormed)
    (input : SplitCuentaInput) (now : Nat)
    {result : Except DomainError (Cuenta × List Cuenta × Option Mesa)}
    (returned : splitCuentaSync validatePin db input now = (result, db')) :
    (db' = db ∧ ∃ e, result = .error e) ∨ ∃ cuenta saved rest,
      planSplit validatePin db input now = .ok (cuenta, saved ++ rest) ∧
      SplitInto db db' cuenta saved ∧ SplitEnds db db' cuenta saved rest now result := by
  unfold splitCuentaSync at returned
  split at returned
  next e _ =>
    obtain ⟨rfl, rfl⟩ := Prod.mk.inj returned
    exact .inl ⟨rfl, e, rfl⟩
  next cuenta subs planned =>
    right
    obtain ⟨found, -, prorated, -⟩ := planSplit_eq_ok _ planned
    have stored := getCuentaById_stored wellFormed found
    have read (item : CuentaItem) (member : item ∈ cuenta.items) : item ∈ db.items :=
      (getCuentaById_items found item member).1
    have modified := getCuentaById_modificadores found
    have itemsStored (sub : Cuenta) (member : sub ∈ subs) :
        (∀ item ∈ sub.items, item ∈ db.items) ∧
          ∀ row ∈ sub.modificadores, row ∈ db.modificadores.rows :=
      ⟨fun item inSub => read item (prorateSplit_items prorated sub member item inSub),
        fun row inSub => modified row (prorateSplit_modificadores prorated sub member row inSub)⟩
    split at returned
    next e _ saves =>
      obtain ⟨rfl, rfl⟩ := Prod.mk.inj returned
      obtain ⟨saved, rest, rfl, -, rfl, distinct, fresh⟩ :=
        saveSubCuentas_eq _ _ _ _ wellFormed.items itemsStored saves
      obtain ⟨into, same⟩ := insertCuentas_splitInto db stored distinct fresh
      exact ⟨cuenta, saved, rest, planned, into, .early e same rfl⟩
    next saves =>
      obtain ⟨saved, rest, rfl, finished, rfl, distinct, fresh⟩ :=
        saveSubCuentas_eq _ _ _ _ wellFormed.items itemsStored saves
      obtain ⟨into, same⟩ := insertCuentas_splitInto db stored distinct fresh
      obtain rfl := finished rfl
      rw [append_nil] at planned returned
      refine ⟨cuenta, saved, [], by rw [append_nil, planned], ?_⟩
      dsimp only at returned
      split at returned
      next e _ =>
        obtain ⟨rfl, rfl⟩ := Prod.mk.inj returned
        exact ⟨into, .early e same rfl⟩
      next annulled annuls =>
        have known : (db.insertCuentas saved).findCuenta cuenta.id ≠ none := by
          rw [findCuenta_of_cuentaRows _ _ same]
          simp
        obtain ⟨swapped, rfl⟩ := saveCuenta_stored _ _ (closedCuenta cuenta .anulada now) _ known annuls
        obtain ⟨into, row⟩ := into.annul db _ cuenta saved now _ wellFormed.items read modified
          same (by simp [stored]) swapped
        split at returned <;> obtain ⟨rfl, rfl⟩ := Prod.mk.inj returned
        next e fails => exact ⟨into, .unlinked e rfl row rfl fails⟩
        next mesa linked relinked =>
          obtain ⟨mesas, rfl⟩ := relinkMesa_eq_ok relinked
          exact ⟨⟨into.items, into.modificadores, into.pagos, into.fresh, into.subs, into.others⟩,
            .finished ((db.insertCuentas saved).swapCuenta (closedCuenta cuenta .anulada now) _) mesa
              rfl row rfl relinked⟩

end TridentPos.Pos
