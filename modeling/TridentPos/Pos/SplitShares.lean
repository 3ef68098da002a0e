import TridentPos.Library.Proration
import TridentPos.Pos.Splits

/-!
# The amounts of sub-accounts

A split divides five amounts of an account. By ratio each of them is truncated on its own and
the last partition takes the residual; by items the amounts are those of the items, and only the
tips are prorated.
-/
namespace TridentPos.Pos

open Core Library Proration List

/-! ### Components -/

inductive Component where
  | subtotal
  | taxTotal
  | discountsTotal
  | tipsTotal
  | totalAmount
deriving DecidableEq

def Component.of : Component → SplitShare → Int
  | .subtotal, share => share.subtotal
  | .taxTotal, share => share.taxTotal
  | .discountsTotal, share => share.discountsTotal
  | .tipsTotal, share => share.tipsTotal
  | .totalAmount, share => share.totalAmount

variable {partitions plans : List SplitPartitionPlan} {subs : List Cuenta} (original : Cuenta)
  (component : Component) (plan : SplitPartitionPlan) (now : Nat)

@[simp] theorem Component.of_zero : component.of .zero = 0 := by
  cases component <;> rfl

@[simp] theorem Component.of_add (a b : SplitShare) :
    component.of (a.add b) = component.of a + component.of b := by
  cases component <;> rfl

@[simp] theorem Component.of_residual (whole running : SplitShare) :
    component.of (whole.residual running) = component.of whole - component.of running := by
  cases component <;> rfl

@[simp] theorem Component.of_prorated (whole : SplitShare) (ratio totalRatio : Int) :
    component.of (whole.prorated ratio totalRatio) =
      (component.of whole * ratio).tdiv totalRatio := by
  cases component <;> rfl

@[simp] theorem shareOf_subCuenta (partitionId : String) (index : Nat) (share : SplitShare)
    (items : List CuentaItem) (now : Nat) :
    shareOf (subCuenta original partitionId index share items now) = share :=
  rfl

/-! ### Shares by ratio -/

open Component

theorem ratioLoop_shares (totalRatio : Int) (now : Nat) (earlier : List SplitPartitionPlan)
    (last : SplitPartitionPlan) (index : Nat) (running : SplitShare) :
    ∃ subs sub, ratioLoop original totalRatio now (earlier ++ [last]) index running =
        subs ++ [sub] ∧
      List.Forall₂ (fun sub plan =>
        shareOf sub = (shareOf original).prorated (ratioOf plan) totalRatio) subs earlier ∧
      ∀ component : Component, component.of (shareOf sub) = component.of (shareOf original) -
        component.of running - ((earlier.map ratioOf).map fun ratio =>
          (component.of (shareOf original) * ratio).tdiv totalRatio).sum := by
  induction earlier generalizing index running with
  | nil =>
    refine ⟨[], _, rfl, .nil, fun component => ?_⟩
    simp
  | cons plan rest ih =>
    obtain ⟨subs, sub, loop, shares, residual⟩ := ih (index + 1)
      (running.add ((shareOf original).prorated (ratioOf plan) totalRatio))
    refine ⟨subCuenta original plan.partitionId index
      ((shareOf original).prorated (ratioOf plan) totalRatio) [] now :: subs, sub, ?_,
      .cons (shareOf_subCuenta ..) shares, fun component => ?_⟩
    · cases rest with
      | nil | cons next rest => simpa [ratioLoop] using loop
    · rw [residual component]
      simp only [of_add, of_prorated, map_cons, sum_cons]
      omega

variable {whole : SplitShare} {totalRatio totalSubtotal : Int}

theorem sum_prorated
    (shares : List.Forall₂ (fun sub plan =>
      shareOf sub = whole.prorated (ratioOf plan) totalRatio) subs plans) :
    (subs.map fun sub => component.of (shareOf sub)).sum = ((plans.map ratioOf).map fun ratio =>
      (component.of whole * ratio).tdiv totalRatio).sum := by
  induction shares with
  | nil => rfl
  | cons share _ ih => simp [share, ih]

theorem prorated_eq_floor {component : Component} (nonneg : 0 ≤ component.of whole)
    (positive : 0 < totalRatio) (ratios : ∀ plan ∈ plans, 0 ≤ ratioOf plan)
    (shares : List.Forall₂ (fun sub plan =>
      shareOf sub = whole.prorated (ratioOf plan) totalRatio) subs plans) :
    List.Forall₂ (fun sub plan => component.of (shareOf sub) =
      ⌊exact (component.of whole) (ratioOf plan) totalRatio⌋) subs plans := by
  induction shares with
  | nil => exact .nil
  | cons share _ ih =>
    obtain ⟨ratio, rest⟩ := forall_mem_cons.mp ratios
    refine .cons ?_ (ih rest)
    rw [share, of_prorated]
    exact tdiv_eq_floor (mul_nonneg nonneg ratio) positive

/-- With ratios that are not negative a split by ratio loses nothing: every partition but the last
gets the floor of its exact share, the last one at least its own and less than one unit more for
every other partition. -/
theorem splitByRatio_exact (original : Cuenta) (partitions : List SplitPartitionPlan) (now : Nat)
    (amounts : ∀ component : Component, 0 ≤ component.of (shareOf original))
    (enough : 2 ≤ partitions.length) (ratios : ∀ plan ∈ partitions, 0 ≤ ratioOf plan)
    (positive : 0 < (partitions.map ratioOf).sum) :
    ∃ earlier last subs sub, partitions = earlier ++ [last] ∧
      splitByRatio original partitions now = .ok (subs ++ [sub]) ∧
      ∀ component : Component,
        ((subs ++ [sub]).map fun sub => component.of (shareOf sub)).sum =
          component.of (shareOf original) ∧
        List.Forall₂ (fun sub plan => component.of (shareOf sub) =
          ⌊exact (component.of (shareOf original)) (ratioOf plan)
            (partitions.map ratioOf).sum⌋) subs earlier ∧
        ⌊exact (component.of (shareOf original)) (ratioOf last)
          (partitions.map ratioOf).sum⌋ ≤ component.of (shareOf sub) ∧
        (component.of (shareOf sub) : ℚ) - exact (component.of (shareOf original))
          (ratioOf last) (partitions.map ratioOf).sum < (partitions.length : ℚ) - 1 := by
  have nonempty : partitions ≠ [] := by
    rintro rfl
    simp at enough
  obtain ⟨earlier, last, rfl⟩ := (eq_nil_or_concat' partitions).resolve_left nonempty
  have several : earlier.map ratioOf ≠ [] := by
    intro none
    rw [map_eq_nil_iff.mp none] at enough
    simp at enough
  have earlierRatios : ∀ plan ∈ earlier, 0 ≤ ratioOf plan :=
    fun plan member => ratios plan (mem_append_left _ member)
  have complete : (earlier.map ratioOf).sum + ratioOf last =
      ((earlier ++ [last]).map ratioOf).sum := by simp
  generalize isTotal : ((earlier ++ [last]).map ratioOf).sum = totalRatio at positive complete ⊢
  obtain ⟨subs, sub, loop, shares, residual⟩ :=
    ratioLoop_shares original totalRatio now earlier last 0 .zero
  refine ⟨earlier, last, subs, sub, rfl, ?_, fun component => ?_⟩
  · have accepted : ¬ totalRatio ≤ 0 := by omega
    simp only [splitByRatio, isTotal, if_neg accepted, loop]
  · have nonneg := amounts component
    have weights : ∀ ratio ∈ earlier.map ratioOf, 0 ≤ ratio := by
      simpa using earlierRatios
    obtain ⟨low, high⟩ := residual_bounds nonneg weights positive complete several
    have lastShare := residual component
    rw [of_zero, sub_zero] at lastShare
    rw [← lastShare] at low high
    refine ⟨?_, ?_, ?_, ?_⟩
    · rw [map_append, sum_append, sum_prorated component shares]
      simp [lastShare]
    · exact prorated_eq_floor nonneg positive earlierRatios shares
    · exact Int.floor_le_floor low |>.trans (by simp)
    · simpa using high

def threeGuests : Cuenta :=
  { newCuenta ⟨"c1", none, "ep_1", .comedor, "w1", none, some 3⟩ 0 with
    subtotal := 10000, taxTotal := 1600, totalAmount := 11600 }

def thirds : List SplitPartitionPlan :=
  [⟨"c1-a", none, some 3333⟩, ⟨"c1-b", none, some 3333⟩, ⟨"c1-c", none, some 3334⟩]

theorem splitByRatio_exact_thirds : ∃ subs, splitByRatio threeGuests thirds 0 = .ok subs ∧
    (subs.map fun sub => sub.totalAmount).sum = 11600 := by
  obtain ⟨_, _, subs, sub, -, returned, exact⟩ := splitByRatio_exact threeGuests thirds 0
    (by intro component; cases component <;> decide) (by decide) (by decide) (by decide)
  exact ⟨subs ++ [sub], returned, (exact .totalAmount).1⟩

/-! ### Amounts that add up -/

structure SplitShare.Balanced (share : SplitShare) : Prop where
  nonneg : ∀ component : Component, 0 ≤ component.of share
  total : share.totalAmount = share.subtotal - share.discountsTotal + share.taxTotal +
    share.tipsTotal

/-- What the five truncations cut off adds up as the amounts do. -/
def RemaindersBalance (whole : SplitShare) (ratio totalRatio : Int) : Prop :=
  (whole.totalAmount * ratio).tmod totalRatio = (whole.subtotal * ratio).tmod totalRatio -
    (whole.discountsTotal * ratio).tmod totalRatio + (whole.taxTotal * ratio).tmod totalRatio +
    (whole.tipsTotal * ratio).tmod totalRatio

def RatioSplitBalances (whole : SplitShare) (partitions : List SplitPartitionPlan) : Prop :=
  let totalRatio := (partitions.map ratioOf).sum
  (∀ plan ∈ partitions.dropLast,
    (∀ component : Component, -totalRatio < component.of whole * ratioOf plan) ∧
      RemaindersBalance whole (ratioOf plan) totalRatio) ∧
  ∀ component : Component, 0 ≤ due (component.of whole) totalRatio (partitions.dropLast.map ratioOf)

theorem prorated_balanced_iff (ratio totalRatio : Int) (balanced : whole.Balanced)
    (positive : 0 < totalRatio) :
    (whole.prorated ratio totalRatio).Balanced ↔
      (∀ component : Component, -totalRatio < component.of whole * ratio) ∧
        RemaindersBalance whole ratio totalRatio := by
  have nonnegative : (∀ component : Component, 0 ≤ component.of (whole.prorated ratio totalRatio)) ↔
      ∀ component : Component, -totalRatio < component.of whole * ratio := by
    refine forall_congr' fun component => ?_
    rw [of_prorated]
    exact tdiv_nonneg_iff _ _ positive
  have identity : (whole.totalAmount * ratio).tdiv totalRatio =
      (whole.subtotal * ratio).tdiv totalRatio - (whole.discountsTotal * ratio).tdiv totalRatio +
        (whole.taxTotal * ratio).tdiv totalRatio + (whole.tipsTotal * ratio).tdiv totalRatio ↔
      RemaindersBalance whole ratio totalRatio := by
    have products : whole.totalAmount * ratio = whole.subtotal * ratio -
        whole.discountsTotal * ratio + whole.taxTotal * ratio + whole.tipsTotal * ratio := by
      rw [balanced.total]
      ring
    exact tdiv_balance_iff positive products
  constructor
  · rintro ⟨nonneg, total⟩
    exact ⟨nonnegative.mp nonneg, identity.mp total⟩
  · rintro ⟨above, remainders⟩
    exact ⟨nonnegative.mpr above, identity.mpr remainders⟩

theorem forall_shares_iff (good : SplitShare → Prop) {share : SplitPartitionPlan → SplitShare}
    (shares : List.Forall₂ (fun sub plan => shareOf sub = share plan) subs plans) :
    (∀ sub ∈ subs, good (shareOf sub)) ↔ ∀ plan ∈ plans, good (share plan) := by
  induction shares with
  | nil => simp
  | cons first _ ih => simp [first, ih]

theorem sum_total_of_balanced (balanced : ∀ sub ∈ subs, (shareOf sub).Balanced) :
    (subs.map fun sub => totalAmount.of (shareOf sub)).sum =
      (subs.map fun sub => subtotal.of (shareOf sub)).sum -
      (subs.map fun sub => discountsTotal.of (shareOf sub)).sum +
      (subs.map fun sub => taxTotal.of (shareOf sub)).sum +
      (subs.map fun sub => tipsTotal.of (shareOf sub)).sum := by
  induction subs with
  | nil => rfl
  | cons sub subs ih =>
    obtain ⟨first, rest⟩ := forall_mem_cons.mp balanced
    have total := first.total
    have sums := ih rest
    simp only [map_cons, sum_cons, of] at sums ⊢
    omega

theorem ratioLoop_balanced_iff {original : Cuenta} (balanced : (shareOf original).Balanced)
    (nonempty : partitions ≠ []) (positive : 0 < (partitions.map ratioOf).sum) :
    (∀ sub ∈ ratioLoop original (partitions.map ratioOf).sum now partitions 0 .zero,
      (shareOf sub).Balanced) ↔ RatioSplitBalances (shareOf original) partitions := by
  obtain ⟨earlier, last, rfl⟩ := (eq_nil_or_concat' partitions).resolve_left nonempty
  rw [RatioSplitBalances, dropLast_concat]
  generalize ((earlier ++ [last]).map ratioOf).sum = totalRatio at positive ⊢
  obtain ⟨subs, sub, loop, shares, residual⟩ :=
    ratioLoop_shares original totalRatio now earlier last 0 .zero
  have before : (∀ sub ∈ subs, (shareOf sub).Balanced) ↔ ∀ plan ∈ earlier,
      (∀ component : Component, -totalRatio < component.of (shareOf original) * ratioOf plan) ∧
        RemaindersBalance (shareOf original) (ratioOf plan) totalRatio := by
    rw [forall_shares_iff SplitShare.Balanced shares]
    exact forall₂_congr fun plan _ => prorated_balanced_iff _ _ balanced positive
  have lastNonneg (component : Component) : 0 ≤ component.of (shareOf sub) ↔
      0 ≤ due (component.of (shareOf original)) totalRatio (earlier.map ratioOf) := by
    rw [residual component, of_zero, sub_zero]
    exact residual_nonneg_iff _ _ _ positive
  rw [loop, forall_mem_append, ← before]
  refine and_congr_right fun earlierBalanced => ?_
  rw [forall_mem_singleton]
  constructor
  · intro lastBalanced component
    exact (lastNonneg component).mp (lastBalanced.nonneg component)
  · intro dues
    refine ⟨fun component => (lastNonneg component).mpr (dues component), ?_⟩
    -- the residuals add up because the whole and the shares before do
    have sums := sum_total_of_balanced earlierBalanced
    have whole := balanced.total
    simp only [sum_prorated _ shares] at sums
    have total := residual .totalAmount
    have subtotal := residual .subtotal
    have discounts := residual .discountsTotal
    have tax := residual .taxTotal
    have tips := residual .tipsTotal
    simp only [of, SplitShare.zero] at sums total subtotal discounts tax tips
    omega

/-! ### Shares by items -/

def partSubtotal (active : List CuentaItem) (plan : SplitPartitionPlan) : Int :=
  ((partItems active plan).map CuentaItem.subtotal).sum

theorem itemsLoop_shares (active : List CuentaItem) (totalSubtotal : Int) (now : Nat)
    (earlier : List SplitPartitionPlan) (last : SplitPartitionPlan) (index : Nat) (running : Int) :
    ∃ subs sub, itemsLoop original active totalSubtotal now (earlier ++ [last]) index running =
        subs ++ [sub] ∧
      List.Forall₂ (fun sub plan => shareOf sub = itemsShare (partItems active plan)
        (proratedTips original totalSubtotal (partSubtotal active plan) 0 false)) subs earlier ∧
      shareOf sub = itemsShare (partItems active last)
        (proratedTips original totalSubtotal (partSubtotal active last)
          (running + (earlier.map fun plan =>
            proratedTips original totalSubtotal (partSubtotal active plan) 0 false).sum) true) := by
  induction earlier generalizing index running with
  | nil =>
    refine ⟨[], _, rfl, .nil, ?_⟩
    simp [partSubtotal]
  | cons plan rest ih =>
    obtain ⟨subs, sub, loop, shares, lastShare⟩ := ih (index + 1)
      (running + proratedTips original totalSubtotal (partSubtotal active plan) 0 false)
    refine ⟨subCuenta original plan.partitionId index (itemsShare (partItems active plan)
      (proratedTips original totalSubtotal (partSubtotal active plan) 0 false))
      (partItems active plan) now :: subs, sub, ?_, .cons (shareOf_subCuenta ..) shares, ?_⟩
    · simp only [cons_append, itemsLoop]
      rw [← loop]
      simp [proratedTips, partSubtotal]
    · rw [lastShare, map_cons, sum_cons, add_assoc]

def partShare (original : Cuenta) (plan : SplitPartitionPlan) : SplitShare :=
  itemsShare (partItems (activeItems original.items) plan) 0

theorem partSubtotal_eq :
    partSubtotal (activeItems original.items) plan = (partShare original plan).subtotal :=
  rfl

abbrev SplitShare.Nonneg (share : SplitShare) : Prop :=
  0 ≤ share.subtotal ∧ 0 ≤ share.taxTotal ∧ 0 ≤ share.discountsTotal

def lastTipsDue (original : Cuenta) (partitions : List SplitPartitionPlan) : Int :=
  due original.tipsTotal
    ((activeItems original.items).map CuentaItem.subtotal).sum
    (partitions.dropLast.map fun plan => (partShare original plan).subtotal)

def ItemSplitBalances (original : Cuenta) (partitions : List SplitPartitionPlan) : Prop :=
  let totalSubtotal := ((activeItems original.items).map CuentaItem.subtotal).sum
  (∀ plan ∈ partitions, (partShare original plan).Nonneg) ∧
  if 0 < totalSubtotal then
    (∀ plan ∈ partitions.dropLast, -(partShare original plan).totalAmount * totalSubtotal ≤
      original.tipsTotal * (partShare original plan).subtotal) ∧
    0 ≤ lastTipsDue original partitions ∧
    ∀ plan ∈ partitions.getLast?,
      -(partShare original plan).totalAmount * totalSubtotal ≤ lastTipsDue original partitions
  else ∀ plan ∈ partitions, 0 ≤ (partShare original plan).totalAmount

theorem itemsShare_balanced_iff (items : List CuentaItem) (tips : Int) :
    (itemsShare items tips).Balanced ↔
      (itemsShare items 0).Nonneg ∧ 0 ≤ tips ∧
      -(itemsShare items 0).totalAmount ≤ tips := by
  constructor
  · intro balanced
    have total := balanced.nonneg .totalAmount
    refine ⟨⟨balanced.nonneg .subtotal, balanced.nonneg .taxTotal,
      balanced.nonneg .discountsTotal⟩, balanced.nonneg .tipsTotal, ?_⟩
    simp only [itemsShare, of] at total ⊢
    omega
  · rintro ⟨⟨subtotal, tax, discounts⟩, tipsNonneg, covered⟩
    refine ⟨fun component => ?_, rfl⟩
    cases component with
    | subtotal => exact subtotal
    | taxTotal => exact tax
    | discountsTotal => exact discounts
    | tipsTotal => exact tipsNonneg
    | totalAmount =>
      simp only [itemsShare, of] at covered ⊢
      omega

theorem earlier_balanced_iff {original : Cuenta} (tips : 0 ≤ original.tipsTotal)
    (positive : 0 < totalSubtotal) :
    (itemsShare (partItems (activeItems original.items) plan) ((original.tipsTotal *
        (partShare original plan).subtotal).tdiv totalSubtotal)).Balanced ↔
      (partShare original plan).Nonneg ∧
      -(partShare original plan).totalAmount * totalSubtotal ≤
        original.tipsTotal * (partShare original plan).subtotal := by
  rw [itemsShare_balanced_iff]
  refine and_congr_right fun nonneg => ?_
  have product : 0 ≤ original.tipsTotal * (partShare original plan).subtotal :=
    mul_nonneg tips nonneg.1
  have share := Int.tdiv_nonneg product positive.le
  rw [and_iff_right share, Int.tdiv_eq_ediv_of_nonneg product, Int.le_ediv_iff_mul_le positive]
  rfl

theorem last_balanced_iff (earlier : List Int) (positive : 0 < totalSubtotal) :
    (itemsShare (partItems (activeItems original.items) plan) (original.tipsTotal -
        (earlier.map fun weight => (original.tipsTotal * weight).tdiv totalSubtotal).sum)).Balanced ↔
      (partShare original plan).Nonneg ∧
      0 ≤ due original.tipsTotal totalSubtotal earlier ∧
      -(partShare original plan).totalAmount * totalSubtotal ≤
        due original.tipsTotal totalSubtotal earlier := by
  rw [itemsShare_balanced_iff, residual_nonneg_iff _ _ _ positive,
    ← mul_residual original.tipsTotal totalSubtotal earlier,
    mul_comm totalSubtotal, Int.mul_le_mul_iff_of_pos_right positive]
  rfl

theorem itemsLoop_balanced_iff {original : Cuenta} (tips : 0 ≤ original.tipsTotal)
    (nonempty : partitions ≠ []) :
    (∀ sub ∈ itemsLoop original (activeItems original.items)
        ((activeItems original.items).map CuentaItem.subtotal).sum now partitions 0 0,
      (shareOf sub).Balanced) ↔ ItemSplitBalances original partitions := by
  obtain ⟨earlier, last, rfl⟩ := (eq_nil_or_concat' partitions).resolve_left nonempty
  rw [ItemSplitBalances, lastTipsDue, dropLast_concat, getLast?_concat]
  generalize ((activeItems original.items).map CuentaItem.subtotal).sum = totalSubtotal
  obtain ⟨subs, sub, loop, shares, lastShare⟩ :=
    itemsLoop_shares original (activeItems original.items) totalSubtotal now earlier last 0 0
  have before := forall_shares_iff SplitShare.Balanced shares
  rw [loop, forall_mem_append, forall_mem_singleton, before, lastShare]
  by_cases positive : 0 < totalSubtotal
  · have earlierIff (plan : SplitPartitionPlan) := earlier_balanced_iff plan tips positive
    have lastIff := last_balanced_iff original last
      (earlier.map fun plan => (partShare original plan).subtotal) positive
    simp only [map_map, Function.comp_def] at lastIff
    simp only [proratedTips, if_pos positive, zero_add, partSubtotal_eq, Bool.false_eq_true,
      if_false, if_true, earlierIff, lastIff, forall_mem_append, forall_mem_singleton,
      Option.mem_some_iff, forall_eq', forall₂_and]
    tauto
  · have bare (plan : SplitPartitionPlan) :
        (itemsShare (partItems (activeItems original.items) plan) 0).Balanced ↔
          (partShare original plan).Nonneg ∧
          0 ≤ (partShare original plan).totalAmount := by
      rw [itemsShare_balanced_iff, and_iff_right le_rfl, Left.neg_nonpos_iff]
      rfl
    simp only [proratedTips, if_neg positive, bare, forall_mem_append, forall_mem_singleton,
      forall₂_and]
    tauto

/-! ### Sub-accounts that balance -/

/-- Whether the sub-accounts of a split balance, told from the account and the partitions. -/
def SplitBalances (original : Cuenta) (partitions : List SplitPartitionPlan) : Prop :=
  if ∃ plan ∈ partitions, plan.itemIds.getD [] ≠ [] then ItemSplitBalances original partitions
  else RatioSplitBalances (shareOf original) partitions

/-- A split of an account that balances gives sub-accounts that do, unless truncation separates
the total from the other amounts or an amount falls below zero. -/
theorem prorateSplit_balanced_iff (original : Cuenta) (partitions : List SplitPartitionPlan)
    (now : Nat) (subs : List Cuenta) (balanced : (shareOf original).Balanced)
    (accepted : prorateSplit original partitions now = .ok subs) :
    (∀ sub ∈ subs, (shareOf sub).Balanced) ↔ SplitBalances original partitions := by
  obtain ⟨enough, mode⟩ := prorateSplit_eq_ok accepted
  have nonempty : partitions ≠ [] := by
    rintro rfl
    simp at enough
  rcases mode with ⟨byItems, -, rfl⟩ | ⟨byRatio, positive, rfl⟩
  · rw [SplitBalances, if_pos byItems]
    exact itemsLoop_balanced_iff now (balanced.nonneg .tipsTotal) nonempty
  · have noItems : ¬ ∃ plan ∈ partitions, plan.itemIds.getD [] ≠ [] := by simpa using byRatio
    rw [SplitBalances, if_neg noItems]
    exact ratioLoop_balanced_iff now balanced nonempty positive

theorem threeGuests_balanced : (shareOf threeGuests).Balanced :=
  ⟨by intro component; cases component <;> decide, by decide⟩

theorem thirds_balanced : (shareOf threeGuests).Balanced ∧
    ∀ sub ∈ ratioLoop threeGuests 10000 0 thirds 0 .zero, (shareOf sub).Balanced := by
  refine ⟨threeGuests_balanced,
    (prorateSplit_balanced_iff threeGuests thirds 0 _ threeGuests_balanced rfl).mpr ?_⟩
  refine ⟨fun plan member => ⟨?_, ?_⟩, ?_⟩
  · intro component
    revert plan
    cases component <;> decide
  · revert plan
    unfold RemaindersBalance
    decide
  · intro component
    cases component <;> decide

def oddCents : Cuenta :=
  { threeGuests with
    subtotal := 10001, taxTotal := 1601, totalAmount := 11602 }

/-- Two halves of odd amounts: 5000 and 800, with a total of 5801. -/
theorem halves_of_odd_cents_unbalanced : (shareOf oddCents).Balanced ∧
    ∃ subs, prorateSplit oddCents [⟨"c1-a", none, none⟩, ⟨"c1-b", none, none⟩] 0 = .ok subs ∧
      ¬ ∀ sub ∈ subs, (shareOf sub).Balanced := by
  refine ⟨⟨by intro component; cases component <;> decide, by decide⟩, _, rfl, ?_⟩
  intro balanced
  have first := (balanced _ mem_cons_self).total
  exact absurd first (by decide)

end TridentPos.Pos
