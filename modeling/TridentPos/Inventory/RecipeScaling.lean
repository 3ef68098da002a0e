import TridentPos.Inventory.RecipeEngine
import TridentPos.Inventory.Kardex
import Mathlib.Algebra.Order.Field.Basic
import Mathlib.Tactic.FieldSimp
import Mathlib.Tactic.Linarith
import Mathlib.Tactic.Ring

/-!
# What an order takes from the stock

The explosion returns the need of one unit of a recipe, and the caller scales it by the produced
quantity over the yield once more. So an order takes its share divided twice by the yield, which
is the share it should take only where the yield of the product's own recipe is one.
-/
namespace TridentPos.Inventory

open Core Library Fallible IngredientQuantity List

/-! ### Amounts -/

def units (scaled : Int) : ℚ := scaled / 10000

inductive Needs (resolver : RecipeResolver) (ingredientId : String) : List RecipeItem → ℚ → Prop
  | nil : Needs resolver ingredientId [] 0
  | ingredient (item : RecipeItem) (rest : List RecipeItem) (own : String) (gross : Int)
      (amount : ℚ) (target : given item.ingredientId = some own)
      (read : parseDecimal12x4 item.grossQuantity = .ok gross)
      (others : Needs resolver ingredientId rest amount) :
      Needs resolver ingredientId (item :: rest)
        ((if own = ingredientId then units gross else 0) + amount)
  | subRecipe (item : RecipeItem) (rest : List RecipeItem) (sub : String) (recipe : Recipe)
      (gross yieldScaled : Int) (batch amount : ℚ) (noIngredient : given item.ingredientId = none)
      (target : given item.subRecipeId = some sub) (found : resolver sub = some recipe)
      (read : parseDecimal12x4 item.grossQuantity = .ok gross)
      (yields : recipeYield recipe = .ok yieldScaled)
      (inner : Needs resolver ingredientId recipe.items batch)
      (others : Needs resolver ingredientId rest amount) :
      Needs resolver ingredientId (item :: rest) (units gross / units yieldScaled * batch + amount)

theorem Needs.unique (resolver : RecipeResolver) (ingredientId : String) (items : List RecipeItem)
    (amount other : ℚ) (needs : Needs resolver ingredientId items amount)
    (needsToo : Needs resolver ingredientId items other) : amount = other := by
  induction needs generalizing other with
  | nil =>
    cases needsToo
    rfl
  | ingredient item rest own gross amount target read _ ih =>
    cases needsToo with
    | ingredient _ _ own' gross' amount' target' read' others' =>
      obtain rfl : own = own' := Option.some.inj (target.symm.trans target')
      obtain rfl : gross = gross' := Except.ok.inj (read.symm.trans read')
      rw [ih amount' others']
    | subRecipe _ _ _ _ _ _ _ _ noIngredient => simp [target] at noIngredient
  | subRecipe item rest sub recipe gross yieldScaled batch amount noIngredient target found read
      yields _ _ ihInner ih =>
    cases needsToo with
    | ingredient _ _ own' _ _ target' => simp [noIngredient] at target'
    | subRecipe _ _ sub' recipe' gross' yield' batch' amount' _ target' found' read' yields' inner'
        others' =>
      obtain rfl : sub = sub' := Option.some.inj (target.symm.trans target')
      obtain rfl : recipe = recipe' := Option.some.inj (found.symm.trans found')
      obtain rfl : gross = gross' := Except.ok.inj (read.symm.trans read')
      obtain rfl : yieldScaled = yield' := Except.ok.inj (yields.symm.trans yields')
      rw [ihInner batch' inner', ih amount' others']

abbrev ExactItem (resolver : RecipeResolver) (exact : Recipe → Int → Prop)
    (factor yieldScaled : Int) (item : RecipeItem) : Prop :=
  Fallible.IfOk (fun gross =>
    scaleFactor ∣ factor * gross ∧
    yieldScaled ∣ multiplyScale4 factor gross * scaleFactor ∧
    ∀ sub ∈ given item.subRecipeId, ∀ subRecipe ∈ resolver sub,
      exact subRecipe (roundQuotient (multiplyScale4 factor gross * scaleFactor) yieldScaled))
    (parseDecimal12x4 item.grossQuantity)

/-- All products and quotients on the way down are exact. -/
def Exact (resolver : RecipeResolver) : Nat → Recipe → Int → Prop
  | 0, _, _ => True
  | limit + 1, recipe, factor =>
    Fallible.IfOk (fun yieldScaled => ∀ item ∈ recipe.items,
      ExactItem resolver (Exact resolver limit) factor yieldScaled item) (recipeYield recipe)

instance Exact.decidable (resolver : RecipeResolver) :
    (limit : Nat) → (recipe : Recipe) → (factor : Int) → Decidable (Exact resolver limit recipe factor)
  | 0, _, _ => isTrue trivial
  | limit + 1, recipe, factor => by
    have := Exact.decidable resolver limit
    unfold Exact
    infer_instance

/-! ### Exact quotients -/

theorem half_carries_nothing (b c : Int) (positive : 0 < b) : (b * c + b / 2) / b = c := by
  have small : b / 2 / b = 0 := Int.ediv_eq_zero_of_lt (by omega) (by omega)
  rw [Int.add_comm, Int.add_mul_ediv_left _ _ (by omega), small, Int.zero_add]

theorem roundQuotient_mul (b c : Int) (nonzero : b ≠ 0) : roundQuotient (b * c) b = c := by
  unfold roundQuotient
  rcases Int.lt_or_gt_of_ne nonzero with negative | positive
  · have half := half_carries_nothing (-b) (-c) (by omega)
    have other := half_carries_nothing (-b) c (by omega)
    by_cases sign : b * c < 0
    · simp only [sign, negative, if_true, decide_true, bne_self_eq_false, Bool.false_eq_true,
        if_false]
      rw [show -(b * c) = -b * c by ring, other]
      ring
    · simp only [sign, negative, if_true, if_false, decide_true, decide_false, Bool.bne_true,
        Bool.not_false]
      rw [show b * c = -b * -c by ring, half]
      ring
  · have half := half_carries_nothing b c positive
    have other := half_carries_nothing b (-c) positive
    have notNegative : ¬ b < 0 := by omega
    by_cases sign : b * c < 0
    · simp only [sign, notNegative, if_true, if_false, decide_true, decide_false, Bool.bne_false]
      rw [show -(b * c) = b * -c by ring, other]
      ring
    · simp only [sign, notNegative, if_false, decide_false, bne_self_eq_false, Bool.false_eq_true]
      rw [half]
      ring

theorem units_multiplyScale4 {a b : Int} (exact : scaleFactor ∣ a * b) :
    units (multiplyScale4 a b) = units a * units b := by
  obtain ⟨c, product⟩ := exact
  have quotient : multiplyScale4 a b = c := by
    rw [multiplyScale4, product, roundQuotient_mul _ _ (by decide)]
  have cast : (a : ℚ) * b = 10000 * c := by
    exact_mod_cast product
  rw [quotient, units, units, units]
  linarith

theorem units_divide {a b : Int} (nonzero : b ≠ 0) (exact : b ∣ a * scaleFactor) :
    units (roundQuotient (a * scaleFactor) b) = units a / units b := by
  obtain ⟨c, product⟩ := exact
  rw [product, roundQuotient_mul _ _ nonzero]
  have cast : (a : ℚ) * 10000 = b * c := by
    exact_mod_cast product
  rw [units, units, units]
  field_simp
  linarith

/-! ### The explosion -/

def grossIn (ingredientId : String) (acc : List ExplodedEntry) : Int :=
  (acc.map fun entry => if entry.ingredientId = ingredientId then entry.grossScaled else 0).sum

def Distinct (acc : List ExplodedEntry) : Prop := (acc.map ExplodedEntry.ingredientId).Nodup

theorem grossIn_accumulate (ingredientId own : String) (net gross : Int)
    {acc : List ExplodedEntry} (distinct : Distinct acc) :
    grossIn ingredientId (accumulate acc own net gross) =
      grossIn ingredientId acc + if own = ingredientId then gross else 0 := by
  unfold accumulate Table.upsert
  split
  next present =>
    obtain ⟨row, member, isOwn⟩ := any_eq_true.mp present
    obtain rfl : row.ingredientId = own := beq_iff_eq.mp isOwn
    rw [grossIn, Table.sum_updateWhere_key _ _ distinct member, grossIn]
    by_cases same : row.ingredientId = ingredientId
    · simp only [same, if_true]
      ring
    · simp [same]
  next => simp [grossIn]

theorem distinct_accumulate (own : String) (net gross : Int) {acc : List ExplodedEntry}
    (distinct : Distinct acc) : Distinct (accumulate acc own net gross) := by
  unfold accumulate Table.upsert
  split
  next =>
    rw [Distinct, Table.map_updateWhere]
    · exact distinct
    · exact fun _ => rfl
  next absent =>
    rw [Distinct, map_append]
    refine Table.nodup_append_singleton distinct fun member => absent ?_
    obtain ⟨row, isRow, same⟩ := mem_map.mp member
    exact any_eq_true.mpr ⟨row, isRow, beq_iff_eq.mpr same⟩

section Explosion

variable (resolver : RecipeResolver) (ingredientId : String)

def Grown (acc acc' : List ExplodedEntry) (items : List RecipeItem) (share : ℚ) : Prop :=
  ∃ batch, Needs resolver ingredientId items batch ∧ Distinct acc' ∧
    units (grossIn ingredientId acc') = units (grossIn ingredientId acc) + share * batch

/-- What a call adds, for the recursion: the share of one unit times the need of a batch. -/
def Explodes (limit : Nat) : Prop :=
  ∀ recipe factor visitedStack acc acc', Exact resolver limit recipe factor → Distinct acc →
    explodeRecursive resolver limit recipe factor visitedStack acc = .ok acc' →
    ∃ yieldScaled, recipeYield recipe = .ok yieldScaled ∧
      Grown resolver ingredientId acc acc' recipe.items (units factor / units yieldScaled)

theorem units_add (a b : Int) : units (a + b) = units a + units b := by
  rw [units, units, units]
  push_cast
  ring

variable {resolver ingredientId}

theorem explodeItem_grown {limit : Nat} {factor yieldScaled : Int} (visitedStack : List String)
    (acc acc' : List ExplodedEntry) {item : RecipeItem} (rest : List RecipeItem)
    (explodes : Explodes resolver ingredientId limit) (positive : 0 < yieldScaled)
    (exact : ExactItem resolver (Exact resolver limit) factor yieldScaled item) (distinct : Distinct acc)
    (exploded : explodeItem resolver (explodeRecursive resolver limit) factor yieldScaled
      visitedStack acc item = .ok acc') :
    ∃ need, Distinct acc' ∧
      units (grossIn ingredientId acc') =
        units (grossIn ingredientId acc) + units factor / units yieldScaled * need ∧
      ∀ amount, Needs resolver ingredientId rest amount →
        Needs resolver ingredientId (item :: rest) (need + amount) := by
  simp only [explodeItem, bind_eq_ok] at exploded
  obtain ⟨_, checked, net, -, gross, read, effectiveNet, -, effectiveGross, divided, exploded⟩ :=
    exploded
  obtain ⟨exactProduct, exactQuotient, exactSub⟩ := ifOk_iff.mp exact gross read
  have isGross := divideScale4_eq_ok divided
  have inUnits : units effectiveGross = units factor / units yieldScaled * units gross := by
    rw [isGross, units_divide (by omega) exactQuotient, units_multiplyScale4 exactProduct]
    ring
  split at exploded
  next own target =>
    obtain rfl := pure_eq_ok.mp exploded
    refine ⟨if own = ingredientId then units gross else 0, distinct_accumulate _ _ _ distinct,
      ?_, fun amount others => .ingredient item rest own gross amount target read others⟩
    rw [grossIn_accumulate _ _ _ _ distinct, units_add]
    by_cases same : own = ingredientId
    · rw [if_pos same, if_pos same, inUnits]
    · rw [if_neg same, if_neg same]
      simp [units]
  next noIngredient =>
    split at exploded
    next noRecipe => simp [validateRecipeItem, noIngredient, noRecipe] at checked
    next sub target =>
      obtain ⟨-, exploded⟩ := refused_eq_ok.mp exploded
      split at exploded
      next => exact absurd exploded throw_ne_ok
      next recipe found =>
        rw [← isGross] at exactSub
        obtain ⟨subYield, yields, batch, needs, distinct', grown⟩ :=
          explodes recipe effectiveGross _ acc acc' (exactSub sub target recipe found) distinct
            exploded
        refine ⟨units gross / units subYield * batch, distinct', ?_, fun amount others =>
          .subRecipe item rest sub recipe gross subYield batch amount noIngredient target found
            read yields needs others⟩
        rw [grown, inUnits]
        ring

theorem explodeItems_grown (limit : Nat) (factor yieldScaled : Int) (visitedStack : List String)
    (items : List RecipeItem) (acc acc' : List ExplodedEntry)
    (explodes : Explodes resolver ingredientId limit) (positive : 0 < yieldScaled)
    (exact : ∀ item ∈ items, ExactItem resolver (Exact resolver limit) factor yieldScaled item)
    (distinct : Distinct acc)
    (exploded : items.foldlM (explodeItem resolver (explodeRecursive resolver limit) factor
      yieldScaled visitedStack) acc = .ok acc') :
    Grown resolver ingredientId acc acc' items (units factor / units yieldScaled) := by
  induction items generalizing acc with
  | nil =>
    obtain rfl := pure_eq_ok.mp exploded
    exact ⟨0, .nil, distinct, by ring⟩
  | cons item rest ih =>
    rw [foldlM_cons, bind_eq_ok] at exploded
    obtain ⟨middle, first, later⟩ := exploded
    obtain ⟨need, distinctMiddle, grown, needs⟩ := explodeItem_grown
      visitedStack acc middle rest explodes positive (exact item mem_cons_self) distinct
      first
    obtain ⟨batch, others, distinct', grownLater⟩ := ih middle
      (fun other member => exact other (mem_cons_of_mem _ member)) distinctMiddle later
    refine ⟨need + batch, needs batch others, distinct', ?_⟩
    rw [grownLater, grown]
    ring

theorem explodes (limit : Nat) : Explodes resolver ingredientId limit := by
  induction limit with
  | zero =>
    intro recipe factor visitedStack acc acc' _ _ exploded
    simp [explodeRecursive] at exploded
  | succ limit ih =>
    intro recipe factor visitedStack acc acc' exact distinct exploded
    simp only [explodeRecursive, bind_eq_ok] at exploded
    obtain ⟨yieldScaled, yields, exploded⟩ := exploded
    obtain ⟨-, positive⟩ := recipeYield_eq_ok yields
    exact ⟨yieldScaled, yields, explodeItems_grown limit factor yieldScaled visitedStack
      recipe.items acc acc' ih positive (ifOk_iff.mp exact yieldScaled yields) distinct
      exploded⟩

end Explosion

/-! ### The order -/

def totalOf (ingredientId : String) (items : List IngredientQuantity) : Int :=
  (items.map fun item => if item.ingredientId = ingredientId then item.grossScaled else 0).sum

theorem sum_of_distinct {α : Type} {key : α → String} (weight : α → Int) {rows : List α} {row : α}
    (distinct : (rows.map key).Nodup) (member : row ∈ rows) :
    (rows.map fun other => if key other = key row then weight other else 0).sum = weight row := by
  induction rows with
  | nil => simp at member
  | cons first rest ih =>
    rw [map_cons, nodup_cons] at distinct
    rcases mem_cons.mp member with rfl | later
    · have none : ∀ other ∈ rest, (if key other = key row then weight other else 0) = 0 := by
        intro other isOther
        rw [if_neg]
        exact fun same => distinct.1 (same ▸ mem_map_of_mem isOther)
      rw [map_cons, if_pos rfl, map_congr_left none]
      simp
    · have other : key first ≠ key row := fun same =>
        distinct.1 (same ▸ mem_map_of_mem later)
      rw [map_cons, sum_cons, if_neg other, Int.zero_add, ih distinct.2 later]

@[simp] theorem totalOf_append (ingredientId : String) (items more : List IngredientQuantity) :
    totalOf ingredientId (items ++ more) = totalOf ingredientId items + totalOf ingredientId more := by
  simp [totalOf]

theorem totalOf_filter (ingredientId own : String) (items : List IngredientQuantity) :
    totalOf ingredientId (items.filter fun item => item.ingredientId != own) =
      if own = ingredientId then 0 else totalOf ingredientId items := by
  induction items with
  | nil => simp [totalOf]
  | cons item rest ih =>
    by_cases same : item.ingredientId = own
    · by_cases counted : own = ingredientId <;> simp_all [totalOf]
    · by_cases counted : own = ingredientId
      · have other : item.ingredientId ≠ ingredientId := counted ▸ same
        simp_all [totalOf]
      · simp_all [totalOf]

theorem totalOf_find (own : String) {map : List IngredientQuantity}
    (distinct : (map.map ingredientId).Nodup) :
    (map.find? fun entry => entry.ingredientId == own).elim 0 grossScaled =
      totalOf own map := by
  cases found : map.find? fun entry => entry.ingredientId == own with
  | none =>
    have absent := find?_eq_none.mp found
    have zero : ∀ entry ∈ map, (if entry.ingredientId = own then entry.grossScaled else 0) = 0 :=
      fun entry member => if_neg fun same => absent entry member (beq_iff_eq.mpr same)
    simp [totalOf, map_congr_left zero]
  | some row =>
    obtain rfl : row.ingredientId = own := by simpa using find?_some found
    exact (sum_of_distinct grossScaled distinct (mem_of_find?_eq_some found)).symm

theorem addQuantity_eq_ok {map map' : List IngredientQuantity} {item : IngredientQuantity}
    (distinct : (map.map ingredientId).Nodup)
    (added : addQuantity map item = .ok map') :
    (map'.map ingredientId).Nodup ∧
      ∀ ingredientId, totalOf ingredientId map' =
        totalOf ingredientId map + totalOf ingredientId [item] := by
  simp only [addQuantity, addScale4, bind_eq_ok, pure_eq_ok] at added
  obtain ⟨total, checked, rfl⟩ := added
  have isTotal := checkRange_eq_ok checked
  rw [totalOf_find _ distinct] at isTotal
  constructor
  · rw [map_append, map_singleton]
    refine Table.nodup_append_singleton ((filter_sublist.map _).nodup distinct) ?_
    intro member
    obtain ⟨entry, kept, same⟩ := mem_map.mp member
    simp [same] at kept
  · intro ingredientId
    rw [totalOf_append, totalOf_filter]
    by_cases same : item.ingredientId = ingredientId
    · subst same
      simp [totalOf] at isTotal ⊢
      omega
    · simp [totalOf, same]

theorem aggregateIngredientQuantities_eq_ok {items aggregated : List IngredientQuantity}
    (accepted : aggregateIngredientQuantities items = .ok aggregated) :
    ∀ entry ∈ aggregated, entry.grossScaled = totalOf entry.ingredientId items := by
  simp only [aggregateIngredientQuantities, bind_eq_ok, pure_eq_ok] at accepted
  obtain ⟨map, folded, rfl⟩ := accepted
  have summed : ∀ (rest before : List IngredientQuantity) (map map' : List IngredientQuantity),
      (map.map ingredientId).Nodup →
      (∀ ingredientId, totalOf ingredientId map = totalOf ingredientId before) →
      rest.foldlM addQuantity map = .ok map' →
      (map'.map ingredientId).Nodup ∧
        ∀ ingredientId, totalOf ingredientId map' = totalOf ingredientId (before ++ rest) := by
    intro rest
    induction rest with
    | nil =>
      intro before map map' distinct totals folded
      obtain rfl := pure_eq_ok.mp folded
      simpa using ⟨distinct, totals⟩
    | cons item rest ih =>
      intro before map map' distinct totals folded
      rw [foldlM_cons, bind_eq_ok] at folded
      obtain ⟨middle, added, later⟩ := folded
      obtain ⟨distinctMiddle, totalsMiddle⟩ := addQuantity_eq_ok distinct added
      have grown := ih (before ++ [item]) middle map' distinctMiddle
        (fun ingredientId => by rw [totalsMiddle, totals, totalOf_append]) later
      simpa using grown
  obtain ⟨distinct, totals⟩ := summed items [] [] map nodup_nil (fun _ => rfl) folded
  intro entry member
  have isEntry : entry ∈ map := (mem_insertionSort _).mp member
  rw [nil_append] at totals
  rw [← totals]
  exact (sum_of_distinct grossScaled distinct isEntry).symm

theorem formatDecimal12x4_eq_ok {scaled : Int} {text : String}
    (formatted : formatDecimal12x4 scaled = .ok text) : text = scaledBigIntToDecimalString scaled := by
  unfold formatDecimal12x4 at formatted
  split at formatted
  next => exact (Except.ok.inj formatted).symm
  next => simp at formatted

theorem parseGross_formatted (entries : List ExplodedEntry) (exploded : List ExplodedIngredient)
    (base : List IngredientQuantity) (formatted : entries.mapM formatEntry = .ok exploded)
    (parsed : (exploded.map fun ingredient =>
      (⟨ingredient.ingredientId, ingredient.totalGrossQuantity⟩ : GrossIngredient)).mapM parseGross =
        .ok base) :
    base = entries.map fun entry => ⟨entry.ingredientId, entry.grossScaled⟩ := by
  induction entries generalizing exploded base with
  | nil =>
    obtain rfl := pure_eq_ok.mp formatted
    exact (pure_eq_ok.mp parsed).symm
  | cons entry rest ih =>
    simp only [mapM_cons, formatEntry, bind_eq_ok, pure_eq_ok] at formatted
    obtain ⟨_, ⟨net, -, gross, isGross, rfl⟩, others, isOthers, rfl⟩ := formatted
    simp only [map_cons, mapM_cons, parseGross, bind_eq_ok, pure_eq_ok] at parsed
    obtain ⟨_, ⟨value, read, rfl⟩, later, isLater, rfl⟩ := parsed
    rw [formatDecimal12x4_eq_ok isGross] at read
    rw [parseDecimal12x4_text _ _ read, map_cons, ih others later isOthers isLater]

/-- The last products are exact as well: the share of the batch, and each ingredient of it. -/
def ExactOrder (recipes : List Recipe) (limit : Nat) (recipe : Recipe) (quantity : Int) : Prop :=
  Exact (getRecipe recipes) limit recipe scaleFactor ∧
    Fallible.IfOk (fun yieldScaled =>
      yieldScaled ∣ quantity * scaleFactor ∧
      Fallible.IfOk (fun entries => ∀ entry ∈ entries,
        scaleFactor ∣ entry.grossScaled * roundQuotient (quantity * scaleFactor) yieldScaled)
        (explodeRecursive (getRecipe recipes) limit recipe scaleFactor [recipe.id] []))
      (recipeYield recipe)
deriving Decidable

def Depletes (book : RecipeBook) (event : KdsOrderProducedEvent) (ingredientId : String)
    (row : StockLedgerRow) : Prop :=
  ∃ aggregated entry cost priced db id priorBalance,
    resolveDepletion book none event = .ok (.ingredients aggregated) ∧
    entry ∈ aggregated ∧ entry.ingredientId = ingredientId ∧
    priceMovement (depletionMovement event entry) cost = .ok priced ∧
    ledgerRow db id priced priorBalance = .ok row

theorem Depletes.quantity (book : RecipeBook) (event : KdsOrderProducedEvent)
    (ingredientId : String)
    (row : StockLedgerRow) (depletes : Depletes book event ingredientId row) :
    ∃ aggregated entry, resolveDepletion book none event = .ok (.ingredients aggregated) ∧
      entry ∈ aggregated ∧ entry.ingredientId = ingredientId ∧
      row.quantityDelta = -entry.grossScaled := by
  obtain ⟨aggregated, entry, cost, priced, db, id, prior, resolved, member, isEntry, prices, made⟩ :=
    depletes
  refine ⟨aggregated, entry, resolved, member, isEntry, ?_⟩
  simp only [ledgerRow, bind_eq_ok, pure_eq_ok] at made
  obtain ⟨-, -, -, -, -, -, -, -, -, -, -, -, rfl⟩ := made
  exact (priceMovement_eq_ok prices).2

section Order

variable {recipes : List Recipe} {limit : Nat} {event : KdsOrderProducedEvent}
  {item : KdsOrderProducedItem} {recipe : Recipe} {quantity : Int}

def scaledEntries (factor : Int) (entries : List ExplodedEntry) : List IngredientQuantity :=
  (entries.insertionSort fun a b => Utf16.Le a.ingredientId b.ingredientId).map fun entry =>
    ⟨entry.ingredientId, multiplyScale4 entry.grossScaled factor⟩

theorem itemIngredients_eq_ok {raw : List IngredientQuantity}
    (found : getRecipeByProductId recipes item.productoId = some recipe)
    (read : parseDecimal12x4 item.cantidad = .ok quantity)
    (contributed : itemIngredients (recipeBook recipes limit) event item .none = .ok raw) :
    (quantity ≤ 0 ∧ raw = []) ∨
    ∃ yieldScaled entries, 0 < quantity ∧ recipeYield recipe = .ok yieldScaled ∧
      explodeRecursive (getRecipe recipes) limit recipe scaleFactor [recipe.id] [] = .ok entries ∧
      raw = scaledEntries (roundQuotient (quantity * scaleFactor) yieldScaled) entries := by
  simp only [itemIngredients, read, ok_bind] at contributed
  split at contributed
  next nonpositive => exact .inl ⟨nonpositive, (pure_eq_ok.mp contributed).symm⟩
  next positive =>
    simp only [findRecipe, recipeBook, found, Option.map_some, ok_bind,
      bind_eq_ok, pure_eq_ok] at contributed
    obtain ⟨yieldRead, readYield, factor, divided, exploded, explodes, base, parsed, rfl⟩ :=
      contributed
    have isFactor := divideScale4_eq_ok divided
    cases engine : explodeIngredients (getRecipe recipes) limit recipe with
    | error _ => simp [productRecipe, engine, Except.map] at explodes
    | ok ingredients =>
      have isExploded : exploded = ingredients.map fun ingredient =>
          ⟨ingredient.ingredientId, ingredient.totalGrossQuantity⟩ := by
        simpa [productRecipe, engine, Except.map] using explodes.symm
      simp only [explodeIngredients, bind_eq_ok] at engine
      obtain ⟨entries, walked, formatted⟩ := engine
      have yields : ∃ yieldScaled, recipeYield recipe = .ok yieldScaled := by
        cases limit with
        | zero => simp [explodeRecursive] at walked
        | succ limit =>
          simp only [explodeRecursive, bind_eq_ok] at walked
          obtain ⟨yieldScaled, yields, -⟩ := walked
          exact ⟨yieldScaled, yields⟩
      obtain ⟨yieldScaled, yields⟩ := yields
      obtain rfl : yieldRead = yieldScaled := Except.ok.inj
        (readYield.symm.trans (recipeYield_eq_ok yields).1)
      refine .inr ⟨yieldRead, entries, by omega, yields, walked, ?_⟩
      subst isExploded
      have isBase := parseGross_formatted _ _ base formatted (by simpa [ItemModifiers.none] using parsed)
      simp [isBase, scaledEntries, ItemModifiers.none, isFactor]

theorem resolveDepletion_plain {aggregated : List IngredientQuantity}
    (single : event.items = [item]) (plain : item.selectedModifiers = [])
    (resolved : resolveDepletion (recipeBook recipes limit) none event =
      .ok (.ingredients aggregated)) :
    ∃ raw, itemIngredients (recipeBook recipes limit) event item .none = .ok raw ∧
      aggregateIngredientQuantities raw = .ok aggregated := by
  have noModifiers : hasModifiers event = false := by simp [hasModifiers, single, plain]
  simp only [resolveDepletion, noModifiers, Bool.false_eq_true, if_false, single, map_cons,
    map_nil, bind_eq_ok, pure_eq_ok] at resolved
  obtain ⟨modifiers, rfl, resolved⟩ := resolved
  simp only [bind_eq_ok, pure_eq_ok, zip_cons_cons, zip_nil_right,
    mapM_cons, mapM_nil] at resolved
  obtain ⟨raws, ⟨raw, contributed, _, rfl, rfl⟩, added, isAdded, same⟩ := resolved
  obtain rfl : added = aggregated := by simpa using same
  exact ⟨raw, contributed, by simpa using isAdded⟩

theorem totalOf_scaledEntries (ingredientId : String) {factor : Int} {entries : List ExplodedEntry}
    (distinct : Distinct entries)
    (exact : ∀ entry ∈ entries, scaleFactor ∣ entry.grossScaled * factor) :
    units (totalOf ingredientId (scaledEntries factor entries)) =
      units (grossIn ingredientId entries) * units factor := by
  have sorted : totalOf ingredientId (scaledEntries factor entries) =
      (entries.map fun entry => if entry.ingredientId = ingredientId then
        multiplyScale4 entry.grossScaled factor else 0).sum := by
    rw [totalOf, scaledEntries, map_map]
    exact ((perm_insertionSort _ entries).map _).sum_eq
  rw [sorted, grossIn]
  by_cases present : ∃ entry ∈ entries, entry.ingredientId = ingredientId
  · obtain ⟨entry, member, rfl⟩ := present
    rw [sum_of_distinct (fun entry => multiplyScale4 entry.grossScaled factor) distinct member,
      sum_of_distinct ExplodedEntry.grossScaled distinct
        member, units_multiplyScale4 (exact entry member)]
  · have absent (weight : ExplodedEntry → Int) : (entries.map fun entry =>
        if entry.ingredientId = ingredientId then weight entry else 0).sum = 0 := by
      have zero : ∀ entry ∈ entries,
          (if entry.ingredientId = ingredientId then weight entry else 0) = 0 :=
        fun entry member => if_neg fun same => present ⟨entry, member, same⟩
      simp [map_congr_left zero]
    rw [absent, absent]
    simp [units]

/-- An order takes its share of the batch divided by the yield once more than it should; the two
agree exactly where the yield is one or nothing is needed. -/
theorem order_depletes_per_yield_squared (ingredientId : String) (row : StockLedgerRow)
    (single : event.items = [item]) (plain : item.selectedModifiers = [])
    (found : getRecipeByProductId recipes item.productoId = some recipe)
    (read : parseDecimal12x4 item.cantidad = .ok quantity)
    (exact : ExactOrder recipes limit recipe quantity)
    (depletes : Depletes (recipeBook recipes limit) event ingredientId row) :
    ∃ yieldScaled batch, recipeYield recipe = .ok yieldScaled ∧
      (∀ amount, Needs (getRecipe recipes) ingredientId recipe.items amount ↔ amount = batch) ∧
      units row.quantityDelta = -(units quantity * batch / units yieldScaled / units yieldScaled) ∧
      (units row.quantityDelta = -(units quantity * batch / units yieldScaled) ↔
        units yieldScaled = 1 ∨ batch = 0) := by
  obtain ⟨aggregated, entry, resolved, member, rfl, taken⟩ := depletes.quantity
  obtain ⟨raw, contributed, added⟩ := resolveDepletion_plain single plain resolved
  have isTotal := aggregateIngredientQuantities_eq_ok added entry member
  rcases itemIngredients_eq_ok found read contributed with
    ⟨-, rfl⟩ | ⟨yieldScaled, entries, positive, yields, walked, rfl⟩
  · obtain rfl := pure_eq_ok.mp added
    simp at member
  · obtain ⟨exactDown, exactLast⟩ := exact
    obtain ⟨exactShare, exactEntries⟩ := ifOk_iff.mp exactLast yieldScaled yields
    obtain ⟨-, positiveYield⟩ := recipeYield_eq_ok yields
    obtain ⟨again, yieldsToo, batch, needs, distinct, grown⟩ :=
      explodes limit recipe scaleFactor [recipe.id] [] entries exactDown nodup_nil walked
    obtain rfl : again = yieldScaled := Except.ok.inj (yieldsToo.symm.trans yields)
    have one : units scaleFactor = 1 := by norm_num [units, scaleFactor]
    have none : units (grossIn entry.ingredientId []) = 0 := by simp [grossIn, units]
    rw [one, none] at grown
    have amount : units row.quantityDelta =
        -(units quantity * batch / units again / units again) := by
      have negated : units (-entry.grossScaled) = -units entry.grossScaled := by
        rw [units, units]
        push_cast
        ring
      rw [taken, negated, isTotal, totalOf_scaledEntries _ distinct
          (ifOk_iff.mp exactEntries entries walked),
        grown, units_divide (by omega) exactShare]
      ring
    refine ⟨again, batch, yields, fun other => ⟨fun needsToo => needsToo.unique _ _ _ _ _ needs, ?_⟩,
      amount, ?_⟩
    · rintro rfl
      exact needs
    · have quantityUnits : 0 < units quantity := by
        rw [units]
        positivity
      have yieldUnits : 0 < units again := by
        rw [units]
        positivity
      rw [amount, neg_inj, div_eq_iff yieldUnits.ne']
      rw [eq_comm, mul_right_eq_self₀]
      simp [quantityUnits.ne', yieldUnits.ne']

end Order

/-! ### A recipe with a sub-recipe -/

def sampleBroth : String := Uuid.write 5

variable (yieldQuantity : String)

/-- A batch of the dish takes a litre of broth, and half a litre more through the sauce. -/
def sampleDish : Recipe :=
  { id := "dish", productId := some 1, yieldQuantity := yieldQuantity, isActive := true
    items := [⟨"a", some sampleBroth, none, "1.0000", "1.0000"⟩,
      ⟨"b", none, some "sauce", "1.0000", "1.0000"⟩] }

def sampleSauce : Recipe :=
  { id := "sauce", productId := none, yieldQuantity := "2.0000", isActive := true
    items := [⟨"c", some sampleBroth, none, "1.0000", "1.0000"⟩] }

def sampleRecipes : List Recipe := [sampleDish yieldQuantity, sampleSauce]

def sampleDishes : KdsOrderProducedItem := ⟨Uuid.write 1, "2.0000", []⟩

def sampleProduced : KdsOrderProducedEvent :=
  ⟨Uuid.write 2, Uuid.write 3, Uuid.write 4, "o1", [sampleDishes]⟩

/-- What two dishes take of the broth, at a cost of one, from ten litres in stock. -/
def sampleTaken (gross : Int) : StockLedgerRow :=
  { id := 9, key := ⟨2, 3, 4, 5⟩, movementType := .consumoKds, referenceEventId := "o1"
    quantityDelta := -gross, unitCost := 10000, totalCost := gross, balanceAfter := 100000 - gross
    movementSequenceNumber := 1 }

def sampleDepletion (gross : Int) : Prop :=
  resolveDepletion (recipeBook (sampleRecipes yieldQuantity) 3) none sampleProduced =
      .ok (.ingredients [⟨sampleBroth, gross⟩]) ∧
    ((priceMovement (depletionMovement sampleProduced ⟨sampleBroth, gross⟩) (some "1.0000")).bind
      fun priced => ledgerRow .empty 9 priced 100000) = .ok (sampleTaken gross)
deriving Decidable

theorem sampleDepletion.depletes (gross : Int) (run : sampleDepletion yieldQuantity gross) :
    Depletes (recipeBook (sampleRecipes yieldQuantity) 3) sampleProduced sampleBroth
      (sampleTaken gross) := by
  obtain ⟨resolved, written⟩ := run
  obtain ⟨priced, prices, made⟩ := bind_eq_ok.mp written
  exact ⟨_, _, _, priced, _, _, _, resolved, mem_singleton_self _, rfl, prices, made⟩

def sampleReads (yieldScaled : Int) : Prop :=
  given (some sampleBroth) = some sampleBroth ∧ given (some "sauce") = some "sauce" ∧
    getRecipe (sampleRecipes yieldQuantity) "sauce" = some sampleSauce ∧
    getRecipeByProductId (sampleRecipes yieldQuantity) sampleDishes.productoId =
      some (sampleDish yieldQuantity) ∧
    parseDecimal12x4 "1.0000" = .ok 10000 ∧ parseDecimal12x4 "2.0000" = .ok 20000 ∧
    recipeYield sampleSauce = .ok 20000 ∧ recipeYield (sampleDish yieldQuantity) = .ok yieldScaled ∧
    ExactOrder (sampleRecipes yieldQuantity) 3 (sampleDish yieldQuantity) 20000
deriving Decidable

theorem sampleReads.needs (yieldScaled : Int) (reads : sampleReads yieldQuantity yieldScaled) :
    Needs (getRecipe (sampleRecipes yieldQuantity)) sampleBroth (sampleDish yieldQuantity).items
      (3 / 2) := by
  obtain ⟨broth, sauce, found, -, one, -, two, -⟩ := reads
  have nothing : Needs (getRecipe (sampleRecipes yieldQuantity)) sampleBroth [] 0 := .nil
  have inSauce := Needs.ingredient ⟨"c", some sampleBroth, none, "1.0000", "1.0000"⟩ [] _ _ _ broth
    one nothing
  have inDish := Needs.ingredient ⟨"a", some sampleBroth, none, "1.0000", "1.0000"⟩ _ _ _ _ broth
    one (.subRecipe ⟨"b", none, some "sauce", "1.0000", "1.0000"⟩ [] _ _ _ _ _ _ rfl sauce found
      one two inSauce nothing)
  have amount : (if sampleBroth = sampleBroth then units 10000 else 0) +
      (units 10000 / units 20000 *
        ((if sampleBroth = sampleBroth then units 10000 else 0) + 0) + 0) = 3 / 2 := by
    norm_num [units]
  exact amount ▸ inDish

/-- Two dishes are one batch, and take half of what a batch needs. -/
theorem batch_of_two_takes_half :
    sampleProduced.items = [sampleDishes] ∧ sampleDishes.selectedModifiers = [] ∧
    sampleReads "2.0000" 20000 ∧
    Needs (getRecipe (sampleRecipes "2.0000")) sampleBroth (sampleDish "2.0000").items (3 / 2) ∧
    Depletes (recipeBook (sampleRecipes "2.0000") 3) sampleProduced sampleBroth (sampleTaken 7500) ∧
    units (sampleTaken 7500).quantityDelta = -(3 / 4) ∧
    -(units 20000 * (3 / 2) / units 20000) = -(3 / 2) := by
  obtain ⟨reads, run⟩ : sampleReads "2.0000" 20000 ∧ sampleDepletion "2.0000" 7500 := by
    decide +kernel
  exact ⟨rfl, rfl, reads, reads.needs, run.depletes, by norm_num [units, sampleTaken],
    by norm_num [units]⟩

/-- With a yield of one, two dishes take twice what a batch needs, through the sauce as well. -/
theorem batches_of_one_take_their_need :
    units (sampleTaken 30000).quantityDelta = -3 ∧
    ∃ yieldScaled batch, recipeYield (sampleDish "1.0000") = .ok yieldScaled ∧
      (∀ amount, Needs (getRecipe (sampleRecipes "1.0000")) sampleBroth (sampleDish "1.0000").items
        amount ↔ amount = batch) ∧
      units (sampleTaken 30000).quantityDelta =
        -(units 20000 * batch / units yieldScaled / units yieldScaled) ∧
      (units (sampleTaken 30000).quantityDelta = -(units 20000 * batch / units yieldScaled) ↔
        units yieldScaled = 1 ∨ batch = 0) := by
  obtain ⟨⟨-, -, -, found, -, read, -, -, exact⟩, run⟩ :
      sampleReads "1.0000" 10000 ∧ sampleDepletion "1.0000" 30000 := by
    decide +kernel
  exact ⟨by norm_num [units, sampleTaken], order_depletes_per_yield_squared sampleBroth
    (sampleTaken 30000) rfl rfl found read exact run.depletes⟩

end TridentPos.Inventory
