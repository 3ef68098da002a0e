import TridentPos.Inventory.Domain

/-!
# The ingredients a produced order depletes

Steps 3 to 5 of `applyKdsDepletionLockedWithClient`. The recipes are read as the product's own
recipe with its explosion into base ingredients; the resolver of modifiers is injected by the
caller. An order with a modifier nobody can resolve is put in quarantine as a whole.
-/
namespace TridentPos.Inventory

open Core Library

structure SelectedModifier where
  modifierId : String
  quantity : Option String

structure KdsOrderProducedItem where
  (productoId cantidad : String)
  selectedModifiers : List SelectedModifier

structure KdsOrderProducedEvent where
  (organizacionId sucursalId centroConsumoId ordenId : String)
  items : List KdsOrderProducedItem

structure GrossIngredient where
  (ingredientId grossQuantity : String)

structure ResolvedModifierImpact where
  additionalIngredients : List GrossIngredient
  removedIngredients : List String

/-- Organization, recipe, modifier and quantity to the impact; nothing for a modifier that is
unknown or whose resolution throws. -/
abbrev ModifierRecipeResolver := String → String → String → String → Option ResolvedModifierImpact

/-- The recipe of a product and what `RecipeEngine.explodeIngredients` makes of it. -/
structure ProductRecipe where
  (id yieldQuantity : String)
  exploded : Except InventoryError (List GrossIngredient)

abbrev RecipeBook := String → Option ProductRecipe

def recipeNotFoundError (event : KdsOrderProducedEvent) (item : KdsOrderProducedItem) :
    InventoryError :=
  ⟨.recipeNotFound, "Recipe 'No recipe found for product '" ++ item.productoId ++
    "' in organization '" ++ event.organizacionId ++ "'' not found"⟩

def findRecipe (book : RecipeBook) (event : KdsOrderProducedEvent) (item : KdsOrderProducedItem) :
    Except InventoryError ProductRecipe :=
  match book item.productoId with
  | none => .error (recipeNotFoundError event item)
  | some recipe => .ok recipe

/-! ### Modifiers -/

structure ItemModifiers where
  removedIngredientIds : List String
  additionalItems : List IngredientQuantity

def ItemModifiers.none : ItemModifiers := ⟨[], []⟩

def parseGross (ingredient : GrossIngredient) : Except InventoryError IngredientQuantity := do
  let gross ← parseDecimal12x4 ingredient.grossQuantity
  return ⟨ingredient.ingredientId, gross⟩

def resolveModifiers (resolver : ModifierRecipeResolver) (organizationId recipeId : String) :
    List SelectedModifier → ItemModifiers → Except InventoryError (Option ItemModifiers)
  | [], resolved => return some resolved
  | modifier :: rest, resolved =>
    match resolver organizationId recipeId modifier.modifierId
        (modifier.quantity.getD "1.0000") with
    | none => return none
    | some impact => do
      let additional ← impact.additionalIngredients.mapM parseGross
      resolveModifiers resolver organizationId recipeId rest
        ⟨resolved.removedIngredientIds ++ impact.removedIngredients,
          resolved.additionalItems ++ additional⟩

def resolveItems (book : RecipeBook) (resolver : ModifierRecipeResolver)
    (event : KdsOrderProducedEvent) :
    List KdsOrderProducedItem → Except InventoryError (Option (List ItemModifiers))
  | [] => return some []
  | item :: rest => do
    let own ←
      if item.selectedModifiers.isEmpty then pure (some ItemModifiers.none)
      else do
        let recipe ← findRecipe book event item
        resolveModifiers resolver event.organizacionId recipe.id item.selectedModifiers .none
    match own with
    | none => return none
    | some modifiers =>
      let others ← resolveItems book resolver event rest
      return others.map (modifiers :: ·)

/-! ### Ingredients -/

def itemIngredients (book : RecipeBook) (event : KdsOrderProducedEvent)
    (item : KdsOrderProducedItem) (modifiers : ItemModifiers) :
    Except InventoryError (List IngredientQuantity) := do
  let quantity ← parseDecimal12x4 item.cantidad
  if quantity ≤ 0 then return []
  else
    let recipe ← findRecipe book event item
    let yieldScaled ← parseDecimal12x4 recipe.yieldQuantity
    let factor ← divideScale4 quantity yieldScaled
    let exploded ← recipe.exploded
    let kept := exploded.filter fun ingredient =>
      !modifiers.removedIngredientIds.contains ingredient.ingredientId
    let base ← kept.mapM parseGross
    return (base ++ modifiers.additionalItems).map fun ingredient =>
      { ingredient with grossScaled := multiplyScale4 ingredient.grossScaled factor }

inductive Resolution where
  | quarantined
  | ingredients (aggregated : List IngredientQuantity)
deriving DecidableEq

def hasModifiers (event : KdsOrderProducedEvent) : Bool :=
  event.items.any fun item => !item.selectedModifiers.isEmpty

def resolveDepletion (book : RecipeBook) (resolver : Option ModifierRecipeResolver)
    (event : KdsOrderProducedEvent) : Except InventoryError Resolution := do
  let resolved ←
    if hasModifiers event then
      match resolver with
      | none => pure none
      | some resolver => resolveItems book resolver event event.items
    else pure (some (event.items.map fun _ => ItemModifiers.none))
  match resolved with
  | none => return .quarantined
  | some modifiers =>
    let raw ← (event.items.zip modifiers).mapM fun (item, own) => itemIngredients book event item own
    let aggregated ← aggregateIngredientQuantities raw.flatten
    return .ingredients aggregated

end TridentPos.Inventory
