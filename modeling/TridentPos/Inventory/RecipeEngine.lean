import TridentPos.Inventory.Depletion
import TridentPos.Library.Table
import TridentPos.Library.Uuid

/-!
# The explosion of recipes

`RecipeEngine.explodeIngredients` walks a recipe down to its raw ingredients. Every recipe on the
way is normalised by its own yield, the first one included, so what it returns is the need of one
unit of the recipe, not of one batch.
-/
namespace TridentPos.Inventory

open Core Library Fallible

structure RecipeItem where
  id : String
  (ingredientId subRecipeId : Option String)
  (quantity grossQuantity : String)
deriving DecidableEq

structure Recipe where
  id : String
  productId : Option Uuid
  yieldQuantity : String
  isActive : Bool
  items : List RecipeItem
deriving DecidableEq

abbrev RecipeResolver := String → Option Recipe

structure ExplodedEntry where
  ingredientId : String
  (netScaled grossScaled : Int)
deriving DecidableEq

structure ExplodedIngredient where
  (ingredientId totalQuantity totalGrossQuantity : String)
deriving DecidableEq

def given (id : Option String) : Option String := id.filter fun text => text != ""

def validateRecipeItem (item : RecipeItem) : Except InventoryError Unit :=
  if (given item.ingredientId).isSome = (given item.subRecipeId).isSome then
    .error ⟨.invalidRecipeItem, "Recipe item '" ++ item.id ++
      "' violates exclusive target constraint: exactly one of ingredientId or subRecipeId must be " ++
      "set."⟩
  else .ok ()

def accumulate (acc : List ExplodedEntry) (ingredientId : String) (net gross : Int) :
    List ExplodedEntry :=
  Table.upsert (fun entry => entry.ingredientId == ingredientId)
    (fun entry => { entry with
      netScaled := entry.netScaled + net, grossScaled := entry.grossScaled + gross })
    ⟨ingredientId, net, gross⟩ acc

def cycleDetectedError (cyclePath : List String) : InventoryError :=
  ⟨.cycleDetected, "Direct or indirect cycle detected in recipe explosion graph: " ++
    " -> ".intercalate cyclePath⟩

def recipeYield (recipe : Recipe) : Except InventoryError Int := do
  if recipe.yieldQuantity = "" then
    throw ⟨.zeroDivisor, "Recipe '" ++ recipe.id ++
      "' has invalid or missing yieldQuantity '" ++ recipe.yieldQuantity ++ "'"⟩
  let yieldScaled ← parseDecimal12x4 recipe.yieldQuantity
  if yieldScaled ≤ 0 then
    throw ⟨.zeroDivisor, "Recipe '" ++ recipe.id ++
      "' has invalid or non-positive yieldQuantity '" ++ recipe.yieldQuantity ++ "'"⟩
  return yieldScaled

theorem recipeYield_eq_ok {recipe : Recipe} {yieldScaled : Int}
    (yields : recipeYield recipe = .ok yieldScaled) :
    parseDecimal12x4 recipe.yieldQuantity = .ok yieldScaled ∧ 0 < yieldScaled := by
  simp only [recipeYield, guard_eq_ok, bind_eq_ok, pure_eq_ok] at yields
  obtain ⟨-, value, read, positive, rfl⟩ := yields
  exact ⟨read, by omega⟩

/-- What the loop does with one item. `explode` is the recursive call. -/
def explodeItem (resolver : RecipeResolver)
    (explode : Recipe → Int → List String → List ExplodedEntry →
      Except InventoryError (List ExplodedEntry))
    (factor yieldScaled : Int) (visitedStack : List String) (acc : List ExplodedEntry)
    (item : RecipeItem) : Except InventoryError (List ExplodedEntry) := do
  validateRecipeItem item
  let itemNet ← parseDecimal12x4 item.quantity
  let itemGross ← parseDecimal12x4 item.grossQuantity
  let effectiveNet ← divideScale4 (multiplyScale4 factor itemNet) yieldScaled
  let effectiveGross ← divideScale4 (multiplyScale4 factor itemGross) yieldScaled
  match given item.ingredientId with
  | some ingredientId => return accumulate acc ingredientId effectiveNet effectiveGross
  | none =>
    match given item.subRecipeId with
    | none => return acc
    | some subRecipeId =>
      if visitedStack.contains subRecipeId then
        throw (cycleDetectedError (visitedStack ++ [subRecipeId]))
      else
        match resolver subRecipeId with
        | none => throw ⟨.recipeNotFound, "Recipe '" ++ subRecipeId ++ "' not found"⟩
        | some subRecipe => explode subRecipe effectiveGross (visitedStack ++ [subRecipeId]) acc

def stackError : InventoryError := ⟨.rangeError, "Maximum call stack size exceeded"⟩

/-- `#explodeRecursive`, at most `limit` calls deep. -/
def explodeRecursive (resolver : RecipeResolver) :
    Nat → Recipe → Int → List String → List ExplodedEntry →
      Except InventoryError (List ExplodedEntry)
  | 0, _, _, _, _ => .error stackError
  | limit + 1, recipe, factor, visitedStack, acc => do
    let yieldScaled ← recipeYield recipe
    recipe.items.foldlM
      (explodeItem resolver (explodeRecursive resolver limit) factor yieldScaled visitedStack) acc

def formatEntry (entry : ExplodedEntry) : Except InventoryError ExplodedIngredient := do
  let totalQuantity ← formatDecimal12x4 entry.netScaled
  let totalGrossQuantity ← formatDecimal12x4 entry.grossScaled
  return ⟨entry.ingredientId, totalQuantity, totalGrossQuantity⟩

def explodeIngredients (resolver : RecipeResolver) (limit : Nat) (recipe : Recipe) :
    Except InventoryError (List ExplodedIngredient) := do
  let entries ← explodeRecursive resolver limit recipe scaleFactor [recipe.id] []
  (entries.insertionSort fun a b => Utf16.Le a.ingredientId b.ingredientId).mapM formatEntry

/-! ### The recipes of an organization -/

variable (recipes : List Recipe)

def getRecipe : RecipeResolver :=
  fun id => recipes.find? fun recipe => recipe.id == id

def getRecipeByProductId (productId : String) : Option Recipe := do
  let product ← Uuid.read productId
  let found ← recipes.find? fun recipe => recipe.productId == some product && recipe.isActive
  getRecipe recipes found.id

def productRecipe (limit : Nat) (recipe : Recipe) : ProductRecipe :=
  { id := recipe.id, yieldQuantity := recipe.yieldQuantity
    exploded := (explodeIngredients (getRecipe recipes) limit recipe).map fun exploded =>
      exploded.map fun ingredient => ⟨ingredient.ingredientId, ingredient.totalGrossQuantity⟩ }

def recipeBook (limit : Nat) : RecipeBook :=
  fun productId => (getRecipeByProductId recipes productId).map (productRecipe recipes limit)

end TridentPos.Inventory
