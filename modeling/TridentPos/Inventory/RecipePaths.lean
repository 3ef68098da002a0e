import TridentPos.Inventory.RecipeEngine
import TridentPos.Library.Grouping
import Mathlib.Data.List.Sigma
import Mathlib.Algebra.Order.BigOperators.Group.Finset

/-!
# Paths through recipes

What `explodeIngredients` computes, said without its recursion: a path is a list of positions, one
in each recipe on the way down to an ingredient, and an ingredient gets the sum of the scaled
quantities of the paths that end at it. The walk keeps the ids of the recipes it is inside of, and
it refuses a recipe just when one of its paths comes back to such an id.
-/
namespace TridentPos.Inventory

open Core Library Fallible ExplodedEntry List

/-! ### Recipes that can be read -/

/-- The quantities of an item; the texts of valid items can be read. -/
def RecipeItem.net (item : RecipeItem) : Int := (parseDecimal12x4 item.quantity).toOption.getD 0

def RecipeItem.gross (item : RecipeItem) : Int :=
  (parseDecimal12x4 item.grossQuantity).toOption.getD 0

def Recipe.yieldScaled (recipe : Recipe) : Int := (recipeYield recipe).toOption.getD 1

def RecipeItem.subRecipe (item : RecipeItem) : Option String :=
  match given item.ingredientId with
  | some _ => none
  | none => given item.subRecipeId

@[mk_iff] structure RecipeItem.Valid (item : RecipeItem) : Prop where
  target : validateRecipeItem item = .ok ()
  quantity : parseDecimal12x4 item.quantity = .ok item.net
  grossQuantity : parseDecimal12x4 item.grossQuantity = .ok item.gross

structure RecipeStore where
  resolver : RecipeResolver
  ids : List String
  resolves : ∀ id ∈ ids, ∃ recipe, resolver id = some recipe
  yields : ∀ id ∈ ids, ∀ recipe, resolver id = some recipe →
    recipeYield recipe = .ok recipe.yieldScaled
  valid : ∀ id ∈ ids, ∀ recipe, resolver id = some recipe → ∀ item ∈ recipe.items, item.Valid
  closed : ∀ id ∈ ids, ∀ recipe, resolver id = some recipe → ∀ item ∈ recipe.items,
    ∀ sub, item.subRecipe = some sub → sub ∈ ids

instance (item : RecipeItem) : Decidable item.Valid :=
  decidable_of_iff' _ (RecipeItem.valid_iff item)

def RecipeStore.ofRecipes (recipes : List Recipe)
    (checked : ∀ recipe ∈ recipes, recipeYield recipe = .ok recipe.yieldScaled ∧
      ∀ item ∈ recipe.items, item.Valid ∧
        ∀ sub ∈ item.subRecipe, sub ∈ recipes.map Recipe.id) : RecipeStore where
  resolver := getRecipe recipes
  ids := recipes.map Recipe.id
  resolves := by
    intro id listed
    obtain ⟨recipe, member, rfl⟩ := mem_map.mp listed
    have found : (recipes.find? fun other => other.id == recipe.id).isSome :=
      find?_isSome.mpr ⟨recipe, member, by simp⟩
    exact Option.isSome_iff_exists.mp found
  yields := fun _ _ recipe found => (checked recipe (mem_of_find?_eq_some found)).1
  valid := fun _ _ recipe found item member =>
    ((checked recipe (mem_of_find?_eq_some found)).2 item member).1
  closed := fun _ _ recipe found item member sub isSub =>
    ((checked recipe (mem_of_find?_eq_some found)).2 item member).2 sub isSub

structure RecipeStore.Holds (store : RecipeStore) (recipe : Recipe) : Prop where
  listed : recipe.id ∈ store.ids
  found : store.resolver recipe.id = some recipe

/-! ### Cycles -/

variable (resolver : RecipeResolver)

def RefersTo (id sub : String) : Prop :=
  ∃ recipe, resolver id = some recipe ∧ ∃ item ∈ recipe.items, item.subRecipe = some sub

def CycleReachable (id : String) : Prop :=
  ∃ node, Relation.ReflTransGen (RefersTo resolver) id node ∧
    Relation.TransGen (RefersTo resolver) node node

/-! ### Paths -/

/-- One step of a path: `multiplyScale4`, then `divideScale4` by the yield. -/
def scaledBy (factor quantity yieldScaled : Int) : Int :=
  roundQuotient (multiplyScale4 factor quantity * scaleFactor) yieldScaled

def RecipeItem.entry (item : RecipeItem) (ingredientId : String) (factor yieldScaled : Int) :
    ExplodedEntry :=
  ⟨ingredientId, scaledBy factor item.net yieldScaled, scaledBy factor item.gross yieldScaled⟩

/-- Where a path ends and its scaled quantities; the steps inside are scaled by gross quantities. -/
def pathEntry (resolver : RecipeResolver) : Recipe → Int → List Nat → Option ExplodedEntry
  | _, _, [] => none
  | recipe, factor, position :: path => do
    let item ← recipe.items[position]?
    match given item.ingredientId with
    | some ingredientId =>
      if path = [] then some (item.entry ingredientId factor recipe.yieldScaled) else none
    | none =>
      let sub ← given item.subRecipeId
      let recipe' ← resolver sub
      pathEntry resolver recipe' (scaledBy factor item.gross recipe.yieldScaled) path

/-- The paths of at most `limit` steps that start with the item, with their entries. -/
def itemPaths (walk : Recipe → Int → List (List Nat × ExplodedEntry))
    (factor yieldScaled : Int) (item : RecipeItem) : List (List Nat × ExplodedEntry) :=
  match given item.ingredientId with
  | some ingredientId => [([], item.entry ingredientId factor yieldScaled)]
  | none =>
    match (given item.subRecipeId).bind resolver with
    | none => []
    | some recipe' => walk recipe' (scaledBy factor item.gross yieldScaled)

def pathsWithin (resolver : RecipeResolver) :
    Nat → Recipe → Int → List (List Nat × ExplodedEntry)
  | 0, _, _ => []
  | limit + 1, recipe, factor =>
    recipe.items.zipIdx.flatMap fun (item, position) =>
      (itemPaths resolver (pathsWithin resolver limit) factor recipe.yieldScaled item).map
        fun (path, entry) => (position :: path, entry)

theorem mem_pathsWithin (limit : Nat) (recipe : Recipe) (factor : Int) (path : List Nat)
    (entry : ExplodedEntry) :
    (path, entry) ∈ pathsWithin resolver limit recipe factor ↔
      path.length ≤ limit ∧ pathEntry resolver recipe factor path = some entry := by
  induction limit generalizing recipe factor path entry with
  | zero =>
    cases path <;> simp [pathsWithin, pathEntry]
  | succ limit ih =>
    simp only [pathsWithin, mem_flatMap, mem_map, Prod.exists, Prod.mk.injEq,
      mem_zipIdx_iff_getElem?]
    constructor
    · rintro ⟨item, position, isItem, inner, _, isInner, rfl, rfl⟩
      unfold itemPaths at isInner
      split at isInner
      next ingredientId target =>
        simp only [mem_singleton, Prod.mk.injEq] at isInner
        obtain ⟨rfl, rfl⟩ := isInner
        simp [pathEntry, isItem, target]
      next noIngredient =>
        split at isInner
        next => simp at isInner
        next recipe' found =>
          obtain ⟨short, isEntry⟩ := (ih _ _ _ _).mp isInner
          obtain ⟨sub, target, resolved⟩ := Option.bind_eq_some_iff.mp found
          simp [pathEntry, isItem, noIngredient, target, resolved, isEntry, short]
    · rintro ⟨short, isEntry⟩
      cases path with
      | nil => simp [pathEntry] at isEntry
      | cons position path =>
        simp only [pathEntry, Option.bind_eq_bind, Option.bind_eq_some_iff] at isEntry
        obtain ⟨item, isItem, rest⟩ := isEntry
        refine ⟨item, position, isItem, path, entry, ?_, rfl, rfl⟩
        unfold itemPaths
        split at rest
        next ingredientId target =>
          split at rest
          next ends => simpa [ends] using rest.symm
          next => simp at rest
        next noIngredient =>
          simp only [Option.bind_eq_some_iff] at rest
          obtain ⟨sub, target, recipe', resolved, isEntry⟩ := rest
          simp only [target, Option.bind_some, resolved]
          exact (ih _ _ _ _).mpr ⟨by simpa using short, isEntry⟩

theorem pathsWithin_entries (limit : Nat) (recipe : Recipe) (factor : Int) :
    (pathsWithin resolver (limit + 1) recipe factor).map Prod.snd =
      recipe.items.flatMap fun item =>
        (itemPaths resolver (pathsWithin resolver limit) factor recipe.yieldScaled item).map
          Prod.snd := by
  conv_rhs => rw [← zipIdx_map_fst 0 recipe.items, flatMap_map]
  simp only [pathsWithin, map_flatMap, map_map]
  rfl

theorem nodup_pathsWithin (limit : Nat) (recipe : Recipe) (factor : Int) :
    ((pathsWithin resolver limit recipe factor).map Prod.fst).Nodup := by
  induction limit generalizing recipe factor with
  | zero => exact .nil
  | succ limit ih =>
    have each (item : RecipeItem) : ((itemPaths resolver (pathsWithin resolver limit) factor
        recipe.yieldScaled item).map Prod.fst).Nodup := by
      unfold itemPaths
      split
      next => exact nodup_singleton _
      next =>
        split
        next => exact .nil
        next => exact ih _ _
    simp only [pathsWithin, map_flatMap, map_map]
    refine nodup_flatMap.mpr ⟨?_, ?_⟩
    · rintro ⟨item, position⟩ -
      have consed : (Prod.fst ∘ fun x : List Nat × ExplodedEntry => (position :: x.1, x.2)) =
          List.cons position ∘ Prod.fst := rfl
      rw [consed, ← map_map]
      exact (each item).map (cons_injective)
    · -- paths through different items start at different positions
      have positions := pairwise_map.mp (nodup_zipIdx_map_snd recipe.items)
      refine positions.imp fun {a b} apart => ?_
      intro path ofFirst ofSecond
      obtain ⟨_, -, rfl⟩ := mem_map.mp ofFirst
      obtain ⟨_, -, same⟩ := mem_map.mp ofSecond
      exact apart (head_eq_of_cons_eq same).symm

/-! ### The walk follows every path -/

def byIngredient : Grouping ExplodedEntry ExplodedEntry String where
  key := ingredientId
  rowKey := ingredientId
  empty := fun ingredientId => ⟨ingredientId, 0, 0⟩
  record := fun entry row =>
    { row with
      netScaled := row.netScaled + entry.netScaled
      grossScaled := row.grossScaled + entry.grossScaled }
  rowKey_empty := fun _ => rfl
  rowKey_record := fun _ _ => rfl

variable {item : RecipeItem} (acc : List ExplodedEntry)

theorem accumulate_eq (entry : ExplodedEntry) :
    accumulate acc entry.ingredientId entry.netScaled entry.grossScaled =
      byIngredient.add acc entry := by
  simp [accumulate, Grouping.add, byIngredient]

theorem byIngredient_rowOf (ingredientId : String) (entries : List ExplodedEntry) :
    byIngredient.rowOf ingredientId entries =
      ⟨ingredientId,
        ((entries.filter fun entry => entry.ingredientId == ingredientId).map netScaled).sum,
        ((entries.filter fun entry => entry.ingredientId == ingredientId).map
          grossScaled).sum⟩ := by
  have loop (xs : List ExplodedEntry) (row : ExplodedEntry) :
      xs.foldl (fun row entry => byIngredient.record entry row) row =
        ⟨row.ingredientId, row.netScaled + (xs.map netScaled).sum,
          row.grossScaled + (xs.map grossScaled).sum⟩ := by
    induction xs generalizing row with
    | nil => simp
    | cons entry xs ih =>
      rw [foldl_cons, ih]
      simp only [byIngredient, map_cons, sum_cons, mk.injEq, true_and]
      omega
  rw [Grouping.rowOf, loop]
  simp [byIngredient]

variable {resolver other : RecipeResolver} {visitedStack : List String}

theorem explodeItem_eq_ok
    {explode : Recipe → Int → List String → List ExplodedEntry →
      Except InventoryError (List ExplodedEntry)} {factor yieldScaled : Int}
    {acc acc' : List ExplodedEntry}
    (accepted : explodeItem resolver explode factor yieldScaled visitedStack acc item = .ok acc') :
    (∃ ingredientId, given item.ingredientId = some ingredientId ∧
      acc' = byIngredient.add acc (item.entry ingredientId factor yieldScaled)) ∨
    given item.ingredientId = none ∧ ∃ sub recipe', given item.subRecipeId = some sub ∧
      resolver sub = some recipe' ∧
      explode recipe' (scaledBy factor item.gross yieldScaled) (visitedStack ++ [sub]) acc =
        .ok acc' := by
  simp only [explodeItem, bind_eq_ok] at accepted
  obtain ⟨_, valid, net, isNet, gross, isGross, scaledNet, dividedNet, scaledGross, dividedGross,
    rest⟩ := accepted
  have netRead : item.net = net := by simp [RecipeItem.net, isNet, Except.toOption]
  have grossRead : item.gross = gross := by simp [RecipeItem.gross, isGross, Except.toOption]
  obtain rfl := divideScale4_eq_ok dividedNet
  obtain rfl := divideScale4_eq_ok dividedGross
  split at rest
  next ingredientId target =>
    left
    refine ⟨ingredientId, target, ?_⟩
    rw [← accumulate_eq, ← pure_eq_ok.mp rest]
    simp [RecipeItem.entry, scaledBy, netRead, grossRead]
  next noIngredient =>
    refine .inr ⟨noIngredient, ?_⟩
    split at rest
    next noTarget => simp [validateRecipeItem, noIngredient, noTarget] at valid
    next sub target =>
      split at rest
      next => exact absurd rest throw_ne_ok
      split at rest
      next => exact absurd rest throw_ne_ok
      next recipe' found =>
        refine ⟨sub, recipe', target, found, ?_⟩
        rw [grossRead]
        exact rest

theorem explodeRecursive_eq_ok (resolver : RecipeResolver) (limit : Nat) (recipe : Recipe)
    (factor : Int) (visitedStack : List String) (acc acc' : List ExplodedEntry)
    (exploded : explodeRecursive resolver limit recipe factor visitedStack acc = .ok acc') :
    acc' =
      ((pathsWithin resolver limit recipe factor).map Prod.snd).foldl byIngredient.add acc := by
  induction limit generalizing recipe factor visitedStack acc acc' with
  | zero => simp [explodeRecursive] at exploded
  | succ limit ih =>
    simp only [explodeRecursive, bind_eq_ok] at exploded
    obtain ⟨yieldScaled, yields, walked⟩ := exploded
    have isYield : recipe.yieldScaled = yieldScaled := by
      simp [Recipe.yieldScaled, yields, Except.toOption]
    subst isYield
    have loop (items : List RecipeItem) (acc : List ExplodedEntry)
        (walked : items.foldlM (explodeItem resolver (explodeRecursive resolver limit) factor
          recipe.yieldScaled visitedStack) acc = .ok acc') :
        acc' = (items.flatMap fun item => (itemPaths resolver (pathsWithin resolver limit) factor
          recipe.yieldScaled item).map Prod.snd).foldl byIngredient.add acc := by
      induction items generalizing acc with
      | nil =>
        simp only [foldlM_nil, pure_eq_ok] at walked
        simpa using walked.symm
      | cons item items ihItems =>
        simp only [foldlM_cons, bind_eq_ok] at walked
        obtain ⟨middle, accepted, rest⟩ := walked
        have added : middle = ((itemPaths resolver (pathsWithin resolver limit) factor
            recipe.yieldScaled item).map Prod.snd).foldl byIngredient.add acc := by
          rcases explodeItem_eq_ok accepted with
            ⟨ingredientId, target, rfl⟩ | ⟨noIngredient, sub, recipe', target, found, walked⟩
          · simp [itemPaths, target]
          · simp only [itemPaths, noIngredient, target, Option.bind_some, found]
            exact ih _ _ _ _ _ walked
        rw [ihItems middle rest, added, flatMap_cons, foldl_append]
    rw [pathsWithin_entries]
    exact loop recipe.items acc walked

/-! ### A walk that ends has met no cycle -/

variable {recipe : Recipe}

theorem explodeRecursive_items {limit : Nat} {factor : Int} {acc acc' : List ExplodedEntry}
    (exploded : explodeRecursive resolver (limit + 1) recipe factor visitedStack acc = .ok acc')
    (member : item ∈ recipe.items) (sub : String) (isSub : item.subRecipe = some sub) :
    ∃ recipe' stack' before after, resolver sub = some recipe' ∧
      explodeRecursive resolver limit recipe' (scaledBy factor item.gross recipe.yieldScaled) stack'
        before = .ok after := by
  simp only [explodeRecursive, bind_eq_ok] at exploded
  obtain ⟨yieldScaled, yields, walked⟩ := exploded
  have isYield : recipe.yieldScaled = yieldScaled := by
    simp [Recipe.yieldScaled, yields, Except.toOption]
  have loop (items : List RecipeItem) (acc : List ExplodedEntry) (member : item ∈ items)
      (walked : items.foldlM (explodeItem resolver (explodeRecursive resolver limit) factor
        yieldScaled visitedStack) acc = .ok acc') :
      ∃ before after, explodeItem resolver (explodeRecursive resolver limit) factor yieldScaled
        visitedStack before item = .ok after := by
    induction items generalizing acc with
    | nil => simp at member
    | cons first items ih =>
      simp only [foldlM_cons, bind_eq_ok] at walked
      obtain ⟨middle, accepted, rest⟩ := walked
      rcases mem_cons.mp member with rfl | later
      · exact ⟨acc, middle, accepted⟩
      · exact ih middle later rest
  obtain ⟨before, after, accepted⟩ := loop recipe.items acc member walked
  simp only [RecipeItem.subRecipe] at isSub
  rcases explodeItem_eq_ok accepted with
    ⟨ingredientId, target, -⟩ | ⟨noIngredient, sub', recipe', target, found, walked⟩
  · simp [target] at isSub
  · simp only [noIngredient, target, Option.some.injEq] at isSub
    subst isSub
    exact ⟨recipe', _, before, after, found, by rw [isYield]; exact walked⟩

theorem explodeRecursive_acc (resolver : RecipeResolver) (limit : Nat) (id : String)
    (recipe : Recipe) (factor : Int) (visitedStack : List String) (acc acc' : List ExplodedEntry)
    (found : resolver id = some recipe)
    (exploded : explodeRecursive resolver limit recipe factor visitedStack acc = .ok acc') :
    Acc (fun sub id => RefersTo resolver id sub) id := by
  induction limit generalizing id recipe factor visitedStack acc acc' with
  | zero => simp [explodeRecursive] at exploded
  | succ limit ih =>
    refine ⟨id, ?_⟩
    rintro sub ⟨recipe', found', item, member, isSub⟩
    obtain rfl : recipe = recipe' := Option.some.inj (found.symm.trans found')
    obtain ⟨inner, _, _, _, foundInner, walked⟩ := explodeRecursive_items exploded member sub isSub
    exact ih sub inner _ _ _ _ foundInner walked

variable {id : String}

theorem not_cycleReachable_of_acc (descends : Acc (fun sub id => RefersTo resolver id sub) id) :
    ¬ CycleReachable resolver id := by
  rintro ⟨node, reached, cycle⟩
  induction descends generalizing node with
  | intro id _ ih =>
    rcases Relation.ReflTransGen.cases_head reached with rfl | ⟨sub, refers, rest⟩
    · obtain ⟨sub, refers, back⟩ := Relation.TransGen.head'_iff.mp cycle
      exact ih sub refers sub .refl (Relation.TransGen.tail' back refers)
    · exact ih sub refers node rest cycle

theorem explodeRecursive_depth (resolver : RecipeResolver) (limit : Nat) (recipe : Recipe)
    (factor : Int) (visitedStack : List String) (acc acc' : List ExplodedEntry)
    (exploded : explodeRecursive resolver limit recipe factor visitedStack acc = .ok acc')
    (path : List Nat) (entry : ExplodedEntry)
    (isPath : pathEntry resolver recipe factor path = some entry) : path.length ≤ limit := by
  induction limit generalizing recipe factor visitedStack acc acc' path with
  | zero => simp [explodeRecursive] at exploded
  | succ limit ih =>
    cases path with
    | nil => exact Nat.zero_le _
    | cons position path =>
      simp only [pathEntry, Option.bind_eq_bind, Option.bind_eq_some_iff] at isPath
      obtain ⟨item, isItem, rest⟩ := isPath
      split at rest
      next =>
        split at rest
        next ends => simp [ends]
        next => simp at rest
      next noIngredient =>
        simp only [Option.bind_eq_some_iff] at rest
        obtain ⟨sub, target, recipe', found, isEntry⟩ := rest
        obtain ⟨inner, _, _, _, foundInner, walked⟩ := explodeRecursive_items exploded
          (mem_of_getElem? isItem) sub
          (by simp [RecipeItem.subRecipe, noIngredient, target])
        obtain rfl : recipe' = inner := Option.some.inj (found.symm.trans foundInner)
        have inside := ih _ _ _ _ _ walked path isEntry
        simpa using inside

/-! ### A walk over a finite store ends -/

def EndsAt (resolver : RecipeResolver) (id : String)
    (result : Except InventoryError (List ExplodedEntry)) : Prop :=
  (∃ acc, result = .ok acc) ∨
    (∃ cyclePath, result = .error (cycleDetectedError cyclePath)) ∧ CycleReachable resolver id

theorem CycleReachable.head {sub : String} (refers : RefersTo resolver id sub)
    (reachable : CycleReachable resolver sub) : CycleReachable resolver id := by
  obtain ⟨node, reached, cycle⟩ := reachable
  exact ⟨node, .head refers reached, cycle⟩

theorem explodeItem_ends {store : RecipeStore}
    (explode : Recipe → Int → List String → List ExplodedEntry →
      Except InventoryError (List ExplodedEntry)) (listed : id ∈ store.ids)
    (found : store.resolver id = some recipe) (member : item ∈ recipe.items) (factor : Int)
    (acc : List ExplodedEntry)
    (onPath : ∀ node ∈ visitedStack, Relation.ReflTransGen (RefersTo store.resolver) node id)
    (ends : ∀ sub recipe' factor' acc', RefersTo store.resolver id sub → sub ∉ visitedStack →
      sub ∈ store.ids → store.resolver sub = some recipe' →
      EndsAt store.resolver sub (explode recipe' factor' (visitedStack ++ [sub]) acc')) :
    EndsAt store.resolver id
      (explodeItem store.resolver explode factor recipe.yieldScaled visitedStack acc item) := by
  have valid := store.valid id listed recipe found item member
  have positive := (recipeYield_eq_ok (store.yields id listed recipe found)).2
  have divides (a : Int) : divideScale4 a recipe.yieldScaled =
      .ok (roundQuotient (a * scaleFactor) recipe.yieldScaled) := by
    rw [divideScale4, if_neg (by omega)]
  simp only [explodeItem, valid.target, valid.quantity, valid.grossQuantity, divides, ok_bind]
  split
  next ingredientId target => exact .inl ⟨_, rfl⟩
  next noIngredient =>
    split
    next => exact .inl ⟨_, rfl⟩
    next sub target =>
      have isSub : item.subRecipe = some sub := by
        simp [RecipeItem.subRecipe, noIngredient, target]
      have refers : RefersTo store.resolver id sub := ⟨recipe, found, item, member, isSub⟩
      split
      next visited =>
        -- the recipe is on the stack, so it leads to this one
        have back := onPath sub (contains_iff_mem.mp visited)
        exact .inr ⟨⟨_, rfl⟩, sub, .single refers, .tail' back refers⟩
      next fresh =>
        have used := store.closed id listed recipe found item member sub isSub
        obtain ⟨recipe', foundSub⟩ := store.resolves sub used
        simp only [foundSub]
        rcases ends sub recipe' _ acc refers (by simpa using fresh) used foundSub with
          ⟨acc', returned⟩ | ⟨cycle, reachable⟩
        · exact .inl ⟨acc', returned⟩
        · exact .inr ⟨cycle, reachable.head refers⟩

/-- The stack holds distinct ids of the store, so the walk is never deeper than the store is
large. -/
theorem explodeRecursive_ends (store : RecipeStore) (limit : Nat) (id : String) (recipe : Recipe)
    (listed : id ∈ store.ids) (found : store.resolver id = some recipe) (factor : Int)
    (visitedStack : List String) (acc : List ExplodedEntry) (distinct : visitedStack.Nodup)
    (used : visitedStack ⊆ store.ids)
    (onPath : ∀ node ∈ visitedStack, Relation.ReflTransGen (RefersTo store.resolver) node id)
    (enough : store.ids.length < limit + visitedStack.length) :
    EndsAt store.resolver id
      (explodeRecursive store.resolver limit recipe factor visitedStack acc) := by
  induction limit generalizing id recipe factor visitedStack acc with
  | zero =>
    have bounded := (subperm_of_subset distinct used).length_le
    omega
  | succ limit ih =>
    have item (acc : List ExplodedEntry) (item : RecipeItem) (member : item ∈ recipe.items) :=
      explodeItem_ends (explodeRecursive store.resolver limit) listed found
        member factor acc onPath fun sub recipe' factor' acc' refers fresh isUsed
          foundSub => ih sub recipe' isUsed foundSub factor' (visitedStack ++ [sub]) acc'
            (Table.nodup_append_singleton distinct fresh)
            (append_subset.mpr ⟨used, by simpa using isUsed⟩)
            (fun node visited => by
              rcases mem_append.mp visited with earlier | last
              · exact (onPath node earlier).tail refers
              · rw [mem_singleton.mp last])
            (by rw [length_append, length_singleton]; omega)
    have loop (items : List RecipeItem) (isIn : items ⊆ recipe.items) (acc : List ExplodedEntry) :
        EndsAt store.resolver id (items.foldlM (explodeItem store.resolver
          (explodeRecursive store.resolver limit) factor recipe.yieldScaled visitedStack) acc) := by
      induction items generalizing acc with
      | nil => exact .inl ⟨acc, rfl⟩
      | cons first items ihItems =>
        obtain ⟨isFirst, areIn⟩ := cons_subset.mp isIn
        rw [foldlM_cons]
        rcases item acc first isFirst with ⟨middle, accepted⟩ | ⟨⟨cyclePath, refused⟩, reachable⟩
        · rw [accepted, ok_bind]
          exact ihItems areIn middle
        · rw [refused]
          exact .inr ⟨⟨cyclePath, rfl⟩, reachable⟩
    simp only [explodeRecursive, store.yields id listed recipe found, ok_bind]
    exact loop recipe.items (List.Subset.refl _) acc

/-! ### What the engine returns -/

section Sums

variable (resolver : RecipeResolver) (limit : Nat) (recipe : Recipe)

def PathTo (ingredientId : String) (path : List Nat) : Prop :=
  ∃ entry, pathEntry resolver recipe scaleFactor path = some entry ∧
    entry.ingredientId = ingredientId

def pathNet (path : List Nat) : Int :=
  ((pathEntry resolver recipe scaleFactor path).map netScaled).getD 0

def pathGross (path : List Nat) : Int :=
  ((pathEntry resolver recipe scaleFactor path).map grossScaled).getD 0

def SumsPaths (entry : ExplodedEntry) : Prop :=
  ∃ paths : Finset (List Nat), paths.Nonempty ∧
    (∀ path, path ∈ paths ↔ PathTo resolver recipe entry.ingredientId path) ∧
    entry.netScaled = ∑ path ∈ paths, pathNet resolver recipe path ∧
    entry.grossScaled = ∑ path ∈ paths, pathGross resolver recipe path

def listedPaths (ingredientId : String) : List (List Nat × ExplodedEntry) :=
  (pathsWithin resolver limit recipe scaleFactor).filter fun listed =>
    listed.2.ingredientId == ingredientId

theorem sum_listedPaths (ingredientId : String) (column : ExplodedEntry → Int) :
    ((((pathsWithin resolver limit recipe scaleFactor).map Prod.snd).filter fun entry =>
        entry.ingredientId == ingredientId).map column).sum =
      ∑ path ∈ ((listedPaths resolver limit recipe ingredientId).map Prod.fst).toFinset,
        ((pathEntry resolver recipe scaleFactor path).map column).getD 0 := by
  have distinct : ((listedPaths resolver limit recipe ingredientId).map Prod.fst).Nodup :=
    (nodup_pathsWithin resolver limit recipe scaleFactor).sublist (filter_sublist.map _)
  rw [sum_toFinset _ distinct, filter_map, map_map, map_map]
  refine congrArg List.sum (map_congr_left fun listed member => ?_)
  have isListed := mem_of_mem_filter member
  obtain ⟨-, isEntry⟩ := (mem_pathsWithin resolver limit recipe scaleFactor listed.1 listed.2).mp
    isListed
  simp [isEntry]

theorem mem_group_pathsWithin
    (deep : ∀ path entry, pathEntry resolver recipe scaleFactor path = some entry →
      path.length ≤ limit) (row : ExplodedEntry) :
    row ∈ byIngredient.group ((pathsWithin resolver limit recipe scaleFactor).map Prod.snd) ↔
      SumsPaths resolver recipe row := by
  have all (ingredientId : String) (path : List Nat) :
      path ∈ ((listedPaths resolver limit recipe ingredientId).map Prod.fst).toFinset ↔
        PathTo resolver recipe ingredientId path := by
    simp only [listedPaths, mem_toFinset, mem_map, mem_filter, Prod.exists,
      beq_iff_eq, mem_pathsWithin, PathTo]
    constructor
    · rintro ⟨_, entry, ⟨⟨-, isEntry⟩, same⟩, rfl⟩
      exact ⟨entry, isEntry, same⟩
    · rintro ⟨entry, isEntry, same⟩
      exact ⟨path, entry, ⟨⟨deep path entry isEntry, isEntry⟩, same⟩, rfl⟩
  rw [Grouping.mem_group]
  constructor
  · rintro ⟨entry, member, rfl⟩
    obtain ⟨⟨path, _⟩, isListed, rfl⟩ := mem_map.mp member
    rw [byIngredient_rowOf]
    refine ⟨_, ⟨path, ?_⟩, all _, ?_, ?_⟩
    · exact (all _ path).mpr ⟨_, ((mem_pathsWithin ..).mp isListed).2, rfl⟩
    · exact sum_listedPaths resolver limit recipe _ netScaled
    · exact sum_listedPaths resolver limit recipe _ grossScaled
  · rintro ⟨paths, ⟨path, isPath⟩, whole, net, gross⟩
    obtain ⟨entry, isEntry, same⟩ := (whole path).mp isPath
    refine ⟨entry, mem_map.mpr ⟨(path, entry),
      (mem_pathsWithin ..).mpr ⟨deep path entry isEntry, isEntry⟩, rfl⟩, ?_⟩
    obtain rfl : paths =
        ((listedPaths resolver limit recipe row.ingredientId).map Prod.fst).toFinset := by
      ext path
      rw [whole, all]
    obtain ⟨ingredientId, netScaled, grossScaled⟩ := row
    have isIngredient : byIngredient.key entry = ingredientId := same
    rw [isIngredient, byIngredient_rowOf, sum_listedPaths resolver limit recipe ingredientId,
      sum_listedPaths resolver limit recipe ingredientId, mk.injEq]
    exact ⟨rfl, net, gross⟩

end Sums

/-! ### Formats -/

def ExplodedEntry.fits (entry : ExplodedEntry) : Bool :=
  inRange entry.netScaled && inRange entry.grossScaled

def ExplodedEntry.text (entry : ExplodedEntry) : ExplodedIngredient :=
  ⟨entry.ingredientId, scaledBigIntToDecimalString entry.netScaled,
    scaledBigIntToDecimalString entry.grossScaled⟩

theorem mapM_formatEntry (entries : List ExplodedEntry) :
    (entries.all fits → entries.mapM formatEntry = .ok (entries.map text)) ∧
    (entries.all fits = false →
      ∃ message, entries.mapM formatEntry = .error (rangeError message)) := by
  induction entries with
  | nil => simp [pure, Except.pure]
  | cons entry entries ih =>
    have formats : (entry.fits → formatEntry entry = .ok entry.text) ∧
        (entry.fits = false → ∃ message, formatEntry entry = .error (rangeError message)) := by
      cases net : inRange entry.netScaled <;> cases gross : inRange entry.grossScaled <;>
        simp [fits, formatEntry, formatDecimal12x4, net, gross, text,
          bind, Except.bind, pure, Except.pure]
    cases fits : entry.fits with
    | false =>
      obtain ⟨message, refused⟩ := formats.2 fits
      refine ⟨by simp [fits], fun _ => ⟨message, ?_⟩⟩
      rw [mapM_cons, refused]
      rfl
    | true =>
      rw [mapM_cons, formats.1 fits]
      constructor
      · intro all
        rw [ih.1 (by simpa [fits] using all)]
        rfl
      · intro some
        obtain ⟨message, refused⟩ := ih.2 (by simpa [fits] using some)
        exact ⟨message, by rw [refused]; rfl⟩

/-! ### The order of the items -/

structure Recipe.Reordered (recipe other : Recipe) : Prop where
  id : other.id = recipe.id
  yieldQuantity : other.yieldQuantity = recipe.yieldQuantity
  items : recipe.items.Perm other.items

def Reordered (resolver other : RecipeResolver) : Prop :=
  ∀ id, Option.Rel Recipe.Reordered (resolver id) (other id)

theorem Recipe.Reordered.recipeYield (recipe other : Recipe) (reordered : recipe.Reordered other) :
    Inventory.recipeYield other = Inventory.recipeYield recipe := by
  simp only [Inventory.recipeYield, reordered.id, reordered.yieldQuantity]

theorem Reordered.found (reordered : Reordered resolver other) {recipe' : Recipe}
    (found : other id = some recipe') :
    ∃ recipe, resolver id = some recipe ∧ recipe.Reordered recipe' := by
  have related := reordered id
  rw [found] at related
  cases isFound : resolver id with
  | none =>
    rw [isFound] at related
    cases related
  | some recipe =>
    rw [isFound] at related
    cases related with
    | some same => exact ⟨recipe, rfl, same⟩

def RecipeStore.reorder (store : RecipeStore) (other : RecipeResolver)
    (reordered : Reordered store.resolver other) : RecipeStore where
  resolver := other
  ids := store.ids
  resolves := by
    intro id listed
    obtain ⟨recipe, found⟩ := store.resolves id listed
    have related := reordered id
    rw [found] at related
    cases isFound : other id with
    | none =>
      rw [isFound] at related
      cases related
    | some recipe' => exact ⟨recipe', rfl⟩
  yields := by
    intro id listed recipe' found'
    obtain ⟨recipe, found, same⟩ := reordered.found found'
    rw [Recipe.yieldScaled, same.recipeYield]
    exact store.yields id listed recipe found
  valid := by
    intro id listed recipe' found' item member
    obtain ⟨recipe, found, same⟩ := reordered.found found'
    exact store.valid id listed recipe found item (same.items.mem_iff.mpr member)
  closed := by
    intro id listed recipe' found' item member
    obtain ⟨recipe, found, same⟩ := reordered.found found'
    exact store.closed id listed recipe found item (same.items.mem_iff.mpr member)

theorem Reordered.refersTo (reordered : Reordered resolver other) (id sub : String)
    (refers : RefersTo other id sub) : RefersTo resolver id sub := by
  obtain ⟨recipe', found', item, member, isSub⟩ := refers
  obtain ⟨recipe, found, same⟩ := reordered.found found'
  exact ⟨recipe, found, item, same.items.mem_iff.mpr member, isSub⟩

theorem Reordered.cycleReachable (reordered : Reordered resolver other)
    (reachable : CycleReachable other id) : CycleReachable resolver id := by
  obtain ⟨node, reached, cycle⟩ := reachable
  exact ⟨node, Relation.ReflTransGen.mono (reordered.refersTo) _ _ reached,
    Relation.TransGen.mono (reordered.refersTo) _ _ cycle⟩

theorem pathsWithin_reordered (resolver other : RecipeResolver)
    (reordered : Reordered resolver other) (limit : Nat) (recipe recipe' : Recipe) (factor : Int)
    (same : recipe.Reordered recipe') :
    ((pathsWithin resolver limit recipe factor).map Prod.snd).Perm
      ((pathsWithin other limit recipe' factor).map Prod.snd) := by
  induction limit generalizing recipe recipe' factor with
  | zero => exact .refl _
  | succ limit ih =>
    have yields : recipe'.yieldScaled = recipe.yieldScaled := by
      rw [Recipe.yieldScaled, same.recipeYield, ← Recipe.yieldScaled]
    rw [pathsWithin_entries, pathsWithin_entries, yields]
    refine List.Perm.flatMap same.items fun item _ => ?_
    unfold itemPaths
    split
    next => exact .refl _
    cases target : given item.subRecipeId with
    | none => exact .refl _
    | some sub =>
      have related := reordered sub
      simp only [Option.bind_some]
      cases found : resolver sub with
      | none =>
        rw [found] at related
        cases isFound : other sub with
        | none => exact .refl _
        | some inner =>
          rw [isFound] at related
          cases related
      | some inner =>
        rw [found] at related
        cases isFound : other sub with
        | none =>
          rw [isFound] at related
          cases related
        | some inner' =>
          rw [isFound] at related
          cases related with
          | some sameInner => exact ih inner inner' _ sameInner

/-! ### Net and gross -/

theorem pathEntry_net_le (store : RecipeStore) (id : String) (recipe : Recipe)
    (listed : id ∈ store.ids) (found : store.resolver id = some recipe)
    (quantities : ∀ id ∈ store.ids, ∀ recipe, store.resolver id = some recipe →
      ∀ item ∈ recipe.items, 0 ≤ item.net ∧ item.net ≤ item.gross)
    (factor : Int) (nonneg : 0 ≤ factor) (path : List Nat) (entry : ExplodedEntry)
    (isEntry : pathEntry store.resolver recipe factor path = some entry) :
    entry.netScaled ≤ entry.grossScaled := by
  induction path generalizing id recipe factor with
  | nil => simp [pathEntry] at isEntry
  | cons position path ih =>
    have positive := (recipeYield_eq_ok (store.yields id listed recipe found)).2
    have scaled (a b : Int) (lower : 0 ≤ a) (larger : a ≤ b) :
        0 ≤ scaledBy factor a recipe.yieldScaled ∧
          scaledBy factor a recipe.yieldScaled ≤ scaledBy factor b recipe.yieldScaled := by
      have product : 0 ≤ multiplyScale4 factor a :=
        roundQuotient_nonneg (Int.mul_nonneg nonneg lower) (by decide)
      have products : multiplyScale4 factor a ≤ multiplyScale4 factor b :=
        roundQuotient_mono (Int.mul_nonneg nonneg lower)
          (Int.mul_le_mul_of_nonneg_left larger nonneg) (by decide)
      have scale : (0 : Int) ≤ scaleFactor := by decide
      exact ⟨roundQuotient_nonneg (Int.mul_nonneg product scale) positive,
        roundQuotient_mono (Int.mul_nonneg product scale)
          (Int.mul_le_mul_of_nonneg_right products scale) positive⟩
    simp only [pathEntry, Option.bind_eq_bind, Option.bind_eq_some_iff] at isEntry
    obtain ⟨item, isItem, rest⟩ := isEntry
    have member := mem_of_getElem? isItem
    obtain ⟨lower, larger⟩ := quantities id listed recipe found item member
    split at rest
    next =>
      split at rest
      next =>
        obtain rfl := Option.some.inj rest
        exact (scaled _ _ lower larger).2
      next => simp at rest
    next noIngredient =>
      simp only [Option.bind_eq_some_iff] at rest
      obtain ⟨sub, target, recipe', foundSub, isEntry⟩ := rest
      have used := store.closed id listed recipe found item member sub
        (by simp [RecipeItem.subRecipe, noIngredient, target])
      exact ih sub recipe' used foundSub _
        (scaled item.gross item.gross (by omega) (Int.le_refl _)).1 isEntry

theorem SumsPaths.net_le {entry : ExplodedEntry} (sums : SumsPaths resolver recipe entry)
    (paths : ∀ path entry, pathEntry resolver recipe scaleFactor path = some entry →
      entry.netScaled ≤ entry.grossScaled) : entry.netScaled ≤ entry.grossScaled := by
  obtain ⟨chosen, -, whole, net, gross⟩ := sums
  rw [net, gross]
  refine Finset.sum_le_sum fun path member => ?_
  obtain ⟨entry, isEntry, -⟩ := (whole path).mp member
  simpa [pathNet, pathGross, isEntry] using paths path entry isEntry

/-! ### The explosion of a stored recipe -/

/-- The totals of the paths of at most `limit` steps, in the order of the result. -/
def sortedTotals (resolver : RecipeResolver) (limit : Nat) (recipe : Recipe) : List ExplodedEntry :=
  (byIngredient.group ((pathsWithin resolver limit recipe scaleFactor).map Prod.snd)).insertionSort
    fun a b => Utf16.Le a.ingredientId b.ingredientId

section Explosion

variable (store : RecipeStore) {recipe : Recipe} (holds : store.Holds recipe) {limit : Nat}
  (enough : store.ids.length ≤ limit)
include holds enough

theorem RecipeStore.walk_ends :
    EndsAt store.resolver recipe.id
      (explodeRecursive store.resolver limit recipe scaleFactor [recipe.id] []) := by
  refine explodeRecursive_ends store limit recipe.id recipe holds.listed holds.found scaleFactor
    [recipe.id] [] (nodup_singleton _) (by simpa using holds.listed) ?_
    (Nat.lt_succ_of_le enough)
  intro node visited
  rw [mem_singleton.mp visited]

theorem RecipeStore.explodeIngredients_eq (acyclic : ¬ CycleReachable store.resolver recipe.id) :
    explodeIngredients store.resolver limit recipe =
        (sortedTotals store.resolver limit recipe).mapM formatEntry ∧
      ∀ path entry, pathEntry store.resolver recipe scaleFactor path = some entry →
        path.length ≤ limit := by
  rcases store.walk_ends holds enough with ⟨acc, walked⟩ | ⟨-, reachable⟩
  · have grouped := explodeRecursive_eq_ok _ _ _ _ _ _ _ walked
    subst grouped
    rw [explodeIngredients, walked]
    exact ⟨rfl, explodeRecursive_depth _ _ _ _ _ _ _ walked⟩
  · exact absurd reachable acyclic

theorem RecipeStore.explodeIngredients_cycle :
    (∃ cyclePath, explodeIngredients store.resolver limit recipe =
      .error (cycleDetectedError cyclePath)) ↔ CycleReachable store.resolver recipe.id := by
  constructor
  · rintro ⟨cyclePath, refused⟩
    by_contra acyclic
    rw [(store.explodeIngredients_eq holds enough acyclic).1] at refused
    cases fits : (sortedTotals store.resolver limit recipe).all fits with
    | true =>
      rw [(mapM_formatEntry _).1 fits] at refused
      simp at refused
    | false =>
      obtain ⟨message, outOfRange⟩ := (mapM_formatEntry _).2 fits
      rw [outOfRange] at refused
      simp [rangeError, cycleDetectedError] at refused
  · intro reachable
    rcases store.walk_ends holds enough with ⟨acc, walked⟩ | ⟨⟨cyclePath, cycle⟩, -⟩
    · have descends := explodeRecursive_acc _ _ recipe.id _ _ _ _ _ holds.found walked
      exact absurd reachable (not_cycleReachable_of_acc descends)
    · exact ⟨cyclePath, by rw [explodeIngredients, cycle]; rfl⟩

theorem RecipeStore.explodeIngredients_reordered
    (acyclic : ¬ CycleReachable store.resolver recipe.id) (other : RecipeResolver)
    (recipe' : Recipe) (reordered : Reordered store.resolver other)
    (found' : other recipe.id = some recipe') :
    explodeIngredients other limit recipe' = explodeIngredients store.resolver limit recipe := by
  obtain ⟨_, found, same⟩ := reordered.found found'
  obtain rfl := Option.some.inj (holds.found.symm.trans found)
  have holds' : (store.reorder other reordered).Holds recipe' :=
    ⟨by rw [same.id]; exact holds.listed, by rw [same.id]; exact found'⟩
  have acyclic' : ¬ CycleReachable other recipe'.id := by
    rw [same.id]
    exact fun reachable => acyclic (reordered.cycleReachable reachable)
  have exploded' := (RecipeStore.explodeIngredients_eq _ holds' enough acyclic').1
  rw [(store.explodeIngredients_eq holds enough acyclic).1]
  refine exploded'.trans ?_
  have entries := pathsWithin_reordered _ _ reordered limit recipe recipe' scaleFactor same
  have groups : (byIngredient.group
      ((pathsWithin store.resolver limit recipe scaleFactor).map Prod.snd)).Perm
      (byIngredient.group ((pathsWithin other limit recipe' scaleFactor).map Prod.snd)) := by
    refine (perm_ext_iff_of_nodup (.of_map _ (byIngredient.nodup_group _))
      (.of_map _ (byIngredient.nodup_group _))).mpr fun row => ?_
    have sums (column : ExplodedEntry → Int) (ingredientId : String) :=
      (((entries.filter fun entry => entry.ingredientId == ingredientId).map column).sum_eq)
    simp only [Grouping.mem_group, byIngredient_rowOf, sums, entries.mem_iff]
  exact congrArg (List.mapM formatEntry)
    (Utf16.insertionSort_eq ingredientId (byIngredient.nodup_group _) groups).symm

end Explosion

/-- On a finite store of valid recipes the explosion ends. It reports a cycle just when one can be
reached; otherwise it lists the ingredients once, in the order of their ids, each with the sums over
its paths, unless such a sum is out of the range of DECIMAL(12,4). -/
theorem explodeIngredients_sums_paths (store : RecipeStore) (recipe : Recipe)
    (holds : store.Holds recipe) (limit : Nat) (enough : store.ids.length ≤ limit) :
    ((∃ cyclePath, explodeIngredients store.resolver limit recipe =
      .error (cycleDetectedError cyclePath)) ↔ CycleReachable store.resolver recipe.id) ∧
    (¬ CycleReachable store.resolver recipe.id →
      ∃ entries : List ExplodedEntry,
        entries.Pairwise (fun a b =>
          Utf16.Le a.ingredientId b.ingredientId ∧ a.ingredientId ≠ b.ingredientId) ∧
        (∀ entry, entry ∈ entries ↔ SumsPaths store.resolver recipe entry) ∧
        ((∀ entry ∈ entries, entry.fits) →
          explodeIngredients store.resolver limit recipe = .ok (entries.map text)) ∧
        ((∃ entry ∈ entries, entry.fits = false) →
          ∃ message, explodeIngredients store.resolver limit recipe = .error (rangeError message)) ∧
        (∀ other recipe', Reordered store.resolver other → other recipe.id = some recipe' →
          explodeIngredients other limit recipe' = explodeIngredients store.resolver limit recipe) ∧
        ((∀ id ∈ store.ids, ∀ recipe, store.resolver id = some recipe →
            ∀ item ∈ recipe.items, 0 ≤ item.net ∧ item.net ≤ item.gross) →
          ∀ entry ∈ entries, entry.netScaled ≤ entry.grossScaled)) := by
  refine ⟨store.explodeIngredients_cycle holds enough, fun acyclic => ?_⟩
  obtain ⟨exploded, deep⟩ := store.explodeIngredients_eq holds enough acyclic
  have members (entry : ExplodedEntry) : entry ∈ sortedTotals store.resolver limit recipe ↔
      SumsPaths store.resolver recipe entry := by
    rw [sortedTotals, mem_insertionSort]
    exact mem_group_pathsWithin store.resolver limit recipe deep entry
  refine ⟨sortedTotals store.resolver limit recipe, ?_, members, ?_, ?_, ?_, ?_⟩
  · have sorted := Utf16.pairwise_insertionSort ingredientId
      (byIngredient.group ((pathsWithin store.resolver limit recipe scaleFactor).map Prod.snd))
    have distinct : ((sortedTotals store.resolver limit recipe).map
        ingredientId).Nodup :=
      ((perm_insertionSort _ _).map _).nodup_iff.mpr (byIngredient.nodup_group _)
    exact sorted.and (pairwise_map.mp distinct)
  · intro fits
    rw [exploded]
    exact (mapM_formatEntry _).1 (all_eq_true.mpr fits)
  · intro outOfRange
    rw [exploded]
    exact (mapM_formatEntry _).2 (by simpa [all_eq_false] using outOfRange)
  · exact fun other recipe' => store.explodeIngredients_reordered holds enough acyclic other recipe'
  · intro quantities entry member
    refine SumsPaths.net_le ((members entry).mp member) fun path entry isEntry => ?_
    exact pathEntry_net_le store recipe.id recipe holds.listed holds.found quantities scaleFactor
      (by decide) path entry isEntry

def sampleStew : Recipe :=
  ⟨"stew", none, "1.0000", true, [⟨"a", none, some "sauce", "1.0000", "1.0000"⟩,
    ⟨"b", none, some "paste", "0.5000", "0.5000"⟩]⟩

def sampleKitchen : RecipeStore :=
  .ofRecipes [sampleStew,
    ⟨"sauce", none, "2.0000", true, [⟨"c", none, some "paste", "1.0000", "1.0000"⟩]⟩,
    ⟨"paste", none, "1.0000", true, [⟨"d", some "tomato", none, "3.0000", "4.0000"⟩]⟩]
    (by decide +kernel)

theorem stew_needs_tomato :
    sampleKitchen.Holds sampleStew ∧ ¬ CycleReachable sampleKitchen.resolver sampleStew.id ∧
      explodeIngredients sampleKitchen.resolver 3 sampleStew =
        .ok [⟨"tomato", "3.0000", "4.0000"⟩] ∧
      ∃ entry, SumsPaths sampleKitchen.resolver sampleStew entry ∧
        entry.text = ⟨"tomato", "3.0000", "4.0000"⟩ := by
  have holds : sampleKitchen.Holds sampleStew := ⟨by decide, by decide +kernel⟩
  have exploded : explodeIngredients sampleKitchen.resolver 3 sampleStew =
      .ok [⟨"tomato", "3.0000", "4.0000"⟩] := by decide +kernel
  obtain ⟨cycles, sums⟩ :=
    explodeIngredients_sums_paths sampleKitchen sampleStew holds 3 (by decide)
  have acyclic : ¬ CycleReachable sampleKitchen.resolver sampleStew.id := by
    intro reachable
    obtain ⟨cyclePath, refused⟩ := cycles.mpr reachable
    rw [exploded] at refused
    simp at refused
  refine ⟨holds, acyclic, exploded, ?_⟩
  obtain ⟨entries, -, members, inRange, outOfRange, -⟩ := sums acyclic
  by_cases fits : ∀ entry ∈ entries, entry.fits
  · have texts := Except.ok.inj (exploded.symm.trans (inRange fits))
    obtain ⟨entry, member, isText⟩ := mem_map.mp (texts ▸ mem_singleton.mpr rfl)
    exact ⟨entry, (members entry).mp member, isText⟩
  · obtain ⟨message, refused⟩ := outOfRange (by simpa using fits)
    rw [exploded] at refused
    simp at refused

def sampleCrate : Recipe :=
  ⟨"crate", none, "1.0000", true, [⟨"e", some "salt", none, "99999999.9999", "99999999.9999"⟩,
    ⟨"f", some "salt", none, "99999999.9999", "99999999.9999"⟩]⟩

def sampleCrates : RecipeStore := .ofRecipes [sampleCrate] (by decide +kernel)

/-- A recipe without a cycle, and its sum is refused. -/
theorem heavy_crate_out_of_range :
    sampleCrates.Holds sampleCrate ∧ ¬ CycleReachable sampleCrates.resolver sampleCrate.id ∧
      SumsPaths sampleCrates.resolver sampleCrate ⟨"salt", 1999999999998, 1999999999998⟩ ∧
      explodeIngredients sampleCrates.resolver 1 sampleCrate = .error (rangeError
        ("Scaled value 1999999999998 exceeds DECIMAL(12,4) range " ++
          "[-999999999999, 999999999999]")) := by
  have holds : sampleCrates.Holds sampleCrate := ⟨by decide, by decide +kernel⟩
  have walked : explodeRecursive sampleCrates.resolver 1 sampleCrate scaleFactor [sampleCrate.id]
      [] = .ok [⟨"salt", 1999999999998, 1999999999998⟩] := by decide +kernel
  refine ⟨holds, ?_, ?_, by decide +kernel⟩
  · exact not_cycleReachable_of_acc
      (explodeRecursive_acc _ _ sampleCrate.id _ _ _ _ _ holds.found walked)
  · refine (mem_group_pathsWithin _ 1 _ (explodeRecursive_depth _ _ _ _ _ _ _ walked) _).mp ?_
    exact mem_singleton.mpr rfl

end TridentPos.Inventory
