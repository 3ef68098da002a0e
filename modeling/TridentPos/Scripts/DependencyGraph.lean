import Mathlib.Data.List.Chain
import Mathlib.Data.List.Nodup

/-!
# Cycles in the dependency graph

`detectCycles` of `check-graph.mjs`: a depth-first search with three marks over the packages and
their dependencies. An edge to a package that is being visited closes a cycle; a package that was
left without one depends on no cycle.
-/
namespace TridentPos.Scripts

open List

inductive Mark where
  | unvisited
  | visiting
  | visited
deriving DecidableEq

structure Search (α : Type) where
  mark : α → Mark
  cycles : List (List α)

variable {α : Type} [DecidableEq α] (adj : List (α × List α))

/-- `adj.get(u) || []`, of a map listed in the order of its entries. -/
def neighbors (u : α) : List α := (adj.lookup u).getD []

/-- The keys of `visited`: every package is marked before the search starts. -/
def packages : List α :=
  (adj.flatMap fun entry => entry.1 :: entry.2).eraseDups

def Search.setMark (s : Search α) (u : α) (mark : Mark) : Search α :=
  { s with mark := Function.update s.mark u mark }

/-- `pathStack.slice(pathStack.indexOf(v)).concat(v)`; an index of `-1` slices off the last entry. -/
def cycleAt (pathStack : List α) (v : α) : List α :=
  pathStack.drop (if v ∈ pathStack then pathStack.idxOf v else pathStack.length - 1) ++ [v]

/-- The body of the loop over the neighbours, with `dfs` as a parameter. -/
def visitNeighbor (dfs : α → List α → Search α → Option (Search α)) (pathStack : List α)
    (s : Search α) (v : α) : Option (Search α) :=
  match s.mark v with
  | .visiting => some { s with cycles := s.cycles ++ [cycleAt pathStack v] }
  | .unvisited => dfs v pathStack s
  | .visited => some s

/-- `dfs`, to a depth of `fuel` calls. The stack is back to what it was when a call returns. -/
def dfs (adj : List (α × List α)) : Nat → α → List α → Search α → Option (Search α)
  | 0, _, _, _ => none
  | fuel + 1, u, pathStack, s => do
    let s ← (neighbors adj u).foldlM (visitNeighbor (dfs adj fuel) (pathStack ++ [u]))
      (s.setMark u .visiting)
    return s.setMark u .visited

def detectCycles (fuel : Nat) (adj : List (α × List α)) : Option (List (List α)) := do
  let s ← (packages adj).foldlM (fun s node =>
    if s.mark node = .unvisited then dfs adj fuel node [] s else some s) ⟨fun _ => .unvisited, []⟩
  return s.cycles

/-! ### Cycles -/

def Edge (u v : α) : Prop := v ∈ neighbors adj u

structure IsCycle (adj : List (α × List α)) (cycle : List α) : Prop where
  edges : cycle.IsChain (Edge adj)
  long : 2 ≤ cycle.length
  closed : cycle.head? = cycle.getLast?

variable {adj}

theorem IsCycle.exists_loop {cycle : List α} (isCycle : IsCycle adj cycle) :
    ∃ u, Relation.TransGen (Edge adj) u u := by
  obtain ⟨edges, long, closed⟩ := isCycle
  obtain ⟨u, rest, rfl⟩ := exists_cons_of_length_pos (by omega : 0 < cycle.length)
  have later := (pairwise_cons.mp (isChain_iff_pairwise.mp
    (edges.imp fun _ _ => Relation.TransGen.single))).1
  have last : (u :: rest).getLast? = rest.getLast? := by
    cases rest with
    | nil => simp at long
    | cons => rfl
  exact ⟨u, later u (mem_of_getLast? (by rw [← last, ← closed]; rfl))⟩

theorem no_loop_of_acc {u : α} (acc : Acc (Function.swap (Edge adj)) u) :
    ¬Relation.TransGen (Edge adj) u u := by
  induction acc with
  | intro u _ ih =>
    intro loop
    obtain ⟨v, edge, back⟩ := Relation.TransGen.head'_iff.mp loop
    exact ih v edge (Relation.TransGen.tail' back edge)

theorem mem_packages_of_edge {u v : α} (edge : Edge adj u v) :
    u ∈ packages adj ∧ v ∈ packages adj := by
  unfold Edge neighbors at edge
  cases found : adj.lookup u with
  | none => simp [found] at edge
  | some targets =>
    rw [found, Option.getD_some] at edge
    obtain ⟨before, after, rfl, -⟩ := lookup_eq_some_iff.mp found
    simp [packages, edge]

/-! ### The search -/

/-- Between the calls of the search: what is being visited is the path, what was reported are
cycles, and while there are none, no cycle is reached from what has been visited. -/
structure Ready (adj : List (α × List α)) (path : List α) (s : Search α) : Prop where
  visiting : ∀ v, s.mark v = .visiting ↔ v ∈ path
  path : path.IsChain (Edge adj) ∧ path.Nodup ∧ path ⊆ packages adj
  sound : ∀ cycle ∈ s.cycles, IsCycle adj cycle
  finished : s.cycles = [] → ∀ v, s.mark v = .visited → Acc (Function.swap (Edge adj)) v

structure Extends (s s' : Search α) : Prop where
  visited : ∀ v, s.mark v = .visited → s'.mark v = .visited
  cycles : s'.cycles = [] → s.cycles = []

theorem foldlM_ready (path nodes : List α) (visit : Search α → α → Option (Search α))
    (step : ∀ s, ∀ v ∈ nodes, Ready adj path s → ∃ s', visit s v = some s' ∧ Ready adj path s' ∧
      Extends s s' ∧ (s'.cycles = [] → s'.mark v = .visited)) (s : Search α)
    (ready : Ready adj path s) :
    ∃ s', nodes.foldlM visit s = some s' ∧ Ready adj path s' ∧ Extends s s' ∧
      (s'.cycles = [] → ∀ v ∈ nodes, s'.mark v = .visited) := by
  induction nodes generalizing s with
  | nil => exact ⟨s, rfl, ready, ⟨fun _ => id, id⟩, by simp⟩
  | cons v nodes ih =>
    obtain ⟨s', moved, ready', first, done⟩ := step s v mem_cons_self ready
    obtain ⟨s'', moves, ready'', rest, all⟩ :=
      ih (fun s w member => step s w (mem_cons_of_mem _ member)) s' ready'
    refine ⟨s'', by simp [foldlM_cons, moved, moves], ready'',
      ⟨fun w => rest.visited w ∘ first.visited w, first.cycles ∘ rest.cycles⟩, fun none => ?_⟩
    rw [forall_mem_cons]
    exact ⟨rest.visited v (done (rest.cycles none)), all none⟩

section Visit

variable {path : List α} {u v : α} {s : Search α}

theorem Ready.enter (ready : Ready adj path s) (fresh : s.mark u = .unvisited)
    (edges : (path ++ [u]).IsChain (Edge adj)) (node : u ∈ packages adj) :
    Ready adj (path ++ [u]) (s.setMark u .visiting) := by
  have absent : u ∉ path := by simp [← ready.visiting, fresh]
  obtain ⟨-, nodup, listed⟩ := ready.path
  refine ⟨fun v => ?_, ⟨edges, nodup.append (by simp) (by simpa using absent), ?_⟩, ready.sound,
    fun none v marked => ready.finished none v ?_⟩
  · by_cases same : v = u <;> simp [Search.setMark, same, ready.visiting]
  · exact append_subset.mpr ⟨listed, by simpa using node⟩
  · by_cases same : v = u <;> simp_all [Search.setMark]

theorem Ready.extend (ready : Ready adj (path ++ [u]) s) (edge : Edge adj u v) :
    (path ++ [u] ++ [v]).IsChain (Edge adj) :=
  isChain_append.mpr ⟨ready.path.1, isChain_singleton v, by simpa using edge⟩

theorem Ready.report (ready : Ready adj (path ++ [u]) s) (edge : Edge adj u v)
    (marked : s.mark v = .visiting) :
    Ready adj (path ++ [u]) { s with cycles := s.cycles ++ [cycleAt (path ++ [u]) v] } := by
  have member := (ready.visiting v).mp marked
  have inside := idxOf_lt_length_of_mem member
  have isCycle : IsCycle adj (cycleAt (path ++ [u]) v) := by
    rw [cycleAt, if_pos member]
    constructor
    · rw [← drop_append_of_le_length inside.le]
      exact (ready.extend edge).drop _
    · rw [length_append, length_drop, length_singleton]
      omega
    · rw [head?_append_of_ne_nil _ (by simpa using inside), getLast?_concat, head?_drop]
      exact getElem?_idxOf member
  refine ⟨ready.visiting, ready.path, ?_, by simp⟩
  intro cycle reported
  rcases mem_append.mp reported with earlier | now
  · exact ready.sound cycle earlier
  · exact mem_singleton.mp now ▸ isCycle

end Visit

/-- A call returns, and leaves the package visited. The path has no package twice, so it is never
longer than there are packages. -/
theorem dfs_ready (fuel : Nat) (u : α) (path : List α) (s : Search α) (ready : Ready adj path s)
    (fresh : s.mark u = .unvisited) (edges : (path ++ [u]).IsChain (Edge adj))
    (node : u ∈ packages adj) (enough : (packages adj).length ≤ fuel + path.length) :
    ∃ s', dfs adj fuel u path s = some s' ∧ Ready adj path s' ∧ Extends s s' ∧
      s'.mark u = .visited := by
  induction fuel generalizing u path s with
  | zero =>
    -- a path without repetitions is no longer than the list of packages
    obtain ⟨-, nodup, listed⟩ := (ready.enter fresh edges node).path
    have short := nodup.length_le_of_subset listed
    rw [length_append, length_singleton] at short
    omega
  | succ fuel ih =>
    -- while the neighbours are visited, `u` is the end of the path
    have loop := foldlM_ready (path ++ [u]) (neighbors adj u)
      (visitNeighbor (dfs adj fuel) (path ++ [u])) ?_ _ (ready.enter fresh edges node)
    · obtain ⟨s', moves, ready', grows, all⟩ := loop
      have absent : u ∉ path := by simp [← ready.visiting, fresh]
      refine ⟨s'.setMark u .visited, by simp [dfs, moves], ⟨fun v => ?_, ready.path, ready'.sound,
        fun none v marked => ?_⟩, ⟨fun v marked => ?_, grows.cycles⟩, by simp [Search.setMark]⟩
      · by_cases same : v = u <;> simp [Search.setMark, same, absent, ready'.visiting]
      · by_cases same : v = u
        · subst same
          -- no cycle is reached from a neighbour, so none is from `u`
          exact ⟨_, fun w edge => ready'.finished none w (all none w edge)⟩
        · exact ready'.finished none v (by simpa [Search.setMark, same] using marked)
      · have other : v ≠ u := by rintro rfl; simp [fresh] at marked
        have kept := grows.visited v (by simpa [Search.setMark, other] using marked)
        simpa [Search.setMark, other] using kept
    · intro s v edge ready
      rw [visitNeighbor]
      -- the mark of a neighbour decides whether it closes a cycle, is searched or is skipped
      cases marked : s.mark v with
      | visiting => exact ⟨_, rfl, ready.report edge marked, ⟨fun _ => id, by simp⟩, by simp⟩
      | visited => exact ⟨s, rfl, ready, ⟨fun _ => id, id⟩, fun _ => marked⟩
      | unvisited =>
        obtain ⟨s', returned, ready', grows, done⟩ := ih v (path ++ [u]) s ready marked
          (ready.extend edge) (mem_packages_of_edge edge).2
          (by rw [length_append, length_singleton]; omega)
        exact ⟨s', returned, ready', grows, fun _ => done⟩

/-- The search ends, what it returns are cycles of the graph, and it returns one if the graph has
any. -/
theorem detectCycles_correct (adj : List (α × List α)) (fuel : Nat)
    (enough : (packages adj).length ≤ fuel) :
    ∃ cycles, detectCycles fuel adj = some cycles ∧ (∀ cycle ∈ cycles, IsCycle adj cycle) ∧
      (cycles ≠ [] ↔ ∃ u, Relation.TransGen (Edge adj) u u) := by
  have start : Ready adj [] ⟨fun _ => .unvisited, []⟩ := ⟨by simp, by simp, by simp, by simp⟩
  have loop := foldlM_ready [] (packages adj) (fun s node =>
    if s.mark node = .unvisited then dfs adj fuel node [] s else some s) ?_ _ start
  · obtain ⟨s, moves, ready, -, all⟩ := loop
    refine ⟨s.cycles, by simp [detectCycles, moves], ready.sound, ?_, ?_⟩
    · intro reported
      obtain ⟨cycle, member⟩ := exists_mem_of_ne_nil _ reported
      exact (ready.sound cycle member).exists_loop
    · rintro ⟨u, loop⟩ none
      -- without a report every package is visited, the ones on the loop too
      obtain ⟨v, edge, -⟩ := Relation.TransGen.head'_iff.mp loop
      have visited := all none u (mem_packages_of_edge edge).1
      exact no_loop_of_acc (ready.finished none u visited) loop
  · intro s v member ready
    cases marked : s.mark v with
    | visiting => simp [ready.visiting] at marked
    | visited => exact ⟨s, rfl, ready, ⟨fun _ => id, id⟩, fun _ => marked⟩
    | unvisited =>
      obtain ⟨s', returned, ready', grows, done⟩ := dfs_ready fuel v [] s ready marked
        (isChain_singleton v) member (by simpa using enough)
      exact ⟨s', returned, ready', grows, fun _ => done⟩

/-- A package that depends on itself, and one that is no key of the map. -/
theorem self_dependency_found :
    detectCycles 2 [("pos", ["pos", "core"])] = some [["pos", "pos"]] ∧
      ∃ u, Relation.TransGen (Edge [("pos", ["pos", "core"])]) u u := by
  have found : detectCycles 2 [("pos", ["pos", "core"])] = some [["pos", "pos"]] := by decide
  obtain ⟨cycles, returned, -, loops⟩ :=
    detectCycles_correct [("pos", ["pos", "core"])] 2 (by decide)
  refine ⟨found, loops.mp ?_⟩
  rw [← Option.some.inj (found.symm.trans returned)]
  simp

end TridentPos.Scripts
