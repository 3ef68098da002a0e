import TridentPos.Library.Interleaving

/-!
# Transactions over a store with exclusive locks

Sessions run transactions at the isolation level READ COMMITTED: every statement sees what is
committed and what its own transaction has written. A lock is held until the transaction ends,
and a session that wants a lock another one holds waits. A part of the store that is only
written under one lock can then be reasoned about as if its transactions ran one by one.
-/
namespace TridentPos.Library.LockedStore

open Interleaving

variable {δ ω κ π : Type}

inductive Effect (ω κ π : Type) where
  | acquires (key : κ) (next : π)
  | reads (next : π)
  | writes (write : ω) (next : π)
  | commits (next : π)
  | aborts (next : π)

structure Session (ω κ π : Type) where
  locks : List κ
  written : List ω
  program : π

def Session.start (program : π) : Session ω κ π := ⟨[], [], program⟩

variable (apply : δ → ω → δ)

def Session.visible (session : Session ω κ π) (store : δ) : δ :=
  session.written.foldl apply store

/-- One step of a session. `acts` is what its program may do on the store it sees, and a commit
leaves the store `consistent`. -/
inductive Move (apply : δ → ω → δ) (consistent : δ → Prop)
    (acts : δ → π → Effect ω κ π → Prop) (store : δ) (session : Session ω κ π) :
    δ → Session ω κ π → Prop
  | acquires (key : κ) (next : π)
      (act : acts (session.visible apply store) session.program (.acquires key next)) :
      Move apply consistent acts store session store ⟨key :: session.locks, session.written, next⟩
  | reads (next : π) (act : acts (session.visible apply store) session.program (.reads next)) :
      Move apply consistent acts store session store ⟨session.locks, session.written, next⟩
  | writes (write : ω) (next : π)
      (act : acts (session.visible apply store) session.program (.writes write next)) :
      Move apply consistent acts store session store
        ⟨session.locks, session.written ++ [write], next⟩
  | commits (next : π) (act : acts (session.visible apply store) session.program (.commits next))
      (valid : consistent (session.visible apply store)) :
      Move apply consistent acts store session (session.visible apply store) (.start next)
  | aborts (next : π) (act : acts (session.visible apply store) session.program (.aborts next)) :
      Move apply consistent acts store session store (.start next)

def Grants (wants : π → Option κ) (_ : δ) (session other : Session ω κ π) : Prop :=
  ∀ key, wants session.program = some key → key ∉ other.locks

def Exclusive (session other : Session ω κ π) : Prop := ∀ key ∈ session.locks, key ∉ other.locks

open Session

@[simp] theorem visible_start (program : π) (store : δ) :
    (start program : Session ω κ π).visible apply store = store := rfl

@[simp] theorem start_program (program : π) : (start program : Session ω κ π).program = program := rfl

theorem visible_append (session : Session ω κ π) (write : ω) (next : π) (store : δ) :
    visible apply ⟨session.locks, session.written ++ [write], next⟩ store =
      apply (session.visible apply store) write := by
  simp [visible]

theorem visible_kept {α : Type} (part : δ → α) {apply : δ → ω → δ} {session : Session ω κ π}
    {store : δ} (kept : ∀ store, ∀ write ∈ session.written, part (apply store write) = part store) :
    part (session.visible apply store) = part store :=
  List.foldlRecOn (motive := fun seen => part seen = part store) _ _ rfl
    fun seen same write member => (kept seen write member).trans same

theorem Move.store_cases {apply : δ → ω → δ} {consistent : δ → Prop}
    {acts : δ → π → Effect ω κ π → Prop} {store store' : δ} {session session' : Session ω κ π}
    (moved : Move apply consistent acts store session store' session') :
    store' = store ∨ store' = session.visible apply store := by
  cases moved with
  | commits => exact .inr rfl
  | _ => exact .inl rfl

section Executable

variable (apply : δ → ω → δ) (act : δ → π → Effect ω κ π)

def Session.next : δ × Session ω κ π → δ × Session ω κ π
  | (store, session) =>
    match act (session.visible apply store) session.program with
    | .acquires key next => (store, ⟨key :: session.locks, session.written, next⟩)
    | .reads next => (store, ⟨session.locks, session.written, next⟩)
    | .writes write next => (store, ⟨session.locks, session.written ++ [write], next⟩)
    | .commits next => (session.visible apply store, .start next)
    | .aborts next => (store, .start next)

abbrev Session.Valid (consistent : δ → Prop) (reached : δ × Session ω κ π) : Prop :=
  consistent (reached.2.visible apply reached.1)

variable {consistent : δ → Prop} {acts : δ → π → Effect ω κ π → Prop}

theorem Session.next_moves (reached : δ × Session ω κ π)
    (acted : acts (reached.2.visible apply reached.1) reached.2.program
      (act (reached.2.visible apply reached.1) reached.2.program))
    (valid : Session.Valid apply consistent reached) :
    Move apply consistent acts reached.1 reached.2 (next apply act reached).1
      (next apply act reached).2 := by
  unfold next
  dsimp only
  split
  next key next effect => exact .acquires key next (effect ▸ acted)
  next next effect => exact .reads next (effect ▸ acted)
  next write next effect => exact .writes write next (effect ▸ acted)
  next next effect => exact .commits next (effect ▸ acted) valid
  next next effect => exact .aborts next (effect ▸ acted)

instance [DecidableEq κ] (wants : π → Option κ) (store : δ) (session other : Session ω κ π) :
    Decidable (Grants wants store session other) :=
  decidable_of_iff (∀ key ∈ wants session.program, key ∉ other.locks) Iff.rfl

abbrev Session.Free (consistent : δ → Prop) (wants : π → Option κ) (others : List (Session ω κ π)) :
    Nat → δ × Session ω κ π → Prop :=
  Along (next apply act) fun reached =>
    Session.Valid apply consistent reached ∧
      ∀ other ∈ others, Grants wants reached.1 reached.2 other

theorem Session.Free.reachable {wants : π → Option κ} (others : δ → δ → Prop)
    (mayAct : ∀ store program, acts store program (act store program))
    {before after : List (Session ω κ π)} {n : Nat} {store : δ} {session : Session ω κ π}
    {final : δ × Session ω κ π} (ends : (next apply act)^[n] (store, session) = final)
    (free : Session.Free apply act consistent wants (before ++ after) n (store, session)) :
    PermittedReachable (Move apply consistent acts) others (Grants wants)
      ⟨store, before ++ session :: after⟩ ⟨final.1, before ++ final.2 :: after⟩ :=
  PermittedReachable.iterate others (Grants wants) (next apply act) before after ends
    (fun k lt => next_moves apply act _ (mayAct _ _) (free.iterate _ _ _ _ k lt).1)
    (fun k lt => (free.iterate _ _ _ _ k lt).2)

end Executable

section Guarded

variable {α : Type} {apply : δ → ω → δ} {consistent : δ → Prop}
  {acts : δ → π → Effect ω κ π → Prop} {wants : π → Option κ} {others : δ → δ → Prop}
  {call : δ → Session ω κ π → δ → Session ω κ π → Prop}

theorem Exclusive.symm {session other : Session ω κ π} (exclusive : Exclusive session other) :
    Exclusive other session :=
  fun key held heldToo => exclusive key heldToo held

theorem exclusive_start (programs : List π) :
    (programs.map (start : π → Session ω κ π)).Pairwise Exclusive := by
  induction programs with
  | nil => exact .nil
  | cons program rest ih => exact .cons (fun other _ key held => nomatch held) ih

theorem Exclusive.moves (wanted : ∀ store program key next,
      acts store program (.acquires key next) → wants program = some key)
    {store store' : δ} {session session' other : Session ω κ π}
    (grants : Grants wants store session other) (exclusive : Exclusive session other)
    (moved : Move apply consistent acts store session store' session') :
    Exclusive session' other := by
  cases moved with
  | acquires key next act =>
    intro held member
    rcases List.mem_cons.mp member with rfl | already
    · exact grants held (wanted _ _ _ _ act)
    · exact exclusive held already
  | reads | writes => exact exclusive
  | commits | aborts =>
    intro held member
    simp [start] at member

variable (apply) (part : δ → α) (key : κ) (own : α → Session ω κ π → Prop)
  (idle : Session ω κ π → Prop)

/-- A session is in order with the guarded part: one that holds the lock satisfies `own` with
what it sees of the part, any other is `idle`. -/
def InOrder (store : δ) (session : Session ω κ π) : Prop :=
  (key ∈ session.locks → own (part (session.visible apply store)) session) ∧
    (key ∉ session.locks → idle session)

variable {apply}

theorem part_visible (onPart : ∀ {store store'} write, part store = part store' →
      part (apply store write) = part (apply store' write))
    (session : Session ω κ π) (store store' : δ) (same : part store = part store') :
    part (session.visible apply store) = part (session.visible apply store') := by
  unfold visible
  induction session.written generalizing store store' with
  | nil => exact same
  | cons write rest ih => exact ih _ _ (onPart write same)

theorem guarded_reachable {good : α → Prop} (wanted : ∀ store program key next,
      acts store program (.acquires key next) → wants program = some key)
    (isMove : ∀ {store session store' session'}, call store session store' session' →
      Move apply consistent acts store session store' session')
    (onPart : ∀ {store store'} write, part store = part store' →
      part (apply store write) = part (apply store' write))
    (idlePart : ∀ {store session}, idle session → part (session.visible apply store) = part store)
    (othersPart : ∀ {store store'}, others store store' → part store' = part store)
    (keeps : ∀ {store session store' session'}, good (part store) →
      InOrder apply part key own idle store session → call store session store' session' →
      good (part store') ∧ InOrder apply part key own idle store' session') {store : δ}
    {sessions : List (Session ω κ π)} {pool : Pool δ (Session ω κ π)}
    (start : good (part store))
    (ordered : ∀ session ∈ sessions, InOrder apply part key own idle store session)
    (exclusive : sessions.Pairwise Exclusive)
    (run : PermittedReachable call others (Grants wants) ⟨store, sessions⟩ pool) :
    Holds (fun store => good (part store)) (InOrder apply part key own idle) pool := by
  obtain ⟨apartRun, -⟩ := PermittedReachable.apart Exclusive _ pool
    Exclusive.symm exclusive run fun grants apart moved =>
      Exclusive.moves wanted grants apart (isMove moved)
  refine Holds.permittedReachable _ _ keeps ?_ ?_ ?_ ⟨start, ordered⟩ apartRun
  · rintro store session store' session' other - inOrder ⟨whileHeld, whileNot⟩ ⟨-, apart⟩ moved
    refine ⟨fun held => ?_, whileNot⟩
    -- the session that moves does not hold the lock, so it leaves the part alone
    have notHeld : key ∉ session.locks := fun heldToo => apart key heldToo held
    have same : part store' = part store := by
      rcases Move.store_cases (isMove moved) with rfl | rfl
      · rfl
      · exact idlePart (inOrder.2 notHeld)
    rw [part_visible part onPart other store' store same]
    exact whileHeld held
  · rintro store store' good moved
    rw [othersPart moved]
    exact good
  · rintro store store' session - ⟨whileHeld, whileNot⟩ moved
    refine ⟨fun held => ?_, whileNot⟩
    rw [part_visible part onPart session store' store (othersPart moved)]
    exact whileHeld held

end Guarded

end TridentPos.Library.LockedStore
