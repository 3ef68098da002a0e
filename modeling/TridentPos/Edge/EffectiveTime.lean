import TridentPos.Edge.TrustedTime
import TridentPos.Library.Runs

/-!
# Effective time over restarts

The times `getTrustedEffectiveTime` returns over a run of synchronisations, readings and restarts.
The anchor keeps the time of the last synchronisation, and not what has elapsed since.
-/
namespace TridentPos.Edge

open Library Runs TrustedTimeManager

/-- No time returned before is ahead of `time` by more than the threshold. -/
def Recent (returned : List ℚ) (time : ℚ) : Prop :=
  ∀ earlier ∈ returned, earlier - rollbackThresholdSeconds ≤ time
deriving Decidable

namespace TrustedTimeManager

theorem getTrustedEffectiveTime_eq_ok {manager : TrustedTimeManager} {clocks : Clocks} {time : ℚ}
    (answered : manager.getTrustedEffectiveTime clocks = .ok time) :
    manager.isLocked = false ∧ ∃ tCloud m0, manager.tCloud = some tCloud ∧ manager.m0 = some m0 ∧
      time = tCloud + ((clocks.monotonic - m0).tdiv 1000000000 : ℤ) := by
  unfold getTrustedEffectiveTime at answered
  split at answered
  next => cases answered
  next unlocked =>
    split at answered
    next tCloud m0 hasTime hasBase =>
      exact ⟨eq_false_of_ne_true unlocked, tCloud, m0, hasTime, hasBase,
        (Except.ok.inj answered).symm⟩
    next => cases answered

theorem getTrustedEffectiveTime_mono {manager : TrustedTimeManager} {clocks later : Clocks}
    {time time' : ℚ} (ticks : clocks.monotonic ≤ later.monotonic)
    (first : manager.getTrustedEffectiveTime clocks = .ok time)
    (second : manager.getTrustedEffectiveTime later = .ok time') : time ≤ time' := by
  obtain ⟨_, tCloud, m0, hasTime, hasBase, rfl⟩ := getTrustedEffectiveTime_eq_ok first
  obtain ⟨_, tCloud', m0', hasTime', hasBase', rfl⟩ := getTrustedEffectiveTime_eq_ok second
  obtain rfl : tCloud = tCloud' := Option.some.inj (hasTime.symm.trans hasTime')
  obtain rfl : m0 = m0' := Option.some.inj (hasBase.symm.trans hasBase')
  have elapsed : (clocks.monotonic - m0).tdiv 1000000000 ≤ (later.monotonic - m0).tdiv 1000000000 :=
    Int.tdiv_le_tdiv (by decide) (by omega)
  have : (((clocks.monotonic - m0).tdiv 1000000000 : ℤ) : ℚ) ≤
      ((later.monotonic - m0).tdiv 1000000000 : ℤ) := by exact_mod_cast elapsed
  linarith

structure StartsAt (base : ℚ) (monotonic : ℤ) (manager : TrustedTimeManager) : Prop where
  unlocked : manager.isLocked = false
  time : manager.tCloud = some base
  reading : manager.m0 = some monotonic

def Guarded (returned : List ℚ) (monotonic : ℤ) (manager : TrustedTimeManager) : Prop :=
  ∀ clocks time, monotonic ≤ clocks.monotonic →
    manager.getTrustedEffectiveTime clocks = .ok time → Recent returned time

variable {returned : List ℚ} {monotonic : ℤ} {manager : TrustedTimeManager}

theorem StartsAt.guarded_iff {base : ℚ} (starts : manager.StartsAt base monotonic) :
    manager.Guarded returned monotonic ↔ Recent returned base := by
  have atOnce : manager.getTrustedEffectiveTime ⟨0, monotonic⟩ = .ok base := by
    simp [getTrustedEffectiveTime, starts.unlocked, starts.time, starts.reading]
  constructor
  · intro guarded
    exact guarded _ base le_rfl atOnce
  · intro recent clocks time ticks answered earlier member
    exact (recent earlier member).trans
      (getTrustedEffectiveTime_mono (by exact ticks) atOnce answered)

theorem guarded_of_silent (silent : manager.isLocked ∨ manager.tCloud = none) :
    manager.Guarded returned monotonic := by
  intro clocks time _ answered
  obtain ⟨unlocked, tCloud, m0, hasTime, _⟩ := getTrustedEffectiveTime_eq_ok answered
  rcases silent with locked | absent
  · rw [unlocked] at locked
    cases locked
  · rw [absent] at hasTime
    cases hasTime

end TrustedTimeManager

namespace TrustedTime

variable (host : Host) (store : EdgeSecureStore) (clocks : Clocks) (time : TrustedTime)

theorem syncCloudTime_manager (draws : SyncDraws) (tCloudSeconds : ℚ) :
    match syncCloudTime host store draws tCloudSeconds clocks time with
    | (.ok _, after) => after.manager.StartsAt tCloudSeconds clocks.monotonic
    | (.error _, after) => after.manager = time.manager ∨ after.manager.isLocked := by
  generalize answered : syncCloudTime host store draws tCloudSeconds clocks time = answer
  rw [syncCloudTime] at answered
  split at answered
  next => exact answered ▸ .inl rfl
  split at answered
  next => exact answered ▸ .inl rfl
  next => exact answered ▸ .inr rfl
  split at answered
  next => exact answered ▸ .inl rfl
  split at answered
  next => exact answered ▸ .inl rfl
  next => exact answered ▸ ⟨rfl, rfl, rfl⟩

theorem verifyAnchor_manager {clocks : Clocks} {key : List UInt8} {row : TrustedTimeAnchor}
    {manager : TrustedTimeManager}
    (verified : verifyAnchor host key row clocks = .ok manager) :
    manager.isLocked ∨
      manager.StartsAt (max row.lastKnownCloudTime clocks.wallTime) clocks.monotonic := by
  simp only [verifyAnchor] at verified
  split at verified
  next => exact .inl (Except.ok.inj verified ▸ rfl)
  split at verified
  next => exact .inl (Except.ok.inj verified ▸ rfl)
  obtain ⟨tagMatches, _, verified⟩ := Fallible.bind_eq_ok.mp verified
  split at verified
  next => exact .inl (Except.ok.inj verified ▸ rfl)
  split at verified
  next => exact .inl (Except.ok.inj verified ▸ rfl)
  next => exact .inr (Except.ok.inj verified ▸ ⟨rfl, rfl, rfl⟩)

theorem restart_manager {time' : TrustedTime} (built : restart host store clocks time = .ok time') :
    time'.manager.isLocked ∨ (time.anchor = none ∧ time'.manager.tCloud = none) ∨
    ∃ row, time.anchor = some row ∧
      time'.manager.StartsAt (max row.lastKnownCloudTime clocks.wallTime) clocks.monotonic := by
  obtain ⟨manager, loaded, rfl⟩ : ∃ manager,
      loadPersistedAnchor host store time.files time.anchor clocks = .ok manager ∧
        { time with manager } = time' := by
    cases loading : loadPersistedAnchor host store time.files time.anchor clocks with
    | error err => simp [restart, loading, Except.map] at built
    | ok manager => exact ⟨manager, rfl, by simpa [restart, loading, Except.map] using built⟩
  simp only [loadPersistedAnchor] at loaded
  split at loaded
  next absent =>
    split at loaded
    next => exact .inl (Except.ok.inj loaded ▸ rfl)
    next => exact .inr (.inl ⟨absent, Except.ok.inj loaded ▸ rfl⟩)
  next row stored =>
    split at loaded
    next =>
      split at loaded
      next => exact .inl (Except.ok.inj loaded ▸ rfl)
      next =>
        rcases verifyAnchor_manager host loaded with locked | starts
        · exact .inl locked
        · exact .inr (.inr ⟨row, stored, starts⟩)
    next => exact .inl (Except.ok.inj loaded ▸ rfl)

end TrustedTime

/-! ### Runs -/

/-- The trusted time, the monotonic reading last taken in the process, and the times returned so
far, the newest first. -/
structure Observed where
  time : TrustedTime
  monotonic : ℤ
  returned : List ℚ

inductive ClockCall where
  | sync (draws : SyncDraws) (tCloudSeconds : ℚ) (clocks : Clocks)
  | restart (clocks : Clocks)
  | read (clocks : Clocks)

namespace Observed

def initial (files : Files) (anchor : Option TrustedTimeAnchor) (monotonic : ℤ) : Observed :=
  { time := { manager := {}, files, anchor }, monotonic, returned := [] }

def Ticks (seen : Observed) : ClockCall → Prop
  | .sync _ _ clocks => seen.monotonic ≤ clocks.monotonic
  | .restart _ => True
  | .read clocks => seen.monotonic ≤ clocks.monotonic

def Current (seen : Observed) : ClockCall → Prop
  | .sync _ tCloudSeconds _ => Recent seen.returned tCloudSeconds
  | .restart clocks => ∀ row ∈ seen.time.anchor,
      Recent seen.returned (max row.lastKnownCloudTime clocks.wallTime)
  | .read _ => True

instance (seen : Observed) (call : ClockCall) : Decidable (seen.Ticks call) := by
  cases call <;> unfold Ticks <;> infer_instance

instance (seen : Observed) (call : ClockCall) : Decidable (seen.Current call) := by
  cases call <;> unfold Current <;> infer_instance

abbrev Safe (seen : Observed) : Prop := seen.time.manager.Guarded seen.returned seen.monotonic

def Bounded (seen : Observed) : Prop :=
  seen.returned.Pairwise fun later earlier => earlier - rollbackThresholdSeconds ≤ later

variable (host : Host) (store : EdgeSecureStore)

/-- A process that fails to start takes the place of none. -/
def next (seen : Observed) : ClockCall → Observed
  | .sync draws tCloudSeconds clocks =>
    { seen with
      time := (seen.time.syncCloudTime host store draws tCloudSeconds clocks).2
      monotonic := clocks.monotonic }
  | .restart clocks =>
    match seen.time.restart host store clocks with
    | .ok time => { seen with time, monotonic := clocks.monotonic }
    | .error _ => seen
  | .read clocks =>
    match seen.time.manager.getTrustedEffectiveTime clocks with
    | .ok time => { seen with returned := time :: seen.returned, monotonic := clocks.monotonic }
    | .error _ => { seen with monotonic := clocks.monotonic }

variable {seen : Observed} {clocks : Clocks}

theorem sync_safe {draws : SyncDraws} {tCloudSeconds : ℚ}
    (ticks : seen.monotonic ≤ clocks.monotonic) (current : Recent seen.returned tCloudSeconds)
    (before : seen.Safe) : (seen.next host store (.sync draws tCloudSeconds clocks)).Safe := by
  have outcome := TrustedTime.syncCloudTime_manager host store clocks seen.time draws tCloudSeconds
  simp only [next]
  split at outcome
  next after answered =>
    rw [answered]
    exact outcome.guarded_iff.mpr current
  next after answered =>
    rw [answered]
    rcases outcome with same | locked
    · intro later time ticks' answered
      exact before later time (ticks.trans ticks') (same ▸ answered)
    · exact guarded_of_silent (.inl locked)

theorem restart_safe_iff {time : TrustedTime}
    (built : seen.time.restart host store clocks = .ok time)
    (unlocked : time.manager.isLocked = false) :
    seen.Current (.restart clocks) ↔ (seen.next host store (.restart clocks)).Safe := by
  simp only [next, built, Current]
  rcases TrustedTime.restart_manager host store clocks seen.time built with
    locked | ⟨absent, silent⟩ | ⟨row, stored, starts⟩
  · rw [unlocked] at locked
    cases locked
  · simp [absent, guarded_of_silent (.inr silent)]
  · simp [stored, starts.guarded_iff]

theorem restart_safe (current : seen.Current (.restart clocks)) (before : seen.Safe) :
    (seen.next host store (.restart clocks)).Safe := by
  cases built : seen.time.restart host store clocks with
  | error err => simpa only [next, built] using before
  | ok time =>
    cases locked : time.manager.isLocked with
    | false => exact (restart_safe_iff host store built locked).mp current
    | true =>
      simp only [next, built]
      exact guarded_of_silent (.inl locked)

theorem read_kept (ticks : seen.monotonic ≤ clocks.monotonic) (before : seen.Bounded ∧ seen.Safe) :
    (seen.next host store (.read clocks)).Bounded ∧
      (seen.next host store (.read clocks)).Safe := by
  simp only [next]
  split
  next time answered =>
    refine ⟨List.pairwise_cons.mpr ⟨before.2 clocks time ticks answered, before.1⟩, ?_⟩
    intro later time' ticks' answered' earlier member
    rcases List.mem_cons.mp member with rfl | member
    · have := getTrustedEffectiveTime_mono ticks' answered answered'
      rw [rollbackThresholdSeconds]
      linarith
    · exact before.2 later time' (ticks.trans ticks') answered' earlier member
  next => exact ⟨before.1, fun later time ticks' => before.2 later time (ticks.trans ticks')⟩

theorem next_kept (seen : Observed) (call : ClockCall)
    (allowed : seen.Ticks call ∧ seen.Current call)
    (before : seen.Bounded ∧ seen.Safe) :
    (seen.next host store call).Bounded ∧ (seen.next host store call).Safe := by
  cases call with
  | sync draws tCloudSeconds clocks =>
    exact ⟨before.1, sync_safe host store allowed.1 allowed.2 before.2⟩
  | restart clocks =>
    refine ⟨?_, restart_safe host store allowed.2 before.2⟩
    simp only [next]
    split <;> exact before.1
  | read clocks => exact read_kept host store allowed.1 before

end Observed

open Observed

/-- Where each synchronised time, and at each restart the later of anchor and wall clock, is at most
300 seconds behind every time returned before, every returned time is so too. A time that is
accepted and further behind can be returned at once. -/
theorem returned_times_bounded (host : Host) (store : EdgeSecureStore) :
    (∀ files anchor monotonic calls,
      Permitted (next host store) (fun seen call => seen.Ticks call ∧ seen.Current call)
        (initial files anchor monotonic) calls →
      (calls.foldl (next host store) (initial files anchor monotonic)).Bounded) ∧
    (∀ (seen : Observed) draws tCloudSeconds clocks,
      (seen.time.syncCloudTime host store draws tCloudSeconds clocks).1 = .ok () →
      (seen.Current (.sync draws tCloudSeconds clocks) ↔
        (seen.next host store (.sync draws tCloudSeconds clocks)).Safe)) ∧
    ∀ (seen : Observed) clocks time, seen.time.restart host store clocks = .ok time →
      time.manager.isLocked = false →
      (seen.Current (.restart clocks) ↔ (seen.next host store (.restart clocks)).Safe) := by
  refine ⟨?_, ?_, fun seen clocks time => restart_safe_iff host store⟩
  · intro files anchor monotonic calls permitted
    -- A manager that was never synchronised returns nothing.
    have start : (initial files anchor monotonic).Bounded ∧
        (initial files anchor monotonic).Safe :=
      ⟨.nil, guarded_of_silent (.inr rfl)⟩
    exact (permitted.invariant (next_kept host store) start).1
  · intro seen draws tCloudSeconds clocks accepted
    have outcome := TrustedTime.syncCloudTime_manager host store clocks seen.time draws tCloudSeconds
    split at outcome
    next after answered =>
      simp only [Observed.Current, next, answered]
      exact outcome.guarded_iff.symm
    next err after answered =>
      rw [answered] at accepted
      cases accepted

/-! ### A restart after a reading -/

def sampleInitial : Observed := initial (fun _ => none) none 0

def sampleSeen (seconds : ℤ) : Observed :=
  [.sync (draws 0x41) 1700000000 sampleClocks, .read ⟨1700000000, seconds * 1000000000⟩].foldl
    (next sampleHost sampleStore) sampleInitial

def sampleRestarted (seconds : ℤ) : Observed :=
  [.restart sampleClocks, .read sampleClocks].foldl (next sampleHost sampleStore)
    (sampleSeen seconds)

/-- After a reading 200 seconds after the synchronisation a restart is in order. -/
theorem short_absence_bounded :
    (sampleRestarted 200).returned = [1700000000, 1700000200] ∧ (sampleRestarted 200).Bounded ∧
    (sampleInitial.next sampleHost sampleStore (.sync (draws 0x41) 1700000000 sampleClocks)).Safe ∧
    ((sampleSeen 200).next sampleHost sampleStore (.restart sampleClocks)).Safe := by
  have bounded := returned_times_bounded sampleHost sampleStore
  have restarts : ((sampleSeen 200).time.restart sampleHost sampleStore sampleClocks).map
      (·.manager.isLocked) = .ok false := by decide +kernel
  refine ⟨by decide +kernel, ?_, (bounded.2.1 _ _ _ _ (by decide +kernel)).mp (by decide +kernel), ?_⟩
  · exact bounded.1 (fun _ => none) none 0 [.sync (draws 0x41) 1700000000 sampleClocks,
      .read ⟨1700000000, 200 * 1000000000⟩, .restart sampleClocks, .read sampleClocks]
      (by decide +kernel)
  · cases built : (sampleSeen 200).time.restart sampleHost sampleStore sampleClocks with
    | error err => simp [built, Except.map] at restarts
    | ok time =>
      simp only [built, Except.map, Except.ok.injEq] at restarts
      exact (bounded.2.2 _ _ _ built restarts).mp (by decide +kernel)

/-- 1000 seconds after the synchronisation a time is returned that a restart forgets: the next
process, whose wall clock agrees with the anchor, counts from the anchor again. -/
theorem restart_forgets_elapsed :
    (sampleRestarted 1000).returned = [1700000000, 1700001000] ∧
    (sampleRestarted 1000).time.manager.isLocked = false ∧ ¬(sampleRestarted 1000).Bounded := by
  unfold Observed.Bounded
  decide +kernel

end TridentPos.Edge
