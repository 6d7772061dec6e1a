import Crio.Common.Types

/-!
The LRU-K replacer of `src/buffer/lru_k_replacer.rs`. `frame_info` is a `HashMap`, here an
association list that `evict` scans in its own order, which decides only between evictable
frames with no recorded access. Timestamps are `u64` counters that never wrap: they are `Nat`.
-/

namespace Crio

structure FrameAccessInfo where
  history : List Nat
  isEvictable : Bool
  deriving DecidableEq, Repr

namespace FrameAccessInfo

def new : FrameAccessInfo := ⟨[], false⟩

def trimHistory (k : Nat) : List Nat → List Nat
  | [] => []
  | t :: rest => if rest.length + 1 > k then trimHistory k rest else t :: rest

def recordAccess (info : FrameAccessInfo) (timestamp k : Nat) : FrameAccessInfo :=
  { info with history := trimHistory k (info.history ++ [timestamp]) }

/-- `k_distance`: `none` for fewer than `k` accesses, the `+inf` distance; the outer `none` is
the panic of `history[len - k]` when `k = 0`. -/
def kDistance (info : FrameAccessInfo) (currentTimestamp k : Nat) : Option (Option Nat) :=
  if info.history.length < k then some none
  else (info.history[info.history.length - k]?).map fun t => some (currentTimestamp - t)

def earliestTimestamp (info : FrameAccessInfo) : Option Nat := info.history.head?

theorem trimHistory_eq_drop (k : Nat) :
    ∀ history : List Nat, trimHistory k history = history.drop (history.length - k)
  | [] => by simp [trimHistory]
  | t :: rest => by
    unfold trimHistory
    split
    · rename_i long
      have shift : (t :: rest).length - k = (rest.length - k) + 1 := by
        simp only [List.length_cons]
        omega
      rw [trimHistory_eq_drop k rest, shift, List.drop_succ_cons]
    · rename_i short
      have none : (t :: rest).length - k = 0 := by
        simp only [List.length_cons]
        omega
      rw [none, List.drop_zero]

theorem length_recordAccess (info : FrameAccessInfo) (timestamp k : Nat) :
    (info.recordAccess timestamp k).history.length = min (info.history.length + 1) k := by
  simp only [recordAccess, trimHistory_eq_drop, List.length_drop, List.length_append,
    List.length_singleton]
  omega

end FrameAccessInfo

structure Victim where
  frameId : FrameId
  kDist : Option Nat
  earliest : Option Nat
  deriving DecidableEq, Repr

def shouldReplace (victimKDist victimEarliest kDist earliest : Option Nat) : Bool :=
  match victimKDist, kDist with
  | none, some _ => false
  | some _, none => true
  | none, none =>
    match victimEarliest, earliest with
    | some victimTs, some candidateTs => decide (candidateTs < victimTs)
    | none, some _ => true
    | _, _ => false
  | some victimDist, some candidateDist => decide (victimDist < candidateDist)

def replacedBy : Option Victim → Option Nat → Option Nat → Bool
  | none, _, _ => true
  | some victim, kDist, earliest => shouldReplace victim.kDist victim.earliest kDist earliest

structure LruKReplacer where
  k : Nat
  maxFrames : Nat
  currentTimestamp : Nat
  frameInfo : AList fun _ : FrameId => FrameAccessInfo
  numEvictable : Nat

namespace LruKReplacer

def new (k maxFrames : Nat) : LruKReplacer := ⟨k, maxFrames, 0, ∅, 0⟩

/-- The loop of `evict` over `frame_info`, skipping frames that are not evictable; `none` is a
panic of `k_distance`. -/
def scanVictim (k currentTs : Nat) :
    Option Victim → List (Sigma fun _ : FrameId => FrameAccessInfo) → Option (Option Victim)
  | victim, [] => some victim
  | victim, ⟨frameId, info⟩ :: rest =>
    if !info.isEvictable then scanVictim k currentTs victim rest
    else
      match info.kDistance currentTs k with
      | none => none
      | some kDist =>
        let earliest := info.earliestTimestamp
        scanVictim k currentTs
          (if replacedBy victim kDist earliest then some ⟨frameId, kDist, earliest⟩ else victim) rest

def evict (r : LruKReplacer) : Option (Option FrameId × LruKReplacer) :=
  if r.numEvictable = 0 then some (none, r)
  else
    match scanVictim r.k r.currentTimestamp none r.frameInfo.entries with
    | none => none
    | some none => some (none, r)
    | some (some victim) =>
      some (some victim.frameId, { r with frameInfo := r.frameInfo.erase victim.frameId,
                                          numEvictable := r.numEvictable - 1 })

def recordAccess (r : LruKReplacer) (frameId : FrameId) : LruKReplacer :=
  if frameId.asUsize ≥ r.maxFrames then r
  else
    let info := (r.frameInfo.lookup frameId).getD FrameAccessInfo.new
    { r with currentTimestamp := r.currentTimestamp + 1,
             frameInfo := r.frameInfo.insert frameId (info.recordAccess r.currentTimestamp r.k) }

def setEvictable (r : LruKReplacer) (frameId : FrameId) (isEvictable : Bool) : LruKReplacer :=
  if frameId.asUsize ≥ r.maxFrames then r
  else
    match r.frameInfo.lookup frameId with
    | some info =>
      if info.isEvictable != isEvictable then
        { r with numEvictable := if isEvictable then r.numEvictable + 1 else r.numEvictable - 1,
                 frameInfo := r.frameInfo.insert frameId { info with isEvictable } }
      else r
    | none =>
      if isEvictable then
        { r with frameInfo := r.frameInfo.insert frameId ⟨[], true⟩,
                 numEvictable := r.numEvictable + 1 }
      else r

def remove (r : LruKReplacer) (frameId : FrameId) : LruKReplacer :=
  match r.frameInfo.lookup frameId with
  | some info =>
    { r with frameInfo := r.frameInfo.erase frameId,
             numEvictable := if info.isEvictable then r.numEvictable - 1 else r.numEvictable }
  | none => r

def size (r : LruKReplacer) : Nat := r.numEvictable

def Evictable (r : LruKReplacer) (frameId : FrameId) : Prop :=
  ∃ info, r.frameInfo.lookup frameId = some info ∧ info.isEvictable = true

theorem scanVictim_mem {k currentTs : Nat} :
    ∀ (entries : List (Sigma fun _ : FrameId => FrameAccessInfo)) (victim : Option Victim)
      (chosen : Victim), scanVictim k currentTs victim entries = some (some chosen) →
      victim = some chosen ∨
        ∃ info, (⟨chosen.frameId, info⟩ : Sigma fun _ : FrameId => FrameAccessInfo) ∈ entries ∧
          info.isEvictable = true ∧ info.kDistance currentTs k = some chosen.kDist ∧
          info.earliestTimestamp = chosen.earliest
  | [], victim, chosen, scanned => by
    simp only [scanVictim, Option.some_inj] at scanned
    exact Or.inl scanned
  | ⟨frameId, info⟩ :: rest, victim, chosen, scanned => by
    unfold scanVictim at scanned
    by_cases skipped : info.isEvictable = false
    · simp only [skipped, Bool.not_false, if_true] at scanned
      rcases scanVictim_mem rest victim chosen scanned with kept | ⟨info', member, found⟩
      · exact Or.inl kept
      · exact Or.inr ⟨info', List.mem_cons_of_mem _ member, found⟩
    · have evictable : info.isEvictable = true := by simpa using skipped
      simp only [evictable, Bool.not_true, Bool.false_eq_true, if_false] at scanned
      cases distance : info.kDistance currentTs k with
      | none => simp [distance] at scanned
      | some kDist =>
        simp only [distance] at scanned
        by_cases replace : replacedBy victim kDist info.earliestTimestamp = true
        · rw [if_pos replace] at scanned
          rcases scanVictim_mem rest _ chosen scanned with taken | ⟨info', member, found⟩
          · cases taken
            exact Or.inr ⟨info, List.mem_cons_self, evictable, distance, rfl⟩
          · exact Or.inr ⟨info', List.mem_cons_of_mem _ member, found⟩
        · rw [if_neg replace] at scanned
          rcases scanVictim_mem rest victim chosen scanned with kept | ⟨info', member, found⟩
          · exact Or.inl kept
          · exact Or.inr ⟨info', List.mem_cons_of_mem _ member, found⟩

theorem evict_some {r r' : LruKReplacer} {frameId : FrameId}
    (evicted : r.evict = some (some frameId, r')) :
    r.Evictable frameId ∧ r'.frameInfo = r.frameInfo.erase frameId ∧
      r'.numEvictable = r.numEvictable - 1 ∧ r'.currentTimestamp = r.currentTimestamp := by
  unfold evict at evicted
  by_cases empty : r.numEvictable = 0
  · simp [empty] at evicted
  · rw [if_neg empty] at evicted
    cases scanned : scanVictim r.k r.currentTimestamp none r.frameInfo.entries with
    | none => simp [scanned] at evicted
    | some found =>
      cases found with
      | none => simp [scanned] at evicted
      | some victim =>
        simp only [scanned, Option.some_inj, Prod.mk.injEq] at evicted
        obtain ⟨chosen, rfl⟩ := evicted
        rcases scanVictim_mem _ none victim scanned with nothing | ⟨info, member, evictable, -⟩
        · simp at nothing
        · rw [← chosen]
          exact ⟨⟨info, AList.mem_lookup_iff.mpr member, evictable⟩, rfl, rfl, rfl⟩

end LruKReplacer

end Crio
