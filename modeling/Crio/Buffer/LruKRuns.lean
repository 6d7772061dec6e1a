import Crio.Buffer.LruKReplacer
import Crio.Lib.AListCount
import Crio.Lib.Reachability

/-!
Runs of the LRU-K replacer from `LruKReplacer::new(k, max_frames)`: any sequence of
`record_access`, `set_evictable`, `remove` and `evict`. `should_replace` compares a rank
(`victimRank`), so the one pass of `evict` ends at a frame of highest rank in any scan order.
-/

namespace Crio

def victimRank : Option Nat → Option Nat → Lex (Nat × Int)
  | some dist, _ => toLex (0, dist)
  | none, none => toLex (1, 0)
  | none, some earliest => toLex (2, -earliest)

theorem shouldReplace_eq_true_iff (victimKDist victimEarliest kDist earliest : Option Nat) :
    shouldReplace victimKDist victimEarliest kDist earliest = true ↔
      victimRank victimKDist victimEarliest < victimRank kDist earliest := by
  -- the match of `should_replace` against the rank, for each of the sixteen shapes
  cases victimKDist <;> cases kDist <;> cases victimEarliest <;> cases earliest <;>
    simp [shouldReplace, victimRank, Prod.Lex.toLex_lt_toLex]

theorem replacedBy_eq_true_iff (victim : Option Victim) (kDist earliest : Option Nat) :
    replacedBy victim kDist earliest = true ↔
      ∀ v, victim = some v → victimRank v.kDist v.earliest < victimRank kDist earliest := by
  cases victim with
  | none => simp [replacedBy]
  | some v => simp [replacedBy, shouldReplace_eq_true_iff]

namespace FrameAccessInfo

theorem kDistance_of_lt {info : FrameAccessInfo} {currentTimestamp k : Nat}
    (short : info.history.length < k) : info.kDistance currentTimestamp k = some none := by
  simp [kDistance, short]

theorem kDistance_of_reverse {info : FrameAccessInfo} {currentTimestamp k t : Nat}
    (atLeastOne : 1 ≤ k) (found : info.history.reverse[k - 1]? = some t) :
    info.kDistance currentTimestamp k = some (some (currentTimestamp - t)) := by
  have inside : k - 1 < info.history.length := by
    simpa using (List.getElem?_eq_some_iff.mp found).1
  have back : (k - 1) + (info.history.length - k) + 1 = info.history.length := by omega
  rw [List.getElem?_reverse' back] at found
  simp [kDistance, show ¬ info.history.length < k by omega, found]

theorem kDistance_isSome (info : FrameAccessInfo) (currentTimestamp : Nat) {k : Nat}
    (atLeastOne : 1 ≤ k) : (info.kDistance currentTimestamp k).isSome := by
  by_cases short : info.history.length < k
  · simp [kDistance_of_lt short]
  · have inside : k - 1 < info.history.reverse.length := by simp; omega
    rw [kDistance_of_reverse atLeastOne (List.getElem?_eq_getElem inside)]
    rfl

end FrameAccessInfo

/-- The victim order of the LRU-K policy: fewer than `k` accesses before `k`, then the earlier first
access, or the earlier `k`-th most recent one. -/
def Preferred (k : Nat) (g f : FrameAccessInfo) : Prop :=
  (g.history.length < k ∧ k ≤ f.history.length) ∨
  (g.history.length < k ∧ f.history.length < k ∧
    ∃ tg tf, g.history.head? = some tg ∧ f.history.head? = some tf ∧ tg < tf) ∨
  (k ≤ g.history.length ∧ k ≤ f.history.length ∧
    ∃ tg tf, g.history.reverse[k - 1]? = some tg ∧ f.history.reverse[k - 1]? = some tf ∧ tg < tf)

theorem Preferred.rank_lt {k currentTimestamp : Nat} (atLeastOne : 1 ≤ k)
    {g f : FrameAccessInfo} (preferred : Preferred k g f)
    (past : ∀ t ∈ f.history, t < currentTimestamp) {kDistG kDistF : Option Nat}
    (distG : g.kDistance currentTimestamp k = some kDistG)
    (distF : f.kDistance currentTimestamp k = some kDistF) :
    victimRank kDistF f.earliestTimestamp < victimRank kDistG g.earliestTimestamp := by
  rcases preferred with ⟨shortG, longF⟩ | ⟨shortG, shortF, tg, tf, firstG, firstF, earlier⟩ |
    ⟨longG, longF, tg, tf, kthG, kthF, earlier⟩
  · have inside : k - 1 < f.history.reverse.length := by simp; omega
    rw [FrameAccessInfo.kDistance_of_lt shortG, Option.some_inj] at distG
    rw [FrameAccessInfo.kDistance_of_reverse atLeastOne (List.getElem?_eq_getElem inside),
      Option.some_inj] at distF
    subst distG distF
    cases g.earliestTimestamp <;> simp [victimRank, Prod.Lex.toLex_lt_toLex]
  · rw [FrameAccessInfo.kDistance_of_lt shortG, Option.some_inj] at distG
    rw [FrameAccessInfo.kDistance_of_lt shortF, Option.some_inj] at distF
    subst distG distF
    simp [FrameAccessInfo.earliestTimestamp, firstG, firstF, victimRank,
      Prod.Lex.toLex_lt_toLex, earlier]
  · have recent : tf < currentTimestamp :=
      past tf (List.mem_reverse.mp (List.mem_of_getElem? kthF))
    rw [FrameAccessInfo.kDistance_of_reverse atLeastOne kthG, Option.some_inj] at distG
    rw [FrameAccessInfo.kDistance_of_reverse atLeastOne kthF, Option.some_inj] at distF
    subst distG distF
    simp only [victimRank, Prod.Lex.toLex_lt_toLex, lt_self_iff_false, true_and, false_or]
    omega

namespace LruKReplacer

inductive Call where
  | recordAccess (frameId : FrameId)
  | setEvictable (frameId : FrameId) (isEvictable : Bool)
  | remove (frameId : FrameId)
  | evict

/-- `none` if the call panics. -/
def Call.run (r : LruKReplacer) : Call → Option LruKReplacer
  | .recordAccess frameId => some (r.recordAccess frameId)
  | .setEvictable frameId isEvictable => some (r.setEvictable frameId isEvictable)
  | .remove frameId => some (r.remove frameId)
  | .evict => r.evict.map Prod.snd

def Step (r r' : LruKReplacer) : Prop := ∃ call : Call, call.run r = some r'

def Reachable (k maxFrames : Nat) (r : LruKReplacer) : Prop :=
  Reachability.Reachable (· = new k maxFrames) Step r

def evictableCount (r : LruKReplacer) : Nat :=
  AListCount.count (fun _ info => info.isEvictable) r.frameInfo

def Past (frameInfo : AList fun _ : FrameId => FrameAccessInfo) (timestamp : Nat) : Prop :=
  ∀ frameId info, frameInfo.lookup frameId = some info → ∀ t ∈ info.history, t < timestamp

theorem Past.erase {frameInfo : AList fun _ : FrameId => FrameAccessInfo} {timestamp : Nat}
    (past : Past frameInfo timestamp) (frameId : FrameId) :
    Past (frameInfo.erase frameId) timestamp :=
  AListCount.All.erase (q := fun _ (info : FrameAccessInfo) => ∀ t ∈ info.history, t < timestamp)
    past frameId

theorem Past.insert {frameInfo : AList fun _ : FrameId => FrameAccessInfo}
    {timestamp timestamp' : Nat} (past : Past frameInfo timestamp) (later : timestamp ≤ timestamp')
    (frameId : FrameId) {info : FrameAccessInfo} (recent : ∀ t ∈ info.history, t < timestamp') :
    Past (frameInfo.insert frameId info) timestamp' := by
  have moved : Past frameInfo timestamp' :=
    AListCount.All.mono (q := fun _ (info : FrameAccessInfo) => ∀ t ∈ info.history, t < timestamp)
      past fun _ _ before t member => Nat.lt_of_lt_of_le (before t member) later
  exact AListCount.All.insert
    (q := fun _ (info : FrameAccessInfo) => ∀ t ∈ info.history, t < timestamp') moved frameId recent

structure Consistent (k : Nat) (r : LruKReplacer) : Prop where
  k_eq : r.k = k
  counted : r.numEvictable = r.evictableCount
  past : Past r.frameInfo r.currentTimestamp

section Steps

variable {k : Nat} {r : LruKReplacer}

theorem consistent_new (maxFrames : Nat) : Consistent k (new k maxFrames) where
  k_eq := rfl
  counted := by simp [new, evictableCount]
  past := fun _ _ found => by simp [new, AList.lookup_empty] at found

theorem Consistent.recordAccess (c : Consistent k r) (frameId : FrameId) :
    Consistent k (r.recordAccess frameId) := by
  unfold LruKReplacer.recordAccess
  split
  · exact c
  · refine ⟨c.k_eq, ?_, ?_⟩
    · simp only [evictableCount, AListCount.count_insert, FrameAccessInfo.recordAccess]
      cases found : r.frameInfo.lookup frameId with
      | none =>
        simp [AListCount.count_erase_of_lookup_eq_none found, FrameAccessInfo.new, c.counted,
          evictableCount]
      | some info =>
        simp [AListCount.count_eq_count_erase_add found, c.counted, evictableCount]
    · refine c.past.insert (Nat.le_succ _) frameId fun t member => ?_
      simp only [FrameAccessInfo.recordAccess, FrameAccessInfo.trimHistory_eq_drop] at member
      rcases List.mem_append.mp (List.mem_of_mem_drop member) with old | now
      · cases found : r.frameInfo.lookup frameId with
        | none => simp [found, FrameAccessInfo.new] at old
        | some info =>
          rw [found, Option.getD_some] at old
          exact Nat.lt_succ_of_lt (c.past frameId info found t old)
      · rw [List.mem_singleton.mp now]
        exact Nat.lt_succ_self _

theorem Consistent.setEvictable (c : Consistent k r) (frameId : FrameId) (isEvictable : Bool) :
    Consistent k (r.setEvictable frameId isEvictable) := by
  unfold LruKReplacer.setEvictable
  split
  · exact c
  · cases found : r.frameInfo.lookup frameId with
    | some info =>
      simp only
      split
      · rename_i flips
        refine ⟨c.k_eq, ?_, c.past.insert le_rfl frameId (c.past frameId info found)⟩
        have before := AListCount.count_eq_count_erase_add
          (p := fun _ info => info.isEvictable) found
        have counted := c.counted
        simp only [evictableCount, AListCount.count_insert] at before counted ⊢
        cases isEvictable with
        | true =>
          have off : info.isEvictable = false := by simpa using flips
          simp [off] at before ⊢
          omega
        | false =>
          have on : info.isEvictable = true := by simpa using flips
          simp [on] at before ⊢
          omega
      · exact c
    | none =>
      simp only
      split
      · refine ⟨c.k_eq, ?_, c.past.insert le_rfl frameId (by simp)⟩
        simp [evictableCount, AListCount.count_insert,
          AListCount.count_erase_of_lookup_eq_none found, c.counted]
      · exact c

theorem Consistent.remove (c : Consistent k r) (frameId : FrameId) :
    Consistent k (r.remove frameId) := by
  unfold LruKReplacer.remove
  cases found : r.frameInfo.lookup frameId with
  | some info =>
    refine ⟨c.k_eq, ?_, c.past.erase frameId⟩
    have before := AListCount.count_eq_count_erase_add (p := fun _ info => info.isEvictable) found
    have counted := c.counted
    simp only [evictableCount] at before counted ⊢
    by_cases flag : info.isEvictable = true
    · simp only [flag, if_true] at before ⊢
      omega
    · simp only [flag, if_false, Bool.false_eq_true] at before ⊢
      omega
  | none => exact c

theorem evict_eq_some_none {r' : LruKReplacer} (evicted : r.evict = some (none, r')) : r' = r := by
  unfold evict at evicted
  split at evicted
  · exact (Prod.mk.inj (Option.some_inj.mp evicted)).2.symm
  · split at evicted
    · cases evicted
    · exact (Prod.mk.inj (Option.some_inj.mp evicted)).2.symm
    · cases evicted

theorem evict_eq_some_some {r' : LruKReplacer} {frameId : FrameId}
    (evicted : r.evict = some (some frameId, r')) :
    r' = { r with frameInfo := r.frameInfo.erase frameId, numEvictable := r.numEvictable - 1 } := by
  unfold evict at evicted
  split at evicted
  · cases evicted
  · split at evicted
    · cases evicted
    · cases evicted
    · simp only [Option.some_inj, Prod.mk.injEq] at evicted
      obtain ⟨rfl, rfl⟩ := evicted
      rfl

theorem Consistent.evict (c : Consistent k r) {result : Option FrameId} {r' : LruKReplacer}
    (evicted : r.evict = some (result, r')) : Consistent k r' := by
  cases result with
  | none => exact evict_eq_some_none evicted ▸ c
  | some frameId =>
    obtain ⟨⟨info, found, evictable⟩, -⟩ := evict_some evicted
    have before := AListCount.count_eq_count_erase_add (p := fun _ info => info.isEvictable) found
    have counted := c.counted
    rw [evict_eq_some_some evicted]
    refine ⟨c.k_eq, ?_, c.past.erase frameId⟩
    simp only [evictableCount, evictable, if_true] at before counted ⊢
    omega

theorem Consistent.run (c : Consistent k r) {call : Call} {r' : LruKReplacer}
    (ran : call.run r = some r') : Consistent k r' := by
  cases call with
  | recordAccess frameId => exact Option.some_inj.mp ran ▸ c.recordAccess frameId
  | setEvictable frameId isEvictable =>
    exact Option.some_inj.mp ran ▸ c.setEvictable frameId isEvictable
  | remove frameId => exact Option.some_inj.mp ran ▸ c.remove frameId
  | evict =>
    obtain ⟨⟨result, r''⟩, evicted, rfl⟩ := Option.map_eq_some_iff.mp ran
    exact c.evict evicted

theorem consistent_of_reachable {maxFrames : Nat} (reached : Reachable k maxFrames r) :
    Consistent k r :=
  Reachability.Reachable.invariant (Consistent k)
    (fun _ initial => by
      subst initial
      exact consistent_new maxFrames)
    (fun _ _ c step => by
      obtain ⟨call, ran⟩ := step
      exact c.run ran)
    reached

end Steps

section Scan

variable {k currentTs : Nat}

theorem scanVictim_eq_some_none :
    ∀ (entries : List (Sigma fun _ : FrameId => FrameAccessInfo)) (victim : Option Victim),
      scanVictim k currentTs victim entries = some none →
      victim = none ∧ ∀ e ∈ entries, e.2.isEvictable = false
  | [], victim, scanned => by simpa [scanVictim] using scanned
  | ⟨frameId, info⟩ :: rest, victim, scanned => by
    unfold scanVictim at scanned
    by_cases skipped : info.isEvictable = false
    · simp only [skipped, Bool.not_false, if_true] at scanned
      obtain ⟨noVictim, restSkipped⟩ := scanVictim_eq_some_none rest victim scanned
      exact ⟨noVictim, by simpa [skipped] using restSkipped⟩
    · have evictable : info.isEvictable = true := by simpa using skipped
      simp only [evictable, Bool.not_true, Bool.false_eq_true, if_false] at scanned
      cases distance : info.kDistance currentTs k with
      | none => simp [distance] at scanned
      | some kDist =>
        simp only [distance] at scanned
        have next := (scanVictim_eq_some_none rest _ scanned).1
        split at next
        · cases next
        · rename_i kept
          subst next
          simp [replacedBy] at kept

theorem scanVictim_isSome (atLeastOne : 1 ≤ k) (timestamp : Nat) :
    ∀ (entries : List (Sigma fun _ : FrameId => FrameAccessInfo)) (victim : Option Victim),
      (scanVictim k timestamp victim entries).isSome
  | [], victim => rfl
  | ⟨frameId, info⟩ :: rest, victim => by
    unfold scanVictim
    split
    · exact scanVictim_isSome atLeastOne timestamp rest victim
    · obtain ⟨kDist, distance⟩ :=
        Option.isSome_iff_exists.mp (FrameAccessInfo.kDistance_isSome info timestamp atLeastOne)
      simp only [distance]
      exact scanVictim_isSome atLeastOne timestamp rest _

theorem scanVictim_highest :
    ∀ (entries : List (Sigma fun _ : FrameId => FrameAccessInfo)) (victim : Option Victim)
      (chosen : Victim), scanVictim k currentTs victim entries = some (some chosen) →
      (∀ v, victim = some v →
        victimRank v.kDist v.earliest ≤ victimRank chosen.kDist chosen.earliest) ∧
      ∀ e ∈ entries, e.2.isEvictable = true → ∀ kDist, e.2.kDistance currentTs k = some kDist →
        victimRank kDist e.2.earliestTimestamp ≤ victimRank chosen.kDist chosen.earliest
  | [], victim, chosen, scanned => by
    simp only [scanVictim, Option.some_inj] at scanned
    subst scanned
    exact ⟨fun v same => by rw [Option.some_inj.mp same], by simp⟩
  | ⟨frameId, info⟩ :: rest, victim, chosen, scanned => by
    unfold scanVictim at scanned
    by_cases skipped : info.isEvictable = false
    · simp only [skipped, Bool.not_false, if_true] at scanned
      obtain ⟨fromVictim, fromRest⟩ := scanVictim_highest rest victim chosen scanned
      refine ⟨fromVictim, fun e member evictable => ?_⟩
      rcases List.mem_cons.mp member with rfl | later
      · simp [skipped] at evictable
      · exact fromRest e later evictable
    · have evictable : info.isEvictable = true := by simpa using skipped
      simp only [evictable, Bool.not_true, Bool.false_eq_true, if_false] at scanned
      cases distance : info.kDistance currentTs k with
      | none => simp [distance] at scanned
      | some kDist =>
        simp only [distance] at scanned
        generalize next : (if replacedBy victim kDist info.earliestTimestamp then
          some ⟨frameId, kDist, info.earliestTimestamp⟩ else victim) = victim' at scanned
        obtain ⟨fromVictim, fromRest⟩ := scanVictim_highest rest victim' chosen scanned
        have here : victimRank kDist info.earliestTimestamp ≤
            victimRank chosen.kDist chosen.earliest := by
          by_cases replace : replacedBy victim kDist info.earliestTimestamp = true
          · rw [if_pos replace] at next
            exact fromVictim _ next.symm
          · rw [if_neg replace] at next
            obtain ⟨v, rfl, notBelow⟩ : ∃ v, victim = some v ∧
                ¬ victimRank v.kDist v.earliest < victimRank kDist info.earliestTimestamp := by
              simpa [replacedBy_eq_true_iff] using replace
            exact le_trans (not_lt.mp notBelow) (fromVictim v next.symm)
        refine ⟨fun v same => ?_, fun e member evictable' => ?_⟩
        · by_cases replace : replacedBy victim kDist info.earliestTimestamp = true
          · exact le_of_lt (lt_of_lt_of_le ((replacedBy_eq_true_iff _ _ _).mp replace v same) here)
          · rw [if_neg replace] at next
            exact fromVictim v (next ▸ same)
        · rcases List.mem_cons.mp member with rfl | later
          · intro kDist' distance'
            rw [distance, Option.some_inj] at distance'
            exact distance' ▸ here
          · exact fromRest e later evictable'

end Scan

section Evict

variable {k : Nat} {r : LruKReplacer}

theorem evictableCount_eq_zero_iff :
    r.evictableCount = 0 ↔ ∀ frameId, ¬ r.Evictable frameId := by
  simp [evictableCount, AListCount.count_eq_zero_iff, Evictable]

theorem Consistent.evict_none_iff (c : Consistent k r) :
    (∃ r', r.evict = some (none, r')) ↔ r.evictableCount = 0 := by
  refine ⟨fun ⟨r', evicted⟩ => ?_, fun none => ⟨r, by simp [LruKReplacer.evict, c.counted, none]⟩⟩
  unfold LruKReplacer.evict at evicted
  split at evicted
  · rename_i empty
    rw [← c.counted, empty]
  · split at evicted
    · cases evicted
    · rename_i scanned
      have skipped := (scanVictim_eq_some_none _ _ scanned).2
      exact List.countP_eq_zero.mpr fun e member => by simp [skipped e member]
    · cases evicted

theorem Consistent.scanVictim_some (c : Consistent k r) (atLeastOne : 1 ≤ k) {frameId : FrameId}
    (evictable : r.Evictable frameId) :
    ∃ chosen, scanVictim r.k r.currentTimestamp none r.frameInfo.entries = some (some chosen) := by
  obtain ⟨result, scanned⟩ := Option.isSome_iff_exists.mp
    (scanVictim_isSome (c.k_eq ▸ atLeastOne) r.currentTimestamp r.frameInfo.entries none)
  cases result with
  | some chosen => exact ⟨chosen, scanned⟩
  | none =>
    obtain ⟨info, found, flag⟩ := evictable
    have skipped := (scanVictim_eq_some_none _ _ scanned).2 ⟨frameId, info⟩
      (AList.mem_lookup_iff.mp found)
    simp [flag] at skipped

end Evict

section Panics

variable {k : Nat} {r : LruKReplacer}

theorem Consistent.evict_isSome (c : Consistent k r) (atLeastOne : 1 ≤ k) : r.evict.isSome := by
  unfold LruKReplacer.evict
  split
  · rfl
  · obtain ⟨result, scanned⟩ := Option.isSome_iff_exists.mp
      (scanVictim_isSome (c.k_eq ▸ atLeastOne) r.currentTimestamp r.frameInfo.entries none)
    rw [scanned]
    cases result <;> rfl

theorem Consistent.one_le_numEvictable (c : Consistent k r) {frameId : FrameId}
    {info : FrameAccessInfo} (found : r.frameInfo.lookup frameId = some info)
    (evictable : info.isEvictable = true) : 1 ≤ r.numEvictable := by
  have before := AListCount.count_eq_count_erase_add (p := fun _ info => info.isEvictable) found
  rw [c.counted]
  simp only [evictableCount, evictable, if_true] at before ⊢
  omega

def EmptyHistories (frameInfo : AList fun _ : FrameId => FrameAccessInfo) : Prop :=
  AListCount.All (fun _ info => info.history = []) frameInfo

theorem EmptyHistories.run (zero : r.k = 0) (empty : EmptyHistories r.frameInfo) {call : Call}
    {r' : LruKReplacer} (ran : call.run r = some r') : EmptyHistories r'.frameInfo := by
  cases call with
  | recordAccess frameId =>
    obtain rfl : r.recordAccess frameId = r' := Option.some_inj.mp ran
    unfold LruKReplacer.recordAccess
    split
    · exact empty
    · refine AListCount.All.insert empty frameId ?_
      simp [FrameAccessInfo.recordAccess, FrameAccessInfo.trimHistory_eq_drop, zero]
  | setEvictable frameId isEvictable =>
    obtain rfl : r.setEvictable frameId isEvictable = r' := Option.some_inj.mp ran
    unfold LruKReplacer.setEvictable
    split
    · exact empty
    · cases found : r.frameInfo.lookup frameId with
      | some info =>
        simp only
        split
        · exact AListCount.All.insert empty frameId (empty frameId info found)
        · exact empty
      | none =>
        simp only
        split
        · exact AListCount.All.insert empty frameId rfl
        · exact empty
  | remove frameId =>
    obtain rfl : r.remove frameId = r' := Option.some_inj.mp ran
    unfold LruKReplacer.remove
    split
    · exact AListCount.All.erase empty frameId
    · exact empty
  | evict =>
    obtain ⟨⟨result, r''⟩, evicted, rfl⟩ := Option.map_eq_some_iff.mp ran
    cases result with
    | none => exact evict_eq_some_none evicted ▸ empty
    | some frameId =>
      rw [evict_eq_some_some evicted]
      exact AListCount.All.erase empty frameId

theorem emptyHistories_of_reachable {maxFrames : Nat} (reached : Reachable 0 maxFrames r) :
    EmptyHistories r.frameInfo :=
  -- the step lemma needs `k = 0`, which `Consistent` carries along the run
  (Reachability.Reachable.invariant (fun r => Consistent 0 r ∧ EmptyHistories r.frameInfo)
    (fun _ initial => by
      subst initial
      exact ⟨consistent_new maxFrames, fun _ _ found => by simp [new, AList.lookup_empty] at found⟩)
    (fun _ _ ⟨c, empty⟩ step => by
      obtain ⟨call, ran⟩ := step
      exact ⟨c.run ran, empty.run c.k_eq ran⟩)
    reached).2

theorem scanVictim_zero_eq_none {currentTs : Nat} :
    ∀ (entries : List (Sigma fun _ : FrameId => FrameAccessInfo)) (victim : Option Victim),
      (∀ e ∈ entries, e.2.history = []) → (∃ e ∈ entries, e.2.isEvictable = true) →
      scanVictim 0 currentTs victim entries = none
  | [], _, _, ⟨_, member, _⟩ => absurd member List.not_mem_nil
  | ⟨frameId, info⟩ :: rest, victim, empty, ⟨e, member, evictable⟩ => by
    unfold scanVictim
    cases flag : info.isEvictable with
    | false =>
      have later : e ∈ rest := by
        rcases List.mem_cons.mp member with rfl | later
        · simp [flag] at evictable
        · exact later
      simp only [Bool.not_false, if_true]
      exact scanVictim_zero_eq_none rest victim (fun e' m => empty e' (List.mem_cons_of_mem _ m))
        ⟨e, later, evictable⟩
    | true =>
      have none : info.history = [] := empty ⟨frameId, info⟩ List.mem_cons_self
      simp [FrameAccessInfo.kDistance, none]

theorem evict_eq_none_iff_of_zero (c : Consistent 0 r) (empty : EmptyHistories r.frameInfo) :
    r.evict = none ↔ r.numEvictable ≠ 0 := by
  by_cases nothing : r.numEvictable = 0
  · simp [LruKReplacer.evict, nothing]
  · obtain ⟨frameId, info, found, evictable⟩ : ∃ frameId, r.Evictable frameId :=
      not_forall_not.mp fun none => nothing (c.counted ▸ evictableCount_eq_zero_iff.mpr none)
    have scanned : scanVictim r.k r.currentTimestamp none r.frameInfo.entries = none := by
      rw [c.k_eq]
      exact scanVictim_zero_eq_none _ _ (fun e member => AListCount.All.mem empty member)
        ⟨⟨frameId, info⟩, AList.mem_lookup_iff.mp found, evictable⟩
    simp [LruKReplacer.evict, nothing, scanned]

end Panics

/-- Over every run, `size()` counts the tracked evictable frames, and `evict` returns `None` exactly
when there are none. -/
theorem size_counts_evictable {k maxFrames : Nat} {r : LruKReplacer}
    (reached : Reachable k maxFrames r) :
    r.numEvictable = r.evictableCount ∧ r.size = r.evictableCount ∧
      ((∃ r', r.evict = some (none, r')) ↔ r.evictableCount = 0) := by
  have c := consistent_of_reachable reached
  exact ⟨c.counted, c.counted, c.evict_none_iff⟩

def liveCalls : List Call :=
  [.recordAccess ⟨1⟩, .recordAccess ⟨2⟩, .recordAccess ⟨1⟩, .setEvictable ⟨1⟩ true,
    .setEvictable ⟨2⟩ true]

def live : LruKReplacer := (liveCalls.foldlM Call.run (new 2 10)).getD (new 2 10)

theorem reachable_live : Reachable 2 10 live :=
  Reachability.Reachable.foldlM (fun _ call _ ran => ⟨call, ran⟩) liveCalls
    (Reachability.Reachable.initial rfl) rfl

theorem size_counts_evictable_live :
    Reachable 2 10 live ∧ live.evictableCount = 2 ∧
      live.numEvictable = live.evictableCount ∧ live.size = live.evictableCount ∧
      ((∃ r', live.evict = some (none, r')) ↔ live.evictableCount = 0) :=
  ⟨reachable_live, by decide, size_counts_evictable reachable_live⟩

end LruKReplacer

end Crio
