import Crio.Storage.ExtentAllocator
import Crio.Lib.Reachability

/-!
What the extent allocator keeps true over every run. Page ids are `8 * extent + offset` in
wrapping `u32` arithmetic, so the runs considered keep `next_extent_id` at most `2 ^ 29`.
-/

namespace Crio

namespace ExtentInfo

def Counted (info : ExtentInfo) : Prop :=
  info.allocatedCount.toNat = Bitmap.population info.allocatedBitmap

instance : DecidablePred Counted := fun info =>
  inferInstanceAs (Decidable (info.allocatedCount.toNat = Bitmap.population info.allocatedBitmap))

theorem firstFree_some {b i : UInt8} :
    ∀ {l : List UInt8}, firstFree b l = some i → i ∈ l ∧ b &&& Bitmap.mask i = 0
  | [], found => by simp [firstFree] at found
  | j :: rest, found => by
      simp only [firstFree] at found
      split at found
      · rename_i free
        simp only [Option.some.injEq] at found
        subst found
        exact ⟨List.mem_cons_self, free⟩
      · obtain ⟨member, free⟩ := firstFree_some found
        exact ⟨List.mem_cons_of_mem _ member, free⟩

theorem allocateNext_some {info info' : ExtentInfo} {i : UInt8} (counted : info.Counted)
    (step : info.allocateNext = (some i, info')) :
    i < 8 ∧ Bitmap.taken info.allocatedBitmap i.toNat = false ∧
      info'.allocatedBitmap = info.allocatedBitmap ||| Bitmap.mask i ∧ info'.Counted := by
  simp only [allocateNext] at step
  split at step
  · simp at step
  · rename_i notFull
    split at step
    · rename_i j found
      simp only [Prod.mk.injEq, Option.some.injEq] at step
      obtain ⟨same, rfl⟩ := step
      subst j
      obtain ⟨member, free⟩ := firstFree_some found
      have bound : i < 8 := by
        simp only [List.mem_cons, List.not_mem_nil, or_false] at member
        rcases member with rfl | rfl | rfl | rfl | rfl | rfl | rfl | rfl <;> decide
      have clear := (Bitmap.and_mask_eq_zero_iff bound).mp free
      refine ⟨bound, clear, rfl, ?_⟩
      have below : info.allocatedCount.toNat < 8 := by
        simp only [UInt8.le_iff_toNat_le, UInt8.toNat_ofNat] at notFull
        omega
      simp only [Counted, UInt8.toNat_add, UInt8.toNat_one, Bitmap.population_or_mask bound clear]
      unfold Counted at counted
      omega
    · simp at step

theorem deallocate_spec {info : ExtentInfo} {offset : UInt8} (bound : offset < 8)
    (counted : info.Counted) :
    (info.deallocate offset).2.Counted ∧ ∀ j,
      Bitmap.taken (info.deallocate offset).2.allocatedBitmap j =
        (Bitmap.taken info.allocatedBitmap j && !decide (j = offset.toNat)) := by
  unfold deallocate
  split
  · rename_i wasTaken
    have set : Bitmap.taken info.allocatedBitmap offset.toNat = true := by
      have := mt (Bitmap.and_mask_eq_zero_iff bound).mpr wasTaken
      simpa using this
    have drop := Bitmap.population_and_not_mask bound set
    refine ⟨?_, Bitmap.taken_and_not_mask bound⟩
    unfold Counted at counted ⊢
    have positive : 1 ≤ info.allocatedCount.toNat := by omega
    have noWrap : (1 : UInt8) ≤ info.allocatedCount := by
      simpa [UInt8.le_iff_toNat_le] using positive
    simp only [UInt8.toNat_sub_of_le _ _ noWrap, UInt8.toNat_one]
    omega
  · rename_i wasFree
    have clear : Bitmap.taken info.allocatedBitmap offset.toNat = false :=
      (Bitmap.and_mask_eq_zero_iff bound).mp (by simpa using wasFree)
    refine ⟨counted, fun j => ?_⟩
    by_cases same : j = offset.toNat
    · simp [same, clear]
    · simp [same]

end ExtentInfo

namespace ExtentAllocator

def extentOf (p : PageId) : ExtentId := ⟨p.asU32 / extentSize⟩

def slotOf (p : PageId) : UInt8 := (p.asU32 % extentSize).toUInt8

def Taken (a : ExtentAllocator) (p : PageId) : Prop :=
  ∃ info, a.extentInfo (extentOf p) = some info ∧
    Bitmap.taken info.allocatedBitmap (slotOf p).toNat = true

theorem pageOf_toNat {e : ExtentId} {offset : UInt8} (small : e.val.toNat < 2 ^ 29)
    (bound : offset < 8) : (pageOf e offset).val.toNat = e.val.toNat * 8 + offset.toNat := by
  have slot := Bitmap.toNat_lt_eight bound
  simp only [pageOf, PageId.new, extentSize, UInt32.toNat_add, UInt32.toNat_mul,
    UInt8.toNat_toUInt32, UInt32.reduceToNat]
  omega

theorem extentOf_pageOf {e : ExtentId} {offset : UInt8} (small : e.val.toNat < 2 ^ 29)
    (bound : offset < 8) : extentOf (pageOf e offset) = e := by
  have value := pageOf_toNat small bound
  have slot := Bitmap.toNat_lt_eight bound
  cases e with
  | mk val =>
    simp only [extentOf, ExtentId.mk.injEq, PageId.asU32, extentSize]
    apply UInt32.toNat_inj.mp
    simp only [UInt32.toNat_div, UInt32.reduceToNat, value]
    omega

theorem slotOf_pageOf {e : ExtentId} {offset : UInt8} (small : e.val.toNat < 2 ^ 29)
    (bound : offset < 8) : slotOf (pageOf e offset) = offset := by
  have value := pageOf_toNat small bound
  have slot := Bitmap.toNat_lt_eight bound
  apply UInt8.toNat_inj.mp
  simp only [slotOf, PageId.asU32, extentSize, UInt32.toNat_toUInt8, UInt32.toNat_mod,
    UInt32.reduceToNat, value]
  omega

theorem slotOf_lt (p : PageId) : slotOf p < 8 := by
  simp only [slotOf, PageId.asU32, extentSize, UInt8.lt_iff_toNat_lt, UInt32.toNat_toUInt8,
    UInt32.toNat_mod, UInt32.reduceToNat, UInt8.reduceToNat]
  omega

theorem eq_of_extentOf_slotOf {p q : PageId} (sameExtent : extentOf p = extentOf q)
    (sameSlot : slotOf p = slotOf q) : p = q := by
  simp only [extentOf, ExtentId.mk.injEq] at sameExtent
  have quotient := congrArg UInt32.toNat sameExtent
  have remainder := congrArg UInt8.toNat sameSlot
  simp only [PageId.asU32, extentSize, UInt32.toNat_div, UInt32.toNat_toUInt8,
    UInt32.toNat_mod, UInt32.reduceToNat, slotOf] at quotient remainder
  cases p with
  | mk pv =>
    cases q with
    | mk qv =>
      simp only [PageId.mk.injEq]
      apply UInt32.toNat_inj.mp
      simp only at quotient remainder
      omega

theorem scanExtents_some {info : ExtentId → Option ExtentInfo} {e : ExtentId} {offset : UInt8}
    {i' : ExtentInfo} : ∀ {l : List ExtentId}, scanExtents info l = some (e, offset, i') →
      e ∈ l ∧ ∃ i, info e = some i ∧ i.allocateNext = (some offset, i')
  | [], found => by simp [scanExtents] at found
  | f :: rest, found => by
      simp only [scanExtents] at found
      split at found
      · rename_i i present
        split at found
        · split at found
          · rename_i offset' i'' next
            simp only [Option.some.injEq, Prod.mk.injEq] at found
            obtain ⟨rfl, rfl, rfl⟩ := found
            exact ⟨List.mem_cons_self, i, present, next⟩
          · obtain ⟨member, rest⟩ := scanExtents_some found
            exact ⟨List.mem_cons_of_mem _ member, rest⟩
        · obtain ⟨member, rest⟩ := scanExtents_some found
          exact ⟨List.mem_cons_of_mem _ member, rest⟩
      · obtain ⟨member, rest⟩ := scanExtents_some found
        exact ⟨List.mem_cons_of_mem _ member, rest⟩

theorem allocateRepeatedly_new :
    allocateRepeatedly 8 ExtentInfo.new = ([0, 1, 2, 3, 4, 5, 6, 7], ⟨255, 8⟩) := by
  decide

theorem allocatePageForTable_cases (a : ExtentAllocator) (t : UInt32) :
    (∃ e offset i i', e ∈ a.tableExtents t ∧ a.extentInfo e = some i ∧
        i.allocateNext = (some offset, i') ∧
        a.allocatePageForTable t =
          (pageOf e offset, { a with extentInfo := Function.update a.extentInfo e (some i') })) ∨
      a.allocatePageForTable t =
        (pageOf ⟨a.nextExtentId⟩ 0,
          { tableExtents := Function.update a.tableExtents t
              (a.tableExtents t ++ [⟨a.nextExtentId⟩])
            extentInfo := Function.update a.extentInfo ⟨a.nextExtentId⟩ (some ⟨1, 1⟩)
            nextExtentId := a.nextExtentId + 1 }) := by
  unfold allocatePageForTable
  split
  · rename_i e offset i' found
    obtain ⟨member, i, present, next⟩ := scanExtents_some found
    exact Or.inl ⟨e, offset, i, i', List.mem_reverse.mp member, present, next, rfl⟩
  · right
    simp only [new_allocateNext, Option.getD_some]

theorem allocateExtentForTable_eq (a : ExtentAllocator) (t : UInt32) :
    a.allocateExtentForTable t =
      (([0, 1, 2, 3, 4, 5, 6, 7] : List UInt8).map (pageOf ⟨a.nextExtentId⟩),
        { tableExtents := Function.update a.tableExtents t
            (a.tableExtents t ++ [⟨a.nextExtentId⟩])
          extentInfo := Function.update a.extentInfo ⟨a.nextExtentId⟩ (some ⟨255, 8⟩)
          nextExtentId := a.nextExtentId + 1 }) := by
  simp only [allocateExtentForTable, extentSize, UInt32.reduceToNat, allocateRepeatedly_new]

structure Consistent (existing : UInt32) (a : ExtentAllocator) : Prop where
  counted : ∀ e info, a.extentInfo e = some info → info.Counted
  listedInfo : ∀ t e, e ∈ a.tableExtents t → (a.extentInfo e).isSome
  infoBelow : ∀ e, (a.extentInfo e).isSome → e.val.toNat < a.nextExtentId.toNat
  ownerUnique : ∀ t t' e, e ∈ a.tableExtents t → e ∈ a.tableExtents t' → t = t'
  listNodup : ∀ t, (a.tableExtents t).Nodup
  existingUnlisted : ∀ t e, e ∈ a.tableExtents t → existing.toNat ≤ e.val.toNat
  existingBelow : existing.toNat ≤ a.nextExtentId.toNat
  nextBound : a.nextExtentId.toNat ≤ 2 ^ 29

section Consistent

variable {existing : UInt32} {a : ExtentAllocator}

theorem Consistent.listedBelow (c : Consistent existing a) {t : UInt32} {e : ExtentId}
    (member : e ∈ a.tableExtents t) : e.val.toNat < a.nextExtentId.toNat :=
  c.infoBelow e (c.listedInfo t e member)

theorem Consistent.fresh_noInfo (c : Consistent existing a) :
    a.extentInfo ⟨a.nextExtentId⟩ = none := by
  cases found : a.extentInfo ⟨a.nextExtentId⟩ with
  | none => rfl
  | some info =>
    exact absurd (c.infoBelow ⟨a.nextExtentId⟩ (by simp [found])) (Nat.lt_irrefl _)

theorem Consistent.fresh_unlisted (c : Consistent existing a) (t : UInt32) :
    (⟨a.nextExtentId⟩ : ExtentId) ∉ a.tableExtents t := fun member =>
  absurd (c.listedBelow member) (Nat.lt_irrefl _)

theorem mem_update_append {f : UInt32 → List ExtentId} {t t' : UInt32} {x e : ExtentId} :
    e ∈ Function.update f t (f t ++ [x]) t' ↔ e ∈ f t' ∨ (t' = t ∧ e = x) := by
  by_cases same : t' = t
  · subst same
    simp
  · simp [same]

theorem Consistent.refill (c : Consistent existing a) {e : ExtentId}
    (present : (a.extentInfo e).isSome) {x : ExtentInfo} (counted : x.Counted) :
    Consistent existing { a with extentInfo := Function.update a.extentInfo e (some x) } := by
  have isSome_eq : ∀ e', (Function.update a.extentInfo e (some x) e').isSome =
      (a.extentInfo e').isSome := by
    intro e'
    by_cases same : e' = e
    · subst same
      simp [present]
    · simp [same]
  refine ⟨?_, ?_, ?_, c.ownerUnique, c.listNodup, c.existingUnlisted, c.existingBelow,
    c.nextBound⟩
  · intro e' info found
    dsimp only at found
    by_cases same : e' = e
    · subst same
      simp only [Function.update_self, Option.some.injEq] at found
      exact found ▸ counted
    · rw [Function.update_of_ne same] at found
      exact c.counted e' info found
  · intro t e' member
    dsimp only
    rw [isSome_eq]
    exact c.listedInfo t e' member
  · intro e' present'
    dsimp only at present'
    rw [isSome_eq] at present'
    exact c.infoBelow e' present'

theorem Consistent.openExtent (c : Consistent existing a) (t : UInt32) {x : ExtentInfo}
    (counted : x.Counted) (bound : (a.nextExtentId + 1).toNat ≤ 2 ^ 29) :
    Consistent existing
      { tableExtents := Function.update a.tableExtents t (a.tableExtents t ++ [⟨a.nextExtentId⟩])
        extentInfo := Function.update a.extentInfo ⟨a.nextExtentId⟩ (some x)
        nextExtentId := a.nextExtentId + 1 } := by
  have noWrap : (a.nextExtentId + 1).toNat = a.nextExtentId.toNat + 1 := by
    have := c.nextBound
    simp only [UInt32.toNat_add, UInt32.toNat_one]
    omega
  have freshInfo := c.fresh_noInfo
  refine ⟨?_, ?_, ?_, ?_, ?_, ?_, ?_, ?_⟩ <;> dsimp only
  · intro e info found
    by_cases same : e = ⟨a.nextExtentId⟩
    · subst same
      simp only [Function.update_self, Option.some.injEq] at found
      exact found ▸ counted
    · rw [Function.update_of_ne same] at found
      exact c.counted e info found
  · intro t' e member
    by_cases same : e = ⟨a.nextExtentId⟩
    · subst same
      simp
    · rw [Function.update_of_ne same]
      rcases mem_update_append.mp member with old | ⟨_, rfl⟩
      · exact c.listedInfo t' e old
      · exact absurd rfl same
  · intro e present
    simp only [noWrap]
    by_cases same : e = ⟨a.nextExtentId⟩
    · subst same
      exact Nat.lt_succ_self _
    · rw [Function.update_of_ne same] at present
      have := c.infoBelow e present
      omega
  · intro t₁ t₂ e first second
    rcases mem_update_append.mp first with old₁ | ⟨same₁, rfl⟩ <;>
      rcases mem_update_append.mp second with old₂ | ⟨same₂, fresh⟩
    · exact c.ownerUnique t₁ t₂ e old₁ old₂
    · subst fresh
      exact absurd old₁ (c.fresh_unlisted t₁)
    · exact absurd old₂ (c.fresh_unlisted t₂)
    · exact same₁.trans same₂.symm
  · intro t'
    by_cases same : t' = t
    · subst same
      simp only [Function.update_self]
      exact List.nodup_append.mpr ⟨c.listNodup t', by simp,
        fun e member e' fresh => by
          simp only [List.mem_singleton] at fresh
          subst fresh
          exact fun eq => c.fresh_unlisted t' (eq ▸ member)⟩
    · rw [Function.update_of_ne same]
      exact c.listNodup t'
  · intro t' e member
    rcases mem_update_append.mp member with old | ⟨_, rfl⟩
    · exact c.existingUnlisted t' e old
    · exact c.existingBelow
  · simp only [noWrap]
    have := c.existingBelow
    omega
  · exact bound

theorem counted_one : ExtentInfo.Counted ⟨1, 1⟩ := by decide

theorem counted_full : ExtentInfo.Counted ⟨255, 8⟩ := by decide

theorem Consistent.deallocatePage (c : Consistent existing a) (p : PageId) :
    Consistent existing (a.deallocatePage p) := by
  unfold ExtentAllocator.deallocatePage
  dsimp only
  split
  · rename_i info found
    have bound : (p.asU32 % extentSize).toUInt8 < 8 := slotOf_lt p
    exact c.refill (by simp [found])
      (ExtentInfo.deallocate_spec bound (c.counted _ info found)).1
  · exact c

theorem Consistent.allocatePageForTable (c : Consistent existing a) (t : UInt32)
    (bound : (a.allocatePageForTable t).2.nextExtentId.toNat ≤ 2 ^ 29) :
    Consistent existing (a.allocatePageForTable t).2 := by
  rcases allocatePageForTable_cases a t with ⟨e, offset, i, i', _, present, next, eq⟩ | eq <;>
    rw [eq] at bound ⊢
  · exact c.refill (by simp [present])
      (ExtentInfo.allocateNext_some (c.counted e i present) next).2.2.2
  · exact c.openExtent t counted_one bound

theorem Consistent.allocateExtentForTable (c : Consistent existing a) (t : UInt32)
    (bound : (a.allocateExtentForTable t).2.nextExtentId.toNat ≤ 2 ^ 29) :
    Consistent existing (a.allocateExtentForTable t).2 := by
  rw [allocateExtentForTable_eq] at bound ⊢
  exact c.openExtent t counted_full bound

theorem consistent_new : Consistent 0 new := by
  refine ⟨?_, ?_, ?_, ?_, ?_, ?_, ?_, ?_⟩ <;> simp [new]

theorem taken_firstSlots {k : Nat} (small : k ≤ 8) (j : Nat) :
    Bitmap.taken ((List.range k).foldl (fun bitmap i => bitmap ||| Bitmap.mask i.toUInt8) 0) j =
      decide (j < k) := by
  induction k with
  | zero => simp [Bitmap.taken]
  | succ k ih =>
    have bound : k.toUInt8 < 8 := by
      simp only [UInt8.lt_iff_toNat_lt, Nat.toUInt8_eq, UInt8.toNat_ofNat', UInt8.reduceToNat]
      omega
    rw [List.range_succ, List.foldl_append, List.foldl_cons, List.foldl_nil,
      Bitmap.taken_or_mask bound, ih (by omega)]
    have : k.toUInt8.toNat = k := by simp; omega
    rw [this]
    by_cases below : j < k
    · simp [below, show j < k + 1 by omega]
    · by_cases same : j = k
      · simp [same]
      · simp [below, same, show ¬ j < k + 1 by omega]

theorem population_firstSlots {k : Nat} (small : k ≤ 8) :
    Bitmap.population ((List.range k).foldl (fun bitmap i => bitmap ||| Bitmap.mask i.toUInt8) 0) =
      k := by
  unfold Bitmap.population
  rw [List.countP_congr (fun j _ => by rw [taken_firstSlots small j])]
  interval_cases k <;> rfl

theorem toNat_min (x y : UInt32) : (min x y).toNat = min x.toNat y.toNat := by
  show (if x ≤ y then x else y).toNat = _
  split
  · rename_i le
    rw [UInt32.le_iff_toNat_le] at le
    omega
  · rename_i gt
    rw [UInt32.le_iff_toNat_le] at gt
    omega

theorem numExtents_toNat (numPages : UInt32) :
    ((numPages + extentSize - 1) / extentSize).toNat = (numPages.toNat + 7) % 2 ^ 32 / 8 := by
  simp only [extentSize, UInt32.toNat_div, UInt32.toNat_sub, UInt32.toNat_add, UInt32.toNat_one,
    UInt32.reduceToNat]
  omega

theorem existingInfo_counted {numPages idx : UInt32}
    (below : idx.toNat < ((numPages + extentSize - 1) / extentSize).toNat) :
    (existingInfo numPages idx).Counted := by
  rw [numExtents_toNat] at below
  have numBound := numPages.toNat_lt
  have startEq : (idx * 8).toNat = idx.toNat * 8 := by
    simp only [UInt32.toNat_mul, UInt32.reduceToNat]
    omega
  have endEq : ((idx + 1) * 8).toNat = (idx.toNat + 1) * 8 := by
    simp only [UInt32.toNat_mul, UInt32.toNat_add, UInt32.toNat_one, UInt32.reduceToNat]
    omega
  have stopEq : (min ((idx + 1) * 8) numPages).toNat =
      min ((idx.toNat + 1) * 8) numPages.toNat := by
    rw [toNat_min, endEq]
  have ordered : idx * 8 ≤ min ((idx + 1) * 8) numPages := by
    rw [UInt32.le_iff_toNat_le, startEq, stopEq]
    omega
  have countEq : ((min ((idx + 1) * 8) numPages - idx * 8).toUInt8).toNat =
      min ((idx.toNat + 1) * 8) numPages.toNat - idx.toNat * 8 := by
    rw [UInt32.toNat_toUInt8, UInt32.toNat_sub_of_le _ _ ordered, stopEq, startEq]
    omega
  have countBound : min ((idx.toNat + 1) * 8) numPages.toNat - idx.toNat * 8 ≤ 8 := by omega
  simp only [existingInfo, extentSize, ExtentInfo.Counted]
  rw [countEq, population_firstSlots countBound]

theorem foldl_update_range (g : UInt32 → ExtentInfo) (e : ExtentId) :
    ∀ k, k ≤ 2 ^ 32 →
      (List.range k).foldl (fun (info : ExtentId → Option ExtentInfo) (idx : Nat) =>
        Function.update info ⟨idx.toUInt32⟩ (some (g idx.toUInt32))) (fun _ => none) e =
        if e.val.toNat < k then some (g e.val) else none := by
  intro k
  induction k with
  | zero => intro _; simp
  | succ k ih =>
    intro small
    rw [List.range_succ, List.foldl_append, List.foldl_cons, List.foldl_nil]
    by_cases same : e = ⟨k.toUInt32⟩
    · subst same
      have back : k.toUInt32.toNat = k := by simp; omega
      simp only [Function.update_self, back, show k < k + 1 by omega, if_true]
    · rw [Function.update_of_ne same, ih (by omega)]
      have differ : e.val.toNat ≠ k := by
        intro eq
        apply same
        cases e with
        | mk val =>
          simp only [ExtentId.mk.injEq]
          apply UInt32.toNat_inj.mp
          simp only at eq
          simp only [Nat.toUInt32_eq, UInt32.toNat_ofNat']
          omega
      by_cases below : e.val.toNat < k
      · simp [below, show e.val.toNat < k + 1 by omega]
      · simp [below, show ¬ e.val.toNat < k + 1 by omega]

theorem fromExisting_extentInfo (numPages : UInt32) (e : ExtentId) :
    (fromExisting numPages).extentInfo e =
      if e.val.toNat < (fromExisting numPages).nextExtentId.toNat then
        some (existingInfo numPages e.val) else none :=
  foldl_update_range (existingInfo numPages) e _ (Nat.le_of_lt (UInt32.toNat_lt _))

theorem consistent_fromExisting (numPages : UInt32) :
    Consistent (fromExisting numPages).nextExtentId (fromExisting numPages) := by
  refine ⟨?_, ?_, ?_, ?_, ?_, ?_, ?_, ?_⟩
  · intro e info found
    rw [fromExisting_extentInfo] at found
    split at found
    · rename_i below
      simp only [Option.some.injEq] at found
      subst found
      exact existingInfo_counted below
    · simp at found
  · intro t e member
    simp [fromExisting] at member
  · intro e present
    rw [fromExisting_extentInfo] at present
    split at present
    · assumption
    · simp at present
  · intro t t' e member
    simp [fromExisting] at member
  · intro t
    simp [fromExisting]
  · intro t e member
    simp [fromExisting] at member
  · exact Nat.le_refl _
  · show ((numPages + extentSize - 1) / extentSize).toNat ≤ 2 ^ 29
    rw [numExtents_toNat]
    omega

end Consistent

inductive Op where
  | allocatePageForTable (tableId : UInt32)
  | allocateExtentForTable (tableId : UInt32)
  | deallocatePage (pageId : PageId)
  deriving DecidableEq, Repr

def step (a : ExtentAllocator) : Op → List PageId × ExtentAllocator
  | .allocatePageForTable t => ([(a.allocatePageForTable t).1], (a.allocatePageForTable t).2)
  | .allocateExtentForTable t => a.allocateExtentForTable t
  | .deallocatePage p => ([], a.deallocatePage p)

section Outputs

variable {existing : UInt32} {a : ExtentAllocator}

theorem Consistent.step (c : Consistent existing a) (op : Op)
    (bound : (a.step op).2.nextExtentId.toNat ≤ 2 ^ 29) : Consistent existing (a.step op).2 := by
  cases op with
  | allocatePageForTable t => exact c.allocatePageForTable t bound
  | allocateExtentForTable t => exact c.allocateExtentForTable t bound
  | deallocatePage p => exact c.deallocatePage p

theorem Consistent.fresh_small (c : Consistent existing a)
    (bound : (a.nextExtentId + 1).toNat ≤ 2 ^ 29) :
    (⟨a.nextExtentId⟩ : ExtentId).val.toNat < 2 ^ 29 := by
  have := c.nextBound
  simp only [UInt32.toNat_add, UInt32.toNat_one] at bound
  show a.nextExtentId.toNat < 2 ^ 29
  omega

theorem map_extentOf_pageOf {e : ExtentId} (small : e.val.toNat < 2 ^ 29) :
    ∀ {offsets : List UInt8}, (∀ o ∈ offsets, o < 8) →
      (offsets.map (pageOf e)).map extentOf = List.replicate offsets.length e
  | [], _ => rfl
  | o :: rest, bounded => by
      simp only [List.map_cons, List.length_cons, List.replicate_succ,
        extentOf_pageOf small (bounded o List.mem_cons_self)]
      rw [map_extentOf_pageOf small (fun o' member => bounded o' (List.mem_cons_of_mem _ member))]

theorem map_slotOf_pageOf {e : ExtentId} (small : e.val.toNat < 2 ^ 29) :
    ∀ {offsets : List UInt8}, (∀ o ∈ offsets, o < 8) →
      (offsets.map (pageOf e)).map slotOf = offsets
  | [], _ => rfl
  | o :: rest, bounded => by
      simp only [List.map_cons, slotOf_pageOf small (bounded o List.mem_cons_self)]
      rw [map_slotOf_pageOf small (fun o' member => bounded o' (List.mem_cons_of_mem _ member))]

theorem allocatePageForTable_fresh (c : Consistent existing a) (t : UInt32)
    (bound : (a.allocatePageForTable t).2.nextExtentId.toNat ≤ 2 ^ 29) :
    extentOf (a.allocatePageForTable t).1 ∈ (a.allocatePageForTable t).2.tableExtents t ∧
      ¬ Taken a (a.allocatePageForTable t).1 := by
  rcases allocatePageForTable_cases a t with ⟨e, offset, i, i', member, present, next, eq⟩ | eq
  · rw [eq]
    obtain ⟨slotBound, free, _, _⟩ := ExtentInfo.allocateNext_some (c.counted e i present) next
    have small := Nat.lt_of_lt_of_le (c.listedBelow member) c.nextBound
    refine ⟨by simpa [extentOf_pageOf small slotBound] using member, ?_⟩
    rintro ⟨info, found, set⟩
    rw [extentOf_pageOf small slotBound, present] at found
    simp only [Option.some.injEq] at found
    subst found
    rw [slotOf_pageOf small slotBound, free] at set
    exact Bool.false_ne_true set
  · rw [eq] at bound ⊢
    have small := c.fresh_small bound
    refine ⟨by simp [extentOf_pageOf small (by decide : (0 : UInt8) < 8)], ?_⟩
    rintro ⟨info, found, _⟩
    rw [extentOf_pageOf small (by decide), c.fresh_noInfo] at found
    cases found

theorem allocateExtentForTable_fresh (c : Consistent existing a) (t : UInt32)
    (bound : (a.allocateExtentForTable t).2.nextExtentId.toNat ≤ 2 ^ 29) :
    ∃ e : ExtentId, (a.allocateExtentForTable t).1.map extentOf = List.replicate 8 e ∧
      (a.allocateExtentForTable t).1.map slotOf = [0, 1, 2, 3, 4, 5, 6, 7] ∧
      (∀ t', e ∉ a.tableExtents t') ∧ a.extentInfo e = none ∧
      e ∈ (a.allocateExtentForTable t).2.tableExtents t := by
  rw [allocateExtentForTable_eq] at bound ⊢
  have small := c.fresh_small bound
  have offsetsBound : ∀ o ∈ ([0, 1, 2, 3, 4, 5, 6, 7] : List UInt8), o < 8 := by decide +kernel
  refine ⟨⟨a.nextExtentId⟩, ?_, map_slotOf_pageOf small offsetsBound, c.fresh_unlisted,
    c.fresh_noInfo, by simp⟩
  exact map_extentOf_pageOf small offsetsBound

theorem taken_of_output (c : Consistent existing a) (op : Op)
    (bound : (a.step op).2.nextExtentId.toNat ≤ 2 ^ 29) {p : PageId}
    (out : p ∈ (a.step op).1) : Taken (a.step op).2 p := by
  cases op with
  | allocatePageForTable t =>
    simp only [step, List.mem_singleton] at out bound ⊢
    subst out
    rcases allocatePageForTable_cases a t with ⟨e, offset, i, i', member, present, next, eq⟩ | eq
    · rw [eq]
      obtain ⟨slotBound, _, bitmap, _⟩ :=
        ExtentInfo.allocateNext_some (c.counted e i present) next
      have small := Nat.lt_of_lt_of_le (c.listedBelow member) c.nextBound
      refine ⟨i', by simp [extentOf_pageOf small slotBound], ?_⟩
      rw [bitmap, slotOf_pageOf small slotBound, Bitmap.taken_or_mask slotBound]
      simp
    · rw [eq] at bound ⊢
      have small := c.fresh_small bound
      refine ⟨⟨1, 1⟩, by simp [extentOf_pageOf small (by decide : (0 : UInt8) < 8)], ?_⟩
      rw [slotOf_pageOf small (by decide)]
      decide
  | allocateExtentForTable t =>
    simp only [step] at out bound ⊢
    rw [allocateExtentForTable_eq] at out bound ⊢
    have small := c.fresh_small bound
    obtain ⟨o, oMem, rfl⟩ := List.mem_map.mp out
    have oBound : o < 8 := by
      simp only [List.mem_cons, List.not_mem_nil, or_false] at oMem
      rcases oMem with rfl | rfl | rfl | rfl | rfl | rfl | rfl | rfl <;> decide
    refine ⟨⟨255, 8⟩, by simp [extentOf_pageOf small oBound], ?_⟩
    rw [slotOf_pageOf small oBound]
    have full : ∀ j < 8, Bitmap.taken 255 j = true := by decide
    exact full o.toNat (Bitmap.toNat_lt_eight oBound)
  | deallocatePage q => simp [step] at out

theorem not_taken_of_output (c : Consistent existing a) (op : Op)
    (bound : (a.step op).2.nextExtentId.toNat ≤ 2 ^ 29) {p : PageId}
    (out : p ∈ (a.step op).1) : ¬ Taken a p := by
  cases op with
  | allocatePageForTable t =>
    simp only [step, List.mem_singleton] at out bound
    subst out
    exact (allocatePageForTable_fresh c t bound).2
  | allocateExtentForTable t =>
    simp only [step] at out bound
    rw [allocateExtentForTable_eq] at out bound
    have small := c.fresh_small bound
    obtain ⟨o, oMem, rfl⟩ := List.mem_map.mp out
    have oBound : o < 8 := by
      simp only [List.mem_cons, List.not_mem_nil, or_false] at oMem
      rcases oMem with rfl | rfl | rfl | rfl | rfl | rfl | rfl | rfl <;> decide
    rintro ⟨info, found, _⟩
    rw [extentOf_pageOf small oBound, c.fresh_noInfo] at found
    cases found
  | deallocatePage q => simp [step] at out

theorem taken_update {p : PageId} (taken : Taken a p) {e : ExtentId} {x : ExtentInfo}
    (grows : ∀ info, a.extentInfo e = some info → e = extentOf p →
      Bitmap.taken info.allocatedBitmap (slotOf p).toNat = true →
        Bitmap.taken x.allocatedBitmap (slotOf p).toNat = true) :
    ∃ info, Function.update a.extentInfo e (some x) (extentOf p) = some info ∧
      Bitmap.taken info.allocatedBitmap (slotOf p).toNat = true := by
  obtain ⟨info, found, set⟩ := taken
  by_cases same : extentOf p = e
  · subst same
    exact ⟨x, by simp, grows info found rfl set⟩
  · exact ⟨info, by rw [Function.update_of_ne same]; exact found, set⟩

theorem taken_step (c : Consistent existing a) (op : Op) {p : PageId} (taken : Taken a p)
    (kept : op ≠ .deallocatePage p) : Taken (a.step op).2 p := by
  cases op with
  | allocatePageForTable t =>
    simp only [step]
    rcases allocatePageForTable_cases a t with ⟨e, offset, i, i', _, present, next, eq⟩ | eq
    · rw [eq]
      obtain ⟨slotBound, _, bitmap, _⟩ :=
        ExtentInfo.allocateNext_some (c.counted e i present) next
      exact taken_update taken fun info found _ set => by
        rw [present, Option.some.injEq] at found
        subst found
        rw [bitmap, Bitmap.taken_or_mask slotBound, set, Bool.true_or]
    · rw [eq]
      exact taken_update taken fun info found _ _ => by
        rw [c.fresh_noInfo] at found
        cases found
  | allocateExtentForTable t =>
    simp only [step]
    rw [allocateExtentForTable_eq]
    exact taken_update taken fun info found _ _ => by
      rw [c.fresh_noInfo] at found
      cases found
  | deallocatePage q =>
    simp only [step]
    have differ : q ≠ p := fun eq => kept (eq ▸ rfl)
    unfold deallocatePage
    dsimp only
    split
    · rename_i info found
      exact taken_update taken fun info' found' same set => by
        rw [found, Option.some.injEq] at found'
        subst found'
        have slotDiffer : (slotOf p).toNat ≠ (slotOf q).toNat := fun eq =>
          differ (eq_of_extentOf_slotOf same (UInt8.toNat_inj.mp eq).symm)
        have spec := (ExtentInfo.deallocate_spec
          (show (q.asU32 % extentSize).toUInt8 < 8 from slotOf_lt q) (c.counted _ info found)).2
        rw [spec]
        simp only [set, Bool.true_and, Bool.not_eq_true', decide_eq_false_iff_not]
        exact slotDiffer
    · exact taken

end Outputs

def after (a : ExtentAllocator) : List Op → ExtentAllocator
  | [] => a
  | op :: ops => after (a.step op).2 ops

def WithinLimit : ExtentAllocator → List Op → Prop
  | _, [] => True
  | a, op :: ops => (a.step op).2.nextExtentId.toNat ≤ 2 ^ 29 ∧ WithinLimit (a.step op).2 ops

section Runs

variable {existing : UInt32}

theorem after_append (a : ExtentAllocator) (first rest : List Op) :
    after a (first ++ rest) = after (after a first) rest := by
  induction first generalizing a with
  | nil => rfl
  | cons op ops ih => exact ih _

theorem withinLimit_append (a : ExtentAllocator) (first rest : List Op) :
    WithinLimit a (first ++ rest) ↔ WithinLimit a first ∧ WithinLimit (after a first) rest := by
  induction first generalizing a with
  | nil => simp [WithinLimit, after]
  | cons op ops ih =>
    simp only [List.cons_append, WithinLimit, after, ih, and_assoc]

theorem Consistent.after {a : ExtentAllocator} (c : Consistent existing a) {ops : List Op}
    (within : WithinLimit a ops) : Consistent existing (after a ops) := by
  induction ops generalizing a with
  | nil => exact c
  | cons op ops ih => exact ih (c.step op within.1) within.2

theorem taken_after {a : ExtentAllocator} (c : Consistent existing a) {ops : List Op}
    (within : WithinLimit a ops) {p : PageId} (taken : Taken a p)
    (kept : Op.deallocatePage p ∉ ops) : Taken (after a ops) p := by
  induction ops generalizing a with
  | nil => exact taken
  | cons op ops ih =>
    have notHere : op ≠ .deallocatePage p := fun eq => kept (eq ▸ List.mem_cons_self)
    exact ih (c.step op within.1) within.2 (taken_step c op taken notHere)
      (fun member => kept (List.mem_cons_of_mem _ member))

theorem deallocated_between {a : ExtentAllocator} (c : Consistent existing a)
    (pre mid : List Op) (first second : Op) (p : PageId)
    (within : WithinLimit a (pre ++ first :: mid ++ [second]))
    (firstOut : p ∈ ((after a pre).step first).1)
    (secondOut : p ∈ ((after ((after a pre).step first).2 mid).step second).1) :
    Op.deallocatePage p ∈ mid := by
  rw [withinLimit_append, withinLimit_append] at within
  obtain ⟨⟨preWithin, firstBound, midWithin⟩, secondBound, _⟩ := within
  rw [after_append] at secondBound
  have atFirst := c.after preWithin
  have afterFirst := atFirst.step first firstBound
  have atSecond := afterFirst.after midWithin
  by_contra kept
  have stillTaken := taken_after afterFirst midWithin
    (taken_of_output atFirst first firstBound firstOut) kept
  exact not_taken_of_output atSecond second secondBound secondOut stillTaken

end Runs

inductive Initial : UInt32 → ExtentAllocator → Prop
  | new : Initial 0 new
  | fromExisting (numPages : UInt32) :
      Initial (fromExisting numPages).nextExtentId (fromExisting numPages)

def Next (a a' : ExtentAllocator) : Prop :=
  ∃ op, (a.step op).2 = a' ∧ a'.nextExtentId.toNat ≤ 2 ^ 29

theorem consistent_of_reachable {existing : UInt32} {a : ExtentAllocator}
    (reached : Reachability.Reachable (Initial existing) Next a) : Consistent existing a := by
  apply Reachability.Reachable.invariant (Consistent existing) _ _ reached
  · intro s start
    cases start with
    | new => exact consistent_new
    | fromExisting numPages => exact consistent_fromExisting numPages
  · rintro s s' c ⟨op, rfl, bound⟩
    exact c.step op bound

theorem reachable_after {existing : UInt32} {a : ExtentAllocator} {ops : List Op}
    (reached : Reachability.Reachable (Initial existing) Next a) (within : WithinLimit a ops) :
    Reachability.Reachable (Initial existing) Next (after a ops) := by
  induction ops generalizing a with
  | nil => exact reached
  | cons op ops ih =>
    obtain ⟨bound, rest⟩ := within
    exact ih (reached.step ⟨op, rfl, bound⟩) rest

/-- Over every run that opens fewer than `2 ^ 29` extents the bookkeeping stays consistent, each
allocation hands out free pages, and a page handed out twice was freed in between. -/
theorem extentAllocator_runs {existing : UInt32} {a : ExtentAllocator}
    (reached : Reachability.Reachable (Initial existing) Next a) :
    (∀ e info, a.extentInfo e = some info →
        info.allocatedCount.toNat = Bitmap.population info.allocatedBitmap) ∧
    (∀ t e, e ∈ a.tableExtents t → e.val < a.nextExtentId ∧ existing ≤ e.val ∧
        ∀ t', e ∈ a.tableExtents t' → t' = t) ∧
    (∀ t, (a.allocatePageForTable t).2.nextExtentId.toNat ≤ 2 ^ 29 →
        extentOf (a.allocatePageForTable t).1 ∈ (a.allocatePageForTable t).2.tableExtents t ∧
        ¬ Taken a (a.allocatePageForTable t).1) ∧
    (∀ t, (a.allocateExtentForTable t).2.nextExtentId.toNat ≤ 2 ^ 29 →
        ∃ e : ExtentId, (a.allocateExtentForTable t).1.map extentOf = List.replicate 8 e ∧
          (a.allocateExtentForTable t).1.map slotOf = [0, 1, 2, 3, 4, 5, 6, 7] ∧
          (∀ t', e ∉ a.tableExtents t') ∧ a.extentInfo e = none ∧
          e ∈ (a.allocateExtentForTable t).2.tableExtents t) ∧
    (∀ pre mid first second p, WithinLimit a (pre ++ first :: mid ++ [second]) →
        p ∈ ((after a pre).step first).1 →
        p ∈ ((after ((after a pre).step first).2 mid).step second).1 →
        Op.deallocatePage p ∈ mid) := by
  have c := consistent_of_reachable reached
  refine ⟨c.counted, ?_, allocatePageForTable_fresh c, allocateExtentForTable_fresh c,
    deallocated_between c⟩
  intro t e member
  refine ⟨UInt32.lt_iff_toNat_lt.mpr (c.listedBelow member),
    UInt32.le_iff_toNat_le.mpr (c.existingUnlisted t e member), ?_⟩
  intro t' member'
  exact c.ownerUnique t' t e member' member

def liveOps : List Op :=
  [.allocatePageForTable 7, .allocatePageForTable 7, .allocateExtentForTable 9,
    .deallocatePage (PageId.new 0)]

theorem extentAllocator_runs_live :
    Reachability.Reachable (Initial 0) Next (after new liveOps) ∧
      (after new liveOps).tableExtents 7 = [⟨0⟩] ∧ (after new liveOps).tableExtents 9 = [⟨1⟩] ∧
      (after new liveOps).extentInfo ⟨0⟩ = some ⟨2, 1⟩ ∧
      (after new liveOps).extentInfo ⟨1⟩ = some ⟨255, 8⟩ ∧
      (∀ e info, (after new liveOps).extentInfo e = some info →
        info.allocatedCount.toNat = Bitmap.population info.allocatedBitmap) ∧
      (∀ t e, e ∈ (after new liveOps).tableExtents t → e.val < (after new liveOps).nextExtentId ∧
        0 ≤ e.val ∧ ∀ t', e ∈ (after new liveOps).tableExtents t' → t' = t) ∧
      (∀ t, ((after new liveOps).allocatePageForTable t).2.nextExtentId.toNat ≤ 2 ^ 29 →
        extentOf ((after new liveOps).allocatePageForTable t).1 ∈
            ((after new liveOps).allocatePageForTable t).2.tableExtents t ∧
          ¬ Taken (after new liveOps) ((after new liveOps).allocatePageForTable t).1) ∧
      (∀ t, ((after new liveOps).allocateExtentForTable t).2.nextExtentId.toNat ≤ 2 ^ 29 →
        ∃ e : ExtentId,
          ((after new liveOps).allocateExtentForTable t).1.map extentOf = List.replicate 8 e ∧
          ((after new liveOps).allocateExtentForTable t).1.map slotOf = [0, 1, 2, 3, 4, 5, 6, 7] ∧
          (∀ t', e ∉ (after new liveOps).tableExtents t') ∧
          (after new liveOps).extentInfo e = none ∧
          e ∈ ((after new liveOps).allocateExtentForTable t).2.tableExtents t) ∧
      (∀ pre mid first second p,
        WithinLimit (after new liveOps) (pre ++ first :: mid ++ [second]) →
        p ∈ ((after (after new liveOps) pre).step first).1 →
        p ∈ ((after ((after (after new liveOps) pre).step first).2 mid).step second).1 →
        Op.deallocatePage p ∈ mid) := by
  have reached : Reachability.Reachable (Initial 0) Next (after new liveOps) :=
    reachable_after (Reachability.Reachable.initial Initial.new)
      ⟨by decide, by decide, by decide, by decide, trivial⟩
  exact ⟨reached, by decide, by decide, by decide, by decide, extentAllocator_runs reached⟩

/-- Past `2 ^ 29` extents the page arithmetic wraps onto extent 0, which is not on the table's list.
-/
theorem extentAllocator_wraps :
    (((fromExisting (2 ^ 32 - 8)).allocateExtentForTable 0).2.allocateExtentForTable 0).1.head? =
        some (PageId.new 0) ∧
      extentOf (PageId.new 0) ∉
        (((fromExisting (2 ^ 32 - 8)).allocateExtentForTable 0).2.allocateExtentForTable
          0).2.tableExtents 0 ∧
      (extentOf (PageId.new 0)).val < (fromExisting (2 ^ 32 - 8)).nextExtentId := by
  decide

def holeOps : List Op :=
  [.allocatePageForTable 7, .allocatePageForTable 7, .deallocatePage (PageId.new 0)]

/-- `get_contiguous_pages` reports a range from an extent's first page and its count, so a hole at
the bottom names a free page. -/
theorem contiguousPages_after_hole :
    Reachability.Reachable (Initial 0) Next (after new holeOps) ∧
      (after new holeOps).getContiguousPages 7 = [(PageId.new 0, 1)] ∧
      ¬ Taken (after new holeOps) (PageId.new 0) ∧ Taken (after new holeOps) (PageId.new 1) := by
  have info : (after new holeOps).extentInfo ⟨0⟩ = some ⟨2, 1⟩ := by decide
  refine ⟨reachable_after (Reachability.Reachable.initial Initial.new)
    ⟨by decide, by decide, by decide, trivial⟩, by decide,
    ?freed, ⟨⟨2, 1⟩, info, by decide⟩⟩
  case freed =>
    rintro ⟨found, atZero, taken⟩
    rw [show extentOf (PageId.new 0) = ⟨0⟩ from rfl, info, Option.some_inj] at atZero
    subst atZero
    exact absurd taken (by decide)

end ExtentAllocator

end Crio
