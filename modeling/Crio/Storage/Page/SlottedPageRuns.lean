import Crio.Storage.Page.SlottedPageCompact

/-!
Runs of tuple operations from `SlottedPage::init` or `TablePage::init`. `TablePage` hands
every tuple operation to the slotted page, so one step relation covers both.
-/

namespace Crio

namespace SlottedPage

inductive Call where
  | insertTuple (tuple : List UInt8)
  | deleteTuple (slotId : SlotId)
  | updateTuple (slotId : SlotId) (newData : List UInt8)
  | compact

/-- `none` if the call panics. -/
def Call.run (p : PageData) : Call → Option PageData
  | .insertTuple tuple => (SlottedPage.insertTuple p tuple).map Prod.snd
  | .deleteTuple slotId => (SlottedPage.deleteTuple p slotId).map Prod.snd
  | .updateTuple slotId newData => (SlottedPage.updateTuple p slotId newData).map Prod.snd
  | .compact => SlottedPage.compact p

def Step (p p' : PageData) : Prop := ∃ call : Call, call.run p = some p'

def Initial (headerEnd : Nat) (p : PageData) : Prop :=
  (headerEnd = headerSize ∧ ∃ pageId, p = init pageId) ∨
    (headerEnd = TablePage.tableHeaderSize ∧
      ∃ pageId tableId, p = TablePage.init pageId tableId)

def Reachable (headerEnd : Nat) (p : PageData) : Prop :=
  Reachability.Reachable (Initial headerEnd) Step p

section Runs

variable {headerEnd : Nat} {p : PageData}

theorem layout_of_initial (initial : Initial headerEnd p) : Layout headerEnd p := by
  rcases initial with ⟨rfl, pageId, rfl⟩ | ⟨rfl, pageId, tableId, rfl⟩
  · exact layout_init pageId
  · exact layout_tablePageInit pageId tableId

theorem Layout.getTuple_ne_none (layout : Layout headerEnd p) (slotId : SlotId) :
    SlottedPage.getTuple p slotId ≠ none := by
  by_cases counted : slotId.val.toNat < (numSlots p).toNat
  · rw [layout.getTuple counted]
    exact Option.some_ne_none _
  · rw [SlottedPage.getTuple, getSlot_of_ge p (by omega)]
    exact Option.some_ne_none _

theorem Layout.run (layout : Layout headerEnd p) (call : Call) :
    ∃ p', call.run p = some p' ∧ Layout headerEnd p' ∧ HeaderKept headerEnd p p' := by
  cases call with
  | insertTuple tuple =>
    obtain ⟨result, p', inserted, layout', kept⟩ := layout.insertTuple_step tuple
    exact ⟨p', by simp [Call.run, inserted], layout', kept⟩
  | deleteTuple slotId =>
    obtain ⟨result, p', deleted, layout', kept⟩ := layout.deleteTuple_step slotId
    exact ⟨p', by simp [Call.run, deleted], layout', kept⟩
  | updateTuple slotId newData =>
    obtain ⟨result, p', updated, layout', kept⟩ := layout.updateTuple_step slotId newData
    exact ⟨p', by simp [Call.run, updated], layout', kept⟩
  | compact =>
    obtain ⟨p', compacted, after⟩ := layout.compact
    exact ⟨p', compacted, after.layout, after.kept⟩

theorem layout_of_reachable (reached : Reachable headerEnd p) : Layout headerEnd p :=
  Reachability.Reachable.invariant (Layout headerEnd) (fun _ initial => layout_of_initial initial)
    (fun _ _ layout step => by
      obtain ⟨call, ran⟩ := step
      obtain ⟨p', ran', layout', _⟩ := layout.run call
      rw [ran] at ran'
      exact Option.some_inj.mp ran' ▸ layout')
    reached

/-- On every page a run of tuple operations reaches, the layout holds, no operation panics, and the
header bytes other than the counts survive. -/
theorem tupleOps_keep_layout (reached : Reachable headerEnd p) :
    Layout headerEnd p ∧
      (∀ slotId : SlotId, slotId.val.toNat < (numSlots p).toNat →
        getSlot p slotId = some (some (entryAt p headerEnd slotId.val.toNat))) ∧
      (∀ slotId, getTuple p slotId ≠ none) ∧
      ∀ call : Call, ∃ p', call.run p = some p' ∧ HeaderKept headerEnd p p' := by
  have layout := layout_of_reachable reached
  refine ⟨layout, fun slotId counted => layout.getSlot counted, layout.getTuple_ne_none,
    fun call => ?_⟩
  obtain ⟨p', ran, _, kept⟩ := layout.run call
  exact ⟨p', ran, kept⟩

def liveCalls : List Call :=
  [.insertTuple [1, 2, 3], .insertTuple [4, 5], .insertTuple [6], .deleteTuple ⟨1⟩]

def tableLive : PageData :=
  (liveCalls.foldlM Call.run (TablePage.init (PageId.new 1) 42)).getD
    (TablePage.init (PageId.new 1) 42)

theorem tupleOps_keep_layout_tableLive :
    Reachable TablePage.tableHeaderSize tableLive ∧ numSlots tableLive = 3 ∧
      getTuple tableLive ⟨0⟩ = some (.ok [1, 2, 3]) ∧
      getTuple tableLive ⟨1⟩ = some (.error (.emptySlot 1)) ∧
      Layout TablePage.tableHeaderSize tableLive ∧
      (∀ slotId : SlotId, slotId.val.toNat < (numSlots tableLive).toNat →
        getSlot tableLive slotId =
          some (some (entryAt tableLive TablePage.tableHeaderSize slotId.val.toNat))) ∧
      (∀ slotId, getTuple tableLive slotId ≠ none) ∧
      ∀ call : Call, ∃ p', call.run tableLive = some p' ∧
        HeaderKept TablePage.tableHeaderSize tableLive p' :=
  have ran : liveCalls.foldlM Call.run (TablePage.init (PageId.new 1) 42) = some tableLive := rfl
  have reached : Reachable TablePage.tableHeaderSize tableLive :=
    Reachability.Reachable.foldlM (fun _ call _ ran => ⟨call, ran⟩) liveCalls
      (Reachability.Reachable.initial (Or.inr ⟨rfl, _, _, rfl⟩)) ran
  ⟨reached, by decide, by decide, by decide, tupleOps_keep_layout reached⟩

end Runs

end SlottedPage

end Crio
