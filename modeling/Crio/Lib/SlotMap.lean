import Mathlib

/-!
Slot maps: finite maps from slot numbers to values in which a new value takes the smallest
free slot, the abstract behaviour of a slotted page.
-/

namespace SlotMap

variable {α : Type}

def firstFree (m : List (Option α)) : Nat := m.findIdx Option.isNone

def insert (m : List (Option α)) (a : α) : List (Option α) :=
  if firstFree m < m.length then m.set (firstFree m) (some a) else m ++ [some a]

def erase (m : List (Option α)) (i : Nat) : List (Option α) := m.set i none

def update (m : List (Option α)) (i : Nat) (a : α) : List (Option α) := m.set i (some a)

def keys (m : List (Option α)) : List Nat :=
  (List.range m.length).filter fun i => (m[i]?.bind id).isSome

def total (size : α → Nat) (m : List (Option α)) : Nat := ((m.filterMap id).map size).sum

theorem firstFree_le (m : List (Option α)) : firstFree m ≤ m.length := List.findIdx_le_length

theorem getElem?_firstFree {m : List (Option α)} (free : firstFree m < m.length) :
    m[firstFree m]? = some none := by
  unfold firstFree at free ⊢
  have isFree := List.findIdx_getElem (w := free)
  rw [List.getElem?_eq_getElem free]
  rw [Option.isNone_iff_eq_none] at isFree
  rw [isFree]

theorem taken_of_lt_firstFree {m : List (Option α)} {i : Nat} (below : i < firstFree m) :
    ∃ a, m[i]? = some (some a) := by
  have inside : i < m.length := Nat.lt_of_lt_of_le below (firstFree_le m)
  have taken := List.not_of_lt_findIdx below
  rw [List.getElem?_eq_getElem inside]
  cases value : m[i] with
  | none =>
    rw [value] at taken
    simp at taken
  | some a => exact ⟨a, rfl⟩

theorem firstFree_map_range (f : Nat → Option α) (n : Nat) :
    firstFree ((List.range n).map f) = ((List.range n).find? fun i => (f i).isNone).getD n := by
  rw [firstFree, List.findIdx_map]
  cases found : (List.range n).find? fun i => (f i).isNone with
  | none =>
    have never := List.find?_eq_none.mp found
    have taken : ∀ i ∈ List.range n, (Option.isNone ∘ f) i = false := fun i member =>
      Bool.eq_false_iff.mpr (never i member)
    rw [Option.getD_none, List.findIdx_eq_length.mpr taken, List.length_range]
  | some i =>
    obtain ⟨free, member, before⟩ := List.find?_range_eq_some.mp found
    have inside : i < (List.range n).length := by simpa using member
    rw [Option.getD_some, List.findIdx_eq inside]
    exact ⟨by simpa using free, fun j below => by simpa using before j below⟩

theorem getElem?_insert (m : List (Option α)) (a : α) (i : Nat) :
    (insert m a)[i]? = if i = firstFree m then some (some a) else m[i]? := by
  unfold insert
  split
  · rename_i free
    rw [List.getElem?_set]
    by_cases same : i = firstFree m
    · simp [same, free]
    · simp [same, Ne.symm same]
  · rename_i full
    have atEnd : firstFree m = m.length := Nat.le_antisymm (firstFree_le m) (by omega)
    by_cases same : i = firstFree m
    · simp [same, atEnd]
    · rw [if_neg same]
      by_cases inside : i < m.length
      · rw [List.getElem?_append_left inside]
      · rw [List.getElem?_append_right (by omega),
          List.getElem?_eq_none (by simp only [List.length_singleton]; omega),
          List.getElem?_eq_none (by omega)]

theorem getElem?_set_slot {β : Type} (m : List β) (i j : Nat) (x : β) :
    (m.set i x)[j]? = if j = i ∧ i < m.length then some x else m[j]? := by
  rw [List.getElem?_set]
  by_cases same : i = j
  · subst same
    by_cases inside : i < m.length
    · simp [inside]
    · simp [inside]
  · simp [same, Ne.symm same]

theorem getElem?_erase (m : List (Option α)) (i j : Nat) :
    (erase m i)[j]? = if j = i ∧ i < m.length then some none else m[j]? :=
  getElem?_set_slot m i j none

theorem getElem?_update (m : List (Option α)) (i j : Nat) (a : α) :
    (update m i a)[j]? = if j = i ∧ i < m.length then some (some a) else m[j]? :=
  getElem?_set_slot m i j (some a)

theorem mem_keys {m : List (Option α)} {i : Nat} : i ∈ keys m ↔ ∃ a, m[i]? = some (some a) := by
  rw [keys, List.mem_filter, List.mem_range]
  constructor
  · rintro ⟨inside, taken⟩
    rw [List.getElem?_eq_getElem inside] at taken ⊢
    cases value : m[i] with
    | none => simp [value] at taken
    | some a => exact ⟨a, rfl⟩
  · rintro ⟨a, found⟩
    have inside : i < m.length := (List.getElem?_eq_some_iff.mp found).1
    exact ⟨inside, by simp [found]⟩

theorem lt_of_mem_keys {m : List (Option α)} {i : Nat} (member : i ∈ keys m) : i < m.length :=
  List.mem_range.mp (List.mem_filter.mp member).1

theorem keys_sorted (m : List (Option α)) : (keys m).Pairwise (· < ·) :=
  List.pairwise_lt_range.filter _

end SlotMap
