import Mathlib

/-!
Counting the entries of an association list that pass a test. A key has one entry at most, so
its entry adds one or nothing to the count, wherever it stands in the list: `insert` and `erase`
move the count by that entry alone. A property of every entry is kept the same way.
-/

namespace AListCount

variable {α : Type} {β : α → Type}

def count (p : ∀ a, β a → Bool) (s : AList β) : Nat :=
  s.entries.countP fun e => p e.1 e.2

variable {p : ∀ a, β a → Bool}

@[simp] theorem count_empty : count p (∅ : AList β) = 0 := rfl

variable [DecidableEq α]

theorem count_eq_count_erase_add {s : AList β} {a : α} {b : β a} (found : s.lookup a = some b) :
    count p s = count p (s.erase a) + if p a b then 1 else 0 := by
  have present : a ∈ s.entries.keys := AList.mem_keys.mp (AList.lookup_isSome.mp (by simp [found]))
  obtain ⟨b', front, back, _, split, erased⟩ := List.exists_of_kerase present
  have same : b' = b := by
    have member : (⟨a, b'⟩ : Sigma β) ∈ s.entries := by simp [split]
    exact Option.some_inj.mp ((AList.mem_lookup_iff.mpr member).symm.trans found)
  subst same
  simp only [count, AList.erase]
  rw [erased, split]
  simp only [List.countP_append, List.countP_cons]
  omega

theorem count_erase_of_lookup_eq_none {s : AList β} {a : α} (missing : s.lookup a = none) :
    count p (s.erase a) = count p s := by
  have absent : a ∉ s.entries.keys := fun present =>
    AList.lookup_eq_none.mp missing (AList.mem_keys.mpr present)
  simp only [count, AList.erase, List.kerase_of_notMem_keys absent]

theorem count_insert (s : AList β) (a : α) (b : β a) :
    count p (s.insert a b) = count p (s.erase a) + if p a b then 1 else 0 := by
  simp only [count, AList.entries_insert, List.countP_cons, AList.erase]

theorem count_eq_zero_iff {s : AList β} :
    count p s = 0 ↔ ∀ a b, s.lookup a = some b → p a b = false := by
  simp only [count, List.countP_eq_zero, Bool.not_eq_true]
  constructor
  · intro none a b found
    exact none ⟨a, b⟩ (AList.mem_lookup_iff.mp found)
  · intro none e member
    exact none e.1 e.2 (AList.mem_lookup_iff.mpr member)

def All (q : ∀ a, β a → Prop) (s : AList β) : Prop := ∀ a b, s.lookup a = some b → q a b

variable {q q' : ∀ a, β a → Prop} {s : AList β}

theorem All.mono (all : All q s) (weaker : ∀ a b, q a b → q' a b) : All q' s :=
  fun a b found => weaker a b (all a b found)

theorem All.erase (all : All q s) (a : α) : All q (s.erase a) := by
  intro other b found
  by_cases same : other = a
  · subst same
    rw [AList.lookup_erase] at found
    cases found
  · exact all other b (by rwa [AList.lookup_erase_ne same] at found)

theorem All.insert (all : All q s) (a : α) {b : β a} (holds : q a b) : All q (s.insert a b) := by
  intro other b' found
  by_cases same : other = a
  · subst same
    rw [AList.lookup_insert, Option.some_inj] at found
    exact found ▸ holds
  · exact all other b' (by rwa [AList.lookup_insert_ne same] at found)

theorem All.mem {e : Sigma β} (all : All q s) (member : e ∈ s.entries) : q e.1 e.2 :=
  all e.1 e.2 (AList.mem_lookup_iff.mpr member)

end AListCount
