import Mathlib

/-!
A list of records that carry a key each, read as a finite map: `find` takes the first record
under a key.
-/

namespace KeyedList

variable {α κ : Type}

def NodupKeys (key : α → κ) (l : List α) : Prop := (l.map key).Nodup

section Distinct

variable {key : α → κ}

theorem NodupKeys.tail {x : α} {l : List α} (distinct : NodupKeys key (x :: l)) :
    key x ∉ l.map key ∧ NodupKeys key l := by
  simpa [NodupKeys] using distinct

theorem NodupKeys.perm {l l' : List α} (p : l.Perm l') (distinct : NodupKeys key l') :
    NodupKeys key l :=
  (p.map key).nodup_iff.mpr distinct

theorem nodupKeys_append_singleton {l : List α} {x : α} (distinct : NodupKeys key l)
    (fresh : key x ∉ l.map key) : NodupKeys key (l ++ [x]) := by
  rw [NodupKeys, List.map_append, List.map_singleton, ← List.concat_eq_append]
  exact distinct.concat fresh

theorem nodupKeys_set {l : List α} (distinct : NodupKeys key l) {i : Nat} {x y : α}
    (stored : l[i]? = some x) (same : key y = key x) : NodupKeys key (l.set i y) := by
  obtain ⟨inside, stored⟩ := List.getElem?_eq_some_iff.mp stored
  have unchanged : (l.set i y).map key = l.map key := by
    apply List.ext_getElem (by simp)
    intro j _ _
    simp only [List.getElem_map, List.getElem_set]
    split
    · rename_i here
      subst here
      rw [same, stored]
    · rfl
  rw [NodupKeys, unchanged]
  exact distinct

theorem nodupKeys_eraseIdx {l : List α} (distinct : NodupKeys key l) (i : Nat) :
    NodupKeys key (l.eraseIdx i) :=
  List.Nodup.sublist ((List.eraseIdx_sublist l i).map key) distinct

theorem mergeSort_eq_insertionSort [LinearOrder κ] {l : List α} (distinct : NodupKeys key l) :
    l.mergeSort (fun a b => decide (key a ≤ key b)) = l.insertionSort fun a b => key a ≤ key b := by
  have total : Std.Total fun a b : α => key a ≤ key b := ⟨fun a b => le_total (key a) (key b)⟩
  have trans : IsTrans α fun a b => key a ≤ key b := ⟨fun _ _ _ => le_trans⟩
  refine @List.Perm.eq_of_pairwise _ (fun a b => key a ≤ key b) _ _ ?_ ?_ ?_ ?_
  · intro a b memberA memberB ab ba
    exact List.inj_on_of_nodup_map distinct ((List.mem_mergeSort).mp memberA)
      ((List.perm_insertionSort _ l).mem_iff.mp memberB) (le_antisymm ab ba)
  · simpa using @List.pairwise_mergeSort _ (fun a b => decide (key a ≤ key b))
      (fun a b c ab bc => by simpa using le_trans (by simpa using ab) (by simpa using bc))
      (fun a b => by simpa using le_total (key a) (key b)) l
  · exact List.pairwise_insertionSort _ l
  · exact (List.mergeSort_perm l _).trans (List.perm_insertionSort _ l).symm

theorem mergeSort_eq_of_perm [LinearOrder κ] {l l' : List α} (p : l.Perm l')
    (distinct : NodupKeys key l') (sorted : l'.Pairwise fun a b => key a ≤ key b) :
    l.mergeSort (fun a b => decide (key a ≤ key b)) = l' := by
  refine @List.Perm.eq_of_pairwise _ (fun a b => key a ≤ key b) _ _ ?_ ?_ sorted
    ((List.mergeSort_perm l _).trans p)
  · intro a b memberA memberB ab ba
    exact List.inj_on_of_nodup_map distinct (p.mem_iff.mp (List.mem_mergeSort.mp memberA)) memberB
      (le_antisymm ab ba)
  · simpa using @List.pairwise_mergeSort _ (fun a b => decide (key a ≤ key b))
      (fun a b c ab bc => by simpa using le_trans (by simpa using ab) (by simpa using bc))
      (fun a b => by simpa using le_total (key a) (key b)) l

end Distinct

variable [DecidableEq κ]

def find (key : α → κ) (l : List α) (k : κ) : Option α := l.find? fun x => key x = k

variable {key : α → κ}

@[simp] theorem find_nil (k : κ) : find key [] k = none := rfl

theorem find_cons (x : α) (l : List α) (k : κ) :
    find key (x :: l) k = if key x = k then some x else find key l k := by
  by_cases keyed : key x = k <;> simp [find, keyed]

theorem find_eq_none_iff {l : List α} {k : κ} : find key l k = none ↔ k ∉ l.map key := by
  simp [find, List.find?_eq_none]

theorem find_eq_some_iff {l : List α} (distinct : NodupKeys key l) {k : κ} {x : α} :
    find key l k = some x ↔ x ∈ l ∧ key x = k := by
  constructor
  · intro found
    exact ⟨List.mem_of_find?_eq_some found, by simpa using List.find?_some found⟩
  · rintro ⟨member, keyed⟩
    cases found : find key l k with
    | none => exact absurd (List.mem_map.mpr ⟨x, member, keyed⟩) (find_eq_none_iff.mp found)
    | some y =>
      have yMember : y ∈ l := List.mem_of_find?_eq_some found
      have yKeyed : key y = k := by simpa using List.find?_some found
      rw [List.inj_on_of_nodup_map distinct yMember member (yKeyed.trans keyed.symm)]

theorem find_perm {l l' : List α} (p : l.Perm l') (distinct : NodupKeys key l') (k : κ) :
    find key l k = find key l' k := by
  have distinct' : NodupKeys key l := distinct.perm p
  cases found : find key l' k with
  | none =>
    exact find_eq_none_iff.mpr fun member =>
      find_eq_none_iff.mp found ((p.map key).mem_iff.mp member)
  | some x =>
    obtain ⟨member, keyed⟩ := (find_eq_some_iff distinct).mp found
    exact (find_eq_some_iff distinct').mpr ⟨p.mem_iff.mpr member, keyed⟩

theorem find_append_singleton {l : List α} {x : α} (fresh : key x ∉ l.map key) (k : κ) :
    find key (l ++ [x]) k = if key x = k then some x else find key l k := by
  by_cases keyed : key x = k
  · have missing : l.find? (fun y => key y = k) = none := find_eq_none_iff.mpr (keyed ▸ fresh)
    simp [find, List.find?_append, keyed, missing]
  · simp [find, List.find?_append, keyed]

theorem find_append_cons {front back : List α} {x : α} (others : ∀ y ∈ front, key y ≠ key x)
    (k : κ) :
    find key (front ++ x :: back) k = if key x = k then some x else find key (front ++ back) k := by
  by_cases keyed : key x = k
  · have missing : front.find? (fun y => key y = k) = none :=
      List.find?_eq_none.mpr fun y member => by simpa [← keyed] using others y member
    simp [find, List.find?_append, keyed, missing]
  · simp [find, List.find?_append, keyed]

theorem find_set {l : List α} (distinct : NodupKeys key l) {i : Nat} {x y : α}
    (stored : l[i]? = some x) (same : key y = key x) (k : κ) :
    find key (l.set i y) k = if key y = k then some y else find key l k := by
  induction l generalizing i with
  | nil => simp at stored
  | cons z l ih =>
    obtain ⟨fresh, distinct'⟩ := distinct.tail
    cases i with
    | zero =>
      simp only [List.getElem?_cons_zero, Option.some_inj] at stored
      subst stored
      simp only [List.set_cons_zero, find_cons, same]
      split <;> rfl
    | succ i =>
      simp only [List.getElem?_cons_succ] at stored
      rw [List.set_cons_succ, find_cons, find_cons, ih distinct' stored]
      have apart : key z ≠ key y := fun clash =>
        fresh (List.mem_map.mpr ⟨x, List.mem_of_getElem? stored, (clash.trans same).symm⟩)
      by_cases head : key z = k
      · have notY : key y ≠ k := fun keyed => apart (head.trans keyed.symm)
        simp [head, notY]
      · simp [head]

theorem find_eraseIdx {l : List α} (distinct : NodupKeys key l) {i : Nat} {x : α}
    (stored : l[i]? = some x) (k : κ) :
    find key (l.eraseIdx i) k = if key x = k then none else find key l k := by
  induction l generalizing i with
  | nil => simp at stored
  | cons z l ih =>
    obtain ⟨fresh, distinct'⟩ := distinct.tail
    cases i with
    | zero =>
      simp only [List.getElem?_cons_zero, Option.some_inj] at stored
      subst stored
      simp only [List.eraseIdx_cons_zero, find_cons]
      by_cases head : key z = k
      · simp [head, find_eq_none_iff.mpr (head ▸ fresh)]
      · simp [head]
    | succ i =>
      simp only [List.getElem?_cons_succ] at stored
      simp only [List.eraseIdx_cons_succ, find_cons, ih distinct' stored]
      have apart : key z ≠ key x := fun clash =>
        fresh (List.mem_map.mpr ⟨x, List.mem_of_getElem? stored, clash.symm⟩)
      by_cases head : key z = k
      · have notErased : key x ≠ k := fun keyed => apart (head.trans keyed.symm)
        simp [head, notErased]
      · simp [head]

theorem find_reverse_cons (a : α) (rest : List α) (k : κ) :
    find key (a :: rest).reverse k =
      (find key rest.reverse k).or (if key a = k then some a else none) := by
  simp only [find, List.reverse_cons, List.find?_append, List.find?_singleton]
  by_cases keyed : key a = k <;> simp [keyed]

theorem find_reverse_eq_some_iff {l : List α} {k : κ} {x : α} :
    find key l.reverse k = some x ↔
      ∃ i : Nat, l[i]? = some x ∧ key x = k ∧ ∀ (j : Nat) y, i < j → l[j]? = some y → key y ≠ k := by
  induction l generalizing x with
  | nil => simp
  | cons a rest ih =>
    rw [find_reverse_cons]
    cases later : find key rest.reverse k with
    | some z =>
      obtain ⟨i, atI, keyed, after⟩ := ih.mp later
      simp only [Option.some_or, Option.some.injEq]
      constructor
      · rintro rfl
        refine ⟨i + 1, atI, keyed, fun j y past atJ => ?_⟩
        obtain ⟨j, rfl⟩ : ∃ j', j = j' + 1 := ⟨j - 1, by omega⟩
        exact after j y (by omega) atJ
      · rintro ⟨i', atI', keyed', after'⟩
        cases i' with
        | zero =>
          exact absurd keyed (after' (i + 1) z (Nat.succ_pos i) atI)
        | succ i' =>
          have same : i' = i := by
            by_contra differ
            rcases Nat.lt_or_gt_of_ne differ with before | beyond
            · exact after' (i + 1) z (by omega) atI keyed
            · exact after i' x beyond atI' keyed'
          subst same
          exact Option.some.inj (atI.symm.trans atI')
    | none =>
      have missing : ∀ j y, rest[j]? = some y → key y ≠ k := fun j y atJ keyed =>
        find_eq_none_iff.mp later (List.mem_map.mpr
          ⟨y, List.mem_reverse.mpr (List.mem_of_getElem? atJ), keyed⟩)
      simp only [Option.none_or]
      constructor
      · intro found
        by_cases keyed : key a = k
        · rw [if_pos keyed, Option.some.injEq] at found
          subst found
          refine ⟨0, rfl, keyed, fun j y past atJ => ?_⟩
          obtain ⟨j, rfl⟩ : ∃ j', j = j' + 1 := ⟨j - 1, by omega⟩
          exact missing j y atJ
        · rw [if_neg keyed] at found
          cases found
      · rintro ⟨i, atI, keyed, _⟩
        cases i with
        | zero =>
          simp only [List.getElem?_cons_zero, Option.some.injEq] at atI
          subst atI
          rw [if_pos keyed]
        | succ i => exact absurd keyed (missing i x atI)

theorem foldl_update_apply {β : Type} (val : α → β) (l : List α) (m : κ → Option β) (k : κ) :
    (l.foldl (fun m a => Function.update m (key a) (some (val a))) m) k =
      ((find key l.reverse k).map val).or (m k) := by
  induction l generalizing m with
  | nil => rfl
  | cons a rest ih =>
    rw [List.foldl_cons, ih, find_reverse_cons]
    cases find key rest.reverse k with
    | some x => rfl
    | none =>
      by_cases keyed : key a = k
      · subst keyed
        simp
      · simp [keyed, Function.update_of_ne (Ne.symm keyed)]

section Ascending

variable [LT κ] [LE κ] [Std.LawfulOrderLT κ] {l : List α} {i : Nat}

theorem find_take_of_lt (sorted : l.Pairwise fun a b => key a ≤ key b) (inside : i < l.length)
    {k : κ} (below : k < key l[i]) : find key (l.take i) k = find key l k := by
  have split := List.take_append_drop i l
  rw [List.drop_eq_getElem_cons inside] at split
  have later := sorted
  rw [← split, List.pairwise_append, List.pairwise_cons] at later
  have missing : (l[i] :: l.drop (i + 1)).find? (fun x => key x = k) = none := by
    rw [List.find?_eq_none]
    intro x member keyed
    have atLeast : key l[i] ≤ k := by
      rcases List.mem_cons.mp member with rfl | rest
      · rw [of_decide_eq_true keyed] at below
        exact absurd ((Std.LawfulOrderLT.lt_iff k k).mp below).1
          ((Std.LawfulOrderLT.lt_iff k k).mp below).2
      · exact of_decide_eq_true keyed ▸ later.2.1.1 x rest
    exact ((Std.LawfulOrderLT.lt_iff _ _).mp below).2 atLeast
  conv_rhs => rw [← split]
  rw [find, find, List.find?_append, missing, Option.or_none]

theorem find_drop_of_le (sorted : l.Pairwise fun a b => key a < key b) (inside : i < l.length)
    {k : κ} (above : key l[i] ≤ k) : find key (l.drop i) k = find key l k := by
  have split := List.take_append_drop i l
  have earlier := sorted
  rw [← split, List.pairwise_append] at earlier
  have missing : (l.take i).find? (fun x => key x = k) = none := by
    rw [List.find?_eq_none]
    intro x member keyed
    have below := earlier.2.2 x member l[i] (List.drop_eq_getElem_cons inside ▸ List.mem_cons_self)
    rw [of_decide_eq_true keyed] at below
    exact ((Std.LawfulOrderLT.lt_iff _ _).mp below).2 above
  conv_rhs => rw [← split]
  rw [find, find, List.find?_append, missing, Option.none_or]

end Ascending

theorem take_set_last_perm {l : List α} {i : Nat} {z : α} (inside : i < l.length)
    (last : l[l.length - 1]? = some z) :
    ((l.set i z).take (l.length - 1)).Perm (l.eraseIdx i) := by
  by_cases isLast : i = l.length - 1
  · subst isLast
    obtain ⟨_, last⟩ := List.getElem?_eq_some_iff.mp last
    rw [← last, List.set_getElem_self, List.eraseIdx_eq_take_drop_succ,
      List.drop_of_length_le (by omega), List.append_nil]
  · have nonempty : l ≠ [] := List.ne_nil_of_length_pos (by omega)
    -- with `l = front ++ [z]`: `front.set i z` against `front.eraseIdx i ++ [z]`
    obtain ⟨front, z', rfl⟩ : ∃ front z', l = front ++ [z'] :=
      ⟨l.dropLast, l.getLast nonempty, (List.dropLast_concat_getLast nonempty).symm⟩
    have shorter : i < front.length := by
      simp only [List.length_append, List.length_singleton] at inside isLast
      omega
    have lastIs : z' = z := by simpa using last
    subst lastIs
    simp only [List.length_append, List.length_singleton, Nat.add_sub_cancel,
      List.set_append_left _ _ shorter, List.eraseIdx_append_of_lt_length shorter]
    rw [List.take_left' (by simp)]
    exact (List.set_perm_cons_eraseIdx shorter _).trans (List.perm_append_singleton _ _).symm

end KeyedList
