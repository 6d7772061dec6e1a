import Mathlib

/-!
Loops over indices, as code that reads and rewrites an array slot by slot runs them: a loop
in `Option` whose every step returns, and a fold whose steps each write one slot.
-/

namespace IndexLoops

variable {σ α β : Type}

theorem exists_of_mapM_eq_some {f : α → Option β} :
    ∀ {l : List α} {ys : List β}, l.mapM f = some ys → ∀ a ∈ l, ∃ b, f a = some b
  | [], _, _, _, member => absurd member List.not_mem_nil
  | x :: rest, ys, ran, a, member => by
    rw [List.mapM_cons] at ran
    simp only [Option.bind_eq_bind, Option.bind_eq_some_iff, Option.pure_def,
      Option.some.injEq] at ran
    obtain ⟨b, first, more, others, _⟩ := ran
    rcases List.mem_cons.mp member with here | later
    · exact ⟨b, here ▸ first⟩
    · exact exists_of_mapM_eq_some others a later

theorem forall₂_of_mapM_eq_some {f : α → Option β} :
    ∀ {l : List α} {ys : List β}, l.mapM f = some ys → List.Forall₂ (fun a b => f a = some b) l ys
  | [], ys, ran => by
    cases ran
    exact List.Forall₂.nil
  | x :: rest, ys, ran => by
    rw [List.mapM_cons] at ran
    simp only [Option.bind_eq_bind, Option.bind_eq_some_iff, Option.pure_def,
      Option.some.injEq] at ran
    obtain ⟨b, first, more, others, rfl⟩ := ran
    exact List.Forall₂.cons first (forall₂_of_mapM_eq_some others)

theorem sum_map_le_of_forall₂ {R : α → β → Prop} {g : α → Nat} {h : β → Nat} {l : List α}
    {ys : List β} (related : List.Forall₂ R l ys)
    (bound : ∀ a ∈ l, ∀ b ∈ ys, R a b → g a ≤ h b) : (l.map g).sum ≤ (ys.map h).sum := by
  induction related with
  | nil => simp
  | cons first _ ih =>
    have head := bound _ List.mem_cons_self _ List.mem_cons_self first
    have tail := ih fun a inL b inYs r =>
      bound a (List.mem_cons_of_mem _ inL) b (List.mem_cons_of_mem _ inYs) r
    simp only [List.map_cons, List.sum_cons]
    omega

theorem mapM_bind_mapM {γ : Type} {f : α → Option β} {g : β → Option γ} :
    ∀ l : List α, (l.mapM f).bind (fun ys => ys.mapM g) = l.mapM fun a => (f a).bind g
  | [] => rfl
  | a :: rest => by
    rw [List.mapM_cons, List.mapM_cons, ← mapM_bind_mapM rest]
    cases f a with
    | none => rfl
    | some b =>
      cases rest.mapM f with
      | none =>
        simp only [Option.bind_eq_bind, Option.bind_some, Option.bind_none]
        cases g b <;> rfl
      | some bs =>
        rw [Option.bind_eq_bind, Option.bind_some, Option.bind_some]
        exact List.mapM_cons

theorem mapM_eq_some_map {f : α → Option β} {g : α → β} :
    ∀ {l : List α}, (∀ a ∈ l, f a = some (g a)) → l.mapM f = some (l.map g)
  | [], _ => rfl
  | a :: rest, returns => by
    rw [List.mapM_cons, returns a List.mem_cons_self,
      mapM_eq_some_map fun b member => returns b (List.mem_cons_of_mem a member)]
    rfl

theorem foldlM_eq_some_foldl {f : σ → α → Option σ} {g : σ → α → σ} :
    ∀ {l : List α} (s : σ), (∀ s, ∀ a ∈ l, f s a = some (g s a)) →
      l.foldlM f s = some (l.foldl g s)
  | [], _, _ => rfl
  | a :: rest, s, returns => by
    rw [List.foldlM_cons, returns s a List.mem_cons_self]
    exact foldlM_eq_some_foldl (l := rest) (g s a) fun s b member =>
      returns s b (List.mem_cons_of_mem a member)

theorem foldl_keeps {g : σ → α → σ} (P : σ → Prop) :
    ∀ {l : List α} {s : σ}, (∀ s, ∀ a ∈ l, P s → P (g s a)) → P s → P (l.foldl g s)
  | [], _, _, holds => holds
  | a :: rest, s, step, holds =>
    foldl_keeps P (l := rest) (fun s b member => step s b (List.mem_cons_of_mem a member))
      (step s a List.mem_cons_self holds)

section Writes

variable (read : σ → Nat → β) {g : σ → α → σ} (slot : α → Nat) (written : α → β)
  (inside : Nat → Prop)

def WritesSlot (l : List α) (g : σ → α → σ) : Prop :=
  ∀ s, ∀ a ∈ l, ∀ j, inside j → read (g s a) j = if j = slot a then written a else read s j

variable {read slot written inside}

theorem read_foldl_of_not_mem :
    ∀ {l : List α} {s : σ}, WritesSlot read slot written inside l g → ∀ j, inside j →
      (∀ a ∈ l, slot a ≠ j) → read (l.foldl g s) j = read s j
  | [], _, _, _, _, _ => rfl
  | a :: rest, s, writes, j, inJ, missed => by
    rw [List.foldl_cons,
      read_foldl_of_not_mem (l := rest)
        (fun s b member => writes s b (List.mem_cons_of_mem a member)) j inJ
        fun b member => missed b (List.mem_cons_of_mem a member),
      writes s a List.mem_cons_self j inJ, if_neg (Ne.symm (missed a List.mem_cons_self))]

theorem read_foldl_of_mem :
    ∀ {l : List α} {s : σ}, WritesSlot read slot written inside l g →
      l.Pairwise (fun a b => slot a ≠ slot b) → ∀ a ∈ l, inside (slot a) →
      read (l.foldl g s) (slot a) = written a
  | [], _, _, _, _, member, _ => absurd member List.not_mem_nil
  | b :: rest, s, writes, distinct, a, member, inA => by
    have restWrites : WritesSlot read slot written inside rest g :=
      fun s c member => writes s c (List.mem_cons_of_mem b member)
    rw [List.foldl_cons]
    rcases List.mem_cons.mp member with rfl | later
    · rw [read_foldl_of_not_mem restWrites (slot a) inA
          fun c member => Ne.symm (List.rel_of_pairwise_cons distinct member),
        writes s a List.mem_cons_self (slot a) inA, if_pos rfl]
    · exact read_foldl_of_mem restWrites (List.pairwise_cons.mp distinct).2 a later inA

theorem pairwise_range_of_injective {slot : Nat → Nat} (inj : ∀ a b, slot a = slot b → a = b)
    (n : Nat) : (List.range n).Pairwise (fun a b => slot a ≠ slot b) :=
  List.Pairwise.imp (fun different same => different (inj _ _ same)) List.nodup_range

theorem pairwise_zipIdx_snd (l : List α) : l.zipIdx.Pairwise (fun a b => a.2 ≠ b.2) := by
  have distinct : (l.zipIdx.map Prod.snd).Nodup := by
    rw [List.zipIdx_eq_zip_range', List.map_snd_zip (by simp)]
    exact List.nodup_range'
  exact List.pairwise_map.mp distinct

theorem map_range_foldl_zipIdx {l : List α} {h : α → β} {g' : σ → α × Nat → σ}
    {inside' : Nat → Prop} (writes : WritesSlot read Prod.snd (fun a => h a.1) inside' l.zipIdx g')
    (allInside : ∀ j < l.length, inside' j) (s : σ) :
    (List.range l.length).map (read (l.zipIdx.foldl g' s)) = l.map h := by
  apply List.ext_getElem (by simp)
  intro j inRange _
  have below : j < l.length := by simpa using inRange
  have member : (l[j], j) ∈ l.zipIdx := List.mem_zipIdx_iff_getElem?.mpr (by simp [below])
  simp only [List.getElem_map, List.getElem_range]
  exact read_foldl_of_mem writes (pairwise_zipIdx_snd l) (l[j], j) member (allInside j below)

def moveSlot (moves : Nat → Prop) [DecidablePred moves] (i : Nat) : Nat :=
  if moves i then i + 1 else i

section Move

variable {moves : Nat → Prop} [DecidablePred moves]

theorem moveSlot_injective (upward : ∀ a b, a ≤ b → moves a → moves b) :
    ∀ a b, moveSlot moves a = moveSlot moves b → a = b := by
  intro a b same
  unfold moveSlot at same
  split_ifs at same with movesA movesB movesB
  · omega
  · exact absurd (upward a b (by omega) movesA) movesB
  · exact absurd (upward b a (by omega) movesB) movesA
  · exact same

variable {g : σ → Nat → σ} {written : Nat → β} {m : Nat} {s : σ}

theorem read_foldl_moveSlot_of_stays (upward : ∀ a b, a ≤ b → moves a → moves b)
    (writes : WritesSlot read (moveSlot moves) written (fun _ => True) (List.range m) g)
    {j : Nat} (below : j < m) (stays : ¬ moves j) :
    read ((List.range m).foldl g s) j = written j := by
  have hit := read_foldl_of_mem (s := s) writes
    (pairwise_range_of_injective (moveSlot_injective upward) m) j (List.mem_range.mpr below)
    trivial
  rwa [moveSlot, if_neg stays] at hit

theorem read_foldl_moveSlot_of_moved (upward : ∀ a b, a ≤ b → moves a → moves b)
    (writes : WritesSlot read (moveSlot moves) written (fun _ => True) (List.range m) g)
    {j : Nat} (positive : 0 < j) (inside : j ≤ m) (moved : moves (j - 1)) :
    read ((List.range m).foldl g s) j = written (j - 1) := by
  have hit := read_foldl_of_mem (s := s) writes
    (pairwise_range_of_injective (moveSlot_injective upward) m) (j - 1)
    (List.mem_range.mpr (by omega)) trivial
  rwa [moveSlot, if_pos moved, Nat.sub_add_cancel positive] at hit

end Move

end Writes

theorem map_range_getD {l : List β} {m : Nat} (le : m ≤ l.length) (d : β) :
    (List.range m).map (l.getD · d) = l.take m := by
  apply List.ext_getElem (by simp [le])
  intro j inMap _
  have below : j < m := by simpa using inMap
  simp only [List.getElem_map, List.getElem_range, List.getElem_take,
    List.getD_eq_getElem _ _ (Nat.lt_of_lt_of_le below le)]

theorem getD_map_range (f : Nat → β) (n j : Nat) (d : β) :
    ((List.range n).map f).getD j d = if j < n then f j else d := by
  rw [List.getD_eq_getElem?_getD, List.getElem?_map]
  split
  · rename_i below
    rw [List.getElem?_range below]
    rfl
  · rename_i past
    rw [List.getElem?_eq_none (by simpa using Nat.le_of_not_lt past)]
    rfl

theorem insertIdx_eq_take_append_drop (x : β) :
    ∀ {l : List β} {i : Nat}, i ≤ l.length → l.insertIdx i x = l.take i ++ x :: l.drop i
  | _, 0, _ => List.insertIdx_zero
  | [], _ + 1, inside => absurd inside (by simp)
  | y :: l, i + 1, inside => by
    rw [List.insertIdx_succ_cons, insertIdx_eq_take_append_drop x (by simpa using inside)]
    rfl

theorem map_range_succ_eq_insertIdx {f g : Nat → β} {x : β} {pos n : Nat} (le : pos ≤ n)
    (below : ∀ j < pos, g j = f j) (atPos : g pos = x)
    (above : ∀ j, pos < j → j ≤ n → g j = f (j - 1)) :
    (List.range (n + 1)).map g = ((List.range n).map f).insertIdx pos x := by
  have fits : pos ≤ ((List.range n).map f).length := by simpa using le
  apply List.ext_getElem (by simp [List.length_insertIdx_of_le_length fits])
  intro j inMap inInsert
  rw [List.getElem_insertIdx]
  simp only [List.getElem_map, List.getElem_range]
  have bound : j ≤ n := by simpa [Nat.lt_succ_iff] using inMap
  split_ifs with early same
  · exact below j early
  · exact same ▸ atPos
  · exact above j (by omega) bound

end IndexLoops
