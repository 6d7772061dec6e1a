import Crio.Tuple.ColumnLookup

/-!
`TupleBuilder` of `src/tuple/tuple.rs`. What the calls write is said without the cursor by
`writes`.
-/

namespace Crio

structure TupleBuilder where
  schema : Schema
  values : List Value
  currentIndex : Nat

namespace TupleBuilder

def new (schema : Schema) : TupleBuilder :=
  ⟨schema, List.replicate schema.columnCount .null, 0⟩

def value (b : TupleBuilder) (v : Value) : TupleBuilder :=
  if b.currentIndex < b.values.length then
    { b with values := b.values.set b.currentIndex v, currentIndex := b.currentIndex + 1 }
  else b

def null (b : TupleBuilder) : TupleBuilder := b.value .null

/-- `set`: written at the column of the name, if there is one; `values[index]` panics past the
values. -/
def set (b : TupleBuilder) (name : String) (v : Value) : Option TupleBuilder :=
  match b.schema.columnIndex name with
  | none => some b
  | some index =>
    if index < b.values.length then some { b with values := b.values.set index v } else none

def setNull (b : TupleBuilder) (name : String) : Option TupleBuilder := b.set name .null

def build (b : TupleBuilder) : Option Tuple := Tuple.new b.schema b.values

inductive Call where
  | value (v : Value)
  | null
  | set (name : String) (v : Value)
  | setNull (name : String)

/-- One call; `none` is a panic. -/
def step (b : TupleBuilder) : Call → Option TupleBuilder
  | .value v => some (b.value v)
  | .null => some b.null
  | .set name v => b.set name v
  | .setNull name => b.setNull name

def run (b : TupleBuilder) (calls : List Call) : Option TupleBuilder := calls.foldlM step b

def writes (schema : Schema) : Nat → List Call → List (Nat × Value)
  | _, [] => []
  | k, .value v :: rest => (k, v) :: writes schema (k + 1) rest
  | k, .null :: rest => (k, .null) :: writes schema (k + 1) rest
  | k, .set name v :: rest =>
    ((schema.columnIndex name).map fun index => (index, v)).toList ++ writes schema k rest
  | k, .setNull name :: rest =>
    ((schema.columnIndex name).map fun index => (index, .null)).toList ++ writes schema k rest

def cellValue (cells : Nat → Option Value) (j : Nat) : Value := (cells j).getD .null

def record (cells : Nat → Option Value) (w : Nat × Value) : Nat → Option Value :=
  Function.update cells w.1 (some w.2)

section Run

variable {schema : Schema}

structure Holds (schema : Schema) (cells : Nat → Option Value) (k : Nat) (b : TupleBuilder) :
    Prop where
  schema_eq : b.schema = schema
  values_eq : b.values = (List.range schema.columnCount).map (cellValue cells)
  cursor : b.currentIndex = min k schema.columnCount

theorem holds_new (schema : Schema) : Holds schema (fun _ => none) 0 (new schema) where
  schema_eq := rfl
  values_eq := by
    have nulls : (List.range schema.columnCount).map (cellValue fun _ => none) =
        (List.range schema.columnCount).map fun _ => Value.null := rfl
    rw [nulls, List.map_const', List.length_range]
    rfl
  cursor := by simp [new]

theorem length_values {cells : Nat → Option Value} {k : Nat} {b : TupleBuilder}
    (holds : Holds schema cells k b) : b.values.length = schema.columnCount := by
  simp [holds.values_eq]

theorem set_map_range (cells : Nat → Option Value) (i : Nat) (v : Value) (n : Nat) :
    ((List.range n).map (cellValue cells)).set i v =
      (List.range n).map (cellValue (record cells (i, v))) := by
  apply List.ext_getElem (by simp)
  intro j inSet _
  have inside : j < n := by simpa using inSet
  rw [List.getElem_set]
  by_cases same : i = j
  · subst same
    simp [cellValue, record]
  · simp [same, cellValue, record, Function.update_of_ne (Ne.symm same)]

theorem map_range_record_of_le (cells : Nat → Option Value) {i : Nat} (v : Value) {n : Nat}
    (past : n ≤ i) :
    (List.range n).map (cellValue (record cells (i, v))) = (List.range n).map (cellValue cells) := by
  apply List.map_congr_left
  intro j member
  have differ : j ≠ i := by
    have := List.mem_range.mp member
    omega
  simp [cellValue, record, Function.update_of_ne differ]

theorem Holds.value {cells : Nat → Option Value} {k : Nat} {b : TupleBuilder}
    (holds : Holds schema cells k b) (v : Value) :
    Holds schema (record cells (k, v)) (k + 1) (b.value v) := by
  unfold TupleBuilder.value
  by_cases inside : b.currentIndex < b.values.length
  · have atK : b.currentIndex = k := by
      rw [length_values holds, holds.cursor] at inside
      rw [holds.cursor]
      omega
    rw [if_pos inside]
    refine ⟨holds.schema_eq, ?_, ?_⟩
    · rw [holds.values_eq, atK, set_map_range]
    · dsimp only
      rw [length_values holds, holds.cursor] at inside
      omega
  · have past : schema.columnCount ≤ k := by
      rw [length_values holds, holds.cursor] at inside
      omega
    rw [if_neg inside]
    refine ⟨holds.schema_eq, ?_, ?_⟩
    · rw [holds.values_eq, map_range_record_of_le cells v past]
    · rw [holds.cursor]
      omega

theorem Holds.set {cells : Nat → Option Value} {k : Nat} {b : TupleBuilder}
    (holds : Holds schema cells k b) (name : String) (v : Value) :
    ∃ b', b.set name v = some b' ∧
      Holds schema (((schema.columnIndex name).map fun index => (index, v)).toList.foldl record
        cells) k b' := by
  unfold TupleBuilder.set
  rw [holds.schema_eq]
  cases indexed : schema.columnIndex name with
  | none => exact ⟨b, rfl, holds⟩
  | some index =>
    obtain ⟨⟨col, atCol, _⟩, _⟩ := Schema.columnIndex_eq_some_iff.mp indexed
    have inside : index < b.values.length := by
      rw [length_values holds]
      exact (List.getElem?_eq_some_iff.mp atCol).1
    refine ⟨_, if_pos inside, rfl, ?_, holds.cursor⟩
    rw [holds.values_eq, set_map_range]
    rfl

theorem Holds.run {cells : Nat → Option Value} {k : Nat} {b : TupleBuilder}
    (holds : Holds schema cells k b) (calls : List Call) :
    ∃ b', b.run calls = some b' ∧
      Holds schema ((writes schema k calls).foldl record cells) (k + (calls.filter fun call =>
        match call with
        | .value _ => true
        | .null => true
        | _ => false).length) b' := by
  induction calls generalizing cells k b with
  | nil => exact ⟨b, rfl, by simpa [writes] using holds⟩
  | cons call rest ih =>
    cases call with
    | value v =>
      obtain ⟨b', ran, holds'⟩ := ih (holds.value v)
      refine ⟨b', ran, ?_⟩
      simpa [writes, Nat.add_assoc, Nat.add_comm 1] using holds'
    | null =>
      obtain ⟨b', ran, holds'⟩ := ih (holds.value .null)
      refine ⟨b', ran, ?_⟩
      simpa [writes, Nat.add_assoc, Nat.add_comm 1] using holds'
    | set name v =>
      obtain ⟨b₁, setDone, holds₁⟩ := holds.set name v
      obtain ⟨b', ran, holds'⟩ := ih holds₁
      refine ⟨b', ?_, ?_⟩
      · rw [TupleBuilder.run, List.foldlM_cons]
        simp only [step, setDone, Option.bind_eq_bind, Option.bind_some]
        exact ran
      · simpa [writes, List.foldl_append] using holds'
    | setNull name =>
      obtain ⟨b₁, setDone, holds₁⟩ := holds.set name .null
      obtain ⟨b', ran, holds'⟩ := ih holds₁
      refine ⟨b', ?_, ?_⟩
      · rw [TupleBuilder.run, List.foldlM_cons]
        simp only [step, setNull, setDone, Option.bind_eq_bind, Option.bind_some]
        exact ran
      · simpa [writes, List.foldl_append] using holds'

/-- No call of a `TupleBuilder` panics, and the tuple built holds each column's last value, or
`NULL`. -/
theorem build_run (schema : Schema) (calls : List Call) :
    ((new schema).run calls).bind build =
      some ⟨schema, (List.range schema.columnCount).map fun j =>
        ((KeyedList.find Prod.fst (writes schema 0 calls).reverse j).map Prod.snd).getD .null⟩ := by
  obtain ⟨b, ran, holds⟩ := (holds_new schema).run calls
  have counted : b.values.length = b.schema.columnCount := by
    rw [length_values holds, holds.schema_eq]
  rw [ran, Option.bind_some, build, Tuple.new, if_pos counted, holds.values_eq, holds.schema_eq]
  congr 2
  apply List.map_congr_left
  intro j _
  have unfolded : (writes schema 0 calls).foldl record (fun _ => none) =
      (writes schema 0 calls).foldl
        (fun (m : Nat → Option Value) (w : Nat × Value) => Function.update m w.1 (some w.2))
        fun _ => none :=
    rfl
  rw [cellValue, unfolded, KeyedList.foldl_update_apply Prod.snd, Option.or_none]

end Run

end TupleBuilder

end Crio
