import Crio.Tuple.TupleCodec

/-!
The size bounds `min_tuple_size` and `max_tuple_size` of `src/tuple/schema.rs` against what
`to_bytes` writes.
-/

namespace Crio

open ByteBuffer

namespace DataType

def maxSize : DataType → Nat
  | .boolean => 1
  | .tinyInt => 1
  | .smallInt => 2
  | .integer => 4
  | .bigInt => 8
  | .float => 4
  | .double => 8
  | .char n => n.toNat
  | .timestamp => 8
  | .varChar n => 2 + n.toNat

theorem fixedSize_of_isFixedSize {dataType : DataType} (fixed : dataType.isFixedSize = true) :
    dataType.fixedSize = some dataType.maxSize := by
  cases dataType <;> simp_all [isFixedSize, fixedSize, maxSize]

theorem isNone_fixedSize (dataType : DataType) :
    dataType.fixedSize.isNone = !dataType.isFixedSize := by
  cases dataType <;> rfl

end DataType

def Column.maxSize (col : Column) : Nat := col.dataType.maxSize

namespace Schema

def minTupleSize (schema : Schema) : Nat := schema.nullBitmapSize + schema.fixedSize

def maxTupleSize (schema : Schema) : Nat :=
  schema.nullBitmapSize + (schema.columns.map Column.maxSize).sum

theorem filterMap_fixedSize (columns : List Column) :
    columns.filterMap (fun col => col.dataType.fixedSize) =
      (columns.filter fun col => col.dataType.isFixedSize).map Column.maxSize := by
  induction columns with
  | nil => rfl
  | cons col rest ih =>
    cases fixed : col.dataType.isFixedSize
    · have none : col.dataType.fixedSize = none := by
        simpa [fixed] using col.dataType.isNone_fixedSize
      simp [none, fixed, ih]
    · simp [DataType.fixedSize_of_isFixedSize fixed, fixed, ih, Column.maxSize]

theorem fixedSize_new (columns : List Column) :
    (new columns).fixedSize =
      (((new columns).columns.filter fun col => col.dataType.isFixedSize).map Column.maxSize).sum := by
  rw [← filterMap_fixedSize]
  rfl

theorem variableCount_new (columns : List Column) :
    (new columns).variableCount =
      ((new columns).columns.filter fun col => !col.dataType.isFixedSize).length := by
  simp only [new, DataType.isNone_fixedSize]

theorem sum_maxSize_split (columns : List Column) :
    (columns.map Column.maxSize).sum =
      ((columns.filter fun col => col.dataType.isFixedSize).map Column.maxSize).sum +
        ((columns.filter fun col => !col.dataType.isFixedSize).map Column.maxSize).sum := by
  rw [← List.sum_append, ← List.map_append]
  exact ((List.filter_append_perm _ columns).map Column.maxSize).sum_eq.symm

end Schema

namespace Value

theorem length_serialize_fixed {value : Value} {dataType : DataType} {bytes : List UInt8}
    (fixed : dataType.isFixedSize = true) (present : value.isNull = false)
    (encoded : value.serialize dataType = some bytes) : bytes.length = dataType.maxSize := by
  cases value <;> cases dataType <;>
    simp only [serialize, DataType.isFixedSize, isNull, Option.some.injEq,
      reduceCtorEq] at fixed present encoded
  case string.char s n =>
    split_ifs at encoded with tooLong
    cases encoded
    simp only [List.length_append, List.length_replicate, DataType.maxSize]
    omega
  all_goals
    subst encoded
    simp [DataType.maxSize]

theorem length_serialize_varChar {value : Value} {n : UInt16} {bytes : List UInt8}
    (present : value.isNull = false) (encoded : value.serialize (.varChar n) = some bytes) :
    2 ≤ bytes.length ∧ bytes.length ≤ 2 + n.toNat := by
  cases value <;> simp only [serialize, isNull, reduceCtorEq] at encoded present
  case string s =>
    split_ifs at encoded with tooLong
    cases encoded
    simp only [List.length_append, length_leBytes]
    omega

end Value

namespace Tuple

section Columns

variable {column : Column} {value : Value} {bytes : List UInt8}

theorem length_serializeColumn_fixed (fixed : column.dataType.isFixedSize = true)
    (encoded : serializeColumn (fun dataType => List.replicate (dataType.fixedSize.getD 0) 0)
      column value = some bytes) :
    bytes.length = column.maxSize := by
  unfold serializeColumn at encoded
  by_cases null : value.isNull = true
  · rw [if_pos null, Option.some.injEq] at encoded
    subst encoded
    simp [DataType.fixedSize_of_isFixedSize fixed, Column.maxSize]
  · rw [if_neg null] at encoded
    exact Value.length_serialize_fixed fixed (Bool.eq_false_iff.mpr null) encoded

theorem length_serializeColumn_variable (varying : column.dataType.isFixedSize = false)
    (encoded : serializeColumn (fun _ => leBytes 2 0) column value = some bytes) :
    2 ≤ bytes.length ∧ bytes.length ≤ column.maxSize := by
  obtain ⟨name, dataType, nullable, ordinal⟩ := column
  cases dataType <;> simp only [DataType.isFixedSize, reduceCtorEq] at varying
  case varChar n =>
    unfold serializeColumn at encoded
    by_cases null : value.isNull = true
    · rw [if_pos null, Option.some.injEq] at encoded
      subst encoded
      simp [Column.maxSize, DataType.maxSize]
    · rw [if_neg null] at encoded
      exact Value.length_serialize_varChar (Bool.eq_false_iff.mpr null) encoded

end Columns

theorem map_fst_filter_zip {columns : List Column} {values : List Value}
    (covered : columns.length ≤ values.length) (test : Column → Bool) :
    ((columns.zip values).filter fun pair => test pair.1).map Prod.fst = columns.filter test := by
  conv_rhs => rw [← List.map_fst_zip covered]
  rw [List.filter_map]
  rfl

/-- Every tuple `to_bytes` encodes is at least `min_tuple_size` plus two bytes per variable-size
column long, and at most `max_tuple_size`. -/
theorem toBytes_length_bounds {t : Tuple} {columns : List Column} {bytes : List UInt8}
    (built : t.schema = Schema.new columns) (sized : t.values.length = t.schema.columnCount)
    (encoded : t.toBytes = some bytes) :
    t.schema.minTupleSize + 2 * t.schema.variableCount ≤ bytes.length ∧
      bytes.length ≤ t.schema.maxTupleSize := by
  simp only [toBytes, serializeValues, Option.bind_eq_bind, Option.bind_eq_some_iff,
    Option.pure_def, Option.some.injEq] at encoded
  obtain ⟨fixedBytes, fixedRan, variableBytes, variableRan, rfl⟩ := encoded
  have covered : t.schema.columns.length ≤ t.values.length := by rw [sized]; rfl
  have fixedColumns := map_fst_filter_zip covered fun col => col.dataType.isFixedSize
  have variableColumns := map_fst_filter_zip covered fun col => !col.dataType.isFixedSize
  have fixedPairs := IndexLoops.forall₂_of_mapM_eq_some fixedRan
  have variablePairs := IndexLoops.forall₂_of_mapM_eq_some variableRan
  have fixedLow : t.schema.fixedSize ≤ (fixedBytes.map List.length).sum := by
    rw [built, Schema.fixedSize_new, ← built, ← fixedColumns, List.map_map]
    refine IndexLoops.sum_map_le_of_forall₂ fixedPairs fun pair inPairs b _ serialized => ?_
    exact Nat.le_of_eq (length_serializeColumn_fixed (List.mem_filter.mp inPairs).2 serialized).symm
  have fixedHigh : (fixedBytes.map List.length).sum ≤
      ((t.schema.columns.filter fun col => col.dataType.isFixedSize).map Column.maxSize).sum := by
    rw [← fixedColumns, List.map_map]
    refine IndexLoops.sum_map_le_of_forall₂ fixedPairs.flip fun b _ pair inPairs serialized => ?_
    exact Nat.le_of_eq (length_serializeColumn_fixed (List.mem_filter.mp inPairs).2 serialized)
  have variableLow : 2 * t.schema.variableCount ≤ (variableBytes.map List.length).sum := by
    have counted : 2 * t.schema.variableCount =
        (((t.schema.columns.zip t.values).filter
          fun pair => !pair.1.dataType.isFixedSize).map fun _ => 2).sum := by
      rw [List.map_const', List.sum_replicate, smul_eq_mul, Nat.mul_comm, built,
        Schema.variableCount_new, ← built, ← variableColumns, List.length_map]
    rw [counted]
    refine IndexLoops.sum_map_le_of_forall₂ variablePairs fun pair inPairs b _ serialized => ?_
    have varying : pair.1.dataType.isFixedSize = false := by
      simpa using List.of_mem_filter inPairs
    exact (length_serializeColumn_variable varying serialized).1
  have variableHigh : (variableBytes.map List.length).sum ≤
      ((t.schema.columns.filter fun col => !col.dataType.isFixedSize).map Column.maxSize).sum := by
    rw [← variableColumns, List.map_map]
    refine IndexLoops.sum_map_le_of_forall₂ variablePairs.flip fun b _ pair inPairs serialized => ?_
    have varying : pair.1.dataType.isFixedSize = false := by
      simpa using List.of_mem_filter inPairs
    exact (length_serializeColumn_variable varying serialized).2
  have bitmap := length_computeNullBitmap t
  have split := Schema.sum_maxSize_split t.schema.columns
  simp only [List.length_append, List.length_flatten, Schema.minTupleSize, Schema.maxTupleSize]
  omega

theorem toBytes_length_bounds_mixedRow :
    mixedRow.schema.minTupleSize + 2 * mixedRow.schema.variableCount ≤ 10 ∧
      10 ≤ mixedRow.schema.maxTupleSize :=
  toBytes_length_bounds rfl (by decide)
    (show mixedRow.toBytes = some [2, 7, 0, 0, 0, 0x61, 0x62, 0x20, 0, 0] from rfl)

end Tuple

end Crio
