import Crio.Tuple.Schema

/-!
Tuples of `src/tuple/tuple.rs` and their byte format. `from_bytes` returns
`Option (Option Tuple)`: the outer `none` is the panic of `&data[offset..]`, the inner one the
source's `None`.
-/

namespace Crio

open ByteBuffer

structure Tuple where
  schema : Schema
  values : List Value

namespace Tuple

/-- `Tuple::new`: panics unless there is one value per column. -/
def new (schema : Schema) (values : List Value) : Option Tuple :=
  if values.length = schema.columnCount then some ⟨schema, values⟩ else none

def computeNullBitmap (t : Tuple) : List UInt8 :=
  t.values.zipIdx.foldl
    (fun bitmap entry =>
      if entry.1.isNull then bitmap.modify (entry.2 / 8) (· ||| 1 <<< (entry.2 % 8).toUInt8)
      else bitmap)
    (List.replicate t.schema.nullBitmapSize 0)

def serializeColumn (nullFiller : DataType → List UInt8) (column : Column) (value : Value) :
    Option (List UInt8) :=
  if value.isNull then some (nullFiller column.dataType) else value.serialize column.dataType

def serializeValues (t : Tuple) : Option (List UInt8) := do
  let pairs := t.schema.columns.zip t.values
  let fixedBytes ← (pairs.filter fun pair => pair.1.dataType.isFixedSize).mapM fun pair =>
    serializeColumn (fun dataType => List.replicate (dataType.fixedSize.getD 0) 0) pair.1 pair.2
  let variableBytes ← (pairs.filter fun pair => !pair.1.dataType.isFixedSize).mapM fun pair =>
    serializeColumn (fun _ => leBytes 2 0) pair.1 pair.2
  pure (t.computeNullBitmap ++ fixedBytes.flatten ++ variableBytes.flatten)

def toBytes (t : Tuple) : Option (List UInt8) := t.serializeValues

/-- `&data[offset..]`: panics past the end. -/
def sliceFrom (data : List UInt8) (offset : Nat) : Option (List UInt8) :=
  if offset ≤ data.length then some (data.drop offset) else none

def isNullAt (nullBitmap : List UInt8) (i : Nat) : Bool :=
  nullBitmap.getD (i / 8) 0 &&& 1 <<< (i % 8).toUInt8 != 0

def consValue (i : Nat) (value : Value) :
    Option (List (Nat × Value) × Nat) → Option (List (Nat × Value) × Nat) :=
  Option.map fun read => ((i, value) :: read.1, read.2)

def readFixed (data nullBitmap : List UInt8) :
    List (Nat × Column) → Nat → Option (Option (List (Nat × Value) × Nat))
  | [], offset => some (some ([], offset))
  | (i, column) :: rest, offset =>
    if column.dataType.isFixedSize then
      if isNullAt nullBitmap i then
        (readFixed data nullBitmap rest (offset + column.dataType.fixedSize.getD 0)).map
          (consValue i .null)
      else do
        let tail ← sliceFrom data offset
        match Value.deserialize tail column.dataType with
        | none => pure none
        | some (value, size) =>
          (readFixed data nullBitmap rest (offset + size)).map (consValue i value)
    else readFixed data nullBitmap rest offset

def readVariable (data nullBitmap : List UInt8) :
    List (Nat × Column) → Nat → Option (Option (List (Nat × Value) × Nat))
  | [], offset => some (some ([], offset))
  | (i, column) :: rest, offset =>
    if !column.dataType.isFixedSize then
      if isNullAt nullBitmap i then
        if data.length < offset + 2 then some none
        else if ofLeBytes ((data.drop offset).take 2) ≠ 0 then some none
        else (readVariable data nullBitmap rest (offset + 2)).map (consValue i .null)
      else do
        let tail ← sliceFrom data offset
        match Value.deserialize tail column.dataType with
        | none => pure none
        | some (value, size) =>
          (readVariable data nullBitmap rest (offset + size)).map (consValue i value)
    else readVariable data nullBitmap rest offset

def deserializeValues (schema : Schema) (data : List UInt8) : Option (Option (List Value)) := do
  let nullBitmapSize := schema.nullBitmapSize
  if data.length < nullBitmapSize then return none
  let nullBitmap := data.take nullBitmapSize
  let indexed := schema.columns.zipIdx.map fun entry => (entry.2, entry.1)
  match ← readFixed data nullBitmap indexed nullBitmapSize with
  | none => pure none
  | some (fixedValues, offset) =>
    match ← readVariable data nullBitmap indexed offset with
    | none => pure none
    | some (variableValues, _) =>
      let merged := (fixedValues ++ variableValues).mergeSort fun a b => a.1 ≤ b.1
      pure (some (merged.map Prod.snd))

def fromBytes (schema : Schema) (data : List UInt8) : Option (Option Tuple) :=
  (deserializeValues schema data).map (Option.map fun values => ⟨schema, values⟩)

/-- Reading a `CHAR` column back drops a trailing newline of the value, not only the padding. -/
theorem charColumn_trims_newline :
    Tuple.new (Schema.new [Column.new "c" (.char 2) false]) [.string "a\n"] =
        some ⟨Schema.new [Column.new "c" (.char 2) false], [.string "a\n"]⟩ ∧
      (⟨Schema.new [Column.new "c" (.char 2) false], [.string "a\n"]⟩ : Tuple).toBytes =
        some [0, 0x61, 0x0A] ∧
      Tuple.fromBytes (Schema.new [Column.new "c" (.char 2) false]) [0, 0x61, 0x0A] =
        some (some ⟨Schema.new [Column.new "c" (.char 2) false], [.string "a"]⟩) ∧
      (Value.string "a\n").cast (.char 2) = some (.string "a\n") := by
  have decoded : Utf8.decodeLossy [0x61, 0x0A] = ['a', '\n'] := by
    rw [Utf8.decodeLossy_ascii (by decide +kernel)]
    rfl
  have trimmed : String.ofList (Utf8.trimEnd ['a', '\n']) = "a" := by decide +kernel
  refine ⟨rfl, by decide, ?_, rfl⟩
  simp [fromBytes, deserializeValues, Schema.new, readFixed, readVariable, isNullAt, sliceFrom,
    Value.deserialize, DataType.isFixedSize, consValue, Column.new, decoded, trimmed]

/-- A null `INTEGER` column moves the offset past the end unchecked, and the next column panics. -/
theorem fromBytes_panics_after_null :
    Tuple.fromBytes (Schema.new [Column.new "a" .integer true, Column.new "b" .integer false]) [1] =
      none :=
  rfl

end Tuple

end Crio
