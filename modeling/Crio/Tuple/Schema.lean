import Crio.Tuple.Value

/-!
Columns and schemas of `src/tuple/schema.rs`, with the catalog encoding. The name index is
modelled in `ColumnLookup`.
-/

namespace Crio

open ByteBuffer

structure Column where
  name : String
  dataType : DataType
  nullable : Bool
  ordinal : Nat
  deriving Repr

def Column.new (name : String) (dataType : DataType) (nullable : Bool) : Column :=
  ⟨name, dataType, nullable, 0⟩

namespace Column

def serialize (col : Column) : List UInt8 :=
  let nameBytes := asBytes col.name
  leBytes 2 nameBytes.length.toUInt16.toNat ++ nameBytes ++ col.dataType.serialize ++
    [if col.nullable then 1 else 0]

def deserialize (data : List UInt8) : Option (Column × Nat) :=
  if data.length < 2 then none
  else
    let nameLen := ofLeBytes (data.take 2)
    let offset := 2
    if data.length < offset + nameLen then none
    else
      let name := String.ofList (Utf8.decodeLossy ((data.drop offset).take nameLen))
      let offset := offset + nameLen
      match DataType.deserialize (data.drop offset) with
      | none => none
      | some (dataType, dtSize) =>
        let offset := offset + dtSize
        if data.length < offset + 1 then none
        else some (⟨name, dataType, data.getD offset 0 != 0, 0⟩, offset + 1)

end Column

/-- `Schema`, without `name_to_index`. Every schema comes from `Schema::new`, so its null
bitmap has a bit for each column. -/
structure Schema where
  columns : List Column
  fixedSize : Nat
  variableCount : Nat
  nullBitmapSize : Nat
  nullBitmapSize_eq : nullBitmapSize = (columns.length + 7) / 8

namespace Schema

def new (columns : List Column) : Schema :=
  let numbered := columns.mapIdx fun i col => { col with ordinal := i }
  { columns := numbered
    fixedSize := (numbered.filterMap fun col => col.dataType.fixedSize).sum
    variableCount := (numbered.filter fun col => col.dataType.fixedSize.isNone).length
    nullBitmapSize := (columns.length + 7) / 8
    nullBitmapSize_eq := by simp [numbered] }

def columnCount (schema : Schema) : Nat := schema.columns.length

@[simp] theorem columnCount_new (columns : List Column) :
    (new columns).columnCount = columns.length := by
  simp [new, columnCount]

def serialize (schema : Schema) : List UInt8 :=
  leBytes 2 schema.columns.length.toUInt16.toNat ++ schema.columns.flatMap Column.serialize

/-- `Column::deserialize` never takes more bytes than it is given, so `&data[offset..]` is
`data.drop offset`. -/
def deserializeColumns (data : List UInt8) : Nat → Nat → Option (List Column)
  | 0, _ => some []
  | count + 1, offset =>
    match Column.deserialize (data.drop offset) with
    | none => none
    | some (col, colSize) => (deserializeColumns data count (offset + colSize)).map (col :: ·)

def deserialize (data : List UInt8) : Option Schema :=
  if data.length < 2 then none
  else (deserializeColumns data (ofLeBytes (data.take 2)) 2).map Schema.new

end Schema

structure SchemaBuilder where
  columns : List Column

namespace SchemaBuilder

def new : SchemaBuilder := ⟨[]⟩

def addColumn (builder : SchemaBuilder) (name : String) (dataType : DataType) (nullable : Bool) :
    SchemaBuilder :=
  ⟨builder.columns ++ [Column.new name dataType nullable]⟩

def column (builder : SchemaBuilder) (name : String) (dataType : DataType) : SchemaBuilder :=
  builder.addColumn name dataType false

def nullableColumn (builder : SchemaBuilder) (name : String) (dataType : DataType) :
    SchemaBuilder :=
  builder.addColumn name dataType true

def build (builder : SchemaBuilder) : Schema := Schema.new builder.columns

end SchemaBuilder

end Crio
