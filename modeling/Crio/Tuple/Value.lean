import Crio.Lib.ByteBuffer
import Crio.Lib.PartialCmp
import Crio.Lib.Utf8

/-!
Column types and values of `src/tuple/data_type.rs` and `src/tuple/value.rs`, with the byte
encoding of one value. `Float` and `Double` are Lean's `Float32` and `Float`, and `Value`
compares with `==` as the derived `PartialEq` does.
-/

namespace Crio

open ByteBuffer

inductive DataType where
  | boolean
  | tinyInt
  | smallInt
  | integer
  | bigInt
  | float
  | double
  | char (n : UInt16)
  | varChar (n : UInt16)
  | timestamp
  deriving DecidableEq, Repr

namespace DataType

def isFixedSize : DataType → Bool
  | .varChar _ => false
  | _ => true

def fixedSize : DataType → Option Nat
  | .boolean => some 1
  | .tinyInt => some 1
  | .smallInt => some 2
  | .integer => some 4
  | .bigInt => some 8
  | .float => some 4
  | .double => some 8
  | .char n => some n.toNat
  | .timestamp => some 8
  | .varChar _ => none

def typeId : DataType → UInt8
  | .boolean => 0
  | .tinyInt => 1
  | .smallInt => 2
  | .integer => 3
  | .bigInt => 4
  | .float => 5
  | .double => 6
  | .char _ => 7
  | .varChar _ => 8
  | .timestamp => 9

def serialize (dataType : DataType) : List UInt8 :=
  dataType.typeId :: match dataType with
    | .char n | .varChar n => leBytes 2 n.toNat
    | _ => []

def deserialize (data : List UInt8) : Option (DataType × Nat) :=
  match data with
  | [] => none
  | typeId :: _ =>
    match typeId with
    | 0 => some (.boolean, 1)
    | 1 => some (.tinyInt, 1)
    | 2 => some (.smallInt, 1)
    | 3 => some (.integer, 1)
    | 4 => some (.bigInt, 1)
    | 5 => some (.float, 1)
    | 6 => some (.double, 1)
    | 7 =>
      if data.length < 3 then none
      else some (.char (ofLeBytes ((data.drop 1).take 2)).toUInt16, 3)
    | 8 =>
      if data.length < 3 then none
      else some (.varChar (ofLeBytes ((data.drop 1).take 2)).toUInt16, 3)
    | 9 => some (.timestamp, 1)
    | _ => none

example : deserialize [7, 5, 1, 9] = some (.char 261, 3) := by decide

end DataType

inductive Value where
  | null
  | boolean (b : Bool)
  | tinyInt (v : Int8)
  | smallInt (v : Int16)
  | integer (v : Int32)
  | bigInt (v : Int64)
  | float (v : Float32)
  | double (v : Float)
  | string (s : String)
  | timestamp (v : Int64)
  deriving BEq, Repr

def asBytes (s : String) : List UInt8 := s.toList.flatMap String.utf8EncodeChar

theorem asBytes_eq_toUTF8 (s : String) : asBytes s = s.toUTF8.data.toList := by
  have whole : String.ofList s.toList = s := String.ofList_toList
  rw [asBytes, ← whole, String.toUTF8_eq_toByteArray, String.toByteArray_ofList,
    String.toList_ofList]
  simp [List.utf8Encode]

theorem decodeLossy_asBytes (s : String) : Utf8.decodeLossy (asBytes s) = s.toList :=
  Utf8.decodeLossy_flatMap_utf8EncodeChar s.toList

namespace Value

def inferType : Value → Option DataType
  | .null => none
  | .boolean _ => some .boolean
  | .tinyInt _ => some .tinyInt
  | .smallInt _ => some .smallInt
  | .integer _ => some .integer
  | .bigInt _ => some .bigInt
  | .float _ => some .float
  | .double _ => some .double
  | .string s => some (.varChar (asBytes s).length.toUInt16)
  | .timestamp _ => some .timestamp

def isNull : Value → Bool
  | .null => true
  | _ => false

/-- The widening coercions the source allows, or `none` for a value the type cannot hold; `Null` is
empty, the tuple layer encodes it. -/
def serialize : Value → DataType → Option (List UInt8)
  | .null, _ => some []
  | .boolean b, .boolean => some [if b then 1 else 0]
  | .tinyInt v, .tinyInt => some [v.toUInt8]
  | .smallInt v, .smallInt => some (leBytes 2 v.toUInt16.toNat)
  | .integer v, .integer => some (leBytes 4 v.toUInt32.toNat)
  | .bigInt v, .bigInt => some (leBytes 8 v.toUInt64.toNat)
  | .float v, .float => some (leBytes 4 v.toBits.toNat)
  | .double v, .double => some (leBytes 8 v.toBits.toNat)
  | .string s, .char n =>
    let bytes := asBytes s
    if bytes.length > n.toNat then none
    else some (bytes ++ List.replicate (n.toNat - bytes.length) 0x20)
  | .string s, .varChar maxLen =>
    let bytes := asBytes s
    if bytes.length > maxLen.toNat then none
    else some (leBytes 2 bytes.length.toUInt16.toNat ++ bytes)
  | .timestamp v, .timestamp => some (leBytes 8 v.toUInt64.toNat)
  | .tinyInt v, .smallInt => some (leBytes 2 v.toInt16.toUInt16.toNat)
  | .tinyInt v, .integer => some (leBytes 4 v.toInt32.toUInt32.toNat)
  | .tinyInt v, .bigInt => some (leBytes 8 v.toInt64.toUInt64.toNat)
  | .smallInt v, .integer => some (leBytes 4 v.toInt32.toUInt32.toNat)
  | .smallInt v, .bigInt => some (leBytes 8 v.toInt64.toUInt64.toNat)
  | .integer v, .bigInt => some (leBytes 8 v.toInt64.toUInt64.toNat)
  | .float v, .double => some (leBytes 8 v.toFloat.toBits.toNat)
  | _, _ => none

def deserialize (data : List UInt8) : DataType → Option (Value × Nat)
  | .boolean =>
    match data with
    | b :: _ => some (.boolean (b != 0), 1)
    | [] => none
  | .tinyInt =>
    match data with
    | b :: _ => some (.tinyInt b.toInt8, 1)
    | [] => none
  | .smallInt =>
    if data.length < 2 then none
    else some (.smallInt (ofLeBytes (data.take 2)).toUInt16.toInt16, 2)
  | .integer =>
    if data.length < 4 then none
    else some (.integer (ofLeBytes (data.take 4)).toUInt32.toInt32, 4)
  | .bigInt =>
    if data.length < 8 then none
    else some (.bigInt (ofLeBytes (data.take 8)).toUInt64.toInt64, 8)
  | .float =>
    if data.length < 4 then none
    else some (.float (Float32.ofBits (ofLeBytes (data.take 4)).toUInt32), 4)
  | .double =>
    if data.length < 8 then none
    else some (.double (Float.ofBits (ofLeBytes (data.take 8)).toUInt64), 8)
  | .char n =>
    if data.length < n.toNat then none
    else
      let text := Utf8.trimEnd (Utf8.decodeLossy (data.take n.toNat))
      some (.string (String.ofList text), n.toNat)
  | .varChar _ =>
    if data.length < 2 then none
    else
      let len := ofLeBytes (data.take 2)
      if data.length < 2 + len then none
      else some (.string (String.ofList (Utf8.decodeLossy ((data.drop 2).take len))), 2 + len)
  | .timestamp =>
    if data.length < 8 then none
    else some (.timestamp (ofLeBytes (data.take 8)).toUInt64.toInt64, 8)

def cast : Value → DataType → Option Value
  | .null, _ => some .null
  | .tinyInt v, .smallInt => some (.smallInt v.toInt16)
  | .tinyInt v, .integer => some (.integer v.toInt32)
  | .tinyInt v, .bigInt => some (.bigInt v.toInt64)
  | .smallInt v, .integer => some (.integer v.toInt32)
  | .smallInt v, .bigInt => some (.bigInt v.toInt64)
  | .integer v, .bigInt => some (.bigInt v.toInt64)
  | .float v, .double => some (.double v.toFloat)
  | .tinyInt v, .float => some (.float v.toFloat32)
  | .tinyInt v, .double => some (.double v.toFloat)
  | .smallInt v, .float => some (.float v.toFloat32)
  | .smallInt v, .double => some (.double v.toFloat)
  | .integer v, .float => some (.float v.toFloat32)
  | .integer v, .double => some (.double v.toFloat)
  | .bigInt v, .float => some (.float v.toFloat32)
  | .bigInt v, .double => some (.double v.toFloat)
  | .string s, .char n => if (asBytes s).length ≤ n.toNat then some (.string s) else none
  | .string s, .varChar n => if (asBytes s).length ≤ n.toNat then some (.string s) else none
  | v, dt => if v.inferType = some dt then some v else none

/-- Integers of two widths compare after sign extension, `Float` against `Double` after widening,
strings by their bytes. -/
def compare : Value → Value → Option Ordering
  | .null, .null => some .eq
  | .null, _ => none
  | _, .null => none
  | .boolean a, .boolean b => some (Ord.compare a b)
  | .tinyInt a, .tinyInt b => some (Ord.compare a b)
  | .smallInt a, .smallInt b => some (Ord.compare a b)
  | .integer a, .integer b => some (Ord.compare a b)
  | .bigInt a, .bigInt b => some (Ord.compare a b)
  | .float a, .float b => PartialCmp.ofLE a b
  | .double a, .double b => PartialCmp.ofLE a b
  | .string a, .string b => some (Ord.compare (asBytes a) (asBytes b))
  | .timestamp a, .timestamp b => some (Ord.compare a b)
  | .tinyInt a, .smallInt b => some (Ord.compare a.toInt16 b)
  | .smallInt a, .tinyInt b => some (Ord.compare a b.toInt16)
  | .tinyInt a, .integer b => some (Ord.compare a.toInt32 b)
  | .integer a, .tinyInt b => some (Ord.compare a b.toInt32)
  | .tinyInt a, .bigInt b => some (Ord.compare a.toInt64 b)
  | .bigInt a, .tinyInt b => some (Ord.compare a b.toInt64)
  | .smallInt a, .integer b => some (Ord.compare a.toInt32 b)
  | .integer a, .smallInt b => some (Ord.compare a b.toInt32)
  | .smallInt a, .bigInt b => some (Ord.compare a.toInt64 b)
  | .bigInt a, .smallInt b => some (Ord.compare a b.toInt64)
  | .integer a, .bigInt b => some (Ord.compare a.toInt64 b)
  | .bigInt a, .integer b => some (Ord.compare a b.toInt64)
  | .float a, .double b => PartialCmp.ofLE a.toFloat b
  | .double a, .float b => PartialCmp.ofLE a b.toFloat
  | _, _ => none

end Value

end Crio
