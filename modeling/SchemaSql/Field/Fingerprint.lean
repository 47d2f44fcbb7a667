import SchemaSql.Field.Basic
import SchemaSql.Sha256

/-!
# The fingerprint of a table

A hash over the name of a table and everything that its fields say. The fields are hashed in the order of
their names, so that the order in which they are declared does not matter. Every value stands behind its
length, so that no two lists of values run together to the same bytes.
-/

namespace SchemaSql.Fingerprint

/-- A value behind its length in four bytes. -/
def frame (bytes : List UInt8) : List UInt8 :=
  Sha256.bigEndian 4 (min bytes.length 4294967295) ++ bytes

/-- The UTF-8 bytes of a string in a frame. -/
def frameText (s : String) : List UInt8 :=
  frame s.toUTF8.toList

/-- A truth value as a byte. -/
def flag (b : Bool) : UInt8 :=
  if b then 1 else 0

/-- The column that a foreign key refers to, as one text. -/
def targetText (k : ForeignKey) : String :=
  k.table ++ "." ++ k.column

/-- The frames of a field. What is not there has an empty frame. -/
def fieldFrames (f : Field) : List UInt8 :=
  frameText f.name ++ frameText f.column ++ frameText f.type.name ++
    frame [flag f.primaryKey, flag f.notNull, flag f.unique, flag f.indexed, flag f.embedded] ++
    frameText (f.sqlType.getD "") ++ frameText (f.default.getD "") ++
    frameText ((f.foreignKey.map targetText).getD "")

/-- Fields in the order of their names; fields of one name keep their order. -/
def byName (fs : List Field) : List Field :=
  fs.mergeSort fun a b => decide (a.name ≤ b.name)

/-- **The bytes that are hashed** for a table. -/
def content (table : String) (fs : List Field) : List UInt8 :=
  frameText table ++ (byName fs).flatMap fieldFrames

/-- **The fingerprint of a table.** -/
def of (table : String) (fs : List Field) : String :=
  Sha256.hex (Sha256.digest (content table fs))

end SchemaSql.Fingerprint
