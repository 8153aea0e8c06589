import SecondaryIndex.Error

namespace SecondaryIndex

/-!
# Where records and index entries live

All records of a type share a lead made of the record namespace, the type name
and a delimiter.  All entries of an index share a lead made of the index
namespace, the type name and the index name, each followed by a delimiter.  The
delimiter after the last name keeps the lead of one name from being the lead of
a longer name, so names must not contain it.
-/

/-- The byte `:` that ends a name in a key. -/
def delimiter :
    UInt8 :=
  0x3A

/-- The namespaces of a layout and the number of candidates fetched at a time. -/
structure LayoutOptions where
  indexNamespace : String
  recordNamespace : String
  batchSize : Nat
  deriving Repr, DecidableEq

namespace LayoutOptions

/-- The options used where nothing else is asked for. -/
def standard :
    LayoutOptions where
  indexNamespace :=
    "_khIndex"
  recordNamespace :=
    "kh_"
  batchSize :=
    100

/-- Fetch another number of candidates at a time; none at a time would be no progress. -/
def withBatchSize
    (batchSize : Nat)
    (options : LayoutOptions) :
    LayoutOptions :=
  { options with batchSize := max batchSize 1 }

end LayoutOptions

/-- The namespaces, as bytes, under which records and index entries are stored. -/
structure KeyLayout where
  indexNamespace : Bytes
  recordNamespace : Bytes
  batchSize : Nat
  deriving Repr, DecidableEq

namespace KeyLayout

/-- The layout of the standard options. -/
def standard :
    KeyLayout where
  indexNamespace :=
    Bytes.ofText LayoutOptions.standard.indexNamespace
  recordNamespace :=
    Bytes.ofText LayoutOptions.standard.recordNamespace
  batchSize :=
    LayoutOptions.standard.batchSize

/--
The layout of some options.  Namespaces of which one begins with the other are
refused, because a record could then lie among index entries.
-/
def ofOptions
    (options : LayoutOptions) :
    Except IndexError KeyLayout :=
  let entries := Bytes.ofText options.indexNamespace
  let records := Bytes.ofText options.recordNamespace
  if entries.startsWith records || records.startsWith entries then
    .error (.namespaceCollision options.recordNamespace options.indexNamespace)
  else
    .ok ⟨entries, records, max options.batchSize 1⟩

/-- The bytes of a name, which must not contain the delimiter. -/
def checkedName
    (name : String) :
    Except IndexError Bytes :=
  let bytes := Bytes.ofText name
  if bytes.contains delimiter then
    .error (.invalidName name)
  else
    .ok bytes

/-- The lead of all records of a type. -/
def recordLead
    (layout : KeyLayout)
    (typeName : String) :
    Except IndexError Bytes := do
  let name ← checkedName typeName
  return layout.recordNamespace ++ name ++ [delimiter]

/-- The key of a record under its own primary key. -/
def recordKey
    (layout : KeyLayout)
    (typeName : String)
    (key : Bytes) :
    Except IndexError Bytes := do
  let lead ← layout.recordLead typeName
  return lead ++ key

/-- The lead of all entries of an index. -/
def indexLead
    (layout : KeyLayout)
    (typeName index : String) :
    Except IndexError Bytes := do
  let type ← checkedName typeName
  let name ← checkedName index
  return layout.indexNamespace ++ [delimiter] ++ type ++ [delimiter] ++ name ++ [delimiter]

/-- The key of the index entry of a field value. -/
def entryKey
    (layout : KeyLayout)
    (typeName index : String)
    (value : Bytes) :
    Except IndexError Bytes := do
  let lead ← layout.indexLead typeName index
  return lead ++ value

end KeyLayout

end SecondaryIndex
