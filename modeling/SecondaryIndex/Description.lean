import SecondaryIndex.Criterion
import SecondaryIndex.Query
import SecondaryIndex.ResultStream

namespace SecondaryIndex

/-!
# Descriptions

A description shows the parts of a value by name, for a reader who wants to know
the state of things rather than what went wrong.
-/

/-- A named value with its parts. -/
def describeParts
    (name : String)
    (parts : List (String × String)) :
    String :=
  name ++ " \x7b " ++ ", ".intercalate (parts.map fun part => part.1 ++ ": " ++ part.2) ++
    " \x7d"

/-- An optional value. -/
def describeOption :
    Option String → String
  | none =>
      "None"
  | some text =>
      "Some(" ++ text ++ ")"

/-- The description of an error. -/
def IndexError.describe :
    IndexError → String
  | .codec _ =>
      "Codec(..)"
  | .store failure =>
      "Store(TxnError(" ++ Text.quote failure.reason ++ "))"
  | .inconsistent key =>
      describeParts "Inconsistent" [("key", Text.listBytes key)]
  | .criteria reason =>
      "Criteria(" ++ Text.quote reason ++ ")"
  | .unknownIndex typeName index =>
      describeParts "UnknownIndex"
        [("type_name", Text.quote typeName), ("index", Text.quote index)]
  | .invalidName name =>
      describeParts "InvalidName" [("name", Text.quote name)]
  | .namespaceCollision records entries =>
      describeParts "NamespaceCollision"
        [("record", Text.quote records), ("index", Text.quote entries)]

/-- The description of a stream: its cursor, its queue and how it has ended. -/
def ResultStream.describe
    {π : Type}
    (stream : ResultStream π) :
    String :=
  describeParts "Iter"
    [ ("open", toString stream.cursor.isSome),
      ("cached", toString stream.queued.length),
      ("exhausted", toString stream.exhausted),
      ("err", describeOption (stream.failure.map IndexError.describe)) ]

/-- The description of the order that drives a query. -/
def QueryTarget.describe :
    QueryTarget → String
  | .primaryKey =>
      "Key"
  | .index name =>
      "Field(" ++ Text.quote name ++ ")"

/-- The description of criteria. -/
def describeCriteria
    {R : Type}
    (criteria : List (Criterion R)) :
    String :=
  Text.listing (criteria.map Criterion.describe)

/-- The description of the criteria on fields. -/
def describeFields
    {R : Type}
    (fields : List (String × List (Criterion R))) :
    String :=
  let items := fields.map fun field =>
    Text.quote field.1 ++ ": " ++ describeCriteria field.2
  "\x7b" ++ ", ".intercalate items ++ "\x7d"

/-- The description of a query. -/
def Query.describe
    {R : Type}
    (query : Query (Criterion R)) :
    String :=
  describeParts "Query"
    [ ("target", query.target.describe),
      ("key_criteria", describeCriteria query.keyCriteria),
      ("field_criteria", describeFields query.fieldCriteria.entries) ]

/-- The description of the indexes of a record type. -/
def describeIndexes
    {R : Type}
    (indexes : List (DeclaredIndex R)) :
    String :=
  Text.listing (indexes.map fun index => describeParts "Index" [("name", Text.quote index.name)])

end SecondaryIndex
