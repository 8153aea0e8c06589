import SecondaryIndex.OrderedMap

namespace SecondaryIndex

/-!
# Queries

A query names the order in which records are sought, the primary key unless an
index is designated, and the criteria on the key and on each field.  The
criteria of a field keep the order in which they were given; fields are in the
order of their names, which for texts is also the order of their UTF-8 bytes.
-/

/-- The order that drives a query. -/
inductive QueryTarget where
  | primaryKey
  | index (name : String)
  deriving Repr, DecidableEq

/-- A predicate over the records of one type. -/
structure Query (C : Type) where
  target : QueryTarget
  keyCriteria : List C
  fieldCriteria : OrderedMap String (List C)

namespace Query

variable {C : Type}

/-- The query that every record satisfies, in key order. -/
def all :
    Query C where
  target :=
    .primaryKey
  keyCriteria :=
    []
  fieldCriteria :=
    .empty

/-- Seek records through an index. -/
def through
    (index : String)
    (query : Query C) :
    Query C :=
  { query with target := .index index }

/-- Ask one more thing of the primary key. -/
def whereKey
    (criterion : C)
    (query : Query C) :
    Query C :=
  { query with keyCriteria := query.keyCriteria ++ [criterion] }

/-- Ask one more thing of a field. -/
def whereField
    (field : String)
    (criterion : C)
    (query : Query C) :
    Query C :=
  let others := query.fieldCriteria.findD field []
  { query with fieldCriteria := query.fieldCriteria.insert field (others ++ [criterion]) }

/-- The criteria on the key or on the designated field, whichever drives the query. -/
def targetCriteria
    (query : Query C) :
    List C :=
  match query.target with
  | .primaryKey => query.keyCriteria
  | .index name => query.fieldCriteria.findD name []

/-- Whether the query asks anything of a record. -/
def hasCriteria
    (query : Query C) :
    Bool :=
  !query.keyCriteria.isEmpty ||
    query.fieldCriteria.entries.any fun field => !field.2.isEmpty

end Query

end SecondaryIndex
