import SecondaryIndex.Versioned.Transaction

namespace SecondaryIndex.Versioned

/-!
# Looking for the first entry within a bound

A cursor moves by a search that stops at the first entry it may stand on.  The
committed versions are walked by ascending key and, under one key, from the
newest to the oldest.  The transaction's own writes are looked at one by one:
the next write within the bound is put beside the first committed entry, and a
deletion that comes first moves the bound behind its key.
-/

namespace Store

/-- The committed versions within a bound, by ascending key and newest first. -/
def versionsWithin
    (store : Store)
    (bound : Bound) :
    List (Bytes × Version) :=
  let histories := store.histories.entries.dropWhile fun history => !bound.admits history.1
  histories.flatMap fun history => history.2.map fun version => (history.1, version)

/--
The first entry that a snapshot shows among versions.  Versions behind the
snapshot are passed over, and so are the older versions of a key once a
deletion has decided it.
-/
def firstShown
    (snapshot : Nat)
    (decided : Option Bytes) :
    List (Bytes × Version) → Option Entry
  | [] =>
      none
  | (key, version) :: rest =>
      if snapshot < version.stamp ∨ decided = some key then
        firstShown snapshot decided rest
      else
        match version.value with
        | some value => some (key, value)
        | none => firstShown snapshot (some key) rest

/-- The first committed entry within a bound that a snapshot shows. -/
def firstCommitted
    (store : Store)
    (snapshot : Nat)
    (bound : Bound) :
    Option Entry :=
  firstShown snapshot none (store.versionsWithin bound)

end Store

namespace Transaction

/-- The first entry within a bound, where the given writes are those within the bound. -/
def firstAmong
    (store : Store)
    (snapshot : Nat) :
    Bound → List (Bytes × Option Bytes) → Option Entry
  | bound, [] =>
      store.firstCommitted snapshot bound
  | bound, (key, value) :: rest =>
      let committed := store.firstCommitted snapshot bound
      if committed.all fun entry => ¬ entry.1 < key then
        match value with
        | some value => some (key, value)
        | none => firstAmong store snapshot (.above key) rest
      else
        committed

/-- The first entry within a bound. -/
def firstWithin
    (store : Store)
    (transaction : Transaction)
    (bound : Bound) :
    Option Entry :=
  firstAmong store transaction.snapshot bound
    (transaction.writes.entries.dropWhile fun write => !bound.admits write.1)

end Transaction

end SecondaryIndex.Versioned
