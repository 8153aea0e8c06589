import SecondaryIndex.Versioned.Commit
import SecondaryIndex.Versioned.Search

namespace SecondaryIndex.Versioned

/-!
# All versions in one map

The committed versions of all keys can be kept in one map, ordered by ascending
key and, under one key, from the newest stamp to the oldest.  A point read takes
the first version from the place of its snapshot on, if that is one of its key.
A walk begins in front of all versions of a key or behind them.  `Store` keeps
the same versions key by key.
-/

/-- The place of a version: its key and the stamp of its commit. -/
structure Place where
  key : Bytes
  stamp : Nat
  deriving Repr, DecidableEq

namespace Place

instance :
    LT Place where
  lt first second :=
    first.key < second.key ∨ first.key = second.key ∧ second.stamp < first.stamp

instance :
    LE Place where
  le first second :=
    first.key < second.key ∨ first.key = second.key ∧ second.stamp ≤ first.stamp

/-- Places come by ascending key, and those of one key by descending stamp. -/
theorem lt_iff
    {first second : Place} :
    first < second ↔
      first.key < second.key ∨ first.key = second.key ∧ second.stamp < first.stamp :=
  Iff.rfl

theorem le_iff
    {first second : Place} :
    first ≤ second ↔
      first.key < second.key ∨ first.key = second.key ∧ second.stamp ≤ first.stamp :=
  Iff.rfl

instance :
    DecidableLT Place :=
  fun _ _ => decidable_of_iff _ lt_iff.symm

instance :
    Std.IsLinearOrder Place where
  le_refl _ :=
    .inr ⟨rfl, Nat.le_refl _⟩
  le_trans first second third := by
    rintro (before | ⟨same, newer⟩) (beforeThird | ⟨sameThird, newerThird⟩)
    · exact .inl (Std.lt_trans before beforeThird)
    · exact .inl (sameThird ▸ before)
    · exact .inl (same ▸ beforeThird)
    · exact .inr ⟨same.trans sameThird, Nat.le_trans newerThird newer⟩
  le_antisymm first second := by
    rcases first with ⟨key, stamp⟩
    rcases second with ⟨other, otherStamp⟩
    rw [le_iff, le_iff, mk.injEq]
    grind
  le_total first second := by
    rw [le_iff, le_iff]
    grind

instance :
    Std.LawfulOrderLT Place where
  lt_iff first second := by
    rw [lt_iff, le_iff, le_iff]
    grind

end Place

/-- All committed versions in one map, with the value that each has left. -/
structure Flat where
  versions : OrderedMap Place (Option Bytes)
  deriving Repr

namespace Flat

/-- Nothing has been committed. -/
def empty :
    Flat where
  versions :=
    .empty

/-- Add a version of each key that a commit writes. -/
def publish
    (flat : Flat)
    (publication : Publication) :
    Flat where
  versions :=
    publication.writes.entries.foldl
      (fun versions write => versions.insert ⟨write.1, publication.stamp⟩ write.2)
      flat.versions

/-- What publications, oldest first, leave of the empty map. -/
def ofPublications
    (publications : List Publication) :
    Flat :=
  publications.foldl publish empty

/-- The value of a key in a snapshot: that of the first version from its place on. -/
def getCommitted
    (flat : Flat)
    (snapshot : Nat)
    (key : Bytes) :
    Option Bytes :=
  match flat.versions.entries.dropWhile fun entry => entry.1 < ⟨key, snapshot⟩ with
  | [] =>
      none
  | (place, value) :: _ =>
      if place.key = key then value else none

/--
The versions within a bound.  No version of a key comes before its place with
the last stamp, and none comes behind its place with the stamp zero.
-/
def versionsWithin
    (flat : Flat) :
    Bound → List (Place × Option Bytes)
  | .atLeast key =>
      flat.versions.entries.dropWhile fun entry => entry.1 < ⟨key, lastStamp⟩
  | .above key =>
      flat.versions.entries.dropWhile fun entry => ¬ ⟨key, 0⟩ < entry.1

/-- The first entry that a snapshot shows among versions, as `Store.firstShown` finds it. -/
def firstShown
    (snapshot : Nat)
    (decided : Option Bytes) :
    List (Place × Option Bytes) → Option Entry
  | [] =>
      none
  | (place, value) :: rest =>
      if snapshot < place.stamp ∨ decided = some place.key then
        firstShown snapshot decided rest
      else
        match value with
        | some value => some (place.key, value)
        | none => firstShown snapshot (some place.key) rest

/-- The first committed entry within a bound that a snapshot shows. -/
def firstCommitted
    (flat : Flat)
    (snapshot : Nat)
    (bound : Bound) :
    Option Entry :=
  firstShown snapshot none (flat.versionsWithin bound)

end Flat

end SecondaryIndex.Versioned
