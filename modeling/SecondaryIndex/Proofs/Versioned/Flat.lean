import Mathlib.Data.List.TakeWhile
import SecondaryIndex.Proofs.Versioned.FirstEntry
import SecondaryIndex.Proofs.Versioned.Run
import SecondaryIndex.Proofs.Versioned.StoreLaws
import SecondaryIndex.Versioned.Flat

namespace SecondaryIndex.Versioned

/-!
# One map of versions and one history a key

A map of all versions and the histories of all keys can hold the same versions.
A commit keeps it so, whatever its stamp, as long as stamps do not decrease.
Then the map lists the histories one behind the other, and reads and walks find
in the map what they find in the histories.
-/

namespace History

variable
  {stamp : Nat}
  {value : Option Bytes}
  {history : History}
  {version : Version}

/-- A version that is pushed comes first, and only one of the same stamp gives way to it. -/
theorem mem_push
    (newestFirst : history.Pairwise fun first second => second.stamp < first.stamp)
    (bounded : ∀ version ∈ history, version.stamp ≤ stamp) :
    version ∈ push stamp value history ↔
      version = ⟨stamp, value⟩ ∨ version ∈ history ∧ version.stamp ≠ stamp := by
  cases history with
  | nil =>
      simp [push]
  | cons newest older =>
      obtain ⟨olderLess, -⟩ := List.pairwise_cons.1 newestFirst
      have newestLe := bounded newest List.mem_cons_self
      have olderOther : version ∈ older → version.stamp ≠ stamp := by
        intro member
        have less := olderLess version member
        omega
      rw [push]
      split
      next same =>
        rw [List.mem_cons, List.mem_cons]
        grind
      next different =>
        rw [List.mem_cons, List.mem_cons]
        grind

/-- A history stays sorted when a version is pushed that is no older than the others. -/
theorem newestFirst_push
    (newestFirst : history.Pairwise fun first second => second.stamp < first.stamp)
    (bounded : ∀ version ∈ history, version.stamp ≤ stamp) :
    (push stamp value history).Pairwise fun first second => second.stamp < first.stamp := by
  cases history with
  | nil =>
      simp [push]
  | cons newest older =>
      obtain ⟨olderLess, olderSorted⟩ := List.pairwise_cons.1 newestFirst
      have newestLe := bounded newest List.mem_cons_self
      rw [push]
      split
      next same =>
        refine List.pairwise_cons.2 ⟨?_, olderSorted⟩
        intro version member
        exact same ▸ olderLess version member
      next different =>
        refine List.pairwise_cons.2 ⟨?_, newestFirst⟩
        intro version member
        rcases List.mem_cons.1 member with rfl | isOlder
        · exact Nat.lt_of_le_of_ne newestLe different
        · exact Nat.lt_of_lt_of_le (olderLess version isOlder) newestLe

end History

/-- The same versions in one map and in the histories of keys, none newer than a stamp. -/
structure SameVersions
    (versions : OrderedMap Place (Option Bytes))
    (histories : OrderedMap Bytes History)
    (latest : Nat) :
    Prop where
  mem_iff :
    ∀ key version,
      version ∈ histories.findD key [] ↔
        versions.find? ⟨key, version.stamp⟩ = some version.value
  newestFirst :
    ∀ key, (histories.findD key []).Pairwise fun first second => second.stamp < first.stamp
  bounded :
    ∀ key, ∀ version ∈ histories.findD key [], version.stamp ≤ latest

namespace SameVersions

variable
  {versions : OrderedMap Place (Option Bytes)}
  {histories : OrderedMap Bytes History}
  {latest stamp : Nat}

theorem empty :
    SameVersions .empty .empty latest where
  mem_iff _ _ :=
    iff_of_false List.not_mem_nil nofun
  newestFirst _ :=
    .nil
  bounded _ _ member :=
    absurd member List.not_mem_nil

theorem bounded_later
    (same : SameVersions versions histories latest)
    (later : latest ≤ stamp)
    (key : Bytes) :
    ∀ version ∈ histories.findD key [], version.stamp ≤ stamp :=
  fun version member => Nat.le_trans (same.bounded key version member) later

/-- Writing a key puts the same version into the map and into the history of the key. -/
theorem write
    (same : SameVersions versions histories latest)
    (later : latest ≤ stamp)
    (key : Bytes)
    (value : Option Bytes) :
    SameVersions (versions.insert ⟨key, stamp⟩ value)
      (histories.insert key (History.push stamp value (histories.findD key []))) stamp where
  mem_iff other version := by
    rw [OrderedMap.findD_insert, OrderedMap.find?_insert]
    simp only [Place.mk.injEq]
    by_cases isKey : other = key
    · subst isKey
      rw [if_pos rfl,
        History.mem_push (same.newestFirst other) (same.bounded_later later other),
        same.mem_iff]
      rcases version with ⟨versionStamp, versionValue⟩
      by_cases isStamp : versionStamp = stamp
      · simp [isStamp, eq_comm]
      · simp [isStamp]
    · simp only [isKey, false_and, ↓reduceIte]
      exact same.mem_iff other version
  newestFirst other := by
    rw [OrderedMap.findD_insert]
    split
    · exact History.newestFirst_push (same.newestFirst key) (same.bounded_later later key)
    · exact same.newestFirst other
  bounded other version member := by
    rw [OrderedMap.findD_insert] at member
    split at member
    · rcases (History.mem_push (same.newestFirst key) (same.bounded_later later key)).1 member with
        rfl | ⟨old, -⟩
      · exact Nat.le_refl stamp
      · exact same.bounded_later later key version old
    · exact same.bounded_later later other version member

/-- Writing one key after another puts the same versions into the map and into the histories. -/
theorem writes
    (same : SameVersions versions histories latest)
    (later : latest ≤ stamp)
    (writes : List (Bytes × Option Bytes)) :
    SameVersions
      (writes.foldl (fun versions write => versions.insert ⟨write.1, stamp⟩ write.2) versions)
      (writes.foldl
        (fun histories write =>
          histories.insert write.1 (History.push stamp write.2 (histories.findD write.1 [])))
        histories)
      stamp := by
  induction writes generalizing versions histories latest with
  | nil =>
      exact { same with bounded := same.bounded_later later }
  | cons write rest inductionHypothesis =>
      exact inductionHypothesis (same.write later write.1 write.2) (Nat.le_refl stamp)

end SameVersions

section Rows

/-- The versions of histories, one history behind the other. -/
def rowsOf
    (histories : List (Bytes × History)) :
    List (Bytes × Version) :=
  histories.flatMap fun history => history.2.map fun version => (history.1, version)

/-- A version of a key at its place. -/
def placed
    (row : Bytes × Version) :
    Place × Option Bytes :=
  (⟨row.1, row.2.stamp⟩, row.2.value)

variable
  {histories : List (Bytes × History)}
  {key : Bytes}
  {snapshot : Nat}

theorem mem_rowsOf
    {row : Bytes × Version} :
    row ∈ rowsOf histories ↔ ∃ history, (row.1, history) ∈ histories ∧ row.2 ∈ history := by
  rcases row with ⟨key, version⟩
  simp only [rowsOf, List.mem_flatMap, List.mem_map, Prod.mk.injEq]
  constructor
  · rintro ⟨⟨_, history⟩, isHistory, _, isVersion, rfl, rfl⟩
    exact ⟨history, isHistory, isVersion⟩
  · rintro ⟨history, isHistory, isVersion⟩
    exact ⟨(key, history), isHistory, version, isVersion, rfl, rfl⟩

/-- Narrowing rows to some keys is narrowing the histories to them. -/
theorem filter_rowsOf
    (keep : Bytes → Bool) :
    (rowsOf histories).filter (fun row => keep row.1) =
      rowsOf (histories.filter fun history => keep history.1) := by
  induction histories with
  | nil =>
      rfl
  | cons history rest inductionHypothesis =>
      have first :
          (history.2.map fun version => (history.1, version)).filter (fun row => keep row.1) =
            if keep history.1 then history.2.map fun version => (history.1, version) else [] := by
        cases kept : keep history.1 with
        | false =>
            refine List.filter_eq_nil_iff.2 ?_
            simp [kept]
        | true =>
            refine List.filter_eq_self.2 ?_
            simp [kept]
      rw [rowsOf, List.flatMap_cons, List.filter_append, first, List.filter_cons]
      split
      · exact congrArg (_ ++ ·) inductionHypothesis
      · exact inductionHypothesis

/-- The search finds among placed rows what it finds among rows. -/
theorem firstShown_placed
    (decided : Option Bytes)
    (rows : List (Bytes × Version)) :
    Flat.firstShown snapshot decided (rows.map placed) = Store.firstShown snapshot decided rows := by
  induction rows generalizing decided with
  | nil =>
      rfl
  | cons row rest inductionHypothesis =>
      rcases row with ⟨key, stamp, value⟩
      simp only [List.map_cons, placed, Flat.firstShown, Store.firstShown]
      split
      · exact inductionHypothesis decided
      · cases value with
        | none =>
            exact inductionHypothesis (some key)
        | some value =>
            rfl

/-- What a point read makes of the first version from the place of its snapshot on. -/
def readFrom
    (snapshot : Nat)
    (key : Bytes)
    (entries : List (Place × Option Bytes)) :
    Option Bytes :=
  (entries.find? fun entry => ¬ entry.1 < ⟨key, snapshot⟩).bind fun entry =>
    if entry.1.key = key then entry.2 else none

theorem readFrom_of_absent
    (absent : ∀ history ∈ histories, history.1 ≠ key) :
    readFrom snapshot key ((rowsOf histories).map placed) = none := by
  rw [readFrom, Option.bind_eq_none_iff]
  intro entry found
  obtain ⟨row, isRow, rfl⟩ := List.mem_map.1 (List.mem_of_find?_eq_some found)
  obtain ⟨history, isHistory, -⟩ := mem_rowsOf.1 isRow
  exact if_neg (absent _ isHistory)

/-- A point read takes from ascending histories what the history of its key shows. -/
theorem readFrom_rowsOf
    (ascending : histories.Pairwise fun first second => first.1 < second.1) :
    readFrom snapshot key ((rowsOf histories).map placed) =
      History.visible snapshot
        (((histories.find? fun history => history.1 = key).map Prod.snd).getD []) := by
  induction histories with
  | nil =>
      rfl
  | cons history rest inductionHypothesis =>
      obtain ⟨first, restAscending⟩ := List.pairwise_cons.1 ascending
      rcases history with ⟨own, history⟩
      have order : own < key ∨ own = key ∨ key < own := by
        grind
      rcases order with before | same | behind
      · have passed :
            ((history.map fun version => (own, version)).map placed).find?
              (fun entry => ¬ entry.1 < ⟨key, snapshot⟩) = none := by
          refine List.find?_eq_none.2 ?_
          intro entry member
          obtain ⟨row, isRow, rfl⟩ := List.mem_map.1 member
          obtain ⟨version, -, rfl⟩ := List.mem_map.1 isRow
          have isBefore : (placed (own, version)).1 < ⟨key, snapshot⟩ := .inl before
          simp [isBefore]
        have different : own ≠ key := Std.ne_of_lt before
        rw [readFrom, rowsOf, List.flatMap_cons, List.map_append, List.find?_append, passed,
          Option.none_or, List.find?_cons_of_neg (by simpa using different)]
        exact inductionHypothesis restAscending
      · subst same
        have absent : ∀ other ∈ rest, other.1 ≠ own := by
          intro other member
          exact (Std.ne_of_lt (first other member)).symm
        have isShown (version : Version) :
            decide (¬ (placed (own, version)).1 < ⟨own, snapshot⟩) =
              decide (version.stamp ≤ snapshot) := by
          apply decide_eq_decide.2
          rw [placed, Place.lt_iff]
          simp only [Std.lt_irrefl, true_and, false_or, Nat.not_lt]
        have taken :
            ((history.map fun version => (own, version)).map placed).find?
                (fun entry => ¬ entry.1 < ⟨own, snapshot⟩) =
              (history.find? fun version => version.stamp ≤ snapshot).map
                fun version => placed (own, version) := by
          rw [List.map_map, List.find?_map]
          simp only [Function.comp_def, isShown]
        rw [readFrom, rowsOf, List.flatMap_cons, List.map_append, List.find?_append, taken,
          List.find?_cons_of_pos (by simp)]
        cases shown : history.find? fun version => version.stamp ≤ snapshot with
        | none =>
            have hidden : History.visible snapshot history = none := by
              rw [History.visible, shown]
            refine (readFrom_of_absent absent).trans ?_
            rw [Option.map_some, Option.getD_some, hidden]
        | some version =>
            simp [History.visible, shown, placed]
      · have absent : ∀ other ∈ (own, history) :: rest, other.1 ≠ key := by
          refine List.forall_mem_cons.2 ⟨(Std.ne_of_lt behind).symm, ?_⟩
          intro other member
          exact (Std.ne_of_lt (Std.lt_trans behind (first other member))).symm
        have notFound :
            ((own, history) :: rest).find? (fun history => history.1 = key) = none := by
          refine List.find?_eq_none.2 ?_
          simpa using absent
        rw [readFrom_of_absent absent, notFound]
        rfl

end Rows

namespace SameVersions

variable
  {versions : OrderedMap Place (Option Bytes)}
  {histories : OrderedMap Bytes History}
  {latest stamp : Nat}

/-- The map lists the histories one behind the other. -/
theorem entries_eq
    (same : SameVersions versions histories latest) :
    versions.entries = (rowsOf histories.entries).map placed := by
  have own {history : Bytes × History} (isHistory : history ∈ histories.entries) :
      histories.findD history.1 [] = history.2 := by
    rw [OrderedMap.findD, OrderedMap.find?_eq_some_iff.2 isHistory]
    rfl
  apply OrderedMap.eq_of_mem_iff versions.ascending
  · rw [List.pairwise_map, rowsOf, List.pairwise_flatMap]
    constructor
    · intro history isHistory
      rw [List.pairwise_map, ← own isHistory]
      apply (same.newestFirst history.1).imp
      intro first second newer
      exact .inr ⟨rfl, newer⟩
    · apply histories.ascending.imp
      rintro ⟨first, firstHistory⟩ ⟨second, secondHistory⟩ before row isRow other isOther
      obtain ⟨_, -, rfl⟩ := List.mem_map.1 isRow
      obtain ⟨_, -, rfl⟩ := List.mem_map.1 isOther
      exact .inl before
  · rintro ⟨⟨key, stamp⟩, value⟩
    rw [← OrderedMap.find?_eq_some_iff, ← same.mem_iff key ⟨stamp, value⟩,
      OrderedMap.mem_findD_nil_iff, List.mem_map]
    constructor
    · intro member
      exact ⟨(key, ⟨stamp, value⟩), mem_rowsOf.2 member, rfl⟩
    · rintro ⟨⟨_, _, _⟩, isRow, isPlaced⟩
      cases isPlaced
      exact mem_rowsOf.1 isRow

/-- A point read finds in the map what the history of the key shows. -/
theorem getCommitted_eq
    (same : SameVersions versions histories latest)
    (snapshot : Nat)
    (key : Bytes) :
    (⟨versions⟩ : Flat).getCommitted snapshot key =
      History.visible snapshot (histories.findD key []) := by
  have reads :
      (⟨versions⟩ : Flat).getCommitted snapshot key = readFrom snapshot key versions.entries := by
    rw [Flat.getCommitted, readFrom, List.find?_eq_head?_dropWhile_not]
    simp only [decide_not, Bool.not_not]
    split <;> simp [*]
  rw [reads, same.entries_eq, readFrom_rowsOf histories.ascending]
  rfl

/-- Dropping the places in front of a bound leaves what the histories within it hold. -/
theorem dropWhile_eq
    (same : SameVersions versions histories latest)
    (bound : Bound)
    (keep : Place → Bool)
    (upward : ∀ {first second : Place}, first < second → keep first → keep second)
    (agrees : ∀ key stamp, stamp ≤ latest → keep ⟨key, stamp⟩ = bound.admits key) :
    versions.entries.dropWhile (fun entry => !keep entry.1) =
      (rowsOf (histories.entries.dropWhile fun history => !bound.admits history.1)).map placed := by
  have kept :
      ∀ row ∈ rowsOf histories.entries, keep (placed row).1 = bound.admits row.1 := by
    intro row isRow
    have member := OrderedMap.mem_findD_nil_iff.2 (mem_rowsOf.1 isRow)
    exact agrees row.1 row.2.stamp (same.bounded row.1 row.2 member)
  rw [OrderedMap.dropWhile_entries versions upward,
    OrderedMap.dropWhile_entries histories Bound.admits_of_lt]
  calc
    versions.entries.filter (fun entry => keep entry.1)
      = ((rowsOf histories.entries).filter fun row => keep (placed row).1).map placed := by
        rw [same.entries_eq, List.filter_map]
        rfl
    _ = ((rowsOf histories.entries).filter fun row => bound.admits row.1).map placed := by
        rw [List.filter_congr kept]
    _ = (rowsOf (histories.entries.filter fun history => bound.admits history.1)).map placed := by
        rw [filter_rowsOf bound.admits]

/-- A walk finds in the map the versions that the histories within its bound hold. -/
theorem versionsWithin_eq
    (same : SameVersions versions histories latest)
    (inRange : latest ≤ lastStamp)
    (bound : Bound) :
    (⟨versions⟩ : Flat).versionsWithin bound =
      (rowsOf (histories.entries.dropWhile fun history => !bound.admits history.1)).map placed := by
  cases bound with
  | atLeast least =>
      let keep : Place → Bool := fun place => ¬ place < ⟨least, lastStamp⟩
      have upward {first second : Place} (before : first < second) :
          keep first → keep second := by
        simp only [keep, decide_eq_true_eq]
        exact fun notBefore secondBefore => notBefore (Std.lt_trans before secondBefore)
      have agrees (key : Bytes) (stamp : Nat) (bounded : stamp ≤ latest) :
          keep ⟨key, stamp⟩ = (Bound.atLeast least).admits key := by
        have stampInRange : stamp ≤ lastStamp := Nat.le_trans bounded inRange
        simp [keep, Bound.admits, Place.lt_iff, stampInRange]
      simpa [keep, Flat.versionsWithin] using same.dropWhile_eq (.atLeast least) keep upward agrees
  | above last =>
      let keep : Place → Bool := fun place => ⟨last, 0⟩ < place
      have upward {first second : Place} (before : first < second) :
          keep first → keep second := by
        simp only [keep, decide_eq_true_eq]
        exact fun behind => Std.lt_trans behind before
      have agrees (key : Bytes) (stamp : Nat) (_ : stamp ≤ latest) :
          keep ⟨key, stamp⟩ = (Bound.above last).admits key := by
        simp [keep, Bound.admits, Place.lt_iff]
      simpa [keep, Flat.versionsWithin] using same.dropWhile_eq (.above last) keep upward agrees

end SameVersions

/-- What has been published is in the store, and no stamp is out of the range of the clock. -/
structure Stored
    (world : World) :
    Prop where
  same :
    SameVersions (Flat.ofPublications world.published).versions world.store.histories
      world.store.clock
  inRange : world.store.clock ≤ lastStamp

namespace Stored

variable
  {world : World}

theorem start :
    Stored World.start where
  same :=
    .empty
  inRange :=
    Nat.zero_le lastStamp

/-- A change that leaves the histories, the clock and what is published is no change here. -/
theorem congr
    {changed : World}
    (stored : Stored world)
    (sameHistories : changed.store.histories = world.store.histories)
    (sameClock : changed.store.clock = world.store.clock)
    (samePublished : changed.published = world.published) :
    Stored changed where
  same := by
    rw [sameHistories, sameClock, samePublished]
    exact stored.same
  inRange := by
    rw [sameClock]
    exact stored.inRange

/-- A commit puts its versions into the map and into the histories under the same stamp. -/
theorem commit
    (stored : Stored world)
    (number : Nat) :
    Stored (world.commit number) := by
  cases isOpen : world.transaction? number with
  | none =>
      simpa [World.commit, isOpen] using stored
  | some transaction =>
      rcases Store.commit_cases world.store transaction with
        ⟨-, result⟩ | ⟨-, -, result⟩ | ⟨-, -, result⟩
      · apply stored.congr <;> simp [World.commit, isOpen, result, World.publication?]
      · have later : world.store.clock ≤ nextStamp world.store.clock := by
          have inRange := stored.inRange
          rw [nextStamp]
          omega
        have nextInRange : nextStamp world.store.clock ≤ lastStamp := Nat.min_le_right _ _
        have written := stored.same.writes later transaction.writes.entries
        refine ⟨?_, ?_⟩
        · simpa [World.commit, isOpen, result, World.publication?, Flat.ofPublications,
            Flat.publish, Store.prune, Store.publish] using written
        · simpa [World.commit, isOpen, result, Store.prune, Store.publish] using nextInRange
      · apply stored.congr <;> simp [World.commit, isOpen, result, World.publication?]

/-- Every step keeps the versions of the map and of the histories the same. -/
theorem step
    (stored : Stored world)
    (step : Step) :
    Stored (world.step step) := by
  cases step with
  | begin =>
      exact stored.congr rfl rfl rfl
  | set number key value =>
      apply stored.congr <;> simp [World.step, World.store_revise, World.published_revise]
  | delete number key =>
      apply stored.congr <;> simp [World.step, World.store_revise, World.published_revise]
  | commit number =>
      exact stored.commit number
  | rollback number =>
      cases isOpen : world.transaction? number <;>
        apply stored.congr <;> simp [World.step, World.rollback, Store.rollback, isOpen]

theorem steps
    (stored : Stored world)
    (steps : List Step) :
    Stored (world.steps steps) := by
  induction steps generalizing world with
  | nil =>
      exact stored
  | cons step rest inductionHypothesis =>
      exact inductionHypothesis (stored.step step)

end Stored

/-- What has been published is in the store after every run. -/
theorem stored_run
    (steps : List Step) :
    Stored (run steps) :=
  Stored.start.steps steps

/--
After every run, point reads and walks find in the map of all versions what they find in
the histories of keys.
-/
theorem flat_reads
    (steps : List Step) :
    let flat := Flat.ofPublications (run steps).published
    let store := (run steps).store
    (∀ snapshot key, flat.getCommitted snapshot key = store.valueAt snapshot key) ∧
      ∀ snapshot bound, flat.firstCommitted snapshot bound = store.firstCommitted snapshot bound := by
  obtain ⟨same, inRange⟩ := stored_run steps
  constructor
  · intro snapshot key
    exact same.getCommitted_eq snapshot key
  · intro snapshot bound
    rw [Flat.firstCommitted, same.versionsWithin_eq inRange, firstShown_placed]
    rfl

end SecondaryIndex.Versioned
