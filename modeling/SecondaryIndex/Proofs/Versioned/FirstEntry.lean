import SecondaryIndex.Proofs.OrderedMap
import SecondaryIndex.Versioned.Cursor

namespace SecondaryIndex.Versioned

/-!
# The first entry of a view

What a transaction sees is the map `Transaction.get`.  The search of a cursor
finds the first entry that this map has within a bound, for every store and
every row of writes.
-/

/-- Within some keys, an entry is the first that a map has, or the map has none. -/
def FirstIn
    (view : Bytes → Option Bytes)
    (within : Bytes → Prop) :
    Option Entry → Prop
  | none =>
      ∀ key, within key → view key = none
  | some entry =>
      within entry.1 ∧ view entry.1 = some entry.2 ∧
        ∀ key, within key → key < entry.1 → view key = none

namespace FirstIn

/-- Only one entry comes first. -/
theorem unique
    {view : Bytes → Option Bytes}
    {within : Bytes → Prop}
    {first second : Option Entry}
    (isFirst : FirstIn view within first)
    (isSecond : FirstIn view within second) :
    first = second := by
  cases first with
  | none =>
      cases second with
      | none =>
          rfl
      | some entry =>
          have absent := isFirst entry.1 isSecond.1
          rw [isSecond.2.1] at absent
          cases absent
  | some entry =>
      obtain ⟨inside, present, least⟩ := isFirst
      cases second with
      | none =>
          rw [isSecond entry.1 inside] at present
          cases present
      | some other =>
          obtain ⟨otherInside, otherPresent, otherLeast⟩ := isSecond
          have notBefore : ¬ other.1 < entry.1 := by
            intro before
            rw [least other.1 otherInside before] at otherPresent
            cases otherPresent
          have notAfter : ¬ entry.1 < other.1 := by
            intro before
            rw [otherLeast entry.1 inside before] at present
            cases present
          have sameKey : entry.1 = other.1 :=
            Std.le_antisymm (Std.not_lt.1 notBefore) (Std.not_lt.1 notAfter)
          have sameValue : entry.2 = other.2 := by
            rw [← sameKey, present] at otherPresent
            exact Option.some.inj otherPresent
          exact congrArg some (Prod.ext sameKey sameValue)

/-- Maps that agree within some keys have the same first entry there. -/
theorem congr
    {view other : Bytes → Option Bytes}
    {within : Bytes → Prop}
    {entry : Option Entry}
    (agree : ∀ key, within key → view key = other key)
    (isFirst : FirstIn view within entry) :
    FirstIn other within entry := by
  cases entry with
  | none =>
      intro key inside
      rw [← agree key inside]
      exact isFirst key inside
  | some entry =>
      obtain ⟨inside, present, least⟩ := isFirst
      refine ⟨inside, ?_, ?_⟩
      · rw [← agree entry.1 inside]
        exact present
      · intro key keyInside before
        rw [← agree key keyInside]
        exact least key keyInside before

/-- An entry in front of a key comes first in every map that agrees in front of the key. -/
theorem of_agree_below
    {view other : Bytes → Option Bytes}
    {within : Bytes → Prop}
    {entry : Entry}
    {key : Bytes}
    (isFirst : FirstIn view within (some entry))
    (before : entry.1 < key)
    (agree : ∀ earlier, within earlier → earlier < key → view earlier = other earlier) :
    FirstIn other within (some entry) := by
  obtain ⟨inside, present, least⟩ := isFirst
  refine ⟨inside, ?_, ?_⟩
  · rw [← agree entry.1 inside before]
    exact present
  · intro earlier earlierInside earlierBefore
    rw [← agree earlier earlierInside (Std.lt_trans earlierBefore before)]
    exact least earlier earlierInside earlierBefore

/-- Below a key that the first entry does not precede, the map has nothing. -/
theorem none_below
    {view : Bytes → Option Bytes}
    {within : Bytes → Prop}
    {entry : Option Entry}
    {key other : Bytes}
    (isFirst : FirstIn view within entry)
    (notEarlier : ∀ found, entry = some found → ¬ found.1 < key)
    (inside : within other)
    (before : other < key) :
    view other = none := by
  cases entry with
  | none =>
      exact isFirst other inside
  | some found =>
      obtain ⟨-, -, least⟩ := isFirst
      have notFoundEarlier : key ≤ found.1 :=
        Std.not_lt.1 (notEarlier found rfl)
      exact least other inside (Std.lt_of_lt_of_le before notFoundEarlier)

/-- A first entry behind a key without a value is the first from the key on. -/
theorem of_above
    {view : Bytes → Option Bytes}
    {within : Bytes → Prop}
    {entry : Option Entry}
    {key : Bytes}
    (isFirst : FirstIn view (fun other => key < other) entry)
    (upward : ∀ other, key < other → within other)
    (noneUpTo : ∀ other, within other → other ≤ key → view other = none) :
    FirstIn view within entry := by
  cases entry with
  | none =>
      intro other inside
      by_cases behind : key < other
      · exact isFirst other behind
      · exact noneUpTo other inside (Std.not_lt.1 behind)
  | some found =>
      obtain ⟨behind, present, least⟩ := isFirst
      refine ⟨upward found.1 behind, present, ?_⟩
      intro other inside before
      by_cases otherBehind : key < other
      · exact least other otherBehind before
      · exact noneUpTo other inside (Std.not_lt.1 otherBehind)

end FirstIn

namespace Bound

/-- A bound that admits a key admits every later key. -/
theorem admits_of_lt
    {bound : Bound}
    {first second : Bytes}
    (before : first < second)
    (admitted : bound.admits first) :
    bound.admits second := by
  cases bound with
  | atLeast least =>
      simp only [admits, decide_eq_true_eq] at admitted ⊢
      intro tooSmall
      exact admitted (Std.lt_trans before tooSmall)
  | above last =>
      simp only [admits, decide_eq_true_eq] at admitted ⊢
      exact Std.lt_trans admitted before

end Bound

/-- Bindings list what a map has within a bound, by ascending key. -/
structure Lists
    {ν : Type}
    (view : Bytes → Option ν)
    (bound : Bound)
    (bindings : List (Bytes × ν)) :
    Prop where
  ascending : bindings.Pairwise fun first second => first.1 < second.1
  mem_iff :
    ∀ key value, (key, value) ∈ bindings ↔ bound.admits key ∧ view key = some value

namespace Lists

variable
  {ν : Type}
  {view : Bytes → Option ν}
  {bound : Bound}
  {bindings rest : List (Bytes × ν)}
  {head : Bytes × ν}
  {key : Bytes}

theorem none_of_nil
    (lists : Lists view bound [])
    (inside : bound.admits key) :
    view key = none := by
  refine Option.eq_none_iff_forall_not_mem.2 ?_
  intro value present
  cases (lists.mem_iff key value).2 ⟨inside, present⟩

/-- In front of the first binding there is nothing. -/
theorem none_below
    (lists : Lists view bound (head :: rest))
    (inside : bound.admits key)
    (before : key < head.1) :
    view key = none := by
  obtain ⟨least, -⟩ := List.pairwise_cons.1 lists.ascending
  refine Option.eq_none_iff_forall_not_mem.2 ?_
  intro value present
  rcases List.mem_cons.1 ((lists.mem_iff key value).2 ⟨inside, present⟩) with isHead | later
  · cases isHead
    exact Std.lt_irrefl before
  · exact Std.lt_irrefl (Std.lt_trans before (least _ later))

/-- The other bindings list what the map has behind the first one. -/
theorem tail
    (lists : Lists view bound (head :: rest)) :
    Lists view (.above head.1) rest := by
  obtain ⟨least, restAscending⟩ := List.pairwise_cons.1 lists.ascending
  refine ⟨restAscending, ?_⟩
  intro key value
  simp only [Bound.admits, decide_eq_true_eq]
  constructor
  · intro member
    exact ⟨least _ member, ((lists.mem_iff key value).1 (List.mem_cons_of_mem _ member)).2⟩
  · rintro ⟨behind, present⟩
    have headInside := ((lists.mem_iff head.1 head.2).1 List.mem_cons_self).1
    have inside := Bound.admits_of_lt behind headInside
    rcases List.mem_cons.1 ((lists.mem_iff key value).2 ⟨inside, present⟩) with isHead | later
    · cases isHead
      exact absurd behind Std.lt_irrefl
    · exact later

/-- The first of the entries that list a map within a bound is its first entry there. -/
theorem firstIn
    {view : Bytes → Option Bytes}
    {entries : List Entry}
    (lists : Lists view bound entries) :
    FirstIn view (fun key => bound.admits key) entries.head? := by
  cases entries with
  | nil =>
      intro key inside
      exact lists.none_of_nil inside
  | cons head rest =>
      obtain ⟨inside, present⟩ := (lists.mem_iff head.1 head.2).1 List.mem_cons_self
      exact ⟨inside, present, fun key keyInside before => lists.none_below keyInside before⟩

/-- Dropping the bindings in front of a bound leaves those within. -/
theorem of_map
    (map : OrderedMap Bytes ν)
    (bound : Bound) :
    Lists (fun key => map.find? key) bound
      (map.entries.dropWhile fun entry => !bound.admits entry.1) := by
  rw [map.dropWhile_entries Bound.admits_of_lt]
  refine ⟨(map.filterKeys bound.admits).ascending, ?_⟩
  intro key value
  rw [← OrderedMap.find?_eq_some_iff, OrderedMap.find?_filterKeys]
  by_cases admitted : bound.admits key <;> simp [admitted]

end Lists

namespace Store

/-- The versions of a key that has been decided are passed over. -/
theorem firstShown_decided
    (snapshot : Nat)
    (key : Bytes)
    (history : History)
    (rest : List (Bytes × Version)) :
    firstShown snapshot (some key) (history.map (fun version => (key, version)) ++ rest) =
      firstShown snapshot (some key) rest := by
  induction history with
  | nil =>
      rfl
  | cons version older inductionHypothesis =>
      simpa [firstShown] using inductionHypothesis

/-- A decision on a key does not matter to versions of other keys. -/
theorem firstShown_of_not_mem
    {snapshot : Nat}
    {key : Bytes}
    {versions : List (Bytes × Version)}
    (absent : ∀ version ∈ versions, version.1 ≠ key) :
    firstShown snapshot (some key) versions = firstShown snapshot none versions := by
  induction versions with
  | nil =>
      rfl
  | cons version rest inductionHypothesis =>
      have different : key ≠ version.1 :=
        Ne.symm (absent version List.mem_cons_self)
      have restSame :=
        inductionHypothesis fun other member => absent other (List.mem_cons_of_mem _ member)
      by_cases behind : snapshot < version.2.stamp
      · simp [firstShown, behind, restSame]
      · cases shown : version.2.value <;> simp [firstShown, behind, different, shown]

/-- Under one key, the search finds the value that the snapshot shows or goes on. -/
theorem firstShown_history
    (snapshot : Nat)
    (key : Bytes)
    (history : History)
    {rest : List (Bytes × Version)}
    (absent : ∀ version ∈ rest, version.1 ≠ key) :
    firstShown snapshot none (history.map (fun version => (key, version)) ++ rest) =
      ((history.visible snapshot).map fun value => (key, value)).or
        (firstShown snapshot none rest) := by
  induction history with
  | nil =>
      rfl
  | cons version older inductionHypothesis =>
      by_cases behind : snapshot < version.stamp
      · have notShown : ¬ version.stamp ≤ snapshot := Nat.not_le.2 behind
        simpa [firstShown, History.visible, behind, notShown] using inductionHypothesis
      · have isShown : version.stamp ≤ snapshot := Nat.not_lt.1 behind
        cases shown : version.value with
        | some value =>
            simp [firstShown, History.visible, behind, isShown, shown]
        | none =>
            simp [firstShown, History.visible, behind, isShown, shown, firstShown_decided,
              firstShown_of_not_mem absent]

/-- Over the histories of distinct keys, the search takes the first that shows a value. -/
theorem firstShown_histories
    (snapshot : Nat)
    {histories : List (Bytes × History)}
    (ascending : histories.Pairwise fun first second => first.1 < second.1) :
    firstShown snapshot none
        (histories.flatMap fun history => history.2.map fun version => (history.1, version)) =
      histories.findSome? fun history =>
        (history.2.visible snapshot).map fun value => (history.1, value) := by
  induction histories with
  | nil =>
      rfl
  | cons history rest inductionHypothesis =>
      obtain ⟨least, restAscending⟩ := List.pairwise_cons.1 ascending
      have absent :
          ∀ version ∈ rest.flatMap fun other =>
            other.2.map fun version => (other.1, version), version.1 ≠ history.1 := by
        intro version member
        obtain ⟨other, otherMember, inOther⟩ := List.mem_flatMap.1 member
        obtain ⟨inner, -, rfl⟩ := List.mem_map.1 inOther
        exact (Std.ne_of_lt (least other otherMember)).symm
      rw [List.flatMap_cons, firstShown_history snapshot history.1 history.2 absent,
        inductionHypothesis restAscending, List.findSome?_cons]
      cases history.2.visible snapshot <;> rfl

/-- A snapshot shows of a key what it shows of the key's history. -/
theorem valueAt_eq_bind
    (store : Store)
    (snapshot : Nat)
    (key : Bytes) :
    store.valueAt snapshot key = (store.histories.find? key).bind (History.visible snapshot) := by
  rw [valueAt, OrderedMap.findD]
  cases store.histories.find? key <;> rfl

/-- Among histories that are listed within a bound, the first that shows a value comes first. -/
theorem findSome?_firstIn
    (store : Store)
    (snapshot : Nat)
    (bound : Bound)
    {histories : List (Bytes × History)}
    (lists : Lists (fun key => store.histories.find? key) bound histories) :
    FirstIn (store.valueAt snapshot) (fun key => bound.admits key)
      (histories.findSome? fun history =>
        (history.2.visible snapshot).map fun value => (history.1, value)) := by
  induction histories generalizing bound with
  | nil =>
      intro key inside
      rw [valueAt_eq_bind, lists.none_of_nil inside, Option.bind_none]
  | cons history rest inductionHypothesis =>
      obtain ⟨inside, found⟩ := (lists.mem_iff history.1 history.2).1 List.mem_cons_self
      have shown : store.valueAt snapshot history.1 = history.2.visible snapshot := by
        rw [valueAt_eq_bind, found, Option.bind_some]
      have nothingBelow :
          ∀ key, bound.admits key → key < history.1 → store.valueAt snapshot key = none := by
        intro key keyInside before
        rw [valueAt_eq_bind, lists.none_below keyInside before, Option.bind_none]
      rw [List.findSome?_cons]
      cases visible : history.2.visible snapshot with
      | some value =>
          exact ⟨inside, shown.trans visible, nothingBelow⟩
      | none =>
          have restFirst := inductionHypothesis (.above history.1) lists.tail
          simp only [Bound.admits, decide_eq_true_eq] at restFirst
          refine restFirst.of_above ?_ ?_
          · intro key behind
            exact Bound.admits_of_lt behind inside
          · intro key keyInside upTo
            by_cases same : key = history.1
            · rw [same, shown, visible]
            · exact nothingBelow key keyInside (Std.lt_of_le_of_ne upTo same)

/-- The first committed entry is the first that the snapshot has within the bound. -/
theorem firstCommitted_firstIn
    (store : Store)
    (snapshot : Nat)
    (bound : Bound) :
    FirstIn (store.valueAt snapshot) (fun key => bound.admits key)
      (store.firstCommitted snapshot bound) := by
  have lists := Lists.of_map store.histories bound
  rw [firstCommitted, versionsWithin, firstShown_histories snapshot lists.ascending]
  exact store.findSome?_firstIn snapshot bound lists

end Store

namespace Transaction

/-- A key that the transaction has written has the written value. -/
theorem get_of_written
    {store : Store}
    {transaction : Transaction}
    {key : Bytes}
    {value : Option Bytes}
    (written : transaction.writes.find? key = some value) :
    transaction.get store key = value := by
  simp [get, written]

/-- A key that the transaction has not written has the value of the snapshot. -/
theorem get_of_not_written
    {store : Store}
    {transaction : Transaction}
    {key : Bytes}
    (notWritten : transaction.writes.find? key = none) :
    transaction.get store key = store.valueAt transaction.snapshot key := by
  simp [get, notWritten]

/--
The search finds the first entry of the view, if the writes it looks at are the
transaction's own within the bound.
-/
theorem firstAmong_firstIn
    (store : Store)
    (transaction : Transaction)
    (bound : Bound)
    {writes : List (Bytes × Option Bytes)}
    (own : Lists (fun key => transaction.writes.find? key) bound writes) :
    FirstIn (transaction.get store) (fun key => bound.admits key)
      (firstAmong store transaction.snapshot bound writes) := by
  induction writes generalizing bound with
  | nil =>
      refine (store.firstCommitted_firstIn transaction.snapshot bound).congr ?_
      intro key inside
      exact (get_of_not_written (own.none_of_nil inside)).symm
  | cons write rest inductionHypothesis =>
      obtain ⟨key, value⟩ := write
      obtain ⟨inside, written⟩ := (own.mem_iff key value).1 List.mem_cons_self
      -- Below the first write of the bound the view is the snapshot.
      have below :
          ∀ other, bound.admits other → other < key →
            store.valueAt transaction.snapshot other = transaction.get store other := by
        intro other otherInside before
        exact (get_of_not_written (own.none_below otherInside before)).symm
      have isCommitted := store.firstCommitted_firstIn transaction.snapshot bound
      by_cases earlier :
          ∃ entry, store.firstCommitted transaction.snapshot bound = some entry ∧ entry.1 < key
      · obtain ⟨entry, found, before⟩ := earlier
        rw [found] at isCommitted
        have isFirst := isCommitted.of_agree_below before below
        have notBehind : ¬ key ≤ entry.1 :=
          Std.not_le.2 before
        simpa [firstAmong, found, notBehind] using isFirst
      · have nothingBelow :
            ∀ other, bound.admits other → other < key → transaction.get store other = none := by
          intro other otherInside before
          rw [← below other otherInside before]
          refine isCommitted.none_below ?_ otherInside before
          intro entry found entryBefore
          exact earlier ⟨entry, found, entryBefore⟩
        have notEarlier :
            ((store.firstCommitted transaction.snapshot bound).all
              fun entry => ¬ entry.1 < key) = true := by
          cases found : store.firstCommitted transaction.snapshot bound with
          | none =>
              rfl
          | some entry =>
              simpa using fun before => earlier ⟨entry, found, before⟩
        cases value with
        | some value =>
            simp only [firstAmong, notEarlier, if_true]
            exact ⟨inside, get_of_written written, nothingBelow⟩
        | none =>
            simp only [firstAmong, notEarlier, if_true]
            have restFirst :
                FirstIn (transaction.get store) (fun other => key < other)
                  (firstAmong store transaction.snapshot (.above key) rest) := by
              simpa [Bound.admits] using inductionHypothesis (.above key) own.tail
            refine restFirst.of_above ?_ ?_
            · intro other behind
              exact Bound.admits_of_lt behind inside
            · intro other otherInside upTo
              by_cases same : other = key
              · subst same
                exact get_of_written written
              · exact nothingBelow other otherInside (Std.lt_of_le_of_ne upTo same)

/-- The search of a transaction finds the first entry of its view within a bound. -/
theorem firstWithin_firstIn
    (store : Store)
    (transaction : Transaction)
    (bound : Bound) :
    FirstIn (transaction.get store) (fun key => bound.admits key)
      (transaction.firstWithin store bound) :=
  transaction.firstAmong_firstIn store bound (.of_map transaction.writes bound)

end Transaction

namespace Cursor

/-- After positioning, a cursor stands on the first entry at or behind the key. -/
theorem seek_firstIn
    (store : Store)
    (transaction : Transaction)
    (key : Bytes) :
    FirstIn (transaction.get store) (fun other => key ≤ other)
      (seek store transaction key).current := by
  simpa [seek, Bound.admits] using transaction.firstWithin_firstIn store (.atLeast key)

/-- After a move, a cursor stands on the first entry behind the one it stood on. -/
theorem advance_firstIn
    (store : Store)
    (transaction : Transaction)
    {cursor : Cursor}
    {entry : Entry}
    (standing : cursor.current = some entry) :
    FirstIn (transaction.get store) (fun other => entry.1 < other)
      (cursor.advance store transaction).current := by
  simpa [advance, standing, Bound.admits] using
    transaction.firstWithin_firstIn store (.above entry.1)

/-- A cursor that stands nowhere stays there. -/
theorem advance_nowhere
    (store : Store)
    (transaction : Transaction)
    {cursor : Cursor}
    (nowhere : cursor.current = none) :
    (cursor.advance store transaction).current = none := by
  simp [advance, nowhere, unpositioned]

end Cursor

end SecondaryIndex.Versioned
