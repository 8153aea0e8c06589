import Mathlib.Data.List.Induction
import SecondaryIndex.OrderedMap

namespace SecondaryIndex.OrderedMap

/-!
# Segments of ordered maps

A walk that begins within a bound drops the bindings in front of it.  Because
the bindings ascend, what is left is the map narrowed to the keys within the
bound, and the first binding has the least key.
-/

variable {κ ν : Type}

/-- The keys of a map are those that are bound to some value. -/
theorem mem_keys_iff
    [LE κ] [LT κ] [DecidableEq κ] [Std.IsLinearOrder κ] [Std.LawfulOrderLT κ]
    {map : OrderedMap κ ν}
    {key : κ} :
    key ∈ map.keys ↔ ∃ value, map.find? key = some value := by
  simp only [keys, List.mem_map, find?_eq_some_iff]
  constructor
  · rintro ⟨entry, member, rfl⟩
    exact ⟨entry.2, member⟩
  · rintro ⟨value, member⟩
    exact ⟨(key, value), member, rfl⟩

theorem find?_of_isEmpty
    [LT κ] [DecidableEq κ]
    {map : OrderedMap κ ν}
    (noBinding : map.isEmpty)
    (key : κ) :
    map.find? key = none := by
  rw [isEmpty, List.isEmpty_iff] at noBinding
  rw [find?, noBinding]
  rfl

theorem nodup_keys
    [LE κ] [LT κ] [Std.IsLinearOrder κ] [Std.LawfulOrderLT κ]
    (map : OrderedMap κ ν) :
    map.keys.Nodup := by
  refine List.pairwise_map.2 (map.ascending.imp ?_)
  intro first second before
  exact Std.ne_of_lt before

/-- After binding a key, the key has the new value and all others have theirs or the default. -/
theorem findD_insert
    [LE κ] [LT κ] [DecidableLT κ] [DecidableEq κ]
    [Std.IsLinearOrder κ] [Std.LawfulOrderLT κ]
    (map : OrderedMap κ ν)
    (key other : κ)
    (value fallback : ν) :
    (map.insert key value).findD other fallback =
      if other = key then value else map.findD other fallback := by
  by_cases same : other = key <;> simp [findD, find?_insert, same]

/-- An item of the row found for a key is one of a row bound to it. -/
theorem mem_findD_nil_iff
    {α : Type}
    [LE κ] [LT κ] [DecidableEq κ] [Std.IsLinearOrder κ] [Std.LawfulOrderLT κ]
    {map : OrderedMap κ (List α)}
    {key : κ}
    {item : α} :
    item ∈ map.findD key [] ↔ ∃ items, (key, items) ∈ map.entries ∧ item ∈ items := by
  simp only [← find?_eq_some_iff, findD]
  cases map.find? key <;> simp

/-- A key behind all others is bound at the end. -/
theorem entries_insert_last
    [LE κ] [LT κ] [DecidableLT κ] [Std.IsLinearOrder κ] [Std.LawfulOrderLT κ]
    {map : OrderedMap κ ν}
    {key : κ}
    (value : ν)
    (behind : ∀ entry ∈ map.entries, entry.1 < key) :
    (map.insert key value).entries = map.entries ++ [(key, value)] := by
  obtain ⟨entries, ascending⟩ := map
  simp only [insert] at behind ⊢
  clear ascending
  induction entries with
  | nil =>
      rfl
  | cons head rest inductionHypothesis =>
      have headBefore := behind head List.mem_cons_self
      have notBefore : ¬ key < head.1 := by
        intro before
        exact Std.lt_irrefl (Std.lt_trans before headBefore)
      have restInsert :=
        inductionHypothesis fun entry member => behind entry (List.mem_cons_of_mem _ member)
      simp [insertEntry, notBefore, headBefore, restInsert]

/-- Two rows of bindings in ascending order are the same if they have the same members. -/
theorem eq_of_mem_iff
    [LE κ] [LT κ] [Std.IsLinearOrder κ] [Std.LawfulOrderLT κ]
    {first second : List (κ × ν)}
    (ascending : first.Pairwise fun one other => one.1 < other.1)
    (alsoAscending : second.Pairwise fun one other => one.1 < other.1)
    (sameMembers : ∀ entry, entry ∈ first ↔ entry ∈ second) :
    first = second := by
  have nodup {bindings : List (κ × ν)}
      (ascending : bindings.Pairwise fun one other => one.1 < other.1) :
      bindings.Nodup := by
    apply ascending.imp
    rintro one other before rfl
    exact Std.lt_irrefl before
  apply List.Perm.eq_of_pairwise ?_ ascending alsoAscending
  · exact (List.perm_ext_iff_of_nodup (nodup ascending) (nodup alsoAscending)).2 sameMembers
  · intro one other _ _ before after
    exact absurd (Std.lt_trans before after) Std.lt_irrefl

/-- Bindings that are listed in ascending order are the bindings of their map. -/
theorem entries_ofList
    [LE κ] [LT κ] [DecidableLT κ] [Std.IsLinearOrder κ] [Std.LawfulOrderLT κ]
    {bindings : List (κ × ν)}
    (ascending : bindings.Pairwise fun first second => first.1 < second.1) :
    (ofList bindings).entries = bindings := by
  induction bindings using List.reverseRecOn with
  | nil =>
      rfl
  | append_singleton earlier last inductionHypothesis =>
      obtain ⟨earlierAscending, -, before⟩ := List.pairwise_append.1 ascending
      have earlierEntries := inductionHypothesis earlierAscending
      have behind : ∀ entry ∈ (ofList earlier).entries, entry.1 < last.1 := by
        intro entry member
        rw [earlierEntries] at member
        exact before entry member last (List.mem_singleton_self last)
      have extended :
          ofList (earlier ++ [last]) = (ofList earlier).insert last.1 last.2 := by
        simp [ofList]
      rw [extended, entries_insert_last last.2 behind, earlierEntries]

/-- A walk that stops at the first failure keeps all that satisfy a condition, if they lead. -/
theorem takeWhile_eq_filter
    {α : Type}
    {items : List α}
    {keep : α → Bool}
    (leading : items.Pairwise fun first second => keep second → keep first) :
    items.takeWhile keep = items.filter keep := by
  induction items with
  | nil =>
      rfl
  | cons head rest inductionHypothesis =>
      obtain ⟨headLeads, restLeading⟩ := List.pairwise_cons.1 leading
      by_cases kept : keep head
      · simpa [kept] using inductionHypothesis restLeading
      · have noneKept : ∀ item ∈ rest, ¬ keep item := by
          intro item member keptItem
          exact kept (headLeads item member keptItem)
        simp [kept, List.filter_eq_nil_iff.2 noneKept]

/-- Dropping the items that lead leaves all that do not satisfy the condition. -/
theorem dropWhile_eq_filter
    {α : Type}
    {items : List α}
    {keep : α → Bool}
    (leading : items.Pairwise fun first second => keep second → keep first) :
    items.dropWhile keep = items.filter fun item => !keep item := by
  induction items with
  | nil =>
      rfl
  | cons head rest inductionHypothesis =>
      obtain ⟨headLeads, restLeading⟩ := List.pairwise_cons.1 leading
      by_cases kept : keep head
      · simpa [kept] using inductionHypothesis restLeading
      · have allDropped : ∀ item ∈ rest, (!keep item) = true := by
          intro item member
          simpa using fun keptItem => kept (headLeads item member keptItem)
        simp [kept, List.filter_eq_self.2 allDropped]

/-- Dropping the bindings in front of an upward closed set of keys leaves the set. -/
theorem dropWhile_entries
    [LT κ]
    (map : OrderedMap κ ν)
    {keep : κ → Bool}
    (upward : ∀ {first second : κ}, first < second → keep first → keep second) :
    map.entries.dropWhile (fun entry => !keep entry.1) = (map.filterKeys keep).entries := by
  rw [dropWhile_eq_filter]
  · simp [filterKeys]
  · refine map.ascending.imp ?_
    intro first second before dropped
    cases kept : keep first.1 with
    | false =>
        rfl
    | true =>
        rw [upward before kept] at dropped
        cases dropped

/-- The first binding of a map has its least key. -/
theorem head?_entries_least
    [LE κ] [LT κ] [Std.IsLinearOrder κ] [Std.LawfulOrderLT κ]
    {map : OrderedMap κ ν}
    {head entry : κ × ν}
    (isHead : map.entries.head? = some head)
    (member : entry ∈ map.entries) :
    head.1 ≤ entry.1 := by
  obtain ⟨rest, shape⟩ := List.head?_eq_some_iff.1 isHead
  have ascending := map.ascending
  rw [shape] at ascending member
  rcases List.mem_cons.1 member with equal | later
  · exact equal ▸ Std.le_refl _
  · exact Std.le_of_lt ((List.pairwise_cons.1 ascending).1 entry later)

end SecondaryIndex.OrderedMap
