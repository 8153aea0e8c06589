namespace SecondaryIndex

/-!
# Finite maps in ascending key order

An `OrderedMap` is the list of its bindings with strictly ascending keys.
Write buffers, version histories, clocks of open readers and the criteria of a
query are all of this kind, because each is either enumerated in key order or
asked for its least key.
-/

/-- A finite map, listed by strictly ascending key. -/
structure OrderedMap (κ ν : Type) [LT κ] where
  entries : List (κ × ν)
  ascending : entries.Pairwise fun first second => first.1 < second.1
  deriving Repr

namespace OrderedMap

variable {κ ν : Type}

/-- Place a binding among bindings in ascending order, replacing an equal key. -/
def insertEntry
    [LT κ] [DecidableLT κ]
    (key : κ)
    (value : ν) :
    List (κ × ν) → List (κ × ν)
  | [] =>
      [(key, value)]
  | entry :: rest =>
      if key < entry.1 then
        (key, value) :: entry :: rest
      else if entry.1 < key then
        entry :: insertEntry key value rest
      else
        (key, value) :: rest

theorem mem_insertEntry
    [LT κ] [DecidableLT κ]
    {key : κ}
    {value : ν}
    {entry : κ × ν}
    {entries : List (κ × ν)}
    (member : entry ∈ insertEntry key value entries) :
    entry = (key, value) ∨ entry ∈ entries := by
  induction entries with
  | nil =>
      simp [insertEntry] at member
      exact .inl member
  | cons head rest inductionHypothesis =>
      rw [insertEntry] at member
      split at member
      · exact (List.mem_cons.1 member)
      · split at member
        · rcases List.mem_cons.1 member with equal | later
          · exact .inr (equal ▸ List.mem_cons_self)
          · rcases inductionHypothesis later with equal | present
            · exact .inl equal
            · exact .inr (List.mem_cons_of_mem _ present)
        · rcases List.mem_cons.1 member with equal | later
          · exact .inl equal
          · exact .inr (List.mem_cons_of_mem _ later)

theorem insertEntry_ascending
    [LE κ] [LT κ] [DecidableLT κ] [Std.IsLinearOrder κ] [Std.LawfulOrderLT κ]
    (key : κ)
    (value : ν)
    {entries : List (κ × ν)}
    (ascending : entries.Pairwise fun first second => first.1 < second.1) :
    (insertEntry key value entries).Pairwise fun first second => first.1 < second.1 := by
  induction entries with
  | nil =>
      simp [insertEntry]
  | cons head rest inductionHypothesis =>
      obtain ⟨headLeast, restAscending⟩ := List.pairwise_cons.1 ascending
      rw [insertEntry]
      split
      next before =>
        refine List.pairwise_cons.2 ⟨?_, ascending⟩
        intro entry member
        rcases List.mem_cons.1 member with equal | later
        · exact equal ▸ before
        · exact Std.lt_trans before (headLeast entry later)
      next notBefore =>
        split
        next after =>
          refine List.pairwise_cons.2 ⟨?_, inductionHypothesis restAscending⟩
          intro entry member
          rcases mem_insertEntry member with equal | present
          · exact equal ▸ after
          · exact headLeast entry present
        next notAfter =>
          have equal : head.1 = key :=
            Std.le_antisymm (Std.not_lt.1 notBefore) (Std.not_lt.1 notAfter)
          refine List.pairwise_cons.2 ⟨?_, restAscending⟩
          intro entry member
          exact equal ▸ headLeast entry member

/-- The map without bindings. -/
def empty
    [LT κ] :
    OrderedMap κ ν where
  entries :=
    []
  ascending :=
    .nil

instance
    [LT κ] :
    Inhabited (OrderedMap κ ν) :=
  ⟨empty⟩

/-- Whether the map has no binding. -/
def isEmpty
    [LT κ]
    (map : OrderedMap κ ν) :
    Bool :=
  map.entries.isEmpty

/-- The keys in ascending order. -/
def keys
    [LT κ]
    (map : OrderedMap κ ν) :
    List κ :=
  map.entries.map Prod.fst

/-- The value bound to a key, if there is one. -/
def find?
    [LT κ] [DecidableEq κ]
    (key : κ)
    (map : OrderedMap κ ν) :
    Option ν :=
  (map.entries.find? fun entry => entry.1 = key).map Prod.snd

/-- Bind a key, replacing what it was bound to. -/
def insert
    [LE κ] [LT κ] [DecidableLT κ] [Std.IsLinearOrder κ] [Std.LawfulOrderLT κ]
    (key : κ)
    (value : ν)
    (map : OrderedMap κ ν) :
    OrderedMap κ ν where
  entries :=
    insertEntry key value map.entries
  ascending :=
    insertEntry_ascending key value map.ascending

/-- Keep the bindings whose key satisfies a condition. -/
def filterKeys
    [LT κ]
    (keep : κ → Bool)
    (map : OrderedMap κ ν) :
    OrderedMap κ ν where
  entries :=
    map.entries.filter fun entry => keep entry.1
  ascending :=
    map.ascending.filter _

/-- Remove a key. -/
def erase
    [LT κ] [DecidableEq κ]
    (key : κ)
    (map : OrderedMap κ ν) :
    OrderedMap κ ν :=
  map.filterKeys fun other => other ≠ key

/-- The value bound to a key, or a default where the key is not bound. -/
def findD
    [LT κ] [DecidableEq κ]
    (key : κ)
    (fallback : ν)
    (map : OrderedMap κ ν) :
    ν :=
  (map.find? key).getD fallback

/-- Bindings that are listed in any order; the last one of a key counts. -/
def ofList
    [LE κ] [LT κ] [DecidableLT κ] [Std.IsLinearOrder κ] [Std.LawfulOrderLT κ]
    (bindings : List (κ × ν)) :
    OrderedMap κ ν :=
  bindings.foldl (fun map binding => map.insert binding.1 binding.2) empty

/-- Each key is listed once, so being listed and being found are the same. -/
theorem find?_eq_some_iff
    [LE κ] [LT κ] [DecidableEq κ] [Std.IsLinearOrder κ] [Std.LawfulOrderLT κ]
    {map : OrderedMap κ ν}
    {key : κ}
    {value : ν} :
    map.find? key = some value ↔ (key, value) ∈ map.entries := by
  obtain ⟨entries, ascending⟩ := map
  simp only [find?]
  induction entries with
  | nil =>
      simp
  | cons head rest inductionHypothesis =>
      obtain ⟨headLeast, restAscending⟩ := List.pairwise_cons.1 ascending
      rw [List.find?_cons]
      by_cases isHead : head.1 = key
      · simp only [isHead, decide_true, Option.map_some, Option.some.injEq, List.mem_cons]
        constructor
        · intro sameValue
          exact .inl (Prod.ext isHead.symm sameValue.symm)
        · rintro (equal | later)
          · exact (congrArg Prod.snd equal).symm
          · exact absurd (isHead ▸ headLeast _ later) Std.lt_irrefl
      · simp only [isHead, decide_false, List.mem_cons]
        rw [inductionHypothesis restAscending]
        constructor
        · exact .inr
        · rintro (equal | later)
          · exact absurd (congrArg Prod.fst equal).symm isHead
          · exact later

@[simp]
theorem find?_empty
    [LT κ] [DecidableEq κ]
    (key : κ) :
    (empty : OrderedMap κ ν).find? key = none :=
  rfl

/-- After binding a key, the key has the new value and all others have theirs. -/
theorem find?_insert
    [LE κ] [LT κ] [DecidableLT κ] [DecidableEq κ]
    [Std.IsLinearOrder κ] [Std.LawfulOrderLT κ]
    (map : OrderedMap κ ν)
    (key other : κ)
    (value : ν) :
    (map.insert key value).find? other =
      if other = key then some value else map.find? other := by
  obtain ⟨entries, ascending⟩ := map
  simp only [find?, insert]
  clear ascending
  induction entries with
  | nil =>
      by_cases same : key = other
      · simp [insertEntry, same]
      · simp [insertEntry, same, Ne.symm same]
  | cons head rest inductionHypothesis =>
      rw [insertEntry]
      split
      · by_cases same : key = other
        · simp [same]
        · simp [List.find?_cons, same, Ne.symm same]
      next notBefore =>
        split
        next after =>
          rw [List.find?_cons, List.find?_cons]
          by_cases isHead : head.1 = other
          · have different : other ≠ key := by
              rintro rfl
              exact absurd (isHead ▸ after) Std.lt_irrefl
            simp [isHead, different]
          · simpa [isHead] using inductionHypothesis
        next notAfter =>
          have equal : head.1 = key :=
            Std.le_antisymm (Std.not_lt.1 notBefore) (Std.not_lt.1 notAfter)
          by_cases same : key = other
          · simp [same]
          · simp [equal, same, Ne.symm same]

/-- A map narrowed to some keys finds those and no others. -/
theorem find?_filterKeys
    [LT κ] [DecidableEq κ]
    (map : OrderedMap κ ν)
    (keep : κ → Bool)
    (key : κ) :
    (map.filterKeys keep).find? key = if keep key then map.find? key else none := by
  obtain ⟨entries, ascending⟩ := map
  simp only [find?, filterKeys]
  clear ascending
  induction entries with
  | nil =>
      simp
  | cons head rest inductionHypothesis =>
      rw [List.filter_cons, List.find?_cons]
      by_cases isHead : head.1 = key
      · subst isHead
        by_cases kept : keep head.1
        · simp [kept]
        · simpa [kept] using inductionHypothesis
      · by_cases kept : keep head.1
        · simpa [kept, isHead] using inductionHypothesis
        · simpa [kept, isHead] using inductionHypothesis

/-- After removing a key, all others have their values. -/
theorem find?_erase
    [LT κ] [DecidableEq κ]
    (map : OrderedMap κ ν)
    (key other : κ) :
    (map.erase key).find? other = if other = key then none else map.find? other := by
  rw [erase, find?_filterKeys]
  by_cases same : other = key <;> simp [same]

end OrderedMap

end SecondaryIndex
