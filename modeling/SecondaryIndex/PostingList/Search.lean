import SecondaryIndex.PostingList

namespace SecondaryIndex

/-!
# Searching keys by halving

Keys in ascending order are searched by looking at the one in the middle and
going on in the half in front of it or behind it.  The search ends at the index
of the key or, if the key is missing, at the index where it belongs.  A posting
list answers by that search and changes at that index and nowhere else, so
`PostingList.contains`, `add?` and `remove?` can be told from it alone.
-/

/-- Where a search for a key ends. -/
inductive Position where
  | found (index : Nat)
  | missing (index : Nat)
  deriving Repr, DecidableEq

namespace Position

/-- The same position, where some more keys stand in front. -/
def behind
    (count : Nat) :
    Position → Position
  | .found index =>
      .found (count + index)
  | .missing index =>
      .missing (count + index)

/-- The position of a key among ascending keys, found by halving them. -/
def among
    (key : Bytes)
    (keys : List Bytes) :
    Position :=
  let half := keys.length / 2
  match _split : keys.drop half with
  | [] =>
      .missing half
  | middle :: upper =>
      if middle < key then
        (among key upper).behind (half + 1)
      else if key < middle then
        among key (keys.take half)
      else
        .found half
termination_by keys.length
decreasing_by
  · have lengths := congrArg List.length _split
    simp only [List.length_drop, List.length_cons] at lengths
    omega
  · have lengths := congrArg List.length _split
    simp only [List.length_drop, List.length_cons] at lengths
    simp only [List.length_take]
    omega

/-- Whether a position parts the keys that come before a key from those that come after it. -/
def Parts
    (key : Bytes)
    (keys : List Bytes) :
    Position → Prop
  | .found index =>
      ∃ lower upper,
        keys = lower ++ key :: upper ∧ lower.length = index ∧
          (∀ other ∈ lower, other < key) ∧ ∀ other ∈ upper, key < other
  | .missing index =>
      ∃ lower upper,
        keys = lower ++ upper ∧ lower.length = index ∧
          (∀ other ∈ lower, other < key) ∧ ∀ other ∈ upper, key < other

namespace Parts

variable
  {key : Bytes}
  {keys lower upper : List Bytes}
  {position : Position}

/-- More keys that come before the key may stand in front. -/
theorem below
    (parts : Parts key upper position)
    (before : ∀ other ∈ lower, other < key) :
    Parts key (lower ++ upper) (position.behind lower.length) := by
  cases position with
  | found index =>
      obtain ⟨nearer, further, rfl, rfl, lesser, greater⟩ := parts
      refine ⟨lower ++ nearer, further, by simp, by simp, ?_, greater⟩
      exact List.forall_mem_append.2 ⟨before, lesser⟩
  | missing index =>
      obtain ⟨nearer, further, rfl, rfl, lesser, greater⟩ := parts
      refine ⟨lower ++ nearer, further, by simp, by simp, ?_, greater⟩
      exact List.forall_mem_append.2 ⟨before, lesser⟩

/-- More keys that come after the key may stand behind. -/
theorem above
    (parts : Parts key lower position)
    (after : ∀ other ∈ upper, key < other) :
    Parts key (lower ++ upper) position := by
  cases position with
  | found index =>
      obtain ⟨nearer, further, rfl, rfl, lesser, greater⟩ := parts
      refine ⟨nearer, further ++ upper, by simp, rfl, lesser, ?_⟩
      exact List.forall_mem_append.2 ⟨greater, after⟩
  | missing index =>
      obtain ⟨nearer, further, rfl, rfl, lesser, greater⟩ := parts
      refine ⟨nearer, further ++ upper, by simp, rfl, lesser, ?_⟩
      exact List.forall_mem_append.2 ⟨greater, after⟩

end Parts

/-- What stands around the middle of ascending keys. -/
theorem around_middle
    {keys upper : List Bytes}
    {middle : Bytes}
    {half : Nat}
    (ascending : keys.Pairwise (· < ·))
    (split : keys.drop half = middle :: upper) :
    keys = keys.take half ++ middle :: upper ∧ (keys.take half).length = half ∧
      (keys.take half).Pairwise (· < ·) ∧ upper.Pairwise (· < ·) ∧
        (∀ other ∈ keys.take half, other < middle) ∧ ∀ other ∈ upper, middle < other := by
  have shape : keys = keys.take half ++ middle :: upper := by
    rw [← split, List.take_append_drop]
  have bounded : half < keys.length := by
    have lengths := congrArg List.length split
    simp only [List.length_drop, List.length_cons] at lengths
    omega
  rw [shape, List.pairwise_append, List.pairwise_cons] at ascending
  obtain ⟨lowerAscending, ⟨after, upperAscending⟩, before⟩ := ascending
  refine ⟨shape, List.length_take_of_le (Nat.le_of_lt bounded), lowerAscending, upperAscending,
    ?_, after⟩
  intro other member
  exact before other member middle List.mem_cons_self

/-- In ascending keys, a search by halving ends where the key is or belongs. -/
theorem parts_among
    (key : Bytes)
    {keys : List Bytes}
    (ascending : keys.Pairwise (· < ·)) :
    Parts key keys (among key keys) := by
  fun_induction among key keys with
  | case1 keys half split =>
      have none : keys = [] := by
        rw [List.drop_eq_nil_iff] at split
        apply List.eq_nil_of_length_eq_zero
        omega
      subst none
      exact ⟨[], [], rfl, rfl, nofun, nofun⟩
  | case2 keys half middle upper split before inductionHypothesis =>
      obtain ⟨shape, size, -, upperAscending, lower, -⟩ := around_middle ascending split
      have allBefore : ∀ other ∈ keys.take half ++ [middle], other < key := by
        refine List.forall_mem_append.2 ⟨?_, List.forall_mem_singleton.2 before⟩
        intro other member
        exact Std.lt_trans (lower other member) before
      have found := (inductionHypothesis upperAscending).below allBefore
      rw [List.append_assoc, List.singleton_append, ← shape] at found
      rwa [List.length_append, size] at found
  | case3 keys half middle upper split notBefore after inductionHypothesis =>
      obtain ⟨shape, -, lowerAscending, -, -, upperAfter⟩ := around_middle ascending split
      have allAfter : ∀ other ∈ middle :: upper, key < other := by
        refine List.forall_mem_cons.2 ⟨after, ?_⟩
        intro other member
        exact Std.lt_trans after (upperAfter other member)
      have found := (inductionHypothesis lowerAscending).above allAfter
      rwa [← shape] at found
  | case4 keys half middle upper split notBefore notAfter =>
      obtain ⟨shape, size, -, -, lower, upperAfter⟩ := around_middle ascending split
      have same : middle = key :=
        Std.le_antisymm (Std.not_lt.1 notAfter) (Std.not_lt.1 notBefore)
      subst same
      exact ⟨keys.take half, upper, shape, size, lower, upperAfter⟩

end Position

namespace PostingList

/-- The position of a key in a posting list. -/
def position
    (key : Bytes)
    (list : PostingList) :
    Position :=
  Position.among key list.keys

variable
  {list : PostingList}
  {key : Bytes}
  {index : Nat}
  {lower upper : List Bytes}

/-- A key is placed behind those that come before it and in front of those that come after it. -/
theorem insertKey_between
    (before : ∀ other ∈ lower, other < key)
    (after : ∀ other ∈ upper, key < other) :
    insertKey key (lower ++ upper) = (lower ++ upper).insertIdx lower.length key := by
  induction lower with
  | nil =>
      cases upper with
      | nil =>
          rfl
      | cons head rest =>
          have isBefore : key < head := after head List.mem_cons_self
          simp [insertKey, isBefore]
  | cons head rest inductionHypothesis =>
      obtain ⟨headBefore, restBefore⟩ := List.forall_mem_cons.1 before
      have notAfter : ¬ key < head := Std.not_lt.2 (Std.le_of_lt headBefore)
      simp [insertKey, headBefore, notAfter, inductionHypothesis restBefore]

/-- A key is taken out from between those that come before it and those that come after it. -/
theorem filter_between
    (before : ∀ other ∈ lower, other < key)
    (after : ∀ other ∈ upper, key < other) :
    (lower ++ key :: upper).filter (· ≠ key) = (lower ++ key :: upper).eraseIdx lower.length := by
  have lowerStays : lower.filter (· ≠ key) = lower := by
    refine List.filter_eq_self.2 ?_
    intro other member
    simpa using Std.ne_of_lt (before other member)
  have upperStays : upper.filter (· ≠ key) = upper := by
    refine List.filter_eq_self.2 ?_
    intro other member
    simpa using (Std.ne_of_lt (after other member)).symm
  rw [List.filter_append, List.filter_cons_of_neg (by simp), lowerStays, upperStays,
    List.eraseIdx_append_of_length_le (Nat.le_refl _), Nat.sub_self, List.eraseIdx_cons_zero]

/-- A key that is found is a member, and its removal takes it out at its index. -/
theorem changes_of_found
    (found : list.position key = .found index) :
    key ∈ list.keys ∧ list.add? key = none ∧
      (list.remove? key).map keys = some (list.keys.eraseIdx index) := by
  have parts := Position.parts_among key list.ascending
  rw [position] at found
  rw [found] at parts
  obtain ⟨lower, upper, shape, size, before, after⟩ := parts
  have member : key ∈ list.keys := by
    simp [shape]
  have isMember : list.contains key = true := contains_iff.2 member
  have erased : (list.erase key).keys = list.keys.eraseIdx index := by
    show list.keys.filter (· ≠ key) = list.keys.eraseIdx index
    rw [shape, ← size]
    exact filter_between before after
  exact ⟨member, by simp [add?, isMember], by simp [remove?, isMember, erased]⟩

/-- A key that is missing is no member, and its addition puts it in at its index. -/
theorem changes_of_missing
    (missing : list.position key = .missing index) :
    key ∉ list.keys ∧ list.remove? key = none ∧
      (list.add? key).map keys = some (list.keys.insertIdx index key) := by
  have parts := Position.parts_among key list.ascending
  rw [position] at missing
  rw [missing] at parts
  obtain ⟨lower, upper, shape, size, before, after⟩ := parts
  have noMember : key ∉ list.keys := by
    rw [shape, List.mem_append]
    rintro (inLower | inUpper)
    · exact Std.lt_irrefl (before key inLower)
    · exact Std.lt_irrefl (after key inUpper)
  have isNoMember : ¬ list.contains key = true := fun isMember => noMember (contains_iff.1 isMember)
  have inserted : (list.insert key).keys = list.keys.insertIdx index key := by
    show insertKey key list.keys = list.keys.insertIdx index key
    rw [shape, ← size]
    exact insertKey_between before after
  exact ⟨noMember, by simp [remove?, isNoMember], by simp [add?, isNoMember, inserted]⟩

/-- A key is a member if the search finds it. -/
theorem contains_eq_position
    (list : PostingList)
    (key : Bytes) :
    list.contains key =
      match list.position key with
      | .found _ => true
      | .missing _ => false := by
  cases place : list.position key with
  | found index =>
      exact contains_iff.2 (changes_of_found place).1
  | missing index =>
      have noMember := (changes_of_missing place).1
      exact Bool.eq_false_iff.2 fun contained => noMember (contains_iff.1 contained)

/-- A key is added at the index where the search misses it. -/
theorem keys_add?_eq_position
    (list : PostingList)
    (key : Bytes) :
    (list.add? key).map keys =
      match list.position key with
      | .found _ => none
      | .missing index => some (list.keys.insertIdx index key) := by
  cases place : list.position key with
  | found index =>
      rw [(changes_of_found place).2.1]
      rfl
  | missing index =>
      exact (changes_of_missing place).2.2

/-- A key is removed at the index where the search finds it. -/
theorem keys_remove?_eq_position
    (list : PostingList)
    (key : Bytes) :
    (list.remove? key).map keys =
      match list.position key with
      | .found index => some (list.keys.eraseIdx index)
      | .missing _ => none := by
  cases place : list.position key with
  | found index =>
      exact (changes_of_found place).2.2
  | missing index =>
      rw [(changes_of_missing place).2.1]
      rfl

end PostingList

end SecondaryIndex
