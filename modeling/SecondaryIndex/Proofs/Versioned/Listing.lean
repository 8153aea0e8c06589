import SecondaryIndex.Proofs.Bytes
import SecondaryIndex.Proofs.Versioned.FirstEntry

namespace SecondaryIndex.Versioned

/-!
# The entries of a view

The entries that a transaction lists within a bound are exactly the bindings of
its view there, by ascending key.  The first of them is the one that a cursor
finds.
-/

/-- Entries by strictly ascending key. -/
abbrev Ascending
    {ν : Type}
    (entries : List (Bytes × ν)) :
    Prop :=
  entries.Pairwise fun first second => first.1 < second.1

/-- Only a value makes an entry. -/
theorem mem_live
    {key other value : Bytes}
    {content : Option Bytes} :
    (other, value) ∈ live key content ↔ other = key ∧ content = some value := by
  cases content with
  | none =>
      simp [live]
  | some stored =>
      simp [live, eq_comm]

theorem mem_liveWrites
    {writes : List (Bytes × Option Bytes)}
    {key value : Bytes} :
    (key, value) ∈ liveWrites writes ↔ (key, some value) ∈ writes := by
  simp only [liveWrites, List.mem_flatMap, mem_live]
  constructor
  · rintro ⟨write, member, rfl, present⟩
    rw [← present]
    exact member
  · intro member
    exact ⟨(key, some value), member, rfl, rfl⟩

/-- Ascending writes part at a key into lesser ones, perhaps one to the key, and greater ones. -/
theorem writes_part
    {writes : List (Bytes × Option Bytes)}
    (ascending : Ascending writes)
    (here : Bytes) :
    ∃ earlier later,
      (∀ write ∈ earlier, write.1 < here) ∧ (∀ write ∈ later, here < write.1) ∧
        (writes = earlier ++ later ∨ ∃ content, writes = earlier ++ (here, content) :: later) := by
  induction writes with
  | nil =>
      exact ⟨[], [], by simp, by simp, .inl rfl⟩
  | cons head rest inductionHypothesis =>
      obtain ⟨headLeast, restAscending⟩ := List.pairwise_cons.1 ascending
      by_cases before : head.1 < here
      · obtain ⟨earlier, later, earlierBefore, laterBehind, shape⟩ :=
          inductionHypothesis restAscending
        refine ⟨head :: earlier, later, ?_, laterBehind, ?_⟩
        · intro write member
          rcases List.mem_cons.1 member with isHead | inEarlier
          · exact isHead ▸ before
          · exact earlierBefore write inEarlier
        · rcases shape with rest | ⟨content, rest⟩
          · exact .inl (by rw [rest]; rfl)
          · exact .inr ⟨content, by rw [rest]; rfl⟩
      · by_cases same : head.1 = here
        · refine ⟨[], rest, by simp, ?_, .inr ⟨head.2, by rw [← same]; rfl⟩⟩
          intro write member
          exact same ▸ headLeast write member
        · have behind : here < head.1 :=
            Std.lt_of_le_of_ne (Std.not_lt.1 before) (Ne.symm same)
          refine ⟨[], head :: rest, by simp, ?_, .inl rfl⟩
          intro write member
          rcases List.mem_cons.1 member with isHead | inRest
          · exact isHead ▸ behind
          · exact Std.lt_trans behind (headLeast write inRest)

/-- What a snapshot shows under writes: a written value, or a shown one that is not written. -/
def Merged
    (snapshot : Nat)
    (histories : List (Bytes × History))
    (writes : List (Bytes × Option Bytes))
    (key value : Bytes) :
    Prop :=
  (key, some value) ∈ writes ∨
    (∀ content, (key, content) ∉ writes) ∧
      ∃ history, (key, history) ∈ histories ∧ history.visible snapshot = some value

section Front

variable
  {snapshot : Nat}
  {here : Bytes}
  {history : History}
  {histories : List (Bytes × History)}
  {earlier later : List (Bytes × Option Bytes)}
  {key value : Bytes}

/-- A walk up to a key stops behind the lesser writes. -/
theorem walk_lesser
    (earlierBefore : ∀ write ∈ earlier, write.1 < here)
    (laterFrom : ∀ write ∈ later, ¬ write.1 < here) :
    (earlier ++ later).takeWhile (fun write => write.1 < here) = earlier ∧
      (earlier ++ later).dropWhile (fun write => write.1 < here) = later := by
  have passed : ∀ write ∈ earlier, decide (write.1 < here) = true := by
    intro write member
    exact decide_eq_true (earlierBefore write member)
  rw [List.takeWhile_append_of_pos passed, List.dropWhile_append_of_pos passed]
  cases later with
  | nil =>
      simp
  | cons write others =>
      have stops := laterFrom write List.mem_cons_self
      simp [stops]

/-- The merge passes lesser writes, then the history if its key is not written. -/
theorem merge_of_not_written
    (earlierBefore : ∀ write ∈ earlier, write.1 < here)
    (laterBehind : ∀ write ∈ later, here < write.1) :
    merge snapshot ((here, history) :: histories) (earlier ++ later) =
      liveWrites earlier ++
        (live here (history.visible snapshot) ++ merge snapshot histories later) := by
  have laterFrom : ∀ write ∈ later, ¬ write.1 < here := by
    intro write member before
    exact Std.lt_irrefl (Std.lt_trans before (laterBehind write member))
  obtain ⟨taken, left⟩ := walk_lesser earlierBefore laterFrom
  rw [merge, taken, left]
  cases later with
  | nil =>
      rfl
  | cons write others =>
      have different : write.1 ≠ here :=
        (Std.ne_of_lt (laterBehind write List.mem_cons_self)).symm
      simp [different]

/-- The merge passes lesser writes, then the write that hides the history. -/
theorem merge_of_written
    (content : Option Bytes)
    (earlierBefore : ∀ write ∈ earlier, write.1 < here)
    (laterBehind : ∀ write ∈ later, here < write.1) :
    merge snapshot ((here, history) :: histories) (earlier ++ (here, content) :: later) =
      liveWrites earlier ++ (live here content ++ merge snapshot histories later) := by
  have laterFrom : ∀ write ∈ (here, content) :: later, ¬ write.1 < here := by
    intro write member before
    rcases List.mem_cons.1 member with isHere | inLater
    · cases isHere
      exact Std.lt_irrefl before
    · exact Std.lt_irrefl (Std.lt_trans before (laterBehind write inLater))
  obtain ⟨taken, left⟩ := walk_lesser earlierBefore laterFrom
  rw [merge, taken, left]
  simp

/-- A first history whose key is not written shows its own value. -/
theorem merged_of_not_written
    (least : ∀ other ∈ histories, here < other.1)
    (earlierBefore : ∀ write ∈ earlier, write.1 < here)
    (laterBehind : ∀ write ∈ later, here < write.1) :
    Merged snapshot ((here, history) :: histories) (earlier ++ later) key value ↔
      (key, some value) ∈ earlier ∨
        key = here ∧ history.visible snapshot = some value ∨
          Merged snapshot histories later key value := by
  have irreflexive : ∀ other : Bytes, ¬ other < other :=
    fun _ => Std.lt_irrefl
  have transitive : ∀ one other last : Bytes, one < other → other < last → one < last :=
    fun _ _ _ => Std.lt_trans
  grind [Merged]

/-- A first history whose key is written shows what is written. -/
theorem merged_of_written
    {content : Option Bytes}
    (least : ∀ other ∈ histories, here < other.1)
    (earlierBefore : ∀ write ∈ earlier, write.1 < here)
    (laterBehind : ∀ write ∈ later, here < write.1) :
    Merged snapshot ((here, history) :: histories) (earlier ++ (here, content) :: later)
        key value ↔
      (key, some value) ∈ earlier ∨
        key = here ∧ content = some value ∨
          Merged snapshot histories later key value := by
  have irreflexive : ∀ other : Bytes, ¬ other < other :=
    fun _ => Std.lt_irrefl
  have transitive : ∀ one other last : Bytes, one < other → other < last → one < last :=
    fun _ _ _ => Std.lt_trans
  grind [Merged]

end Front

/-- The merge lists the written values, and the shown ones that are not written. -/
theorem mem_merge
    {snapshot : Nat}
    {histories : List (Bytes × History)}
    {writes : List (Bytes × Option Bytes)}
    {key value : Bytes}
    (historiesAscend : Ascending histories)
    (writesAscend : Ascending writes) :
    (key, value) ∈ merge snapshot histories writes ↔
      Merged snapshot histories writes key value := by
  induction histories generalizing writes with
  | nil =>
      simp [merge, mem_liveWrites, Merged]
  | cons history rest inductionHypothesis =>
      obtain ⟨here, versions⟩ := history
      obtain ⟨least, restAscend⟩ := List.pairwise_cons.1 historiesAscend
      obtain ⟨earlier, later, earlierBefore, laterBehind, shape⟩ := writes_part writesAscend here
      rcases shape with rfl | ⟨content, rfl⟩
      · have laterAscend := (List.pairwise_append.1 writesAscend).2.1
        rw [merge_of_not_written earlierBefore laterBehind,
          merged_of_not_written least earlierBefore laterBehind]
        simp [mem_liveWrites, mem_live, inductionHypothesis restAscend laterAscend]
      · have laterAscend := (List.pairwise_cons.1 (List.pairwise_append.1 writesAscend).2.1).2
        rw [merge_of_written content earlierBefore laterBehind,
          merged_of_written least earlierBefore laterBehind]
        simp [mem_liveWrites, mem_live, inductionHypothesis restAscend laterAscend]

/-- The keys that a merge lists come from a history or a write. -/
theorem key_of_mem_merge
    {snapshot : Nat}
    {histories : List (Bytes × History)}
    {writes : List (Bytes × Option Bytes)}
    {entry : Entry}
    (historiesAscend : Ascending histories)
    (writesAscend : Ascending writes)
    (member : entry ∈ merge snapshot histories writes) :
    (∃ history ∈ histories, history.1 = entry.1) ∨ ∃ write ∈ writes, write.1 = entry.1 := by
  rcases (mem_merge historiesAscend writesAscend).1 member with written | ⟨-, history, shown, -⟩
  · exact .inr ⟨_, written, rfl⟩
  · exact .inl ⟨_, shown, rfl⟩

theorem liveWrites_ascending
    {writes : List (Bytes × Option Bytes)}
    (ascending : Ascending writes) :
    Ascending (liveWrites writes) := by
  induction writes with
  | nil =>
      exact .nil
  | cons write rest inductionHypothesis =>
      obtain ⟨key, content⟩ := write
      obtain ⟨least, restAscending⟩ := List.pairwise_cons.1 ascending
      cases content with
      | none =>
          exact inductionHypothesis restAscending
      | some value =>
          refine List.pairwise_cons.2 ⟨?_, inductionHypothesis restAscending⟩
          intro entry member
          exact least _ (mem_liveWrites.1 member)

/-- Lesser entries, the entry of a key, and greater entries ascend. -/
theorem ascending_around
    {lesser greater : List Entry}
    {here : Bytes}
    (content : Option Bytes)
    (lesserAscend : Ascending lesser)
    (greaterAscend : Ascending greater)
    (before : ∀ entry ∈ lesser, entry.1 < here)
    (behind : ∀ entry ∈ greater, here < entry.1) :
    Ascending (lesser ++ (live here content ++ greater)) := by
  refine List.pairwise_append.2 ⟨lesserAscend, ?_, ?_⟩
  · cases content with
    | none =>
        exact greaterAscend
    | some value =>
        exact List.pairwise_cons.2 ⟨behind, greaterAscend⟩
  · intro first firstMember second secondMember
    rcases List.mem_append.1 secondMember with isHere | isGreater
    · exact (mem_live.1 isHere).1 ▸ before first firstMember
    · exact Std.lt_trans (before first firstMember) (behind second isGreater)

/-- The merge lists entries by strictly ascending key. -/
theorem merge_ascending
    {snapshot : Nat}
    {histories : List (Bytes × History)}
    {writes : List (Bytes × Option Bytes)}
    (historiesAscend : Ascending histories)
    (writesAscend : Ascending writes) :
    Ascending (merge snapshot histories writes) := by
  induction histories generalizing writes with
  | nil =>
      exact liveWrites_ascending writesAscend
  | cons history rest inductionHypothesis =>
      obtain ⟨here, versions⟩ := history
      obtain ⟨least, restAscend⟩ := List.pairwise_cons.1 historiesAscend
      obtain ⟨earlier, later, earlierBefore, laterBehind, shape⟩ := writes_part writesAscend here
      have lesser : ∀ entry ∈ liveWrites earlier, entry.1 < here := by
        intro entry member
        exact earlierBefore _ (mem_liveWrites.1 member)
      have greater (laterAscend : Ascending later) :
          ∀ entry ∈ merge snapshot rest later, here < entry.1 := by
        intro entry member
        rcases key_of_mem_merge restAscend laterAscend member with
          ⟨other, otherMember, same⟩ | ⟨write, writeMember, same⟩
        · exact same ▸ least other otherMember
        · exact same ▸ laterBehind write writeMember
      rcases shape with rfl | ⟨content, rfl⟩
      · obtain ⟨earlierAscend, laterAscend, -⟩ := List.pairwise_append.1 writesAscend
        rw [merge_of_not_written earlierBefore laterBehind]
        exact ascending_around _ (liveWrites_ascending earlierAscend)
          (inductionHypothesis restAscend laterAscend) lesser (greater laterAscend)
      · obtain ⟨earlierAscend, fromHere, -⟩ := List.pairwise_append.1 writesAscend
        have laterAscend := (List.pairwise_cons.1 fromHere).2
        rw [merge_of_written content earlierBefore laterBehind]
        exact ascending_around _ (liveWrites_ascending earlierAscend)
          (inductionHypothesis restAscend laterAscend) lesser (greater laterAscend)

namespace Transaction

/-- The listing within a bound, as the merge of the histories and writes within it. -/
theorem entriesWithin_eq
    (store : Store)
    (transaction : Transaction)
    (bound : Bound) :
    transaction.entriesWithin store bound =
      merge transaction.snapshot (store.histories.filterKeys bound.admits).entries
        (transaction.writes.filterKeys bound.admits).entries := by
  rw [entriesWithin, store.histories.dropWhile_entries Bound.admits_of_lt,
    transaction.writes.dropWhile_entries Bound.admits_of_lt]

theorem entriesWithin_ascending
    (store : Store)
    (transaction : Transaction)
    (bound : Bound) :
    Ascending (transaction.entriesWithin store bound) := by
  rw [entriesWithin_eq]
  exact merge_ascending (OrderedMap.ascending _) (OrderedMap.ascending _)

/-- A transaction lists within a bound exactly what its view has there. -/
theorem mem_entriesWithin
    {store : Store}
    {transaction : Transaction}
    {bound : Bound}
    {key value : Bytes} :
    (key, value) ∈ transaction.entriesWithin store bound ↔
      bound.admits key ∧ transaction.get store key = some value := by
  rw [entriesWithin_eq, mem_merge (OrderedMap.ascending _) (OrderedMap.ascending _), Merged]
  simp only [← OrderedMap.find?_eq_some_iff, OrderedMap.find?_filterKeys]
  by_cases admitted : bound.admits key
  · cases written : transaction.writes.find? key with
    | some content =>
        simp [admitted, get_of_written written]
    | none =>
        simp [admitted, get_of_not_written written, Store.valueAt_eq_bind,
          Option.bind_eq_some_iff]
  · simp [admitted]

theorem lists_entriesWithin
    (store : Store)
    (transaction : Transaction)
    (bound : Bound) :
    Lists (transaction.get store) bound (transaction.entriesWithin store bound) :=
  ⟨transaction.entriesWithin_ascending store bound, fun _ _ => mem_entriesWithin⟩

/-- A cursor finds the first of the listed entries. -/
theorem firstWithin_eq_head?
    (store : Store)
    (transaction : Transaction)
    (bound : Bound) :
    transaction.firstWithin store bound = (transaction.entriesWithin store bound).head? :=
  (transaction.firstWithin_firstIn store bound).unique
    (transaction.lists_entriesWithin store bound).firstIn

/-- A transaction lists under a lead exactly what its view has there. -/
theorem mem_entriesUnder
    {store : Store}
    {transaction : Transaction}
    {lead key value : Bytes} :
    (key, value) ∈ transaction.entriesUnder store lead ↔
      key.startsWith lead ∧ transaction.get store key = some value := by
  have fromLead : ∀ entry ∈ transaction.entriesWithin store (.atLeast lead), lead ≤ entry.1 := by
    intro entry member
    simpa [Bound.admits] using (mem_entriesWithin.1 member).1
  have leading :
      (transaction.entriesWithin store (.atLeast lead)).Pairwise fun first second =>
        second.1.startsWith lead → first.1.startsWith lead := by
    refine (transaction.entriesWithin_ascending store (.atLeast lead)).imp_of_mem ?_
    intro first second firstMember _ before under
    exact Bytes.startsWith_of_between (fromLead first firstMember) before under
  rw [entriesUnder, OrderedMap.takeWhile_eq_filter leading, List.mem_filter, mem_entriesWithin]
  constructor
  · rintro ⟨⟨-, present⟩, under⟩
    exact ⟨under, present⟩
  · rintro ⟨under, present⟩
    refine ⟨⟨?_, present⟩, under⟩
    simpa [Bound.admits] using Bytes.le_of_startsWith under

theorem entriesUnder_ascending
    (store : Store)
    (transaction : Transaction)
    (lead : Bytes) :
    Ascending (transaction.entriesUnder store lead) :=
  (transaction.entriesWithin_ascending store _).sublist (List.takeWhile_sublist _)

end Transaction

end SecondaryIndex.Versioned
