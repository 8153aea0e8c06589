import SecondaryIndex.Proofs.Versioned.OpenTransactions
import SecondaryIndex.Proofs.Versioned.Publication
import SecondaryIndex.Proofs.Versioned.StoreLaws

namespace SecondaryIndex.Versioned

/-!
# The books of a store

In every world that steps lead to, the store's own records agree with the
publications and with the open transactions: the clock counts the publications,
the histories hold them key by key, the readers count the open snapshots, and
the write sets remembered are those of all publications behind some point that
every open snapshot shows.
-/

namespace Publication

/-- What a store remembers of a publication: its stamp and the keys it wrote. -/
def remembered
    (publication : Publication) :
    Nat × List Bytes :=
  (publication.stamp, publication.writes.keys)

end Publication

/-- A count as a store keeps it: no entry for none. -/
def tally :
    Nat → Option Nat
  | 0 =>
      none
  | count + 1 =>
      some (count + 1)

@[simp]
theorem tally_zero :
    tally 0 = none :=
  rfl

@[simp]
theorem tally_succ
    (count : Nat) :
    tally (count + 1) = some (count + 1) :=
  rfl

@[simp]
theorem getD_tally
    (count : Nat) :
    (tally count).getD 0 = count := by
  cases count <;> rfl

/-- The write sets remembered are those of the publications behind a point. -/
structure Retained
    (world : World)
    (floor : Nat) :
    Prop where
  shown : floor ≤ world.published.length
  openBehind :
    ∀ {number : Nat} {transaction : Transaction},
      world.transaction? number = some transaction → floor ≤ transaction.snapshot
  recent :
    world.store.recent.entries = (world.published.drop floor).map Publication.remembered

/-- The records of the store agree with what has been published and who is open. -/
structure Sound
    (world : World) :
    Prop where
  clock : world.store.clock = world.published.length
  numbered : Numbered world.published
  histories :
    ∀ key, world.store.histories.findD key [] = versionsOf key world.published
  readers :
    ∀ snapshot, world.store.readers.find? snapshot = tally (world.openAt snapshot)
  snapshots :
    ∀ {number : Nat} {transaction : Transaction},
      world.transaction? number = some transaction →
        transaction.snapshot ≤ world.published.length
  retained : ∃ floor, Retained world floor

namespace Sound

variable
  {world : World}
  {number : Nat}
  {transaction : Transaction}

/-- A snapshot shows the map that the publications up to it leave. -/
theorem valueAt
    (sound : Sound world)
    (snapshot : Nat) :
    world.store.valueAt snapshot = committed (world.published.take snapshot) := by
  funext key
  rw [Store.valueAt, sound.histories, visible_versionsOf sound.numbered]

/-- A transaction sees its own writes over the map of its snapshot. -/
theorem get
    (sound : Sound world)
    (transaction : Transaction) :
    transaction.get world.store =
      overlay transaction.writes (committed (world.published.take transaction.snapshot)) := by
  funext key
  rw [Transaction.get, sound.valueAt, overlay]
  cases transaction.writes.find? key <;> rfl

/-- A transaction that has just been opened sees the map that has been published last. -/
theorem get_begin
    (sound : Sound world) :
    world.store.begin.1.get world.store.begin.2 = committed world.published := by
  have sees := sound.get world.store.begin.1
  have snapshot : world.store.begin.1.snapshot = world.published.length :=
    sound.clock
  rw [snapshot, List.take_length] at sees
  exact sees

theorem start :
    Sound World.start where
  clock :=
    rfl
  numbered :=
    .nil
  histories _ :=
    rfl
  readers _ :=
    rfl
  snapshots isOpen := by
    cases isOpen
  retained :=
    ⟨0, Nat.le_refl 0, fun _ => Nat.zero_le _, rfl⟩

/-- Opening a transaction counts its snapshot, which shows everything published. -/
theorem begin
    (sound : Sound world) :
    Sound world.begin where
  clock :=
    sound.clock
  numbered :=
    sound.numbered
  histories :=
    sound.histories
  readers snapshot := by
    have opened :
        world.begin.openAt snapshot =
          world.openAt snapshot + if world.store.clock = snapshot then 1 else 0 :=
      World.countP_opened world.transactions snapshot
    have inserted :
        world.begin.store.readers.find? snapshot =
          if snapshot = world.store.clock then
            some (world.store.readers.findD world.store.clock 0 + 1)
          else
            world.store.readers.find? snapshot :=
      OrderedMap.find?_insert ..
    rw [opened, inserted]
    by_cases isClock : snapshot = world.store.clock
    · simp [isClock, OrderedMap.findD, sound.readers]
    · simp [isClock, Ne.symm isClock, sound.readers]
  snapshots {number transaction} isOpen := by
    rw [World.transaction?_begin] at isOpen
    split at isOpen
    · cases isOpen
      exact Nat.le_of_eq sound.clock
    · exact sound.snapshots isOpen
  retained := by
    obtain ⟨floor, retained⟩ := sound.retained
    refine ⟨floor, retained.shown, ?_, retained.recent⟩
    intro number transaction isOpen
    rw [World.transaction?_begin] at isOpen
    split at isOpen
    · cases isOpen
      exact sound.clock ▸ retained.shown
    · exact retained.openBehind isOpen

/--
A change of the transactions is in keeping with the books if the readers are
those of the changed transactions and no new snapshot comes up.
-/
theorem withTransactions
    {changed : World}
    (sound : Sound world)
    (sameHistories : changed.store.histories = world.store.histories)
    (sameClock : changed.store.clock = world.store.clock)
    (sameRecent : changed.store.recent = world.store.recent)
    (samePublished : changed.published = world.published)
    (readers : ∀ snapshot, changed.store.readers.find? snapshot = tally (changed.openAt snapshot))
    (oldSnapshots :
      ∀ {number : Nat} {transaction : Transaction},
        changed.transaction? number = some transaction →
          ∃ earlier, world.transaction? number = some earlier ∧
            earlier.snapshot = transaction.snapshot) :
    Sound changed where
  clock := by
    rw [sameClock, samePublished]
    exact sound.clock
  numbered := by
    rw [samePublished]
    exact sound.numbered
  histories := by
    rw [sameHistories, samePublished]
    exact sound.histories
  readers :=
    readers
  snapshots isOpen := by
    obtain ⟨earlier, wasOpen, sameSnapshot⟩ := oldSnapshots isOpen
    rw [← sameSnapshot, samePublished]
    exact sound.snapshots wasOpen
  retained := by
    obtain ⟨floor, retained⟩ := sound.retained
    refine ⟨floor, ?_, ?_, ?_⟩
    · rw [samePublished]
      exact retained.shown
    · intro number transaction isOpen
      obtain ⟨earlier, wasOpen, sameSnapshot⟩ := oldSnapshots isOpen
      rw [← sameSnapshot]
      exact retained.openBehind wasOpen
    · rw [sameRecent, samePublished]
      exact retained.recent

/-- What an open transaction writes is its own affair. -/
theorem revise
    {change : Transaction → Transaction}
    (sound : Sound world)
    (keepsSnapshot : ∀ transaction, (change transaction).snapshot = transaction.snapshot) :
    Sound (world.revise number change) := by
  cases isOpen : world.transaction? number with
  | none =>
      simpa [World.revise, isOpen] using sound
  | some transaction =>
      have revised :
          world.revise number change =
            { world with
              transactions := world.transactions.set number (some (change transaction)) } := by
        simp [World.revise, isOpen]
      have sameOpen : ∀ snapshot, (world.revise number change).openAt snapshot =
          world.openAt snapshot := by
        intro snapshot
        have replaced :=
          World.countP_replaced (some (change transaction))
            (World.transaction?_eq_some_iff.1 isOpen) snapshot
        simpa [revised, World.openAt, keepsSnapshot] using replaced
      apply sound.withTransactions
      · rw [revised]
      · rw [revised]
      · rw [revised]
      · rw [revised]
      · intro snapshot
        rw [sameOpen, ← sound.readers, revised]
      · intro other later isOpenThen
        rw [World.transaction?_revise] at isOpenThen
        split at isOpenThen
        next same =>
          obtain ⟨earlier, wasOpen, rfl⟩ := Option.map_eq_some_iff.1 isOpenThen
          exact ⟨earlier, same ▸ wasOpen, (keepsSnapshot earlier).symm⟩
        next =>
          exact ⟨later, isOpenThen, rfl⟩

/-- The world in which a transaction has let go of its snapshot. -/
theorem release
    (sound : Sound world)
    (isOpen : world.transaction? number = some transaction) :
    Sound
      { world with
        store := world.store.release transaction.snapshot
        transactions := world.transactions.set number none } := by
  obtain ⟨count, openThere⟩ :=
    Nat.exists_eq_succ_of_ne_zero (Nat.ne_of_gt (World.openAt_pos isOpen))
  have counted : world.store.readers.find? transaction.snapshot = some (count + 1) := by
    rw [sound.readers, openThere, tally_succ]
  apply sound.withTransactions
  · exact Store.histories_release ..
  · exact Store.clock_release ..
  · exact Store.recent_release ..
  · rfl
  · intro snapshot
    have replaced :=
      World.countP_replaced none (World.transaction?_eq_some_iff.1 isOpen) snapshot
    have released := Store.find?_readers_release world.store transaction.snapshot counted snapshot
    simp only [World.openAt] at openThere replaced ⊢
    rw [released]
    by_cases isOwn : snapshot = transaction.snapshot
    · subst isOwn
      have fewer :
          (world.transactions.set number none).countP
            (fun place => place.any fun other => other.snapshot = transaction.snapshot) =
              count := by
        simpa [openThere] using replaced
      rw [fewer]
      cases count <;> simp
    · have same : transaction.snapshot ≠ snapshot :=
        Ne.symm isOwn
      have sameOpen :
          (world.transactions.set number none).countP
              (fun place => place.any fun other => other.snapshot = snapshot) =
            world.transactions.countP
              fun place => place.any fun other => other.snapshot = snapshot := by
        simpa [same] using replaced
      rw [if_neg isOwn, sound.readers, World.openAt, sameOpen]
  · intro other later isOpenThen
    refine ⟨later, ?_, rfl⟩
    have standing := World.join_set (World.lt_of_open isOpen) none other
    rw [World.transaction?, standing] at isOpenThen
    split at isOpenThen
    · cases isOpenThen
    · exact isOpenThen

theorem rollback
    (sound : Sound world) :
    Sound (world.rollback number) := by
  cases isOpen : world.transaction? number with
  | none =>
      simpa [World.rollback, isOpen] using sound
  | some transaction =>
      simpa [World.rollback, Store.rollback, isOpen] using sound.release isOpen

/-- The least open snapshot, to which the remembered write sets are pruned. -/
theorem horizon
    (sound : Sound world)
    (isOpen : world.transaction? number = some transaction) :
    ∃ horizon,
      world.store.readers.keys.head? = some horizon ∧
        (∃ other oldest, world.transaction? other = some oldest ∧ oldest.snapshot = horizon) ∧
          ∀ {other : Nat} {later : Transaction},
            world.transaction? other = some later → horizon ≤ later.snapshot := by
  have listed :
      ∀ {other : Nat} {later : Transaction},
        world.transaction? other = some later →
          ∃ count, (later.snapshot, count) ∈ world.store.readers.entries := by
    intro other later isOpen
    obtain ⟨count, openThere⟩ :=
      Nat.exists_eq_succ_of_ne_zero (Nat.ne_of_gt (World.openAt_pos isOpen))
    refine ⟨count + 1, OrderedMap.find?_eq_some_iff.1 ?_⟩
    rw [sound.readers, openThere, tally_succ]
  obtain ⟨count, member⟩ := listed isOpen
  cases isHead : world.store.readers.entries.head? with
  | none =>
      rw [List.head?_eq_none_iff.1 isHead] at member
      cases member
  | some head =>
      refine ⟨head.1, ?_, ?_, ?_⟩
      · rw [OrderedMap.keys, List.head?_map, isHead]
        rfl
      · have found := OrderedMap.find?_eq_some_iff.2 (List.mem_of_head? isHead)
        rw [sound.readers] at found
        have someOpen : world.openAt head.1 ≠ 0 := by
          intro noneOpen
          rw [noneOpen] at found
          cases found
        by_contra noneOldest
        apply someOpen
        rw [World.openAt_eq_zero_iff]
        intro other oldest otherOpen same
        exact noneOldest ⟨other, oldest, otherOpen, same⟩
      · intro other later otherOpen
        obtain ⟨_, otherListed⟩ := listed otherOpen
        exact OrderedMap.head?_entries_least isHead otherListed

/-- Publishing appends to what is remembered. -/
theorem recent_publish
    {floor : Nat}
    {publication : Publication}
    (sound : Sound world)
    (retained : Retained world floor)
    (next : publication.stamp = world.published.length + 1) :
    (world.store.publish publication).recent.entries =
      ((world.published ++ [publication]).drop floor).map Publication.remembered := by
  have behind : ∀ entry ∈ world.store.recent.entries, entry.1 < publication.stamp := by
    intro entry member
    rw [retained.recent] at member
    obtain ⟨earlier, isEarlier, rfl⟩ := List.mem_map.1 member
    have bounded := sound.numbered.stamp_le (List.mem_of_mem_drop isEarlier)
    rw [Publication.remembered, next]
    exact Nat.lt_succ_of_le bounded
  rw [Store.publish, OrderedMap.entries_insert_last _ behind, retained.recent,
    List.drop_append_of_le_length retained.shown, List.map_append]
  rfl

/-- Pruning to the least open snapshot leaves the write sets behind it. -/
theorem recent_prune
    {floor horizon : Nat}
    {publication : Publication}
    (sound : Sound world)
    (retained : Retained world floor)
    (next : publication.stamp = world.published.length + 1)
    (bounded : world.published.length + 1 ≤ lastStamp)
    (least : world.store.readers.keys.head? = some horizon)
    (behind : floor ≤ horizon)
    (shown : horizon ≤ world.published.length) :
    (world.store.publish publication).prune.recent.entries =
      ((world.published ++ [publication]).drop horizon).map Publication.remembered := by
  have numbered : Numbered (world.published ++ [publication]) :=
    sound.numbered.append next
  have after : nextStamp horizon = horizon + 1 :=
    Nat.min_eq_left (by omega)
  have kept :
      (fun entry : Nat × List Bytes => decide (nextStamp horizon ≤ entry.1)) ∘
          Publication.remembered =
        fun publication => decide (horizon < publication.stamp) := by
    funext publication
    rw [after]
    rfl
  have pruned :
      (world.store.publish publication).prune.recent.entries =
        (world.store.publish publication).recent.entries.filter
          fun entry => nextStamp horizon ≤ entry.1 := by
    simp only [Store.prune, Store.publish, least, Option.getD_some, OrderedMap.filterKeys]
  rw [pruned, sound.recent_publish retained next, List.filter_map, kept,
    numbered.filter_newer behind]

/-- The world in which the writes of an open transaction have been published and pruned. -/
theorem publish
    {publication : Publication}
    (sound : Sound world)
    (isOpen : world.transaction? number = some transaction)
    (next : publication.stamp = world.published.length + 1)
    (bounded : world.published.length + 1 ≤ lastStamp) :
    Sound
      { world with
        store := (world.store.publish publication).prune
        published := world.published ++ [publication] } where
  clock := by
    simp only [Store.prune, Store.publish, List.length_append, List.length_singleton]
    exact next
  numbered :=
    sound.numbered.append next
  histories key := by
    have pushed := Store.findD_histories_publish world.store publication key
    rw [versionsOf_append, ← sound.histories]
    simp only [Store.prune]
    rw [pushed]
    cases publication.writes.find? key with
    | none =>
        rfl
    | some value =>
        rw [sound.histories]
        cases shape : versionsOf key world.published with
        | nil =>
            rfl
        | cons newest older =>
            have member : newest ∈ versionsOf key world.published := by
              rw [shape]
              exact List.mem_cons_self
            have earlier := stamp_le_of_mem_versionsOf sound.numbered member
            have different : newest.stamp ≠ publication.stamp := by
              omega
            simp [History.push, different]
  readers :=
    sound.readers
  snapshots isOpen := by
    have shown := sound.snapshots isOpen
    simp only [List.length_append, List.length_singleton]
    omega
  retained := by
    obtain ⟨floor, retained⟩ := sound.retained
    obtain ⟨horizon, least, ⟨_, oldest, oldestOpen, isOldest⟩, everyOpen⟩ := sound.horizon isOpen
    have shown : horizon ≤ world.published.length := by
      rw [← isOldest]
      exact sound.snapshots oldestOpen
    have behind : floor ≤ horizon := by
      rw [← isOldest]
      exact retained.openBehind oldestOpen
    refine ⟨horizon, ?_, everyOpen, ?_⟩
    · simp only [List.length_append, List.length_singleton]
      omega
    · exact sound.recent_prune retained next bounded least behind shown

/-- Committing is publishing, if there is something to publish, and letting go. -/
theorem commit
    (sound : Sound world)
    (bounded : (world.commit number).published.length ≤ lastStamp) :
    Sound (world.commit number) := by
  cases isOpen : world.transaction? number with
  | none =>
      simpa [World.commit, isOpen] using sound
  | some transaction =>
      have letGo := sound.release isOpen
      rcases Store.commit_cases world.store transaction with
        ⟨-, result⟩ | ⟨-, -, result⟩ | ⟨-, -, result⟩
      · simpa [World.commit, isOpen, result, World.publication?] using letGo
      · simp only [World.commit, isOpen, result, World.publication?, Option.toList_some,
          List.length_append, List.length_singleton] at bounded ⊢
        have next :
            (⟨nextStamp world.store.clock, transaction.writes⟩ : Publication).stamp =
              world.published.length + 1 := by
          rw [sound.clock]
          exact Nat.min_eq_left bounded
        exact (sound.publish isOpen next bounded).release isOpen
      · simpa [World.commit, isOpen, result, World.publication?] using letGo

end Sound

end SecondaryIndex.Versioned
