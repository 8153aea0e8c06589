import Mathlib.Data.List.Induction
import SecondaryIndex.Proofs.OrderedMap
import SecondaryIndex.Proofs.Versioned.World

namespace SecondaryIndex.Versioned

/-!
# Histories and publications

The histories of a store are the publications sorted by key.  If publications
are stamped by their number, a snapshot shows of the histories the map that the
publications up to it leave.
-/

/-- The versions that publications leave of a key, newest first. -/
def versionsOf
    (key : Bytes)
    (publications : List Publication) :
    History :=
  publications.reverse.filterMap fun publication =>
    (publication.writes.find? key).map fun value => ⟨publication.stamp, value⟩

/-- Publications are stamped one after another, from one on. -/
def Numbered
    (publications : List Publication) :
    Prop :=
  ∀ index publication, publications[index]? = some publication → publication.stamp = index + 1

section Committed

variable
  {publications : List Publication}
  {publication : Publication}

@[simp]
theorem committed_nil :
    committed [] = fun _ => none :=
  rfl

@[simp]
theorem committed_append
    (publications : List Publication)
    (publication : Publication) :
    committed (publications ++ [publication]) =
      overlay publication.writes (committed publications) := by
  simp [committed]

theorem overlay_of_written
    {writes : OrderedMap Bytes (Option Bytes)}
    {view : Bytes → Option Bytes}
    {key : Bytes}
    {value : Option Bytes}
    (written : writes.find? key = some value) :
    overlay writes view key = value := by
  simp [overlay, written]

theorem overlay_of_not_written
    {writes : OrderedMap Bytes (Option Bytes)}
    {view : Bytes → Option Bytes}
    {key : Bytes}
    (notWritten : writes.find? key = none) :
    overlay writes view key = view key := by
  simp [overlay, notWritten]

/-- Publications that do not write a key leave what was there. -/
theorem committed_append_of_not_written
    (publications : List Publication)
    {newer : List Publication}
    {key : Bytes}
    (notWritten : ∀ publication ∈ newer, publication.writes.find? key = none) :
    committed (publications ++ newer) key = committed publications key := by
  induction newer using List.reverseRecOn with
  | nil =>
      rw [List.append_nil]
  | append_singleton earlier publication inductionHypothesis =>
      have lastNotWritten :=
        notWritten publication (List.mem_append_right _ (List.mem_singleton_self _))
      have earlierNotWritten :
          ∀ publication ∈ earlier, publication.writes.find? key = none := by
        intro other member
        exact notWritten other (List.mem_append_left _ member)
      rw [← List.append_assoc, committed_append, overlay_of_not_written lastNotWritten,
        inductionHypothesis earlierNotWritten]

/-- A publication that writes a key leaves a version of it in front of the older ones. -/
theorem versionsOf_append
    (key : Bytes)
    (publications : List Publication)
    (publication : Publication) :
    versionsOf key (publications ++ [publication]) =
      match publication.writes.find? key with
      | some value => ⟨publication.stamp, value⟩ :: versionsOf key publications
      | none => versionsOf key publications := by
  cases written : publication.writes.find? key <;> simp [versionsOf, written]

namespace Numbered

theorem nil :
    Numbered [] := by
  intro index publication found
  cases found

/-- The next publication gets the next number. -/
theorem append
    (numbered : Numbered publications)
    (next : publication.stamp = publications.length + 1) :
    Numbered (publications ++ [publication]) := by
  intro index other found
  by_cases older : index < publications.length
  · rw [List.getElem?_append_left older] at found
    exact numbered index other found
  · rw [List.getElem?_append_right (Nat.not_lt.1 older)] at found
    have isLast : index - publications.length = 0 := by
      by_contra later
      rw [List.getElem?_eq_none (by simp; omega)] at found
      cases found
    have isPublication : publication = other := by
      rw [isLast] at found
      exact Option.some.inj found
    rw [← isPublication, next]
    omega

/-- What comes before the last publication is numbered as well. -/
theorem of_append
    (numbered : Numbered (publications ++ [publication])) :
    Numbered publications := by
  intro index other found
  apply numbered
  rw [List.getElem?_append_left (List.getElem?_eq_some_iff.1 found).1]
  exact found

theorem stamp_last
    (numbered : Numbered (publications ++ [publication])) :
    publication.stamp = publications.length + 1 := by
  apply numbered publications.length
  simp

/-- No stamp is greater than the number of publications. -/
theorem stamp_le
    (numbered : Numbered publications)
    (member : publication ∈ publications) :
    publication.stamp ≤ publications.length := by
  obtain ⟨index, inside, rfl⟩ := List.mem_iff_getElem.1 member
  rw [numbered index _ (List.getElem?_eq_getElem inside)]
  exact inside

theorem stamp_le_of_mem_take
    {count : Nat}
    (numbered : Numbered publications)
    (member : publication ∈ publications.take count) :
    publication.stamp ≤ count := by
  obtain ⟨index, inside, rfl⟩ := List.mem_take_iff_getElem.1 member
  rw [numbered index _ (List.getElem?_eq_getElem _)]
  omega

theorem lt_stamp_of_mem_drop
    {count : Nat}
    (numbered : Numbered publications)
    (member : publication ∈ publications.drop count) :
    count < publication.stamp := by
  obtain ⟨index, inside, rfl⟩ := List.mem_drop_iff_getElem.1 member
  rw [numbered _ _ (List.getElem?_eq_getElem _)]
  omega

/-- Of the publications behind a count, those with a greater stamp are the ones further behind. -/
theorem filter_newer
    {count snapshot : Nat}
    (numbered : Numbered publications)
    (ordered : count ≤ snapshot) :
    (publications.drop count).filter (fun publication => snapshot < publication.stamp) =
      publications.drop snapshot := by
  have parts :
      publications.drop count =
        (publications.take snapshot).drop count ++ publications.drop snapshot := by
    rw [List.drop_take, ← Nat.add_sub_cancel' ordered, ← List.drop_drop,
      Nat.add_sub_cancel_left, List.take_append_drop]
  have olderLeave :
      ((publications.take snapshot).drop count).filter
        (fun publication => snapshot < publication.stamp) = [] := by
    refine List.filter_eq_nil_iff.2 ?_
    intro publication member
    have older := numbered.stamp_le_of_mem_take (List.mem_of_mem_drop member)
    simpa using older
  have newerStay :
      (publications.drop snapshot).filter
        (fun publication => snapshot < publication.stamp) = publications.drop snapshot := by
    refine List.filter_eq_self.2 ?_
    intro publication member
    simpa using numbered.lt_stamp_of_mem_drop member
  rw [parts, List.filter_append, olderLeave, newerStay, List.nil_append]

end Numbered

/-- A version carries the stamp of its publication. -/
theorem stamp_le_of_mem_versionsOf
    {key : Bytes}
    {version : Version}
    (numbered : Numbered publications)
    (member : version ∈ versionsOf key publications) :
    version.stamp ≤ publications.length := by
  obtain ⟨publication, isPublication, shape⟩ := List.mem_filterMap.1 member
  obtain ⟨value, -, rfl⟩ := Option.map_eq_some_iff.1 shape
  exact numbered.stamp_le (List.mem_reverse.1 isPublication)

/-- A snapshot shows the map that the publications up to it leave. -/
theorem visible_versionsOf
    (numbered : Numbered publications)
    (snapshot : Nat)
    (key : Bytes) :
    (versionsOf key publications).visible snapshot = committed (publications.take snapshot) key := by
  induction publications using List.reverseRecOn with
  | nil =>
      simp [versionsOf, History.visible]
  | append_singleton earlier publication inductionHypothesis =>
      have earlierNumbered := numbered.of_append
      have stamped := numbered.stamp_last
      by_cases shown : publication.stamp ≤ snapshot
      · have all : (earlier ++ [publication]).take snapshot = earlier ++ [publication] := by
          apply List.take_of_length_le
          simp
          omega
        have earlierAll : earlier.take snapshot = earlier := by
          apply List.take_of_length_le
          omega
        rw [versionsOf_append, all, committed_append]
        cases written : publication.writes.find? key with
        | some value =>
            simp [History.visible, shown, overlay_of_written written]
        | none =>
            simp only [overlay_of_not_written written]
            rw [inductionHypothesis earlierNumbered, earlierAll]
      · have fewer : (earlier ++ [publication]).take snapshot = earlier.take snapshot := by
          apply List.take_append_of_le_length
          omega
        rw [versionsOf_append, fewer, ← inductionHypothesis earlierNumbered]
        cases publication.writes.find? key with
        | some value =>
            simp [History.visible, shown]
        | none =>
            rfl

end Committed

end SecondaryIndex.Versioned
