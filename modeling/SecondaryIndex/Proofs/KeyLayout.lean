import Mathlib.Data.List.Basic
import SecondaryIndex.KeyLayout

namespace SecondaryIndex

/-!
# Keys tell what they are keys of

A name in a key ends at the first delimiter, so the key of an entry gives back
the type, the index and the value, and the key of a record gives back the type
and the primary key.  The namespaces of a checked layout keep the keys of
entries and of records apart.
-/

/-- Two keys that agree have the same name in front of the delimiter, and the same rest. -/
theorem name_and_rest_unique
    {first second firstRest secondRest : Bytes}
    (firstFree : delimiter ∉ first)
    (secondFree : delimiter ∉ second)
    (same : first ++ delimiter :: firstRest = second ++ delimiter :: secondRest) :
    first = second ∧ firstRest = secondRest := by
  induction first generalizing second with
  | nil =>
      cases second with
      | nil =>
          exact ⟨rfl, (List.cons.inj same).2⟩
      | cons byte second =>
          have isDelimiter := (List.cons.inj same).1
          exact absurd (isDelimiter ▸ List.mem_cons_self) secondFree
  | cons byte first inductionHypothesis =>
      cases second with
      | nil =>
          have isDelimiter := (List.cons.inj same).1
          exact absurd (isDelimiter ▸ List.mem_cons_self) firstFree
      | cons other second =>
          obtain ⟨sameByte, sameRest⟩ := List.cons.inj same
          obtain ⟨sameName, sameBehind⟩ :=
            inductionHypothesis (List.not_mem_of_not_mem_cons firstFree)
              (List.not_mem_of_not_mem_cons secondFree) sameRest
          exact ⟨by rw [sameByte, sameName], sameBehind⟩

namespace KeyLayout

variable
  {layout : KeyLayout}
  {typeName otherType index otherIndex : String}
  {value otherValue primary otherPrimary key lead bytes : Bytes}

/-- A name without the delimiter passes as its bytes. -/
theorem checkedName_of_free
    (free : delimiter ∉ Bytes.ofText typeName) :
    checkedName typeName = .ok (Bytes.ofText typeName) := by
  simp [checkedName, free]

theorem checkedName_of_held
    (held : delimiter ∈ Bytes.ofText typeName) :
    checkedName typeName = .error (.invalidName typeName) := by
  simp [checkedName, held]

theorem recordLead_of_free
    (free : delimiter ∉ Bytes.ofText typeName) :
    layout.recordLead typeName =
      .ok (layout.recordNamespace ++ Bytes.ofText typeName ++ [delimiter]) := by
  rw [recordLead, checkedName_of_free free]
  rfl

/-- The key of a record is the lead of its type and its own key. -/
theorem recordKey_of_recordLead
    (isLead : layout.recordLead typeName = .ok lead)
    (primary : Bytes) :
    layout.recordKey typeName primary = .ok (lead ++ primary) := by
  rw [recordKey, isLead]
  rfl

theorem indexLead_of_free
    (layout : KeyLayout)
    (free : delimiter ∉ Bytes.ofText typeName)
    (indexFree : delimiter ∉ Bytes.ofText index) :
    ∃ lead, layout.indexLead typeName index = .ok lead := by
  rw [indexLead, checkedName_of_free free, checkedName_of_free indexFree]
  exact ⟨_, rfl⟩

theorem indexLead_of_held
    (free : delimiter ∉ Bytes.ofText typeName)
    (held : delimiter ∈ Bytes.ofText index) :
    layout.indexLead typeName index = .error (.invalidName index) := by
  rw [indexLead, checkedName_of_free free, checkedName_of_held held]
  rfl

/-- The key of an entry is the lead of its index and the value. -/
theorem entryKey_of_indexLead
    (isLead : layout.indexLead typeName index = .ok lead)
    (value : Bytes) :
    layout.entryKey typeName index value = .ok (lead ++ value) := by
  rw [entryKey, isLead]
  rfl

/-- The key of a record is its namespace, the type name up to a delimiter, and its own key. -/
theorem recordKey_ok :
    layout.recordKey typeName primary = .ok key ↔
      delimiter ∉ Bytes.ofText typeName ∧
        key = layout.recordNamespace ++ (Bytes.ofText typeName ++ delimiter :: primary) := by
  by_cases held : delimiter ∈ Bytes.ofText typeName
  · simp [recordKey, recordLead, checkedName_of_held held, held, bind, Except.bind]
  · simp [recordKey, recordLead, checkedName_of_free held, held, bind, Except.bind, pure,
      Except.pure, eq_comm]

/--
The key of an entry is its namespace, the type name and the index name, each up
to a delimiter, and the value.
-/
theorem entryKey_ok :
    layout.entryKey typeName index value = .ok key ↔
      delimiter ∉ Bytes.ofText typeName ∧ delimiter ∉ Bytes.ofText index ∧
        key =
          layout.indexNamespace ++
            delimiter :: (Bytes.ofText typeName ++
              delimiter :: (Bytes.ofText index ++ delimiter :: value)) := by
  by_cases held : delimiter ∈ Bytes.ofText typeName
  · simp [entryKey, indexLead, checkedName_of_held held, held, bind, Except.bind]
  · by_cases indexHeld : delimiter ∈ Bytes.ofText index
    · simp [entryKey, indexLead, checkedName_of_free held, checkedName_of_held indexHeld,
        indexHeld, bind, Except.bind]
    · simp [entryKey, indexLead, checkedName_of_free held, checkedName_of_free indexHeld, held,
        indexHeld, bind, Except.bind, pure, Except.pure, eq_comm]

/-- The key of a record gives back its type and its own key. -/
theorem recordKey_unique
    (isKey : layout.recordKey typeName primary = .ok key)
    (isOther : layout.recordKey otherType otherPrimary = .ok key) :
    typeName = otherType ∧ primary = otherPrimary := by
  obtain ⟨free, rfl⟩ := recordKey_ok.1 isKey
  obtain ⟨otherFree, same⟩ := recordKey_ok.1 isOther
  obtain ⟨sameName, samePrimary⟩ :=
    name_and_rest_unique free otherFree (List.append_cancel_left same)
  exact ⟨Bytes.ofText_injective sameName, samePrimary⟩

/-- The key of an entry gives back its type, its index and its value. -/
theorem entryKey_unique
    (isKey : layout.entryKey typeName index value = .ok key)
    (isOther : layout.entryKey otherType otherIndex otherValue = .ok key) :
    typeName = otherType ∧ index = otherIndex ∧ value = otherValue := by
  obtain ⟨free, indexFree, rfl⟩ := entryKey_ok.1 isKey
  obtain ⟨otherFree, otherIndexFree, same⟩ := entryKey_ok.1 isOther
  have behindNamespace := (List.cons.inj (List.append_cancel_left same)).2
  obtain ⟨sameType, sameRest⟩ := name_and_rest_unique free otherFree behindNamespace
  obtain ⟨sameIndex, sameValue⟩ := name_and_rest_unique indexFree otherIndexFree sameRest
  exact ⟨Bytes.ofText_injective sameType, Bytes.ofText_injective sameIndex, sameValue⟩

/-- In a checked layout no key is the key of a record and of an entry. -/
theorem recordKey_ne_entryKey
    {options : LayoutOptions}
    (isLayout : ofOptions options = .ok layout)
    (isRecord : layout.recordKey typeName primary = .ok key) :
    layout.entryKey otherType index value ≠ .ok key := by
  intro isEntry
  obtain ⟨-, recordShape⟩ := recordKey_ok.1 isRecord
  obtain ⟨-, -, entryShape⟩ := entryKey_ok.1 isEntry
  have recordsLead : layout.recordNamespace <+: key := by
    rw [recordShape]
    exact List.prefix_append _ _
  have entriesLead : layout.indexNamespace <+: key := by
    rw [entryShape]
    exact List.prefix_append _ _
  rw [ofOptions] at isLayout
  split at isLayout
  · cases isLayout
  next apart =>
    cases isLayout
    simp only [Bytes.startsWith, List.isPrefixOf_iff_prefix, Bool.or_eq_true, not_or] at apart
    rcases List.prefix_or_prefix_of_prefix recordsLead entriesLead with recordsFirst | entriesFirst
    · exact apart.1 recordsFirst
    · exact apart.2 entriesFirst

end KeyLayout

end SecondaryIndex
