import SecondaryIndex.Proofs.Bytes
import SecondaryIndex.Proofs.KeyLayout

namespace SecondaryIndex.KeyLayout

/-!
# Leads part the keys

Every key begins with a lead that ends behind a name.  A key therefore lies under
the lead of one type or of one index only, and the leads of records and of entries
share no key, whatever the namespaces hold.  A name with the delimiter would spoil
this, and is refused wherever a key or a lead is made.
-/

variable
  {options : LayoutOptions}
  {layout : KeyLayout}
  {typeName otherType index otherIndex : String}
  {value primary key lead : Bytes}

/-- A key under the lead of a type is the key of a record of the type. -/
theorem recordKey_of_startsWith
    (isLead : layout.recordLead typeName = .ok lead)
    (under : key.startsWith lead) :
    ∃ primary, layout.recordKey typeName primary = .ok key := by
  obtain ⟨primary, rfl⟩ := Bytes.startsWith_iff.1 under
  exact ⟨primary, recordKey_of_recordLead isLead primary⟩

/-- A key under the lead of an index is the key of an entry of the index. -/
theorem entryKey_of_startsWith
    (isLead : layout.indexLead typeName index = .ok lead)
    (under : key.startsWith lead) :
    ∃ value, layout.entryKey typeName index value = .ok key := by
  obtain ⟨value, rfl⟩ := Bytes.startsWith_iff.1 under
  exact ⟨value, entryKey_of_indexLead isLead value⟩

/-- The key of a record lies under the lead of its own type and of no other. -/
theorem recordKey_startsWith_iff
    (isLead : layout.recordLead typeName = .ok lead)
    (isKey : layout.recordKey otherType primary = .ok key) :
    key.startsWith lead ↔ typeName = otherType := by
  constructor
  · intro under
    obtain ⟨_, isKeyToo⟩ := recordKey_of_startsWith isLead under
    exact (recordKey_unique isKeyToo isKey).1
  · rintro rfl
    rw [recordKey_of_recordLead isLead] at isKey
    cases isKey
    exact Bytes.startsWith_append lead primary

/-- The key of an entry lies under the lead of its own index and of no other. -/
theorem entryKey_startsWith_iff
    (isLead : layout.indexLead typeName index = .ok lead)
    (isKey : layout.entryKey otherType otherIndex value = .ok key) :
    key.startsWith lead ↔ typeName = otherType ∧ index = otherIndex := by
  constructor
  · intro under
    obtain ⟨_, isKeyToo⟩ := entryKey_of_startsWith isLead under
    obtain ⟨sameType, sameIndex, -⟩ := entryKey_unique isKeyToo isKey
    exact ⟨sameType, sameIndex⟩
  · rintro ⟨rfl, rfl⟩
    rw [entryKey_of_indexLead isLead] at isKey
    cases isKey
    exact Bytes.startsWith_append lead value

/-- In a checked layout no entry lies under the lead of a type. -/
theorem entryKey_not_startsWith
    (isLayout : ofOptions options = .ok layout)
    (isLead : layout.recordLead typeName = .ok lead)
    (isKey : layout.entryKey otherType index value = .ok key) :
    ¬ key.startsWith lead := by
  intro under
  obtain ⟨_, isRecord⟩ := recordKey_of_startsWith isLead under
  exact recordKey_ne_entryKey isLayout isRecord isKey

/-- In a checked layout no record lies under the lead of an index. -/
theorem recordKey_not_startsWith
    (isLayout : ofOptions options = .ok layout)
    (isLead : layout.indexLead typeName index = .ok lead)
    (isKey : layout.recordKey otherType primary = .ok key) :
    ¬ key.startsWith lead := by
  intro under
  obtain ⟨_, isEntry⟩ := entryKey_of_startsWith isLead under
  exact recordKey_ne_entryKey isLayout isKey isEntry

/-- The names that keys may be made of, and the keys that they make. -/
structure Builds
    (layout : KeyLayout) :
    Prop where
  records :
    ∀ {typeName : String},
      delimiter ∉ Bytes.ofText typeName →
        ∃ lead,
          layout.recordLead typeName = .ok lead ∧
            ∀ primary, layout.recordKey typeName primary = .ok (lead ++ primary)
  entries :
    ∀ {typeName index : String},
      delimiter ∉ Bytes.ofText typeName →
        delimiter ∉ Bytes.ofText index →
          ∃ lead,
            layout.indexLead typeName index = .ok lead ∧
              ∀ value, layout.entryKey typeName index value = .ok (lead ++ value)
  /-- The type comes first, so its name is refused whatever the index is called. -/
  refusedType :
    ∀ {typeName : String},
      delimiter ∈ Bytes.ofText typeName →
        layout.recordLead typeName = .error (.invalidName typeName) ∧
          (∀ primary, layout.recordKey typeName primary = .error (.invalidName typeName)) ∧
            ∀ index,
              layout.indexLead typeName index = .error (.invalidName typeName) ∧
                ∀ value, layout.entryKey typeName index value = .error (.invalidName typeName)
  refusedIndex :
    ∀ {typeName index : String},
      delimiter ∉ Bytes.ofText typeName →
        delimiter ∈ Bytes.ofText index →
          layout.indexLead typeName index = .error (.invalidName index) ∧
            ∀ value, layout.entryKey typeName index value = .error (.invalidName index)

/-- Leads and keys are made of names without the delimiter, and of those only. -/
theorem builds
    (layout : KeyLayout) :
    layout.Builds where
  records free :=
    ⟨_, recordLead_of_free free, recordKey_of_recordLead (recordLead_of_free free)⟩
  entries free indexFree := by
    obtain ⟨lead, isLead⟩ := layout.indexLead_of_free free indexFree
    exact ⟨lead, isLead, entryKey_of_indexLead isLead⟩
  refusedType held := by
    simp [recordKey, recordLead, entryKey, indexLead, checkedName_of_held held, bind, Except.bind]
  refusedIndex free held := by
    refine ⟨indexLead_of_held free held, ?_⟩
    intro value
    rw [entryKey, indexLead_of_held free held]
    rfl

/-- Whether every key tells what it is the key of, and lies under no lead but its own. -/
structure Unambiguous
    (layout : KeyLayout) :
    Prop where
  recordKey_inj :
    ∀ {typeName otherType : String} {primary otherPrimary key : Bytes},
      layout.recordKey typeName primary = .ok key →
        layout.recordKey otherType otherPrimary = .ok key →
          typeName = otherType ∧ primary = otherPrimary
  entryKey_inj :
    ∀ {typeName otherType index otherIndex : String} {value otherValue key : Bytes},
      layout.entryKey typeName index value = .ok key →
        layout.entryKey otherType otherIndex otherValue = .ok key →
          typeName = otherType ∧ index = otherIndex ∧ value = otherValue
  record_under_iff :
    ∀ {typeName otherType : String} {primary key lead : Bytes},
      layout.recordLead typeName = .ok lead →
        layout.recordKey otherType primary = .ok key →
          (key.startsWith lead ↔ typeName = otherType)
  entry_under_iff :
    ∀ {typeName otherType index otherIndex : String} {value key lead : Bytes},
      layout.indexLead typeName index = .ok lead →
        layout.entryKey otherType otherIndex value = .ok key →
          (key.startsWith lead ↔ typeName = otherType ∧ index = otherIndex)
  entry_not_under :
    ∀ {typeName otherType index : String} {value key lead : Bytes},
      layout.recordLead typeName = .ok lead →
        layout.entryKey otherType index value = .ok key →
          ¬ key.startsWith lead
  record_not_under :
    ∀ {typeName index otherType : String} {primary key lead : Bytes},
      layout.indexLead typeName index = .ok lead →
        layout.recordKey otherType primary = .ok key →
          ¬ key.startsWith lead

/--
In a checked layout every key tells what it is the key of, and lies under its own
lead only.  This holds for all names that keys may be made of, for namespaces with
the delimiter too; a name with the delimiter makes no key.
-/
theorem ofOptions_unambiguous
    (isLayout : ofOptions options = .ok layout) :
    layout.Builds ∧ layout.Unambiguous := by
  refine ⟨layout.builds, ?_⟩
  constructor
  · exact recordKey_unique
  · exact entryKey_unique
  · exact recordKey_startsWith_iff
  · exact entryKey_startsWith_iff
  · exact entryKey_not_startsWith isLayout
  · exact recordKey_not_startsWith isLayout

/-- Namespaces may hold the delimiter, as long as neither begins with the other. -/
theorem unambiguous_with_delimiters :
    ofOptions ⟨":a", "a:", 0⟩ = .ok ⟨Bytes.ofText ":a", Bytes.ofText "a:", 1⟩ ∧
      (⟨Bytes.ofText ":a", Bytes.ofText "a:", 1⟩ : KeyLayout).Builds ∧
        (⟨Bytes.ofText ":a", Bytes.ofText "a:", 1⟩ : KeyLayout).Unambiguous := by
  have isLayout :
      ofOptions ⟨":a", "a:", 0⟩ = .ok ⟨Bytes.ofText ":a", Bytes.ofText "a:", 1⟩ := by
    rfl
  exact ⟨isLayout, ofOptions_unambiguous isLayout⟩

end SecondaryIndex.KeyLayout
