import SecondaryIndex.Bytes

namespace SecondaryIndex.Bytes

/-!
# Keys under a lead

In key order the keys that begin with a lead stand together, from the lead on:
none of them comes before the lead, and whatever stands between the lead and one
of them begins with the lead as well.
-/

@[simp]
theorem startsWith_nil
    (key : Bytes) :
    key.startsWith [] = true := by
  simp [startsWith]

@[simp]
theorem startsWith_append
    (lead rest : Bytes) :
    (lead ++ rest).startsWith lead = true :=
  startsWith_iff.2 ⟨rest, rfl⟩

theorem startsWith_cons
    (byte : UInt8)
    (key lead : Bytes) :
    startsWith (byte :: key) (byte :: lead) = key.startsWith lead := by
  simp [startsWith]

/-- No key under a lead comes before the lead. -/
theorem le_of_startsWith
    {key lead : Bytes}
    (under : key.startsWith lead) :
    lead ≤ key := by
  obtain ⟨rest, rfl⟩ := startsWith_iff.1 under
  induction lead with
  | nil =>
      exact List.nil_le _
  | cons byte lead inductionHypothesis =>
      exact List.cons_le_cons_iff.2 (.inr ⟨rfl, inductionHypothesis (startsWith_append _ _)⟩)

/-- What stands between a lead and a key under it is under the lead too. -/
theorem startsWith_of_between
    {lead first second : Bytes}
    (fromLead : lead ≤ first)
    (before : first < second)
    (under : second.startsWith lead) :
    first.startsWith lead := by
  induction lead generalizing first second with
  | nil =>
      exact startsWith_nil first
  | cons byte lead inductionHypothesis =>
      obtain ⟨rest, rfl⟩ := startsWith_iff.1 under
      cases first with
      | nil =>
          exact absurd fromLead (by simp)
      | cons other first =>
          rcases List.cons_lt_cons_iff.1 before with lower | ⟨rfl, restBefore⟩
          · rcases List.cons_le_cons_iff.1 fromLead with higher | ⟨rfl, -⟩
            · exact absurd (UInt8.lt_trans lower higher) (UInt8.lt_irrefl _)
            · exact absurd lower (UInt8.lt_irrefl _)
          · rcases List.cons_le_cons_iff.1 fromLead with higher | ⟨-, restFromLead⟩
            · exact absurd higher (UInt8.lt_irrefl _)
            · rw [startsWith_cons]
              exact inductionHypothesis restFromLead restBefore (startsWith_append _ _)

/-- Keys under a lead are in the order of what follows the lead. -/
theorem append_lt_append_iff
    {lead first second : Bytes} :
    lead ++ first < lead ++ second ↔ first < second := by
  induction lead with
  | nil =>
      rfl
  | cons byte lead inductionHypothesis =>
      rw [List.cons_append, List.cons_append, List.cons_lt_cons_iff, inductionHypothesis]
      simp [UInt8.lt_irrefl]

end SecondaryIndex.Bytes
