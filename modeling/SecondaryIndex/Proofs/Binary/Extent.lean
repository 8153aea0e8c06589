import SecondaryIndex.Proofs.Binary.Layout

namespace SecondaryIndex.Binary

/-!
# What a reader needs and what it gives

A reader needs every byte of a written value: if the input ends before, the
reader says so.  Lengths are read from eight bytes, so a value that is read has
no part that is too long to be written again.
-/

/-- The given bytes are needed whole: where the input ends among them, reading ends too early. -/
def Reader.Needs
    {α : Type}
    (reader : Reader α)
    (bytes : Bytes) :
    Prop :=
  ∀ front back,
    bytes = front ++ back → back ≠ [] → StateT.run reader front = .error .endOfInput

/-- Whatever is read has a property. -/
def Reader.Gives
    {α : Type}
    (reader : Reader α)
    (property : α → Prop) :
    Prop :=
  ∀ input value rest, StateT.run reader input = .ok (value, rest) → property value

section Composition

variable
  {α β : Type}
  {reader : Reader α}
  {next : α → Reader β}

namespace Reader.Needs

/-- No byte is needed for a value that is given at once. -/
theorem none
    (reader : Reader α) :
    reader.Needs [] := by
  intro front back shape more
  exact absurd (List.append_eq_nil_iff.1 shape.symm).2 more

/-- Where the first part is cut, the first reader fails; where the second is cut, the second. -/
theorem bind
    {first second : Bytes}
    {value : α}
    (needs : reader.Needs first)
    (takes : reader.Takes first value)
    (needsNext : (next value).Needs second) :
    Reader.Needs (reader >>= next) (first ++ second) := by
  intro front back shape more
  rw [StateT.run_bind]
  rcases List.append_eq_append_iff.1 shape with
    ⟨between, rfl, secondShape⟩ | ⟨cut, firstShape, rfl⟩
  · rw [takes between]
    exact needsNext between back secondShape more
  · cases cut with
    | nil =>
        rw [List.append_nil] at firstShape
        subst firstShape
        have taken := takes []
        rw [List.append_nil] at taken
        rw [taken]
        exact needsNext [] second rfl more
    | cons byte rest =>
        rw [needs front (byte :: rest) firstShape nofun]
        rfl

end Reader.Needs

/-- A composed reader gives what the second reader gives after the first. -/
theorem Reader.Gives.bind
    {property : α → Prop}
    {nextProperty : β → Prop}
    (gives : reader.Gives property)
    (givesNext : ∀ value, property value → (next value).Gives nextProperty) :
    Reader.Gives (reader >>= next) nextProperty := by
  intro input result rest isRead
  rw [StateT.run_bind] at isRead
  cases first : StateT.run reader input with
  | error fault =>
      rw [first] at isRead
      cases isRead
  | ok read =>
      obtain ⟨value, others⟩ := read
      rw [first] at isRead
      exact givesNext value (gives input value others first) others result rest isRead

theorem Reader.Gives.pure
    {property : α → Prop}
    {value : α}
    (holds : property value) :
    Reader.Gives (Pure.pure value) property := by
  intro input other rest isRead
  cases isRead
  exact holds

end Composition

section Numbers

/-- Bytes write a number that fits in as many bytes. -/
theorem ofLittleEndian_lt
    (bytes : Bytes) :
    ofLittleEndian bytes < 256 ^ bytes.length := by
  induction bytes with
  | nil =>
      exact Nat.one_pos
  | cons byte rest inductionHypothesis =>
      have small : byte.toNat < 256 := byte.toNat_lt
      rw [ofLittleEndian, List.length_cons, Nat.pow_succ]
      omega

theorem readFixed_needs
    {width : Nat}
    {bytes : Bytes}
    (size : bytes.length = width) :
    (readFixed width).Needs bytes := by
  intro front back shape more
  have short : front.length < width := by
    have backSize := List.length_pos_iff.2 more
    rw [← size, shape, List.length_append]
    omega
  simp [readFixed, StateT.run, short]

theorem readNat64_needs
    (value : Nat) :
    readNat64.Needs (writeNat64 value) :=
  readFixed_needs (length_littleEndian 8 value)

/-- A length that is read fits in eight bytes. -/
theorem readNat64_gives :
    readNat64.Gives (· < lengthLimit) := by
  intro input value rest isRead
  simp only [readNat64, readFixed, StateT.run] at isRead
  split at isRead
  next =>
    cases isRead
  next enough =>
    cases isRead
    have bounded := ofLittleEndian_lt (input.take 8)
    rwa [List.length_take_of_le (Nat.not_lt.1 enough)] at bounded

end Numbers

section Sequences

theorem readBytes_needs
    {bytes : Bytes}
    (fits : bytes.length < lengthLimit) :
    readBytes.Needs (writeBytes bytes) := by
  refine (readNat64_needs bytes.length).bind (readNat64_takes fits) ?_
  intro front back shape more
  have short : front.length < bytes.length := by
    have backSize := List.length_pos_iff.2 more
    rw [shape, List.length_append]
    omega
  simp [StateT.run, short]

/-- A byte string that is read is as long as its length says, which fits. -/
theorem readBytes_gives :
    readBytes.Gives (·.length < lengthLimit) := by
  refine readNat64_gives.bind ?_
  intro length fits input value rest isRead
  simp only [StateT.run] at isRead
  split at isRead
  next =>
    cases isRead
  next enough =>
    cases isRead
    rwa [List.length_take_of_le (Nat.not_lt.1 enough)]

variable
  {α : Type}
  {readItem : Reader α}
  {writeItem : α → Bytes}
  {items : List α}
  {property : α → Prop}

/-- Items in a row are needed one and all. -/
theorem readItems_needs
    (takes : ∀ item ∈ items, readItem.Takes (writeItem item) item)
    (needs : ∀ item ∈ items, readItem.Needs (writeItem item)) :
    (readItems readItem items.length).Needs (items.flatMap writeItem) := by
  induction items with
  | nil =>
      exact .none _
  | cons item items inductionHypothesis =>
      obtain ⟨firstTakes, othersTake⟩ := List.forall_mem_cons.1 takes
      obtain ⟨firstNeeds, othersNeed⟩ := List.forall_mem_cons.1 needs
      have shape :
          (item :: items).flatMap writeItem =
            writeItem item ++ (items.flatMap writeItem ++ []) := by
        rw [List.flatMap_cons, List.append_nil]
      rw [shape]
      have others := inductionHypothesis othersTake othersNeed
      exact firstNeeds.bind firstTakes (others.bind (readItems_takes othersTake) (.none _))

theorem readSequence_needs
    (fits : items.length < lengthLimit)
    (takes : ∀ item ∈ items, readItem.Takes (writeItem item) item)
    (needs : ∀ item ∈ items, readItem.Needs (writeItem item)) :
    (readSequence readItem).Needs (writeSequence writeItem items) :=
  (readNat64_needs items.length).bind (readNat64_takes fits) (readItems_needs takes needs)

/-- As many items are read as asked for, each with what its reader gives. -/
theorem readItems_gives
    (gives : readItem.Gives property)
    (count : Nat) :
    (readItems readItem count).Gives
      fun items => items.length = count ∧ ∀ item ∈ items, property item := by
  induction count with
  | zero =>
      exact .pure ⟨rfl, nofun⟩
  | succ count inductionHypothesis =>
      refine gives.bind ?_
      intro item holds
      refine inductionHypothesis.bind ?_
      rintro items ⟨size, allHold⟩
      exact .pure ⟨congrArg (· + 1) size, List.forall_mem_cons.2 ⟨holds, allHold⟩⟩

/-- A sequence that is read has a length that fits, and items that its reader gives. -/
theorem readSequence_gives
    (gives : readItem.Gives property) :
    (readSequence readItem).Gives
      fun items => items.length < lengthLimit ∧ ∀ item ∈ items, property item := by
  refine readNat64_gives.bind ?_
  intro count fits input items rest isRead
  obtain ⟨size, allHold⟩ := readItems_gives gives count input items rest isRead
  exact ⟨size ▸ fits, allHold⟩

end Sequences

end SecondaryIndex.Binary
