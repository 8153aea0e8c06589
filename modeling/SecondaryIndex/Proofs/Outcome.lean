import SecondaryIndex.RecordLayer

namespace SecondaryIndex

/-!
# What operations come to

An operation on a state comes to a result and to the state it leaves.  A
composed operation succeeds exactly if its parts do, one after the other, and it
preserves what all of its parts preserve.
-/

section Outcome

variable {ε σ α β : Type}

/-- How an operation ends when it is begun on a state, and the state that it leaves. -/
def outcome
    (action : ExceptT ε (StateM σ) α)
    (before : σ) :
    Except ε α × σ :=
  action.run.run before

/-- A composed operation goes on from where its first part has ended, unless that failed. -/
theorem outcome_bind
    (action : ExceptT ε (StateM σ) α)
    (next : α → ExceptT ε (StateM σ) β)
    (before : σ) :
    outcome (action >>= next) before =
      match outcome action before with
      | (.ok value, middle) => outcome (next value) middle
      | (.error error, middle) => (.error error, middle) := by
  simp only [outcome, ExceptT.run_bind, StateT.run_bind]
  rcases action.run.run before with ⟨result, middle⟩
  cases result <;> rfl

/-- A composed operation succeeds exactly if both of its parts do. -/
theorem outcome_bind_ok
    {action : ExceptT ε (StateM σ) α}
    {next : α → ExceptT ε (StateM σ) β}
    {before after : σ}
    {result : β} :
    outcome (action >>= next) before = (.ok result, after) ↔
      ∃ value middle,
        outcome action before = (.ok value, middle) ∧
          outcome (next value) middle = (.ok result, after) := by
  rw [outcome_bind]
  rcases outcome action before with ⟨first, middle⟩
  cases first with
  | error error =>
      simp
  | ok value =>
      constructor
      · intro ends
        exact ⟨value, middle, rfl, ends⟩
      · rintro ⟨_, _, begins, ends⟩
        cases begins
        exact ends

theorem outcome_map_ok
    {action : ExceptT ε (StateM σ) α}
    {change : α → β}
    {before after : σ}
    {result : β} :
    outcome (change <$> action) before = (.ok result, after) ↔
      ∃ value, outcome action before = (.ok value, after) ∧ result = change value := by
  rw [map_eq_pure_bind, outcome_bind_ok]
  constructor
  · rintro ⟨value, middle, ends, rest⟩
    cases rest
    exact ⟨value, ends, rfl⟩
  · rintro ⟨value, ends, rfl⟩
    exact ⟨value, after, ends, rfl⟩

/-- Whatever comes of an operation, what held before it holds afterwards. -/
def Preserves
    (kept : σ → Prop)
    (action : ExceptT ε (StateM σ) α) :
    Prop :=
  ∀ before, kept before → kept (outcome action before).2

namespace Preserves

variable {kept : σ → Prop}

theorem pure
    (value : α) :
    Preserves kept (Pure.pure value : ExceptT ε (StateM σ) α) :=
  fun _ held => held

theorem bind
    {action : ExceptT ε (StateM σ) α}
    {next : α → ExceptT ε (StateM σ) β}
    (first : Preserves kept action)
    (rest : ∀ value, Preserves kept (next value)) :
    Preserves kept (action >>= next) := by
  intro before held
  have heldThen := first before held
  rw [outcome_bind]
  rcases shape : outcome action before with ⟨result, middle⟩
  rw [shape] at heldThen
  cases result with
  | error error =>
      exact heldThen
  | ok value =>
      exact rest value middle heldThen

theorem map
    {action : ExceptT ε (StateM σ) α}
    (change : α → β)
    (preserves : Preserves kept action) :
    Preserves kept (change <$> action) := by
  rw [map_eq_pure_bind]
  exact .bind preserves fun _ => .pure _

end Preserves

end Outcome

section Lifting

variable {σ α : Type}

/-- An operation of the index ends as it does by itself; its error is one of the index. -/
theorem outcome_ofIndex
    (action : Action σ α)
    (before : σ) :
    outcome (RecordAction.ofIndex action) before =
      ((outcome action before).1.mapError RecordError.index, (outcome action before).2) :=
  rfl

theorem outcome_ofIndex_ok
    {action : Action σ α}
    {before after : σ}
    {result : α} :
    outcome (RecordAction.ofIndex action) before = (.ok result, after) ↔
      outcome action before = (.ok result, after) := by
  rw [outcome_ofIndex]
  rcases outcome action before with ⟨error | value, middle⟩
  · exact iff_of_false nofun nofun
  · constructor <;>
      · rintro ⟨⟩
        rfl

/-- A call of a codec succeeds exactly if the codec does, and changes nothing. -/
theorem outcome_ofCodec_ok
    {result : Except CodecFailure α}
    {before after : σ}
    {value : α} :
    outcome (Action.ofCodec (pure result)) before = (.ok value, after) ↔
      result = .ok value ∧ after = before := by
  cases result with
  | error failure =>
      refine iff_of_false ?_ ?_
      · rintro ⟨⟩
      · rintro ⟨⟨⟩, -⟩
  | ok other =>
      constructor
      · rintro ⟨⟩
        exact ⟨rfl, rfl⟩
      · rintro ⟨⟨⟩, rfl⟩
        rfl

theorem Preserves.ofExcept
    {kept : σ → Prop}
    (result : Except IndexError α) :
    Preserves kept (Action.ofExcept result : Action σ α) :=
  fun _ held => held

/-- After an operation that ends as given, only the case that it succeeds has to be followed. -/
theorem Preserves.bind_ofExcept
    {β : Type}
    {kept : σ → Prop}
    {result : Except IndexError α}
    {next : α → Action σ β}
    (rest : ∀ value, result = .ok value → Preserves kept (next value)) :
    Preserves kept (Action.ofExcept result >>= next) := by
  cases result with
  | error error =>
      exact fun _ held => held
  | ok value =>
      exact rest value rfl

theorem Preserves.ofIndex
    {kept : σ → Prop}
    {action : Action σ α}
    (preserves : Preserves kept action) :
    Preserves kept (RecordAction.ofIndex action) :=
  preserves

end Lifting

section Beside

variable {ε σ τ R C α β : Type}

/-- A service on the first of two states, which leaves the second one alone. -/
def beside
    (service : StateM σ α) :
    StateM (σ × τ) α :=
  fun state =>
    ((service state.1).1, ((service state.1).2, state.2))

/-- An environment whose state has another one beside it. -/
def Environment.beside
    (τ : Type)
    (environment : Environment σ R C) :
    Environment (σ × τ) R C where
  get key :=
    SecondaryIndex.beside (environment.get key)
  set key value :=
    SecondaryIndex.beside (environment.set key value)
  delete key :=
    SecondaryIndex.beside (environment.delete key)
  entriesFrom key :=
    SecondaryIndex.beside (environment.entriesFrom key)
  encodePostings list :=
    SecondaryIndex.beside (environment.encodePostings list)
  decodePostings bytes :=
    SecondaryIndex.beside (environment.decodePostings bytes)
  encodeRecord record :=
    SecondaryIndex.beside (environment.encodeRecord record)
  decodeRecord bytes :=
    SecondaryIndex.beside (environment.decodeRecord bytes)
  report event :=
    SecondaryIndex.beside (environment.report event)

/-- Whatever lies beside a state, an operation comes to what a plain one comes to on the state. -/
def Shadows
    (action : ExceptT ε (StateM (σ × τ)) α)
    (plain : ExceptT ε (StateM σ) α) :
    Prop :=
  ∀ state other, ∃ after,
    outcome action (state, other) =
      ((outcome plain state).1, ((outcome plain state).2, after))

namespace Shadows

theorem pure
    (value : α) :
    Shadows (Pure.pure value : ExceptT ε (StateM (σ × τ)) α) (Pure.pure value) :=
  fun _ other => ⟨other, rfl⟩

theorem ofExcept
    (result : Except IndexError α) :
    Shadows (Action.ofExcept result : Action (σ × τ) α) (Action.ofExcept result) :=
  fun _ other => ⟨other, rfl⟩

theorem bind
    {action : ExceptT ε (StateM (σ × τ)) α}
    {plain : ExceptT ε (StateM σ) α}
    {next : α → ExceptT ε (StateM (σ × τ)) β}
    {plainNext : α → ExceptT ε (StateM σ) β}
    (first : Shadows action plain)
    (rest : ∀ value, Shadows (next value) (plainNext value)) :
    Shadows (action >>= next) (plain >>= plainNext) := by
  intro state other
  obtain ⟨middle, begins⟩ := first state other
  rw [outcome_bind, outcome_bind, begins]
  rcases outcome plain state with ⟨error | value, between⟩
  · exact ⟨middle, rfl⟩
  · exact rest value between middle

end Shadows

end Beside

end SecondaryIndex
