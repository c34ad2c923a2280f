namespace Postroom

/-!
# Procedures that work in place

A procedure changes a state step by step and may break off with an error.
Nothing is rolled back then: what it has changed by that time stays changed.
The lemmas say what each kind of step gives and what state it leaves. Steps
that leave nothing half done do the same as one computation that is taken on
as a whole. Of a state in two parts, the first may still be closed by an error.
-/

/-- Steps that change a state in place, until one of them breaks off. -/
abbrev Procedure (State Error : Type) :=
  ExceptT Error (StateM State)

namespace Procedure

variable
  {State Error α β : Type}

/-- What a procedure gives, and the state that it leaves. -/
def runIn
    (procedure : Procedure State Error α)
    (state : State) :
    Except Error α × State :=
  (procedure.run.run state).run

section Running

variable (state : State)

@[simp] theorem runIn_pure (value : α) :
    (pure value : Procedure State Error α).runIn state = (.ok value, state) :=
  rfl

@[simp] theorem runIn_throw (error : Error) :
    (throw error : Procedure State Error α).runIn state =
      (.error error, state) :=
  rfl

@[simp] theorem runIn_get :
    (get : Procedure State Error State).runIn state = (.ok state, state) :=
  rfl

@[simp] theorem runIn_modify (change : State → State) :
    (modify change : Procedure State Error PUnit).runIn state =
      (.ok ⟨⟩, change state) :=
  rfl

@[simp] theorem runIn_ofExcept (outcome : Except Error α) :
    (MonadExcept.ofExcept outcome : Procedure State Error α).runIn state =
      (outcome, state) := by
  cases outcome <;> rfl

/-- Behind an error, nothing more is done. -/
@[simp] theorem runIn_bind
    (first : Procedure State Error α)
    (next : α → Procedure State Error β) :
    (first >>= next).runIn state =
      match first.runIn state with
      | (.ok value, later) =>
          (next value).runIn later
      | (.error error, later) =>
          (.error error, later) := by
  simp only [runIn, ExceptT.run_bind, StateT.run_bind, Id.run_bind]
  obtain ⟨outcome, later⟩ := (first.run.run state).run
  cases outcome <;> rfl

@[simp] theorem runIn_map
    (change : α → β)
    (procedure : Procedure State Error α) :
    (change <$> procedure).runIn state =
      match procedure.runIn state with
      | (.ok value, later) =>
          (.ok (change value), later)
      | (.error error, later) =>
          (.error error, later) := by
  rw [← bind_pure_comp, runIn_bind]
  rfl

/-- An error can be caught, but not what led to it. -/
@[simp] theorem runIn_tryCatch
    (procedure : Procedure State Error α)
    (handle : Error → Procedure State Error α) :
    (tryCatch procedure handle).runIn state =
      match procedure.runIn state with
      | (.ok value, later) =>
          (.ok value, later)
      | (.error error, later) =>
          (handle error).runIn later := by
  have caught :
      (tryCatch procedure handle).run =
        procedure.run >>= fun
          | .ok value => pure (.ok value)
          | .error error => (handle error).run :=
    rfl
  simp only [runIn, caught, StateT.run_bind, Id.run_bind]
  obtain ⟨outcome, later⟩ := (procedure.run.run state).run
  cases outcome <;> rfl

end Running

/-- A computation on a state is taken on as a whole, or not at all. -/
def settle (state : State) :
    Except Error (α × State) → Except Error α × State
  | .ok (value, later) =>
      (.ok value, later)
  | .error error =>
      (.error error, state)

@[simp] theorem settle_ok
    (state later : State)
    (value : α) :
    settle state (.ok (value, later) : Except Error (α × State)) =
      (.ok value, later) :=
  rfl

@[simp] theorem settle_error
    (state : State)
    (error : Error) :
    settle state (.error error : Except Error (α × State)) =
      (.error error, state) :=
  rfl

/-- What is only looked up leaves the state as it is. -/
theorem settle_map
    (state : State)
    (outcome : Except Error α) :
    settle state (outcome.map fun value => (value, state)) =
      (outcome, state) := by
  cases outcome <;> rfl

section Parts

variable
  {Part Rest : Type}

/-- Change the first of two parts. -/
def alter (change : Part → Part) : Procedure (Part × Rest) Error PUnit :=
  modify fun (part, rest) => (change part, rest)

@[simp] theorem runIn_alter
    (part : Part)
    (rest : Rest)
    (change : Part → Part) :
    (alter change : Procedure (Part × Rest) Error PUnit).runIn (part, rest) =
      (.ok ⟨⟩, change part, rest) :=
  rfl

/-- Steps whose error, if it ends the first part, closes it before it is passed on. -/
def closing
    (procedure : Procedure (Part × Rest) Error α)
    (ends : Error → Bool)
    (close : Part → Part) :
    Procedure (Part × Rest) Error α :=
  tryCatch procedure fun error => do
    if ends error then
      alter close
    throw error

/-- Where a computation is not taken on, only the first part may change. -/
theorem runIn_closing
    {procedure : Procedure (Part × Rest) Error α}
    {part : Part}
    {rest : Rest}
    {outcome : Except Error (α × Part × Rest)}
    (ends : Error → Bool)
    (close : Part → Part) :
    procedure.runIn (part, rest) = settle (part, rest) outcome →
    (procedure.closing ends close).runIn (part, rest) =
      match outcome with
      | .ok (value, later) =>
          (.ok value, later)
      | .error error =>
          (.error error, if ends error then close part else part, rest) := by
  intro settles
  rw [closing, runIn_tryCatch, settles]
  cases outcome with
  | ok done =>
      rfl
  | error error =>
      cases closes : ends error <;> simp [closes]

end Parts

end Procedure

end Postroom
