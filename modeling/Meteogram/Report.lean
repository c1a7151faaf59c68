/-!
# Reports

A computation of this library may stop with a fault, and it may log warnings
and errors on the way. `Report` is the value such a computation has: its
outcome, and the messages in the order in which they were logged. The messages
stay when the computation stops.
-/

set_option autoImplicit false

namespace Meteogram

/-- A computation that goes on ends well exactly if both parts do. -/
theorem bind_eq_ok {ε α β : Type} {first : Except ε α} {next : α → Except ε β} {b : β} :
    first >>= next = .ok b ↔ ∃ a, first = .ok a ∧ next a = .ok b := by
  cases first with
  | error fault => exact ⟨fun stopped => (by cases stopped), fun ⟨_, stopped, _⟩ => (by cases stopped)⟩
  | ok a => exact ⟨fun went => ⟨a, rfl, went⟩, fun ⟨_, same, went⟩ => (by cases same; exact went)⟩

/-- How serious a message is. -/
inductive Level where
  | warning
  | error
  deriving DecidableEq, Repr

/-- A logged message. -/
structure Message where
  /-- How serious it is. -/
  level : Level
  /-- What it says. -/
  text : String
  deriving DecidableEq, Repr

/-- The outcome of a computation and what it logged. -/
structure Report (ε α : Type) where
  /-- The value, or the fault that stopped the computation. -/
  outcome : Except ε α
  /-- The messages, the first one first. -/
  log : List Message

namespace Report

variable {ε α β : Type}

/-- A value without messages. -/
def value (a : α) : Report ε α := ⟨.ok a, []⟩

/-- Goes on with the value of the first computation; a fault stops here. -/
def andThen (first : Report ε α) (next : α → Report ε β) : Report ε β :=
  match first.outcome with
  | .error fault => ⟨.error fault, first.log⟩
  | .ok a => ⟨(next a).outcome, first.log ++ (next a).log⟩

instance : Monad (Report ε) where
  pure := value
  bind := andThen

/-- Stops with a fault. -/
def fail (fault : ε) : Report ε α := ⟨.error fault, []⟩

/-- Logs a warning. -/
def warn (text : String) : Report ε Unit := ⟨.ok (), [⟨.warning, text⟩]⟩

/-- Logs an error and goes on. -/
def complain (text : String) : Report ε Unit := ⟨.ok (), [⟨.error, text⟩]⟩

/-- A plain outcome as a report without messages. -/
def ofExcept (outcome : Except ε α) : Report ε α := ⟨outcome, []⟩

/-- A value that is there, or a fault. -/
def ofOption (fault : ε) : Option α → Report ε α
  | some a => value a
  | none => fail fault

@[simp] theorem value_andThen (a : α) (next : α → Report ε β) :
    (value a).andThen next = next a := by
  simp [value, andThen]

@[simp] theorem fail_andThen (fault : ε) (next : α → Report ε β) :
    (fail fault : Report ε α).andThen next = fail fault := by
  simp [fail, andThen]

theorem outcome_bind (first : Report ε α) (next : α → Report ε β) :
    (first >>= next).outcome = first.outcome >>= fun a => (next a).outcome := by
  change (first.andThen next).outcome = _
  rw [andThen]
  cases first.outcome <;> rfl

/-- A computation that goes on has a value exactly if both parts have one. -/
theorem outcome_bind_eq_ok_iff {first : Report ε α} {next : α → Report ε β} {last : β} :
    (first >>= next).outcome = .ok last ↔
      ∃ a, first.outcome = .ok a ∧ (next a).outcome = .ok last := by
  rw [outcome_bind, bind_eq_ok]

theorem outcome_bind_of_ok {first : Report ε α} {a : α} (went : first.outcome = .ok a)
    (next : α → Report ε β) : (first >>= next).outcome = (next a).outcome := by
  rw [outcome_bind, went]
  rfl

theorem log_bind_of_ok {first : Report ε α} {a : α} (went : first.outcome = .ok a)
    (next : α → Report ε β) : (first >>= next).log = first.log ++ (next a).log := by
  change (first.andThen next).log = _
  rw [andThen, went]

theorem andThen_assoc {γ : Type} (first : Report ε α) (next : α → Report ε β)
    (last : β → Report ε γ) :
    (first.andThen next).andThen last = first.andThen fun a => (next a).andThen last := by
  obtain ⟨outcome, log⟩ := first
  cases outcome with
  | error fault => rfl
  | ok a =>
    simp only [andThen]
    cases (next a).outcome with
    | error fault => rfl
    | ok b => simp only [List.append_assoc]

theorem andThen_value (report : Report ε α) : report.andThen value = report := by
  obtain ⟨outcome, log⟩ := report
  cases outcome <;> simp [andThen, value]

instance : LawfulMonad (Report ε) :=
  .mk' _ (fun report => andThen_value report) (fun a next => value_andThen a next)
    (fun first next last => andThen_assoc first next last)

/-- The outcome of a computation over a list is that of the outcomes. -/
theorem outcome_mapM (step : α → Report ε β) (list : List α) :
    (list.mapM step).outcome = list.mapM fun a => (step a).outcome := by
  induction list with
  | nil => rfl
  | cons a list ih =>
    rw [List.mapM_cons, List.mapM_cons, outcome_bind]
    congr 1
    funext value
    rw [outcome_bind, ih]
    rfl

end Report

end Meteogram
