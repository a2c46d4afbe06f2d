import Udp2raw.Data.Program

/-!
# Refinement of programs that may stop

A concrete program with errors of its own refines an abstract one if each outcome matches: the
same error of the abstract program, or the same state with related values. Then no error of the
concrete program is one of its own.
-/
namespace Udp2raw

variable {ε ε' σ α β γ δ : Type} {embed : ε → ε'}

/-- Two outcomes match: an error of the abstract side, or related values. -/
def Matches (embed : ε → ε') (related : α → β → Prop) : Except ε' α → Except ε β → Prop
  | .ok value, .ok abstract => related value abstract
  | .error fault, .error abstract => fault = embed abstract
  | _, _ => False

namespace Matches

variable {related : α → β → Prop} {after : γ → δ → Prop}

/-- Related values match. -/
theorem ok {value : α} {abstract : β} (same : related value abstract) :
    Matches embed related (.ok value) (.ok abstract) := same

/-- An error of the abstract side matches itself. -/
theorem error (fault : ε) :
    Matches embed related (.error (embed fault)) (.error fault) := rfl

/-- Matching computations with matching continuations. -/
theorem bind {concrete : Except ε' α} {abstract : Except ε β} {next : α → Except ε' γ}
    {abstractNext : β → Except ε δ} (first : Matches embed related concrete abstract)
    (rest : ∀ value other, related value other →
      Matches embed after (next value) (abstractNext other)) :
    Matches embed after (concrete >>= next) (abstract >>= abstractNext) := by
  cases concrete with
  | error fault =>
    cases abstract with
    | error other => exact first
    | ok other => exact first.elim
  | ok value =>
    cases abstract with
    | error other => exact first.elim
    | ok other => exact rest value other first

/-- A step of the concrete side only, which computes a value. -/
theorem bind_left {concrete : Except ε' α} {value : α} {next : α → Except ε' γ}
    {abstract : Except ε δ} (computed : concrete = .ok value)
    (rest : Matches embed after (next value) abstract) :
    Matches embed after (concrete >>= next) abstract := by
  subst computed
  exact rest

/-- A value of the concrete side is converted at the end. -/
theorem convert_left {concrete : Except ε' α} {abstract : Except ε δ}
    {related : α → δ → Prop} (convert : α → γ) (first : Matches embed related concrete abstract)
    (keeps : ∀ value other, related value other → after (convert value) other) :
    Matches embed after (concrete >>= fun value => .ok (convert value)) abstract := by
  cases concrete with
  | error fault =>
    cases abstract with
    | error other => exact first
    | ok other => exact first.elim
  | ok value =>
    cases abstract with
    | error other => exact first.elim
    | ok other => exact keeps value other first

/-- The values of both sides are converted at the end. -/
theorem map {ζ : Type} {concrete : Except ε' α} {abstract : Except ε β} {after : γ → ζ → Prop}
    (convert : α → γ) (convertOther : β → ζ) (first : Matches embed related concrete abstract)
    (keeps : ∀ value other, related value other → after (convert value) (convertOther other)) :
    Matches embed after (concrete.map convert) (abstract.map convertOther) := by
  cases concrete with
  | error fault =>
    cases abstract with
    | error other => exact first
    | ok other => exact first.elim
  | ok value =>
    cases abstract with
    | error other => exact first.elim
    | ok other => exact keeps value other first

/-- The values of matching computations are those that they return. -/
theorem returned {concrete : Except ε' α} {abstract : Except ε β}
    (first : Matches embed related concrete abstract) :
    Matches embed (fun value other => related value other ∧ abstract = .ok other) concrete
      abstract := by
  cases concrete with
  | error fault =>
    cases abstract with
    | error other => exact first
    | ok other => exact first.elim
  | ok value =>
    cases abstract with
    | error other => exact first.elim
    | ok other => exact ⟨first, rfl⟩

/-- A weaker relation of the values. -/
theorem weaken {weaker : α → β → Prop} {concrete : Except ε' α} {abstract : Except ε β}
    (first : Matches embed related concrete abstract)
    (weak : ∀ value other, related value other → weaker value other) :
    Matches embed weaker concrete abstract := by
  cases concrete with
  | error fault =>
    cases abstract with
    | error other => exact first
    | ok other => exact first.elim
  | ok value =>
    cases abstract with
    | error other => exact first.elim
    | ok other => exact weak value other first

/-- Two loops over one list with matching bodies. -/
theorem foldlM {concrete : α → γ → Except ε' α} {abstract : β → γ → Except ε β}
    (body : ∀ value other item, related value other →
      Matches embed related (concrete value item) (abstract other item)) (items : List γ) :
    ∀ value other, related value other →
      Matches embed related (items.foldlM concrete value) (items.foldlM abstract other) := by
  induction items with
  | nil => exact fun value other same => ok same
  | cons item items ih =>
    intro value other same
    rw [List.foldlM_cons, List.foldlM_cons]
    exact bind (body value other item same) ih

end Matches

/-- A program with more errors that has none of them. -/
def embedded (embed : ε → ε') (program : Program ε σ α) : Program ε' σ α := fun state =>
  match program state with
  | .ok result => .ok result
  | .error fault => .error (embed fault)

/-- The outcomes of two programs match from every state. -/
def Refines (embed : ε → ε') (related : α → β → Prop) (concrete : Program ε' σ α)
    (abstract : Program ε σ β) : Prop :=
  ∀ state, Matches embed (fun result other => related result.1 other.1 ∧ result.2 = other.2)
    (concrete.run state) (abstract.run state)

namespace Refines

variable {related : α → β → Prop} {after : γ → δ → Prop}

/-- Related values. -/
theorem pure {value : α} {abstract : β} (same : related value abstract) :
    Refines embed related (Pure.pure value : Program ε' σ α)
      (Pure.pure abstract : Program ε σ β) := fun _ => ⟨same, rfl⟩

/-- A program that has none of the other errors refines itself. -/
theorem embedded (program : Program ε σ α) :
    Refines embed Eq (Udp2raw.embedded embed program) program := by
  intro state
  show Matches embed _ (match program state with
    | .ok result => .ok result
    | .error fault => .error (embed fault)) (program state)
  cases program state with
  | error fault => exact Matches.error fault
  | ok result => exact ⟨rfl, rfl⟩

/-- The state is read on both sides. -/
theorem get : Refines embed Eq (MonadState.get : Program ε' σ σ) (MonadState.get : Program ε σ σ) :=
  fun _ => ⟨rfl, rfl⟩

/-- The state is written on both sides. -/
theorem set (next : σ) : Refines embed Eq (MonadStateOf.set next : Program ε' σ PUnit)
    (MonadStateOf.set next : Program ε σ PUnit) := fun _ => ⟨rfl, rfl⟩

/-- The state is changed on both sides. -/
theorem modified (change : σ → σ) : Refines embed Eq (modify change : Program ε' σ PUnit)
    (modify change : Program ε σ PUnit) := fun _ => ⟨rfl, rfl⟩

/-- Refinements compose along a program. -/
theorem bind {concrete : Program ε' σ α} {abstract : Program ε σ β} {next : α → Program ε' σ γ}
    {abstractNext : β → Program ε σ δ} (first : Refines embed related concrete abstract)
    (rest : ∀ value other, related value other →
      Refines embed after (next value) (abstractNext other)) :
    Refines embed after (concrete >>= next) (abstract >>= abstractNext) := by
  intro state
  refine Matches.bind (first state) fun result other same => ?_
  obtain ⟨value, middle⟩ := result
  obtain ⟨abstractValue, abstractMiddle⟩ := other
  obtain ⟨same, rfl⟩ := same
  exact rest value abstractValue same middle

/-- Computations without a state. -/
theorem lift {concrete : Except ε' α} {abstract : Except ε β}
    (first : Matches embed related concrete abstract) :
    Refines embed related (liftM concrete : Program ε' σ α) (liftM abstract : Program ε σ β) := by
  intro state
  cases concrete with
  | error fault =>
    cases abstract with
    | error other => exact first
    | ok other => exact first.elim
  | ok value =>
    cases abstract with
    | error other => exact first.elim
    | ok other => exact ⟨first, rfl⟩

/-- A step of the concrete program only, which computes a value. -/
theorem bind_left {concrete : Except ε' α} {value : α} {next : α → Program ε' σ γ}
    {abstract : Program ε σ δ} (computed : concrete = .ok value)
    (rest : Refines embed after (next value) abstract) :
    Refines embed after ((liftM concrete : Program ε' σ α) >>= next) abstract := by
  subst computed
  exact rest

/-- A program that refines another one with the same values is that program. -/
theorem eq_embedded {concrete : Program ε' σ α} {abstract : Program ε σ α}
    (refines : Refines embed Eq concrete abstract) :
    concrete = Udp2raw.embedded embed abstract := by
  funext state
  have outcome := refines state
  unfold Udp2raw.embedded
  unfold StateT.run at outcome
  cases first : concrete state with
  | error fault =>
    cases second : abstract state with
    | error other =>
      rw [first, second] at outcome
      exact congrArg Except.error outcome
    | ok other =>
      rw [first, second] at outcome
      exact outcome.elim
  | ok result =>
    cases second : abstract state with
    | error other =>
      rw [first, second] at outcome
      exact outcome.elim
    | ok other =>
      rw [first, second] at outcome
      exact congrArg Except.ok (Prod.ext outcome.1 outcome.2)

/-- No error of a refining program is one of its own. -/
theorem stops {concrete : Program ε' σ α} {abstract : Program ε σ β}
    (refines : Refines embed related concrete abstract) (state : σ) :
    Stops concrete state fun fault => ∃ reason, fault = embed reason := by
  intro fault stopped
  have outcome := refines state
  rw [stopped] at outcome
  cases second : abstract.run state with
  | error other =>
    rw [second] at outcome
    exact ⟨other, outcome⟩
  | ok other =>
    rw [second] at outcome
    exact outcome.elim

end Refines

end Udp2raw
