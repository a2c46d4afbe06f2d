import Mathlib.Init

/-!
# Programs with a state that may stop

A program changes a state and returns a value, or stops with an error. What it does from
one state is the relation `Returns`; the rules below take a run of a composed program
apart, one step at a time. `Succeeds` says that a program does not stop and establishes a
postcondition, and `Stops` says why a program may stop.
-/
namespace Udp2raw

variable {ε σ α β : Type}

/-- A program over a state. -/
abbrev Program (ε σ : Type) := StateT σ (Except ε)

/-- From one state the program returns this value and leaves that state. -/
def Returns (program : Program ε σ α) (before : σ) (value : α) (after : σ) : Prop :=
  program.run before = .ok (value, after)

/-- From this state the program does not stop, and its result satisfies the postcondition. -/
def Succeeds (program : Program ε σ α) (before : σ) (post : α → σ → Prop) : Prop :=
  ∃ value after, Returns program before value after ∧ post value after

/-- From this state the program stops with an error. -/
def StopsWith (program : Program ε σ α) (before : σ) (fault : ε) : Prop :=
  program.run before = .error fault

/-- Why the program stops from this state, if it does. -/
def faultOf (program : Program ε σ α) (before : σ) : Option ε :=
  match program.run before with
  | .ok _ => none
  | .error fault => some fault

/-- What the program returns from this state, if it does. -/
def resultOf (program : Program ε σ α) (before : σ) : Option α :=
  match program.run before with
  | .ok result => some result.1
  | .error _ => none

/-- The state that the program leaves, or the one before it if it stops. -/
def leaves (program : Program ε σ α) (before : σ) : σ :=
  match program.run before with
  | .ok result => result.2
  | .error _ => before

/-- If the program stops in this state, then for one of these reasons. -/
def Stops (program : Program ε σ α) (before : σ) (reason : ε → Prop) : Prop :=
  ∀ fault, program.run before = .error fault → reason fault

/-- From every state the program goes on. -/
def Total (program : Program ε σ α) : Prop :=
  ∀ before, Succeeds program before fun _ _ => True

/-- Whatever the program does, the states before and after it are related. -/
def Keeps (related : σ → σ → Prop) (program : Program ε σ α) : Prop :=
  ∀ before value after, Returns program before value after → related before after

/-- Run a program on the first half of a state. -/
def onFirst {τ : Type} (program : Program ε σ α) : Program ε (σ × τ) α := fun state =>
  match program state.1 with
  | .error fault => .error fault
  | .ok (value, next) => .ok (value, next, state.2)

/-- Run a program on the second half of a state. -/
def onSecond {τ : Type} (program : Program ε τ α) : Program ε (σ × τ) α := fun state =>
  match program state.2 with
  | .error fault => .error fault
  | .ok (value, next) => .ok (value, state.1, next)

namespace Returns

variable {before after : σ} {value : α}

/-- A returned value leaves the state alone. -/
@[simp] theorem pure_iff {result : α} :
    Returns (pure result : Program ε σ α) before value after ↔
      result = value ∧ before = after := by
  show (Except.ok (result, before) : Except ε (α × σ)) = .ok (value, after) ↔ _
  simp

/-- A sequence runs its two parts one after the other. -/
theorem bind_iff {first : Program ε σ β} {rest : β → Program ε σ α} :
    Returns (first >>= rest) before value after ↔
      ∃ middle between, Returns first before middle between ∧
        Returns (rest middle) between value after := by
  simp only [Returns, StateT.run, bind, StateT.bind, Except.bind]
  cases first before with
  | error fault => simp
  | ok result =>
    obtain ⟨middle, between⟩ := result
    constructor
    · exact fun ran => ⟨middle, between, rfl, ran⟩
    · rintro ⟨_, _, same, ran⟩
      obtain ⟨rfl, rfl⟩ := Prod.mk.inj (Except.ok.inj same)
      exact ran

/-- Reading the state. -/
@[simp] theorem get_iff {value : σ} :
    Returns (get : Program ε σ σ) before value after ↔ before = value ∧ before = after := by
  simp [Returns, StateT.run, get, getThe, MonadStateOf.get, StateT.get, pure, Except.pure]

/-- Replacing the state. -/
@[simp] theorem set_iff {next : σ} {value : PUnit} :
    Returns (set next : Program ε σ PUnit) before value after ↔ next = after := by
  show (Except.ok (PUnit.unit, next) : Except ε (PUnit × σ)) = .ok (value, after) ↔ _
  simp

/-- Changing the state. -/
@[simp] theorem modify_iff {change : σ → σ} {value : PUnit} :
    Returns (modify change : Program ε σ PUnit) before value after ↔ change before = after := by
  show (Except.ok (PUnit.unit, change before) : Except ε (PUnit × σ)) = .ok (value, after) ↔ _
  simp

/-- A lifted computation leaves the state alone. -/
@[simp] theorem lift_iff {computation : Except ε α} :
    Returns (liftM computation : Program ε σ α) before value after ↔
      computation = .ok value ∧ before = after := by
  cases computation with
  | error fault => simp [Returns, StateT.run, liftM, monadLift, MonadLift.monadLift, StateT.lift,
      bind, Except.bind]
  | ok result => simp [Returns, StateT.run, liftM, monadLift, MonadLift.monadLift, StateT.lift,
      bind, Except.bind, pure, Except.pure]

/-- A stopped program returns nothing. -/
@[simp] theorem throw_iff {fault : ε} :
    ¬Returns (throw fault : Program ε σ α) before value after := by
  simp [Returns, StateT.run, throw, throwThe, MonadExceptOf.throw, StateT.lift, bind, Except.bind]

/-- A program on the first half leaves the second half alone. -/
theorem onFirst_iff {τ : Type} {program : Program ε σ α} {start finish : σ × τ} :
    Returns (onFirst program) start value finish ↔
      Returns program start.1 value finish.1 ∧ finish.2 = start.2 := by
  obtain ⟨left, right⟩ := finish
  simp only [Returns, StateT.run, onFirst]
  cases program start.1 with
  | error fault => simp
  | ok result =>
    simp only [Except.ok.injEq, Prod.ext_iff]
    constructor
    · rintro ⟨sameValue, sameLeft, sameRight⟩
      exact ⟨⟨sameValue, sameLeft⟩, sameRight.symm⟩
    · rintro ⟨⟨sameValue, sameLeft⟩, sameRight⟩
      exact ⟨sameValue, sameLeft, sameRight.symm⟩

/-- A program on the second half leaves the first half alone. -/
theorem onSecond_iff {τ : Type} {program : Program ε τ α} {start finish : σ × τ} :
    Returns (onSecond program) start value finish ↔
      Returns program start.2 value finish.2 ∧ finish.1 = start.1 := by
  obtain ⟨left, right⟩ := finish
  simp only [Returns, StateT.run, onSecond]
  cases program start.2 with
  | error fault => simp
  | ok result =>
    simp only [Except.ok.injEq, Prod.ext_iff]
    constructor
    · rintro ⟨sameValue, sameLeft, sameRight⟩
      exact ⟨⟨sameValue, sameRight⟩, sameLeft.symm⟩
    · rintro ⟨⟨sameValue, sameRight⟩, sameLeft⟩
      exact ⟨sameValue, sameLeft.symm, sameRight⟩

/-- A program returns at most one result. -/
theorem unique {program : Program ε σ α} {other : α} {final : σ}
    (first : Returns program before value after) (second : Returns program before other final) :
    value = other ∧ after = final := by
  have same := first.symm.trans second
  simpa using same

end Returns

/-- A program with a result returns it, and leaves its state. -/
theorem returns_of_resultOf {program : Program ε σ α} {before : σ} {value : α}
    (goes : resultOf program before = some value) :
    Returns program before value (leaves program before) := by
  unfold resultOf at goes
  unfold leaves Returns
  cases ran : program.run before with
  | error fault =>
    rw [ran] at goes
    contradiction
  | ok result =>
    rw [ran] at goes
    rw [← Option.some.inj goes]

/-- A program with a fault stops with it. -/
theorem stopsWith_of_faultOf {program : Program ε σ α} {before : σ} {fault : ε}
    (stops : faultOf program before = some fault) : StopsWith program before fault := by
  unfold faultOf at stops
  unfold StopsWith
  cases ran : program.run before with
  | error other =>
    rw [ran] at stops
    rw [Option.some.inj stops]
  | ok result =>
    rw [ran] at stops
    contradiction

namespace Succeeds

variable {before : σ} {post : α → σ → Prop}

/-- A program that returns a good result succeeds. -/
theorem of_returns {program : Program ε σ α} {value : α} {after : σ}
    (returned : Returns program before value after) (good : post value after) :
    Succeeds program before post := ⟨value, after, returned, good⟩

/-- A sequence succeeds when its first part does and the rest does from there. -/
theorem bind {first : Program ε σ β} {rest : β → Program ε σ α} {between : β → σ → Prop}
    (start : Succeeds first before between)
    (continue_ : ∀ middle state, Returns first before middle state → between middle state →
      Succeeds (rest middle) state post) :
    Succeeds (first >>= rest) before post := by
  obtain ⟨middle, state, ran, good⟩ := start
  obtain ⟨value, after, finished, final⟩ := continue_ middle state ran good
  exact ⟨value, after, Returns.bind_iff.mpr ⟨middle, state, ran, finished⟩, final⟩

/-- A weaker postcondition. -/
theorem weaken {program : Program ε σ α} {weaker : α → σ → Prop}
    (succeeds : Succeeds program before post)
    (implies : ∀ value after, post value after → weaker value after) :
    Succeeds program before weaker := by
  obtain ⟨value, after, returned, good⟩ := succeeds
  exact ⟨value, after, returned, implies value after good⟩

end Succeeds

namespace Stops

variable {before : σ} {reason : ε → Prop}

/-- A program that succeeds does not stop. -/
theorem of_succeeds {program : Program ε σ α} {post : α → σ → Prop}
    (succeeds : Succeeds program before post) : Stops program before reason := by
  obtain ⟨value, after, returned, -⟩ := succeeds
  intro fault stopped
  rw [Returns, stopped] at returned
  contradiction

/-- A program that returns does not stop. -/
theorem of_returns {program : Program ε σ α} {value : α} {after : σ}
    (returned : Returns program before value after) : Stops program before reason := by
  intro fault stopped
  rw [Returns, stopped] at returned
  contradiction

/-- A program that always goes on does not stop. -/
theorem of_total {program : Program ε σ α} (total : Total program) :
    Stops program before reason := of_succeeds (total before)

/-- A returned value. -/
theorem pure (value : α) : Stops (Pure.pure value : Program ε σ α) before reason :=
  of_returns (Returns.pure_iff.mpr ⟨rfl, rfl⟩)

/-- A program that stops itself. -/
theorem throw {fault : ε} (because : reason fault) :
    Stops (MonadExcept.throw fault : Program ε σ α) before reason := by
  intro other stopped
  have same : fault = other := by
    simpa [StateT.run, MonadExcept.throw, throwThe, MonadExceptOf.throw, StateT.lift, Bind.bind,
      Except.bind] using stopped
  exact same ▸ because

/-- A lifted computation. -/
theorem lift {computation : Except ε α}
    (because : ∀ fault, computation = .error fault → reason fault) :
    Stops (liftM computation : Program ε σ α) before reason := by
  intro fault stopped
  cases computed : computation with
  | error other =>
    have same : other = fault := by
      simpa [StateT.run, liftM, monadLift, MonadLift.monadLift, StateT.lift, Bind.bind,
        Except.bind, computed] using stopped
    exact same ▸ because other computed
  | ok value =>
    simp [StateT.run, liftM, monadLift, MonadLift.monadLift, StateT.lift, Bind.bind, Except.bind,
      Pure.pure, Except.pure, computed] at stopped

/-- A sequence stops in its first part or in the rest. -/
theorem bind {first : Program ε σ β} {rest : β → Program ε σ α} (start : Stops first before reason)
    (continue_ : ∀ middle state, Returns first before middle state →
      Stops (rest middle) state reason) : Stops (first >>= rest) before reason := by
  intro fault stopped
  simp only [StateT.run, Bind.bind, StateT.bind, Except.bind] at stopped
  cases ran : first before with
  | error other =>
    rw [ran] at stopped
    exact Except.error.inj stopped ▸ start other ran
  | ok result =>
    rw [ran] at stopped
    exact continue_ result.1 result.2 ran fault stopped

/-- A weaker reason. -/
theorem weaken {program : Program ε σ α} {weaker : ε → Prop} (stops : Stops program before reason)
    (implies : ∀ fault, reason fault → weaker fault) : Stops program before weaker :=
  fun fault stopped => implies fault (stops fault stopped)

/-- A choice of two programs. -/
theorem ite {condition : Prop} [Decidable condition] {yes no : Program ε σ α}
    (whenTrue : condition → Stops yes before reason)
    (whenFalse : ¬condition → Stops no before reason) :
    Stops (if condition then yes else no) before reason := by
  split
  · exact whenTrue (by assumption)
  · exact whenFalse (by assumption)

/-- A program without a reason to stop succeeds. -/
theorem succeeds {program : Program ε σ α} (stops : Stops program before fun _ => False) :
    Succeeds program before fun _ _ => True := by
  cases ran : program.run before with
  | error fault => exact (stops fault ran).elim
  | ok result => exact ⟨result.1, result.2, ran, trivial⟩

/-- A program on the first half of a state. -/
theorem onFirst {τ : Type} {program : Program ε σ α} {start : σ × τ}
    (stops : Stops program start.1 reason) : Stops (Udp2raw.onFirst program) start reason := by
  intro fault stopped
  simp only [StateT.run, Udp2raw.onFirst] at stopped
  cases ran : program start.1 with
  | error other =>
    rw [ran] at stopped
    exact Except.error.inj stopped ▸ stops other ran
  | ok result =>
    rw [ran] at stopped
    contradiction

/-- A program on the second half of a state. -/
theorem onSecond {τ : Type} {program : Program ε τ α} {start : σ × τ}
    (stops : Stops program start.2 reason) : Stops (Udp2raw.onSecond program) start reason := by
  intro fault stopped
  simp only [StateT.run, Udp2raw.onSecond] at stopped
  cases ran : program start.2 with
  | error other =>
    rw [ran] at stopped
    exact Except.error.inj stopped ▸ stops other ran
  | ok result =>
    rw [ran] at stopped
    contradiction

end Stops

/-- A returned value. -/
theorem total_pure (value : α) : Total (pure value : Program ε σ α) :=
  fun _ => .of_returns (Returns.pure_iff.mpr ⟨rfl, rfl⟩) trivial

/-- Reading the state. -/
theorem total_get : Total (get : Program ε σ σ) :=
  fun _ => .of_returns (Returns.get_iff.mpr ⟨rfl, rfl⟩) trivial

/-- Changing the state. -/
theorem total_modify (change : σ → σ) : Total (modify change : Program ε σ PUnit) :=
  fun before => ⟨⟨⟩, change before, Returns.modify_iff.mpr rfl, trivial⟩

/-- Replacing the state. -/
theorem total_set (next : σ) : Total (set next : Program ε σ PUnit) :=
  fun _ => ⟨⟨⟩, next, Returns.set_iff.mpr rfl, trivial⟩

/-- A choice of two programs that go on. -/
theorem total_ite {condition : Prop} [Decidable condition] {yes no : Program ε σ α}
    (whenTrue : condition → Total yes) (whenFalse : ¬condition → Total no) :
    Total (if condition then yes else no) := by
  split
  · exact whenTrue (by assumption)
  · exact whenFalse (by assumption)

/-- A sequence of two parts that go on. -/
theorem total_bind {first : Program ε σ β} {rest : β → Program ε σ α} (start : Total first)
    (continue_ : ∀ middle, Total (rest middle)) : Total (first >>= rest) :=
  fun before => (start before).bind fun middle state _ _ => continue_ middle state

section Keeps

variable {related : σ → σ → Prop}

/-- A returned value keeps a reflexive relation. -/
theorem keeps_pure (reflexive : ∀ state, related state state) (value : α) :
    Keeps related (pure value : Program ε σ α) := by
  intro before result after returned
  obtain ⟨-, rfl⟩ := Returns.pure_iff.mp returned
  exact reflexive before

/-- Reading the state keeps a reflexive relation. -/
theorem keeps_get (reflexive : ∀ state, related state state) :
    Keeps related (get : Program ε σ σ) := by
  intro before result after returned
  obtain ⟨-, rfl⟩ := Returns.get_iff.mp returned
  exact reflexive before

/-- Changing the state keeps what the change keeps. -/
theorem keeps_modify {change : σ → σ} (kept : ∀ state, related state (change state)) :
    Keeps related (modify change : Program ε σ PUnit) := by
  intro before result after returned
  obtain rfl := Returns.modify_iff.mp returned
  exact kept before

/-- A lifted computation keeps a reflexive relation. -/
theorem keeps_lift (reflexive : ∀ state, related state state) (computation : Except ε α) :
    Keeps related (liftM computation : Program ε σ α) := by
  intro before result after returned
  obtain ⟨-, rfl⟩ := Returns.lift_iff.mp returned
  exact reflexive before

/-- A sequence keeps a transitive relation that its parts keep. -/
theorem keeps_bind (transitive : ∀ {a b c}, related a b → related b c → related a c)
    {first : Program ε σ β} {rest : β → Program ε σ α} (start : Keeps related first)
    (continue_ : ∀ middle, Keeps related (rest middle)) : Keeps related (first >>= rest) := by
  intro before value after returned
  obtain ⟨middle, state, ran, finished⟩ := Returns.bind_iff.mp returned
  exact transitive (start _ _ _ ran) (continue_ middle _ _ _ finished)

/-- A program that stops itself keeps everything. -/
theorem keeps_throw (fault : ε) : Keeps related (throw fault : Program ε σ α) :=
  fun _ _ _ returned => absurd returned Returns.throw_iff

/-- A choice keeps what both programs keep. -/
theorem keeps_ite {condition : Prop} [Decidable condition] {yes no : Program ε σ α}
    (whenTrue : Keeps related yes) (whenFalse : Keeps related no) :
    Keeps related (if condition then yes else no) := by
  split
  · exact whenTrue
  · exact whenFalse

/-- A relation between the first halves of two states. -/
abbrev FirstHalf (related : σ → σ → Prop) {τ : Type} (one two : σ × τ) : Prop :=
  related one.1 two.1

/-- A program on the first half keeps there what it keeps alone. -/
theorem keeps_onFirst {τ : Type} {program : Program ε σ α} (kept : Keeps related program) :
    Keeps (FirstHalf related) (onFirst program : Program ε (σ × τ) α) := by
  intro before value after returned
  exact kept _ _ _ (Returns.onFirst_iff.mp returned).1

/-- A program on the second half leaves the first half alone. -/
theorem keeps_onSecond {τ : Type} (reflexive : ∀ state, related state state)
    (program : Program ε τ α) :
    Keeps (FirstHalf related) (onSecond program : Program ε (σ × τ) α) := by
  intro before value after returned
  have same : after.1 = before.1 := (Returns.onSecond_iff.mp returned).2
  show related before.1 after.1
  rw [same]
  exact reflexive before.1

end Keeps

/-! ### Values and states -/

/-- From every state of the first kind the program stops for these reasons only; what it returns is
good, and the state is of the second kind. -/
def Leads (pre : σ → Prop) (reason : ε → Prop) (program : Program ε σ α) (good : α → Prop)
    (post : σ → Prop) : Prop :=
  ∀ before, pre before → Stops program before reason ∧
    ∀ value after, Returns program before value after → good value ∧ post after

/-- The same with one kind of states. -/
abbrev Maintains (inv : σ → Prop) (reason : ε → Prop) (program : Program ε σ α) (good : α → Prop) :
    Prop := Leads inv reason program good inv

namespace Leads

variable {pre inv post : σ → Prop} {reason : ε → Prop} {good : α → Prop}

/-- A returned value. -/
theorem pure {value : α} (holds : good value) :
    Maintains inv reason (Pure.pure value : Program ε σ α) good := by
  refine fun before start => ⟨.pure value, fun result after returned => ?_⟩
  obtain ⟨rfl, rfl⟩ := Returns.pure_iff.mp returned
  exact ⟨holds, start⟩

/-- A sequence. -/
theorem bind {first : Program ε σ β} {rest : β → Program ε σ α} {between : β → Prop}
    (start : Leads pre reason first between inv)
    (continue_ : ∀ middle, between middle → Leads inv reason (rest middle) good post) :
    Leads pre reason (first >>= rest) good post := by
  intro before holds
  obtain ⟨stops, returns⟩ := start before holds
  refine ⟨.bind stops fun middle state ran => ?_, fun value after returned => ?_⟩
  · obtain ⟨found, still⟩ := returns middle state ran
    exact (continue_ middle found state still).1
  · obtain ⟨middle, state, ran, finished⟩ := Returns.bind_iff.mp returned
    obtain ⟨found, still⟩ := returns middle state ran
    exact (continue_ middle found state still).2 value after finished

/-- A choice of two programs. -/
theorem ite {condition : Prop} [Decidable condition] {yes no : Program ε σ α}
    (whenTrue : condition → Leads pre reason yes good post)
    (whenFalse : ¬condition → Leads pre reason no good post) :
    Leads pre reason (if condition then yes else no) good post := by
  split
  · exact whenTrue (by assumption)
  · exact whenFalse (by assumption)

/-- A program that stops itself. -/
theorem throw {fault : ε} (because : reason fault) :
    Leads pre reason (MonadExcept.throw fault : Program ε σ α) good post :=
  fun _ _ => ⟨.throw because, fun _ _ returned => absurd returned Returns.throw_iff⟩

/-- A lifted computation. -/
theorem lift {computation : Except ε α}
    (because : ∀ fault, computation = .error fault → reason fault)
    (holds : ∀ value, computation = .ok value → good value) :
    Maintains inv reason (liftM computation : Program ε σ α) good := by
  refine fun before start => ⟨.lift because, fun value after returned => ?_⟩
  obtain ⟨computed, rfl⟩ := Returns.lift_iff.mp returned
  exact ⟨holds value computed, start⟩

/-- A program that always goes on. -/
theorem of_total {program : Program ε σ α} (total : Total program)
    (returns : ∀ before value after, Returns program before value after → pre before →
      good value ∧ post after) : Leads pre reason program good post :=
  fun before start => ⟨.of_total total, fun value after returned =>
    returns before value after returned start⟩

end Leads

end Udp2raw
