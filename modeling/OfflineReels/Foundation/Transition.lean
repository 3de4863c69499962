import Mathlib.Logic.Basic

namespace OfflineReels.Foundation

/-! Partial step functions and the runs they generate.  A step function answers
`none` on a label that is not enabled. -/

variable {State : Type u} {Label : Type v}

def run (step : State → Label → Option State) :
    State → List Label → Option State
  | state, [] => some state
  | state, label :: rest =>
      (step state label).bind fun next => run step next rest

/-- Every step taken along the labels satisfies a relation between the state
before, the label and the state after. -/
def Along (step : State → Label → Option State)
    (relation : State → Label → State → Prop) : State → List Label → Prop
  | _, [] => True
  | state, label :: rest =>
      ∀ next, step state label = some next →
        relation state label next ∧ Along step relation next rest

/-- Every step taken along the labels starts in a state that meets a condition. -/
def Meets (step : State → Label → Option State)
    (condition : State → Label → Prop) (state : State)
    (labels : List Label) : Prop :=
  Along step (fun before label _ => condition before label) state labels

variable {step : State → Label → Option State}

instance Along.decidable {relation : State → Label → State → Prop}
    [∀ before label after, Decidable (relation before label after)] :
    ∀ (state : State) (labels : List Label),
      Decidable (Along step relation state labels)
  | _, [] => .isTrue trivial
  | state, label :: rest =>
      match stepped : step state label with
      | none => .isTrue fun next enabled => by
          rw [stepped] at enabled
          cases enabled
      | some next =>
          have : Decidable (Along step relation next rest) :=
            Along.decidable next rest
          decidable_of_iff
            (relation state label next ∧ Along step relation next rest)
            ⟨fun holds reached enabled => by
                rw [stepped] at enabled
                cases enabled
                exact holds,
              fun along => along next stepped⟩

instance {condition : State → Label → Prop}
    [∀ state label, Decidable (condition state label)]
    (state : State) (labels : List Label) :
    Decidable (Meets step condition state labels) :=
  Along.decidable state labels

@[simp] theorem run_nil (state : State) : run step state [] = some state := rfl

theorem run_cons_eq_some {state final : State} {label : Label}
    {rest : List Label} (ran : run step state (label :: rest) = some final) :
    ∃ next, step state label = some next ∧ run step next rest = some final :=
  Option.bind_eq_some_iff.mp ran

theorem Along.of_append_right {relation : State → Label → State → Prop}
    {state middle : State} {first second : List Label}
    (along : Along step relation state (first ++ second))
    (ran : run step state first = some middle) :
    Along step relation middle second := by
  induction first generalizing state with
  | nil =>
      cases ran
      exact along
  | cons label rest ih =>
      obtain ⟨next, stepped, ran⟩ := run_cons_eq_some ran
      exact ih (along next stepped).2 ran

/-- An invariant kept by every step that meets the condition holds wherever a
run whose steps all meet it arrives. -/
theorem run_invariant {condition : State → Label → Prop}
    {invariant : State → Prop}
    (preserved : ∀ state label next, invariant state →
      condition state label → step state label = some next → invariant next)
    {state final : State} {labels : List Label}
    (initially : invariant state)
    (meets : Meets step condition state labels)
    (ran : run step state labels = some final) : invariant final := by
  induction labels generalizing state with
  | nil =>
      cases ran
      exact initially
  | cons label rest ih =>
      obtain ⟨next, stepped, ran⟩ := run_cons_eq_some ran
      obtain ⟨holds, remaining⟩ := meets next stepped
      exact ih (preserved state label next initially holds stepped)
        remaining ran

/-- The same rule for what each single step does. -/
theorem along_of_invariant {condition : State → Label → Prop}
    {invariant : State → Prop} {relation : State → Label → State → Prop}
    (preserved : ∀ state label next, invariant state →
      condition state label → step state label = some next →
        invariant next ∧ relation state label next)
    {state : State} {labels : List Label}
    (initially : invariant state)
    (meets : Meets step condition state labels) :
    Along step relation state labels := by
  induction labels generalizing state with
  | nil => trivial
  | cons label rest ih =>
      intro next stepped
      obtain ⟨holds, remaining⟩ := meets next stepped
      obtain ⟨kept, related⟩ :=
        preserved state label next initially holds stepped
      exact ⟨related, ih kept remaining⟩

/-- Where the relation is the condition, under an invariant that the condition
keeps, the runs that satisfy the one are those that meet the other. -/
theorem along_iff_meets {condition : State → Label → Prop}
    {invariant : State → Prop} {relation : State → Label → State → Prop}
    (exact : ∀ state label next, invariant state →
      step state label = some next →
        (relation state label next ↔ condition state label) ∧
          (condition state label → invariant next))
    {state : State} {labels : List Label} (initially : invariant state) :
    Along step relation state labels ↔ Meets step condition state labels := by
  induction labels generalizing state with
  | nil => exact Iff.rfl
  | cons label rest ih =>
      constructor
      · intro along next stepped
        obtain ⟨related, remaining⟩ := along next stepped
        obtain ⟨same, kept⟩ := exact state label next initially stepped
        have holds := same.mp related
        exact ⟨holds, (ih (kept holds)).mp remaining⟩
      · intro meets next stepped
        obtain ⟨holds, remaining⟩ := meets next stepped
        obtain ⟨same, kept⟩ := exact state label next initially stepped
        exact ⟨same.mpr holds, (ih (kept holds)).mpr remaining⟩

theorem Along.mono {strong weak : State → Label → State → Prop}
    (weaken : ∀ before label after, strong before label after →
      weak before label after)
    {state : State} {labels : List Label}
    (along : Along step strong state labels) :
    Along step weak state labels := by
  induction labels generalizing state with
  | nil => trivial
  | cons label rest ih =>
      intro next stepped
      obtain ⟨holds, remaining⟩ := along next stepped
      exact ⟨weaken state label next holds, ih remaining⟩

theorem meets_of_forall {condition : Label → Prop} {state : State}
    {labels : List Label} (all : ∀ label ∈ labels, condition label) :
    Meets step (fun _ label => condition label) state labels := by
  induction labels generalizing state with
  | nil => trivial
  | cons label rest ih =>
      intro next _
      exact ⟨all label List.mem_cons_self,
        ih fun other member => all other (List.mem_cons_of_mem _ member)⟩

theorem meets_true (state : State) (labels : List Label) :
    Meets step (fun _ _ => True) state labels := by
  induction labels generalizing state with
  | nil => trivial
  | cons label rest ih => exact fun next _ => ⟨trivial, ih next⟩

end OfflineReels.Foundation
