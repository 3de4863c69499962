import Mathlib.Logic.Function.Basic
import OfflineReels.Foundation.Protocol
import OfflineReels.Foundation.Transition

namespace OfflineReels.Foundation

/-! Interleavings of programs over a shared state.  One step performs one call
of one thread; what the outside decides (a failure, an answer, the time) is the
choice carried by the label.  Each thread is watched by a protocol. -/

abbrev ThreadId : Type := Nat

structure Machine (Call : Type) (Reply : Call → Type)
    (Fault Phase Shared Job Choice : Type) where
  protocol : Protocol Call Reply Fault Phase
  idle : Phase
  program : Job → Program Call Reply Fault Unit
  perform : ThreadId → Shared → (request : Call) → Choice →
    Option (Shared × Except Fault (Reply request))

structure Config (Call : Type) (Reply : Call → Type)
    (Fault Phase Shared : Type) where
  shared : Shared
  threads : ThreadId → Option (Program Call Reply Fault Unit)
  phases : ThreadId → Phase

inductive Label (Job Choice : Type) : Type
  | spawn (thread : ThreadId) (job : Job)
  | step (thread : ThreadId) (choice : Choice)
  | crash (thread : ThreadId)

/-! What an observer writes down of the calls, beside the shared state. -/

/-- A note is made of each call from what it was answered and what it did. -/
abbrev Observer (Call : Type) (Reply : Call → Type) (Fault Shared Note : Type) :
    Type :=
  ThreadId → Shared → (request : Call) → Except Fault (Reply request) →
    Shared → Note → Note

def noting {Call : Type} {Reply : Call → Type} {Fault Shared Choice Note : Type}
    (perform : ThreadId → Shared → (request : Call) → Choice →
      Option (Shared × Except Fault (Reply request)))
    (observe : Observer Call Reply Fault Shared Note) (thread : ThreadId)
    (state : Shared × Note) (request : Call) (choice : Choice) :
    Option ((Shared × Note) × Except Fault (Reply request)) :=
  (perform thread state.1 request choice).map fun (after, reply) =>
    ((after, observe thread state.1 request reply after state.2), reply)

theorem noting_eq_some {Call : Type} {Reply : Call → Type}
    {Fault Shared Choice Note : Type}
    {perform : ThreadId → Shared → (request : Call) → Choice →
      Option (Shared × Except Fault (Reply request))}
    {observe : Observer Call Reply Fault Shared Note} {thread : ThreadId}
    {state after : Shared × Note} {request : Call} {choice : Choice}
    {reply : Except Fault (Reply request)}
    (performed : noting perform observe thread state request choice =
      some (after, reply)) :
    perform thread state.1 request choice = some (after.1, reply) ∧
      after.2 = observe thread state.1 request reply after.1 state.2 := by
  obtain ⟨⟨shared, answer⟩, same, reached⟩ :=
    Option.map_eq_some_iff.mp performed
  cases reached
  exact ⟨same, rfl⟩

namespace Machine

variable {Call : Type} {Reply : Call → Type}
variable {Fault Phase Shared Job Choice : Type}
variable (machine : Machine Call Reply Fault Phase Shared Job Choice)

def initial (shared : Shared) : Config Call Reply Fault Phase Shared where
  shared := shared
  threads := fun _ => none
  phases := fun _ => machine.idle

/-- A thread runs one job at a time; a crash drops the rest of its program. -/
def next (config : Config Call Reply Fault Phase Shared) :
    Label Job Choice → Option (Config Call Reply Fault Phase Shared)
  | .spawn thread job =>
      match config.threads thread with
      | some (.call _ _) => none
      | _ => some { config with
          threads := Function.update config.threads thread
            (some (machine.program job))
          phases := Function.update config.phases thread machine.idle }
  | .step thread choice =>
      match config.threads thread with
      | some (.call request resume) =>
          (machine.perform thread config.shared request choice).map
            fun (shared, reply) =>
              { shared := shared
                threads := Function.update config.threads thread
                  (some (resume reply))
                phases := Function.update config.phases thread
                  (machine.protocol.advance (config.phases thread) request
                    reply) }
      | _ => none
  | .crash thread =>
      some { config with
        threads := Function.update config.threads thread none
        phases := Function.update config.phases thread machine.idle }

/-- A condition on the calls, asked of the shared state and the phases just
before a call is performed. -/
abbrev CallCondition (Call Phase Shared : Type) : Type :=
  ThreadId → Shared → (ThreadId → Phase) → Call → Prop

def condition (guard : CallCondition Call Phase Shared)
    (config : Config Call Reply Fault Phase Shared) :
    Label Job Choice → Prop
  | .step thread _ =>
      ∀ request resume, config.threads thread = some (.call request resume) →
        guard thread config.shared config.phases request
  | _ => True

instance {guard : CallCondition Call Phase Shared}
    [∀ thread shared phases request,
      Decidable (guard thread shared phases request)]
    (config : Config Call Reply Fault Phase Shared) :
    ∀ label : Label Job Choice, Decidable (condition guard config label)
  | .spawn _ _ => .isTrue trivial
  | .crash _ => .isTrue trivial
  | .step thread _ =>
      match running : config.threads thread with
      | none => .isTrue fun request resume enabled => by
          rw [running] at enabled
          cases enabled
      | some (.done _) => .isTrue fun request resume enabled => by
          rw [running] at enabled
          cases enabled
      | some (.call request _) =>
          decidable_of_iff (guard thread config.shared config.phases request)
            ⟨fun holds other resume enabled => by
                rw [running] at enabled
                cases enabled
                exact holds,
              fun holds => holds request _ running⟩

/-- A condition on the steps that also sees what the outside decides, and one
on the crashes. -/
structure StepCondition (Call Phase Shared Choice : Type) where
  call : ThreadId → Shared → (ThreadId → Phase) → Call → Choice → Prop
  crash : ThreadId → Shared → (ThreadId → Phase) → Prop

def stepCondition (guard : StepCondition Call Phase Shared Choice)
    (config : Config Call Reply Fault Phase Shared) :
    Label Job Choice → Prop
  | .spawn _ _ => True
  | .step thread choice =>
      ∀ request resume, config.threads thread = some (.call request resume) →
        guard.call thread config.shared config.phases request choice
  | .crash thread => guard.crash thread config.shared config.phases

private def decidableCall {Call : Type} {Reply : Call → Type} {Fault : Type}
    {condition : Call → Prop} [∀ request, Decidable (condition request)] :
    ∀ program : Option (Program Call Reply Fault Unit),
      Decidable (∀ request resume, program = some (.call request resume) →
        condition request)
  | none => .isTrue nofun
  | some (.done _) => .isTrue nofun
  | some (.call request _) =>
      decidable_of_iff (condition request)
        ⟨fun holds _ _ same => by
            cases same
            exact holds,
          fun all => all request _ rfl⟩

instance {guard : StepCondition Call Phase Shared Choice}
    [∀ thread shared phases request choice,
      Decidable (guard.call thread shared phases request choice)]
    [∀ thread shared phases, Decidable (guard.crash thread shared phases)]
    (config : Config Call Reply Fault Phase Shared) :
    ∀ label : Label Job Choice, Decidable (stepCondition guard config label)
  | .spawn _ _ => .isTrue trivial
  | .step thread _ => decidableCall (config.threads thread)
  | .crash thread =>
      inferInstanceAs
        (Decidable (guard.crash thread config.shared config.phases))

theorem stepCondition_mono {strong weak : StepCondition Call Phase Shared Choice}
    (calls : ∀ thread shared phases request choice,
      strong.call thread shared phases request choice →
        weak.call thread shared phases request choice)
    (crashes : ∀ thread shared phases, strong.crash thread shared phases →
      weak.crash thread shared phases)
    {config : Config Call Reply Fault Phase Shared}
    {label : Label Job Choice} (holds : stepCondition strong config label) :
    stepCondition weak config label := by
  cases label with
  | spawn thread job => trivial
  | step thread choice =>
      exact fun request resume running =>
        calls _ _ _ _ _ (holds request resume running)
  | crash thread => exact crashes _ _ _ holds

def Quiescent (config : Config Call Reply Fault Phase Shared) : Prop :=
  ∀ thread request resume,
    config.threads thread ≠ some (.call request resume)

variable {machine}

theorem next_step_eq_some {config after : Config Call Reply Fault Phase Shared}
    {thread : ThreadId} {choice : Choice}
    (stepped : machine.next config (.step thread choice) = some after) :
    ∃ request resume shared reply,
      config.threads thread = some (.call request resume) ∧
      machine.perform thread config.shared request choice =
        some (shared, reply) ∧
      after = {
        shared := shared
        threads := Function.update config.threads thread (some (resume reply))
        phases := Function.update config.phases thread
          (machine.protocol.advance (config.phases thread) request reply) } := by
  cases running : config.threads thread with
  | none => simp [next, running] at stepped
  | some program =>
      cases program with
      | done result => simp [next, running] at stepped
      | call request resume =>
          simp only [next, running, Option.map_eq_some_iff] at stepped
          obtain ⟨⟨shared, reply⟩, performed, rfl⟩ := stepped
          exact ⟨request, resume, shared, reply, rfl, performed, rfl⟩

theorem next_spawn_eq_some
    {config after : Config Call Reply Fault Phase Shared}
    {thread : ThreadId} {job : Job}
    (stepped : machine.next config (.spawn thread job) = some after) :
    after = { config with
      threads := Function.update config.threads thread
        (some (machine.program job))
      phases := Function.update config.phases thread machine.idle } := by
  simp only [next] at stepped
  split at stepped
  · cases stepped
  · exact (Option.some.inj stepped).symm

theorem next_absent {config after : Config Call Reply Fault Phase Shared}
    {label : Label Job Choice} {thread : ThreadId}
    (absent : config.threads thread = none)
    (other : ∀ job, label ≠ .spawn thread job)
    (stepped : machine.next config label = some after) :
    after.threads thread = none := by
  cases label with
  | spawn spawned job =>
      obtain rfl := next_spawn_eq_some stepped
      have apart : thread ≠ spawned := by
        intro same
        exact other job (by rw [same])
      simp only [Function.update_of_ne apart]
      exact absent
  | step stepping choice =>
      obtain ⟨request, resume, shared, reply, running, _, rfl⟩ :=
        next_step_eq_some stepped
      have apart : thread ≠ stepping := by
        intro same
        rw [same, running] at absent
        cases absent
      simp only [Function.update_of_ne apart]
      exact absent
  | crash crashed =>
      cases stepped
      by_cases same : thread = crashed
      · rw [same]
        exact Function.update_self _ _ _
      · simp only [Function.update_of_ne same]
        exact absent

theorem run_absent {config final : Config Call Reply Fault Phase Shared}
    {labels : List (Label Job Choice)} {thread : ThreadId}
    (absent : config.threads thread = none)
    (others : ∀ job, .spawn thread job ∉ labels)
    (ran : run machine.next config labels = some final) :
    final.threads thread = none := by
  induction labels generalizing config with
  | nil =>
      cases ran
      exact absent
  | cons label rest ih =>
      obtain ⟨after, stepped, ran⟩ := run_cons_eq_some ran
      refine ih (next_absent absent (fun job same => ?_) stepped)
        (fun job member => others job (List.mem_cons_of_mem _ member)) ran
      exact others job (same ▸ List.mem_cons_self)

/-- What the rule below maintains: the invariant of shared state and phases,
and that what is left of every thread follows the protocol from its phase. -/
structure Sound (machine : Machine Call Reply Fault Phase Shared Job Choice)
    (invariant : Shared → (ThreadId → Phase) → Prop)
    (finished : Phase → Prop)
    (config : Config Call Reply Fault Phase Shared) : Prop where
  holds : invariant config.shared config.phases
  follows : ∀ thread program, config.threads thread = some program →
    program.Follows machine.protocol (config.phases thread)
      fun _ phase => finished phase
  absent : ∀ thread, config.threads thread = none →
    config.phases thread = machine.idle

theorem Sound.finished_of_quiescent
    {invariant : Shared → (ThreadId → Phase) → Prop}
    {finished : Phase → Prop}
    {config : Config Call Reply Fault Phase Shared}
    (sound : Sound machine invariant finished config)
    (idle : finished machine.idle)
    (quiescent : Quiescent config) (thread : ThreadId) :
    finished (config.phases thread) := by
  cases running : config.threads thread with
  | none => exact (sound.absent thread running) ▸ idle
  | some program =>
      cases program with
      | done result => exact sound.follows thread _ running
      | call request resume => exact absurd running (quiescent thread _ _)

private theorem sound_update
    {invariant : Shared → (ThreadId → Phase) → Prop}
    {finished : Phase → Prop}
    {config : Config Call Reply Fault Phase Shared}
    (sound : Sound machine invariant finished config)
    {shared : Shared} {thread : ThreadId}
    {program : Option (Program Call Reply Fault Unit)} {phase : Phase}
    (kept : invariant shared (Function.update config.phases thread phase))
    (follows : ∀ rest, program = some rest →
      rest.Follows machine.protocol phase fun _ reached => finished reached)
    (absent : program = none → phase = machine.idle) :
    Sound machine invariant finished
      { shared := shared
        threads := Function.update config.threads thread program
        phases := Function.update config.phases thread phase } where
  holds := kept
  follows := by
    intro other rest running
    by_cases same : other = thread
    · subst other
      simp only [Function.update_self] at running ⊢
      exact follows rest running
    · simp only [Function.update_of_ne same] at running ⊢
      exact sound.follows other rest running
  absent := by
    intro other missing
    by_cases same : other = thread
    · subst other
      simp only [Function.update_self] at missing ⊢
      exact absent missing
    · simp only [Function.update_of_ne same] at missing ⊢
      exact sound.absent other missing

theorem next_spawn_free
    {config after : Config Call Reply Fault Phase Shared}
    {thread : ThreadId} {job : Job}
    (stepped : machine.next config (.spawn thread job) = some after) :
    config.threads thread = none ∨
      ∃ result, config.threads thread = some (.done result) := by
  cases running : config.threads thread with
  | none => exact .inl rfl
  | some program =>
      cases program with
      | done result => exact .inr ⟨result, rfl⟩
      | call request resume => simp [next, running] at stepped

/-- One step, where the guard also sees the choices and the crashes.  A thread
that is free has finished. -/
theorem sound_next_steps {invariant : Shared → (ThreadId → Phase) → Prop}
    {finished : Phase → Prop} {guard : StepCondition Call Phase Shared Choice}
    (programs : ∀ job, (machine.program job).Follows machine.protocol
      machine.idle fun _ phase => finished phase)
    (respawns : ∀ shared phases thread, invariant shared phases →
      finished (phases thread) ∨ phases thread = machine.idle →
      invariant shared (Function.update phases thread machine.idle))
    (crashes : ∀ shared phases thread, invariant shared phases →
      guard.crash thread shared phases →
      invariant shared (Function.update phases thread machine.idle))
    (steps : ∀ thread shared phases request choice after reply,
      invariant shared phases →
      machine.protocol.permits (phases thread) request →
      guard.call thread shared phases request choice →
      machine.perform thread shared request choice = some (after, reply) →
      machine.protocol.assumes (phases thread) request reply ∧
        invariant after (Function.update phases thread
          (machine.protocol.advance (phases thread) request reply)))
    (config : Config Call Reply Fault Phase Shared)
    (label : Label Job Choice)
    (after : Config Call Reply Fault Phase Shared)
    (sound : Sound machine invariant finished config)
    (meets : stepCondition guard config label)
    (stepped : machine.next config label = some after) :
    Sound machine invariant finished after := by
  cases label with
  | spawn thread job =>
      have free : finished (config.phases thread) ∨
          config.phases thread = machine.idle := by
        rcases next_spawn_free stepped with absent | ⟨result, done⟩
        · exact .inr (sound.absent thread absent)
        · exact .inl (sound.follows thread _ done)
      obtain rfl := next_spawn_eq_some stepped
      refine sound_update sound (respawns _ _ _ sound.holds free) ?_ nofun
      intro rest same
      cases same
      exact programs job
  | step thread choice =>
      obtain ⟨request, resume, shared, reply, running, performed, rfl⟩ :=
        next_step_eq_some stepped
      obtain ⟨permitted, continues⟩ := sound.follows thread _ running
      obtain ⟨assumed, kept⟩ := steps thread config.shared config.phases
        request choice shared reply sound.holds permitted
        (meets request resume running) performed
      refine sound_update sound kept ?_ nofun
      intro rest same
      cases same
      exact continues reply assumed
  | crash thread =>
      cases stepped
      exact sound_update sound (crashes _ _ _ sound.holds meets) nofun
        fun _ => rfl

theorem sound_next {invariant : Shared → (ThreadId → Phase) → Prop}
    {finished : Phase → Prop} {guard : CallCondition Call Phase Shared}
    (programs : ∀ job, (machine.program job).Follows machine.protocol
      machine.idle fun _ phase => finished phase)
    (resets : ∀ shared phases thread, invariant shared phases →
      invariant shared (Function.update phases thread machine.idle))
    (steps : ∀ thread shared phases request choice after reply,
      invariant shared phases →
      machine.protocol.permits (phases thread) request →
      guard thread shared phases request →
      machine.perform thread shared request choice = some (after, reply) →
      machine.protocol.assumes (phases thread) request reply ∧
        invariant after (Function.update phases thread
          (machine.protocol.advance (phases thread) request reply)))
    (config : Config Call Reply Fault Phase Shared)
    (label : Label Job Choice)
    (after : Config Call Reply Fault Phase Shared)
    (sound : Sound machine invariant finished config)
    (meets : condition guard config label)
    (stepped : machine.next config label = some after) :
    Sound machine invariant finished after := by
  let steppedGuard : StepCondition Call Phase Shared Choice :=
    ⟨fun thread shared phases request _ => guard thread shared phases request,
      fun _ _ _ => True⟩
  have met : stepCondition steppedGuard config label := by
    cases label with
    | spawn thread job => trivial
    | step thread choice => exact meets
    | crash thread => trivial
  exact sound_next_steps programs
    (fun shared phases thread holds _ => resets shared phases thread holds)
    (fun shared phases thread holds _ => resets shared phases thread holds)
    steps config label after sound met stepped

theorem sound_initial {invariant : Shared → (ThreadId → Phase) → Prop}
    {finished : Phase → Prop} {shared : Shared}
    (holds : invariant shared fun _ => machine.idle) :
    Sound machine invariant finished (machine.initial shared) where
  holds := holds
  follows := nofun
  absent := fun _ _ => rfl

/-- The invariant of shared state and phases holds wherever a run arrives whose
calls all meet the guard. -/
theorem sound_run (invariant : Shared → (ThreadId → Phase) → Prop)
    (finished : Phase → Prop) {guard : CallCondition Call Phase Shared}
    (programs : ∀ job, (machine.program job).Follows machine.protocol
      machine.idle fun _ phase => finished phase)
    (resets : ∀ shared phases thread, invariant shared phases →
      invariant shared (Function.update phases thread machine.idle))
    (steps : ∀ thread shared phases request choice after reply,
      invariant shared phases →
      machine.protocol.permits (phases thread) request →
      guard thread shared phases request →
      machine.perform thread shared request choice = some (after, reply) →
      machine.protocol.assumes (phases thread) request reply ∧
        invariant after (Function.update phases thread
          (machine.protocol.advance (phases thread) request reply)))
    {config final : Config Call Reply Fault Phase Shared}
    {labels : List (Label Job Choice)}
    (sound : Sound machine invariant finished config)
    (meets : Meets machine.next (condition guard) config labels)
    (ran : run machine.next config labels = some final) :
    Sound machine invariant finished final :=
  run_invariant (sound_next programs resets steps) sound meets ran

/-- What the calls do to the shared state, along a run that meets the guard. -/
theorem sound_along (invariant : Shared → (ThreadId → Phase) → Prop)
    (finished : Phase → Prop) (relation : Shared → Shared → Prop)
    {guard : CallCondition Call Phase Shared}
    (programs : ∀ job, (machine.program job).Follows machine.protocol
      machine.idle fun _ phase => finished phase)
    (resets : ∀ shared phases thread, invariant shared phases →
      invariant shared (Function.update phases thread machine.idle))
    (steps : ∀ thread shared phases request choice after reply,
      invariant shared phases →
      machine.protocol.permits (phases thread) request →
      guard thread shared phases request →
      machine.perform thread shared request choice = some (after, reply) →
      machine.protocol.assumes (phases thread) request reply ∧
        invariant after (Function.update phases thread
          (machine.protocol.advance (phases thread) request reply)))
    (reflexive : ∀ shared, relation shared shared)
    (relates : ∀ thread shared phases request choice after reply,
      invariant shared phases →
      machine.protocol.permits (phases thread) request →
      guard thread shared phases request →
      machine.perform thread shared request choice = some (after, reply) →
      relation shared after)
    {config : Config Call Reply Fault Phase Shared}
    {labels : List (Label Job Choice)}
    (sound : Sound machine invariant finished config)
    (meets : Meets machine.next (condition guard) config labels) :
    Along machine.next
      (fun before _ after => relation before.shared after.shared)
      config labels := by
  refine along_of_invariant ?_ sound meets
  intro before label after kept holds stepped
  refine ⟨sound_next programs resets steps before label after kept holds
    stepped, ?_⟩
  cases label with
  | spawn thread job =>
      obtain rfl := next_spawn_eq_some stepped
      exact reflexive before.shared
  | crash thread =>
      cases stepped
      exact reflexive before.shared
  | step thread choice =>
      obtain ⟨request, resume, shared, reply, running, performed, rfl⟩ :=
        next_step_eq_some stepped
      obtain ⟨permitted, _⟩ := kept.follows thread _ running
      exact relates thread before.shared before.phases request choice shared
        reply kept.holds permitted (holds request resume running) performed

/-- Where the guard says exactly when a call keeps a relation of the shared
state, it says so of the steps. -/
theorem Sound.relates_iff {invariant : Shared → (ThreadId → Phase) → Prop}
    {finished : Phase → Prop} {guard : CallCondition Call Phase Shared}
    {config after : Config Call Reply Fault Phase Shared}
    {label : Label Job Choice}
    (sound : Sound machine invariant finished config)
    (relation : Shared → Shared → Prop)
    (stays : relation config.shared config.shared)
    (calls : ∀ thread request choice shared reply,
      machine.protocol.permits (config.phases thread) request →
      machine.perform thread config.shared request choice =
        some (shared, reply) →
      (relation config.shared shared ↔
        guard thread config.shared config.phases request))
    (stepped : machine.next config label = some after) :
    relation config.shared after.shared ↔ condition guard config label := by
  cases label with
  | spawn thread job =>
      obtain rfl := next_spawn_eq_some stepped
      exact iff_of_true stays trivial
  | crash thread =>
      cases stepped
      exact iff_of_true stays trivial
  | step thread choice =>
      obtain ⟨request, resume, shared, reply, running, performed, rfl⟩ :=
        next_step_eq_some stepped
      obtain ⟨permitted, _⟩ := sound.follows thread _ running
      have same := calls thread request choice shared reply permitted performed
      constructor
      · intro relates other rest enabled
        rw [running] at enabled
        cases enabled
        exact same.mp relates
      · exact fun meets => same.mpr (meets request resume running)

/-- What the invariant and the protocol say of a call holds of every call that
is performed along a run that meets the guard. -/
theorem sound_calls (invariant : Shared → (ThreadId → Phase) → Prop)
    (finished : Phase → Prop) {guard property : CallCondition Call Phase Shared}
    (programs : ∀ job, (machine.program job).Follows machine.protocol
      machine.idle fun _ phase => finished phase)
    (resets : ∀ shared phases thread, invariant shared phases →
      invariant shared (Function.update phases thread machine.idle))
    (steps : ∀ thread shared phases request choice after reply,
      invariant shared phases →
      machine.protocol.permits (phases thread) request →
      guard thread shared phases request →
      machine.perform thread shared request choice = some (after, reply) →
      machine.protocol.assumes (phases thread) request reply ∧
        invariant after (Function.update phases thread
          (machine.protocol.advance (phases thread) request reply)))
    (properties : ∀ thread shared phases request, invariant shared phases →
      machine.protocol.permits (phases thread) request →
      property thread shared phases request)
    {config : Config Call Reply Fault Phase Shared}
    {labels : List (Label Job Choice)}
    (sound : Sound machine invariant finished config)
    (meets : Meets machine.next (condition guard) config labels) :
    Meets machine.next (condition property) config labels := by
  refine along_of_invariant ?_ sound meets
  intro before label after kept holds stepped
  refine ⟨sound_next programs resets steps before label after kept holds
    stepped, ?_⟩
  cases label with
  | spawn thread job => trivial
  | crash thread => trivial
  | step thread choice =>
      intro request resume running
      obtain ⟨permitted, _⟩ := kept.follows thread _ running
      exact properties thread before.shared before.phases request kept.holds
        permitted

/-- The same where the guard also sees the choices and the crashes. -/
theorem sound_step_calls (invariant : Shared → (ThreadId → Phase) → Prop)
    (finished : Phase → Prop) {guard : StepCondition Call Phase Shared Choice}
    {property : CallCondition Call Phase Shared}
    (programs : ∀ job, (machine.program job).Follows machine.protocol
      machine.idle fun _ phase => finished phase)
    (respawns : ∀ shared phases thread, invariant shared phases →
      finished (phases thread) ∨ phases thread = machine.idle →
      invariant shared (Function.update phases thread machine.idle))
    (crashes : ∀ shared phases thread, invariant shared phases →
      guard.crash thread shared phases →
      invariant shared (Function.update phases thread machine.idle))
    (steps : ∀ thread shared phases request choice after reply,
      invariant shared phases →
      machine.protocol.permits (phases thread) request →
      guard.call thread shared phases request choice →
      machine.perform thread shared request choice = some (after, reply) →
      machine.protocol.assumes (phases thread) request reply ∧
        invariant after (Function.update phases thread
          (machine.protocol.advance (phases thread) request reply)))
    (properties : ∀ thread shared phases request choice,
      invariant shared phases →
      machine.protocol.permits (phases thread) request →
      guard.call thread shared phases request choice →
      property thread shared phases request)
    {config : Config Call Reply Fault Phase Shared}
    {labels : List (Label Job Choice)}
    (sound : Sound machine invariant finished config)
    (meets : Meets machine.next (stepCondition guard) config labels) :
    Meets machine.next (condition property) config labels := by
  refine along_of_invariant ?_ sound meets
  intro before label after kept holds stepped
  refine ⟨sound_next_steps programs respawns crashes steps before label after
    kept holds stepped, ?_⟩
  cases label with
  | spawn thread job => trivial
  | crash thread => trivial
  | step thread choice =>
      intro request resume running
      obtain ⟨permitted, _⟩ := kept.follows thread _ running
      exact properties thread before.shared before.phases request choice
        kept.holds permitted (holds request resume running)

end Machine

end OfflineReels.Foundation
