import Mathlib.Logic.Basic

namespace OfflineReels.Foundation

/-! Sequential programs over an interface of calls.  A call is the only point
at which a program waits for the outside; its reply is a value or a fault. -/

inductive Program (Call : Type) (Reply : Call → Type) (Fault α : Type) : Type
  | done (result : Except Fault α)
  | call (request : Call)
      (resume : Except Fault (Reply request) → Program Call Reply Fault α)

namespace Program

variable {Call : Type} {Reply : Call → Type} {Fault α β γ : Type}

def perform (request : Call) : Program Call Reply Fault (Reply request) :=
  .call request .done

def raise (fault : Fault) : Program Call Reply Fault α :=
  .done (.error fault)

/-- Continue with the outcome of a program, whether it returned or raised. -/
def attempt : Program Call Reply Fault α →
    (Except Fault α → Program Call Reply Fault β) →
    Program Call Reply Fault β
  | .done result, next => next result
  | .call request resume, next =>
      .call request fun reply => (resume reply).attempt next

protected def bind (program : Program Call Reply Fault α)
    (next : α → Program Call Reply Fault β) : Program Call Reply Fault β :=
  program.attempt fun
    | .ok value => next value
    | .error fault => .done (.error fault)

instance : Monad (Program Call Reply Fault) where
  pure value := .done (.ok value)
  bind := Program.bind

/-- An exception handler for the faults it selects. -/
def rescue (program : Program Call Reply Fault α) (selects : Fault → Bool)
    (handler : Fault → Program Call Reply Fault α) :
    Program Call Reply Fault α :=
  program.attempt fun
    | .ok value => .done (.ok value)
    | .error fault =>
        if selects fault then handler fault else .done (.error fault)

/-- Run a cleanup on every outcome; a fault of the cleanup replaces it. -/
def ensure (program : Program Call Reply Fault α)
    (cleanup : Program Call Reply Fault Unit) : Program Call Reply Fault α :=
  program.attempt fun outcome =>
    cleanup.attempt fun
      | .ok _ => .done outcome
      | .error fault => .done (.error fault)

/-- Replace each call by a program over another interface. -/
def handle {Call' : Type} {Reply' : Call' → Type}
    (handler : (request : Call) →
      Program Call' Reply' Fault (Reply request)) :
    Program Call Reply Fault α → Program Call' Reply' Fault α
  | .done result => .done result
  | .call request resume =>
      (handler request).attempt fun reply => (resume reply).handle handler

@[simp] theorem attempt_done (result : Except Fault α)
    (next : Except Fault α → Program Call Reply Fault β) :
    (done result).attempt next = next result := rfl

@[simp] theorem attempt_call (request : Call)
    (resume : Except Fault (Reply request) → Program Call Reply Fault α)
    (next : Except Fault α → Program Call Reply Fault β) :
    (call request resume).attempt next =
      call request fun reply => (resume reply).attempt next := rfl

theorem bind_eq_attempt (program : Program Call Reply Fault α)
    (next : α → Program Call Reply Fault β) :
    program >>= next = program.attempt fun
      | .ok value => next value
      | .error fault => done (.error fault) := rfl

/-! The outside answers each call from a state of its own; a relation leaves open
which answer it gives. -/

variable {State : Type}

def Plays (responds : State → (request : Call) →
      Except Fault (Reply request) → State → Prop) :
    Program Call Reply Fault α → State → Except Fault α → State → Prop
  | .done result, state, outcome, after => outcome = result ∧ after = state
  | .call request resume, state, outcome, after =>
      ∃ reply middle, responds state request reply middle ∧
        (resume reply).Plays responds middle outcome after

/-- The execution against an outside that leaves nothing open. -/
def play (respond : State → (request : Call) →
      Except Fault (Reply request) × State) :
    Program Call Reply Fault α → State → Except Fault α × State
  | .done result, state => (result, state)
  | .call request resume, state =>
      (resume (respond state request).1).play respond
        (respond state request).2

theorem play_attempt {respond : State → (request : Call) →
      Except Fault (Reply request) × State}
    (program : Program Call Reply Fault α)
    (next : Except Fault α → Program Call Reply Fault β) (state : State) :
    (program.attempt next).play respond state =
      (next (program.play respond state).1).play respond
        (program.play respond state).2 := by
  induction program generalizing state with
  | done result => rfl
  | call request resume ih => exact ih _ _

theorem play_bind {respond : State → (request : Call) →
      Except Fault (Reply request) × State}
    (program : Program Call Reply Fault α)
    (next : α → Program Call Reply Fault β) (state : State) :
    (program >>= next).play respond state =
      match program.play respond state with
      | (.ok value, after) => (next value).play respond after
      | (.error fault, after) => (.error fault, after) := by
  rw [bind_eq_attempt, play_attempt]
  generalize program.play respond state = played
  obtain ⟨outcome, after⟩ := played
  cases outcome with
  | ok value => rfl
  | error fault => rfl

def Keeps (respond : State → (request : Call) →
      Except Fault (Reply request) × State)
    (relation : State → State → Prop) (program : Program Call Reply Fault α) :
    Prop :=
  ∀ state, relation state (program.play respond state).2

section

variable {respond : State → (request : Call) →
  Except Fault (Reply request) × State}
variable {relation : State → State → Prop}

theorem keeps_done (reflexive : ∀ state, relation state state)
    (result : Except Fault α) :
    (done result : Program Call Reply Fault α).Keeps respond relation :=
  reflexive

theorem keeps_perform {request : Call}
    (answers : ∀ state, relation state (respond state request).2) :
    (perform request : Program Call Reply Fault _).Keeps respond relation :=
  answers

theorem keeps_attempt
    (transitive : ∀ first second third, relation first second →
      relation second third → relation first third)
    {program : Program Call Reply Fault α}
    {next : Except Fault α → Program Call Reply Fault β}
    (first : program.Keeps respond relation)
    (rest : ∀ outcome, (next outcome).Keeps respond relation) :
    (program.attempt next).Keeps respond relation := by
  intro state
  rw [play_attempt]
  exact transitive _ _ _ (first state) (rest _ _)

theorem keeps_bind (reflexive : ∀ state, relation state state)
    (transitive : ∀ first second third, relation first second →
      relation second third → relation first third)
    {program : Program Call Reply Fault α}
    {next : α → Program Call Reply Fault β}
    (first : program.Keeps respond relation)
    (rest : ∀ value, (next value).Keeps respond relation) :
    (program >>= next).Keeps respond relation := by
  refine keeps_attempt transitive first fun outcome => ?_
  cases outcome with
  | ok value => exact rest value
  | error fault => exact keeps_done reflexive _

end

theorem plays_play {responds : State → (request : Call) →
      Except Fault (Reply request) → State → Prop}
    {respond : State → (request : Call) →
      Except Fault (Reply request) × State}
    (answers : ∀ state request, responds state request
      (respond state request).1 (respond state request).2)
    (program : Program Call Reply Fault α) (state : State) :
    program.Plays responds state (program.play respond state).1
      (program.play respond state).2 := by
  induction program generalizing state with
  | done result => exact ⟨rfl, rfl⟩
  | call request resume ih =>
      exact ⟨_, _, answers state request, ih _ _⟩

/-! What holds of every outcome of an execution, together with the state that it
ends in. -/

section

variable {responds : State → (request : Call) →
  Except Fault (Reply request) → State → Prop}

theorem plays_attempt {program : Program Call Reply Fault α}
    {next : Except Fault α → Program Call Reply Fault β}
    {state after : State} {outcome : Except Fault β} :
    (program.attempt next).Plays responds state outcome after ↔
      ∃ reached middle, program.Plays responds state reached middle ∧
        (next reached).Plays responds middle outcome after := by
  induction program generalizing state with
  | done result =>
      constructor
      · intro played
        exact ⟨result, state, ⟨rfl, rfl⟩, played⟩
      · rintro ⟨_, _, ⟨rfl, rfl⟩, played⟩
        exact played
  | call request resume ih =>
      constructor
      · rintro ⟨reply, middle, responded, played⟩
        obtain ⟨reached, later, first, rest⟩ := (ih reply).mp played
        exact ⟨reached, later, ⟨reply, middle, responded, first⟩, rest⟩
      · rintro ⟨reached, later, ⟨reply, middle, responded, first⟩, rest⟩
        exact ⟨reply, middle, responded,
          (ih reply).mpr ⟨reached, later, first, rest⟩⟩

def Attains (responds : State → (request : Call) →
      Except Fault (Reply request) → State → Prop)
    (program : Program Call Reply Fault α) (state : State)
    (post : Except Fault α → State → Prop) : Prop :=
  ∀ outcome after, program.Plays responds state outcome after →
    post outcome after

theorem attains_done {result : Except Fault α} {state : State}
    {post : Except Fault α → State → Prop} (holds : post result state) :
    Attains responds (done result : Program Call Reply Fault α) state post := by
  intro outcome after played
  obtain ⟨rfl, rfl⟩ := played
  exact holds

theorem attains_perform {request : Call} {state : State}
    {post : Except Fault (Reply request) → State → Prop}
    (answers : ∀ reply after, responds state request reply after →
      post reply after) :
    Attains responds (perform request) state post := by
  intro outcome after played
  obtain ⟨reply, middle, responded, rfl, rfl⟩ := played
  exact answers outcome after responded

theorem Attains.mono {program : Program Call Reply Fault α} {state : State}
    {post weaker : Except Fault α → State → Prop}
    (attained : Attains responds program state post)
    (weakens : ∀ outcome after, post outcome after → weaker outcome after) :
    Attains responds program state weaker := fun outcome after played =>
  weakens outcome after (attained outcome after played)

theorem attains_attempt {program : Program Call Reply Fault α}
    {next : Except Fault α → Program Call Reply Fault β} {state : State}
    {post : Except Fault β → State → Prop}
    (first : Attains responds program state fun reached middle =>
      Attains responds (next reached) middle post) :
    Attains responds (program.attempt next) state post := by
  intro outcome after played
  obtain ⟨reached, middle, start, rest⟩ := plays_attempt.mp played
  exact first reached middle start outcome after rest

theorem attains_bind {program : Program Call Reply Fault α}
    {next : α → Program Call Reply Fault β} {state : State}
    {post : Except Fault β → State → Prop}
    (first : Attains responds program state fun reached middle =>
      match reached with
      | .ok value => Attains responds (next value) middle post
      | .error fault => post (.error fault) middle) :
    Attains responds (program >>= next) state post := by
  apply attains_attempt
  refine Attains.mono first fun reached middle holds => ?_
  cases reached with
  | ok value => exact holds
  | error fault => exact attains_done holds

theorem attains_rescue {program : Program Call Reply Fault α}
    {selects : Fault → Bool} {handler : Fault → Program Call Reply Fault α}
    {state : State} {post : Except Fault α → State → Prop}
    (first : Attains responds program state fun reached middle =>
      match reached with
      | .ok value => post (.ok value) middle
      | .error fault =>
          if selects fault then Attains responds (handler fault) middle post
          else post (.error fault) middle) :
    Attains responds (program.rescue selects handler) state post := by
  apply attains_attempt
  refine Attains.mono first fun reached middle holds => ?_
  cases reached with
  | ok value => exact attains_done holds
  | error fault =>
      dsimp only at holds ⊢
      split
      · rename_i selected
        rwa [if_pos selected] at holds
      · rename_i unselected
        rw [if_neg unselected] at holds
        exact attains_done holds

def afterCleanup (outcome : Except Fault α) :
    Except Fault Unit → Except Fault α
  | .ok _ => outcome
  | .error fault => .error fault

theorem attains_ensure {program : Program Call Reply Fault α}
    {cleanup : Program Call Reply Fault Unit} {state : State}
    {post : Except Fault α → State → Prop}
    (first : Attains responds program state fun reached middle =>
      Attains responds cleanup middle fun cleaned after =>
        post (afterCleanup reached cleaned) after) :
    Attains responds (program.ensure cleanup) state post := by
  apply attains_attempt
  refine Attains.mono first fun reached middle holds => ?_
  apply attains_attempt
  refine Attains.mono holds fun cleaned after holds => ?_
  cases cleaned with
  | ok _ => exact attains_done holds
  | error fault => exact attains_done holds

theorem Attains.ensure {program : Program Call Reply Fault α}
    {cleanup : Program Call Reply Fault Unit} {state : State}
    {middle post : Except Fault α → State → Prop}
    (body : Attains responds program state middle)
    (cleans : ∀ reached here, middle reached here →
      Attains responds cleanup here fun cleaned after =>
        post (afterCleanup reached cleaned) after) :
    Attains responds (program.ensure cleanup) state post :=
  attains_ensure (body.mono cleans)

def Preserves (responds : State → (request : Call) →
      Except Fault (Reply request) → State → Prop) (holds : State → Prop)
    (program : Program Call Reply Fault α) : Prop :=
  ∀ state, holds state →
    Attains responds program state fun _ after => holds after

variable {holds : State → Prop}

theorem preserves_done (result : Except Fault α) :
    Preserves responds holds (done result : Program Call Reply Fault α) :=
  fun _ here => attains_done here

theorem preserves_perform {request : Call}
    (keeps : ∀ state reply after, holds state →
      responds state request reply after → holds after) :
    Preserves responds holds (perform request : Program Call Reply Fault _) :=
  fun state here => attains_perform fun reply after responded =>
    keeps state reply after here responded

theorem Preserves.attempt {program : Program Call Reply Fault α}
    {next : Except Fault α → Program Call Reply Fault β}
    (first : Preserves responds holds program)
    (rest : ∀ outcome, Preserves responds holds (next outcome)) :
    Preserves responds holds (program.attempt next) := by
  intro state here
  apply attains_attempt
  exact (first state here).mono fun outcome after kept =>
    rest outcome after kept

theorem Preserves.bind {program : Program Call Reply Fault α}
    {next : α → Program Call Reply Fault β}
    (first : Preserves responds holds program)
    (rest : ∀ value, Preserves responds holds (next value)) :
    Preserves responds holds (program >>= next) := by
  apply first.attempt
  intro outcome
  cases outcome with
  | ok value => exact rest value
  | error fault => exact preserves_done _

theorem Preserves.rescue {program : Program Call Reply Fault α}
    {selects : Fault → Bool} {handler : Fault → Program Call Reply Fault α}
    (body : Preserves responds holds program)
    (handles : ∀ fault, Preserves responds holds (handler fault)) :
    Preserves responds holds (program.rescue selects handler) := by
  apply body.attempt
  intro outcome
  cases outcome with
  | ok value => exact preserves_done _
  | error fault =>
      dsimp only
      split
      · exact handles fault
      · exact preserves_done _

theorem Preserves.ensure {program : Program Call Reply Fault α}
    {cleanup : Program Call Reply Fault Unit}
    (body : Preserves responds holds program)
    (cleans : Preserves responds holds cleanup) :
    Preserves responds holds (program.ensure cleanup) := by
  apply body.attempt
  intro outcome
  apply cleans.attempt
  intro cleaned
  cases cleaned with
  | ok _ => exact preserves_done _
  | error fault => exact preserves_done _

end

end Program

structure Event (Call : Type) (Reply : Call → Type) (Fault : Type) where
  request : Call
  reply : Except Fault (Reply request)

namespace Program

variable {Call : Type} {Reply : Call → Type} {Fault α State : Type}

/-- An execution got to a state, with this left of the program. -/
inductive Reaches (responds : State → (request : Call) →
      Except Fault (Reply request) → State → Prop)
    (program : Program Call Reply Fault α) (state : State) :
    Program Call Reply Fault α → State → Prop
  | start : Reaches responds program state program state
  | step {request : Call}
      {resume : Except Fault (Reply request) → Program Call Reply Fault α}
      {reply : Except Fault (Reply request)} {here after : State}
      (reached : Reaches responds program state (.call request resume) here)
      (responded : responds here request reply after) :
      Reaches responds program state (resume reply) after

theorem reaches_play {responds : State → (request : Call) →
      Except Fault (Reply request) → State → Prop}
    {respond : State → (request : Call) →
      Except Fault (Reply request) × State}
    (answers : ∀ state request, responds state request
      (respond state request).1 (respond state request).2)
    {program rest : Program Call Reply Fault α} {state here : State}
    (reached : Reaches responds program state rest here) :
    Reaches responds program state (.done (rest.play respond here).1)
      (rest.play respond here).2 := by
  induction rest generalizing here with
  | done result => exact reached
  | call request resume ih =>
      exact ih _ (reached.step (answers here request))

/-- The execution in which each call is answered by the next choice. -/
def walk {Choice : Type} (answer : State → (request : Call) → Choice →
      Option (Except Fault (Reply request) × State)) :
    List Choice → Program Call Reply Fault α → State →
      Option (Program Call Reply Fault α × State)
  | [], program, state => some (program, state)
  | _ :: _, .done _, _ => none
  | choice :: rest, .call request resume, state =>
      (answer state request choice).bind fun (reply, after) =>
        walk answer rest (resume reply) after

theorem reaches_walk {Choice : Type} {responds : State → (request : Call) →
      Except Fault (Reply request) → State → Prop}
    {answer : State → (request : Call) → Choice →
      Option (Except Fault (Reply request) × State)}
    (answers : ∀ state request choice reply after,
      answer state request choice = some (reply, after) →
        responds state request reply after)
    {choices : List Choice} {program here rest : Program Call Reply Fault α}
    {start state after : State}
    (reached : Reaches responds program start here state)
    (walked : walk answer choices here state = some (rest, after)) :
    Reaches responds program start rest after := by
  induction choices generalizing here state with
  | nil =>
      cases walked
      exact reached
  | cons choice choices ih =>
      cases here with
      | done result => cases walked
      | call request resume =>
          obtain ⟨⟨reply, middle⟩, answered, goes⟩ :=
            Option.bind_eq_some_iff.mp walked
          exact ih (reached.step (answers _ _ _ _ _ answered)) goes

def result? : Program Call Reply Fault α → Option (Except Fault α)
  | .done result => some result
  | .call _ _ => none

/-- A list of choices that leads to the end is an execution. -/
theorem plays_walk {Choice : Type} {responds : State → (request : Call) →
      Except Fault (Reply request) → State → Prop}
    {answer : State → (request : Call) → Choice →
      Option (Except Fault (Reply request) × State)}
    (answers : ∀ state request choice reply after,
      answer state request choice = some (reply, after) →
        responds state request reply after)
    {choices : List Choice} {program rest : Program Call Reply Fault α}
    {state after : State} {outcome : Except Fault α}
    (walked : walk answer choices program state = some (rest, after))
    (ended : rest.result? = some outcome) :
    program.Plays responds state outcome after := by
  induction choices generalizing program state with
  | nil =>
      cases walked
      cases rest with
      | done result =>
          cases ended
          exact ⟨rfl, rfl⟩
      | call request resume => cases ended
  | cons choice choices ih =>
      cases program with
      | done result => cases walked
      | call request resume =>
          obtain ⟨⟨reply, middle⟩, answered, goes⟩ :=
            Option.bind_eq_some_iff.mp walked
          exact ⟨reply, middle, answers _ _ _ _ _ answered, ih goes⟩

/-- An outside that answers anything, of which the history is kept. -/
def Records (history : List (Event Call Reply Fault)) (request : Call)
    (reply : Except Fault (Reply request))
    (after : List (Event Call Reply Fault)) : Prop :=
  after = history ++ [⟨request, reply⟩]

theorem Reaches.called {program rest : Program Call Reply Fault α}
    {start history : List (Event Call Reply Fault)}
    (reached : Reaches Records program start rest history) (request : Call)
    {resume : Except Fault (Reply request) → Program Call Reply Fault α}
    (next : rest = .call request resume)
    (reply : Except Fault (Reply request)) :
    Reaches Records program start (resume reply)
      (history ++ [⟨request, reply⟩]) := by
  subst next
  exact reached.step rfl

end Program

end OfflineReels.Foundation
