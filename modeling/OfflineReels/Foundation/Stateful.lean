import OfflineReels.Foundation.Protocol

namespace OfflineReels.Foundation

/-! Programs with a store of their own.  What a statement has written stays
written when a later one raises. -/

def Stateful (Call : Type) (Reply : Call → Type) (Fault Store α : Type) :
    Type :=
  Store → Program Call Reply Fault (Except Fault α × Store)

namespace Stateful

variable {Call : Type} {Reply : Call → Type} {Fault Store α β : Type}

def done (result : Except Fault α) : Stateful Call Reply Fault Store α :=
  fun store => .done (.ok (result, store))

def perform (request : Call) : Stateful Call Reply Fault Store (Reply request) :=
  fun store => .call request fun reply => .done (.ok (reply, store))

def raise (fault : Fault) : Stateful Call Reply Fault Store α :=
  done (.error fault)

def read : Stateful Call Reply Fault Store Store :=
  fun store => .done (.ok (.ok store, store))

def write (change : Store → Store) : Stateful Call Reply Fault Store Unit :=
  fun store => .done (.ok (.ok (), change store))

/-- Continue with the outcome, whether it returned or raised. -/
def attempt (first : Stateful Call Reply Fault Store α)
    (next : Except Fault α → Stateful Call Reply Fault Store β) :
    Stateful Call Reply Fault Store β :=
  fun store => (first store).attempt fun
    | .ok (outcome, after) => next outcome after
    | .error fault => .done (.error fault)

protected def bind (first : Stateful Call Reply Fault Store α)
    (next : α → Stateful Call Reply Fault Store β) :
    Stateful Call Reply Fault Store β :=
  first.attempt fun
    | .ok value => next value
    | .error fault => raise fault

instance : Monad (Stateful Call Reply Fault Store) where
  pure value := done (.ok value)
  bind := Stateful.bind

def rescue (body : Stateful Call Reply Fault Store α)
    (selects : Fault → Bool)
    (handler : Fault → Stateful Call Reply Fault Store α) :
    Stateful Call Reply Fault Store α :=
  body.attempt fun
    | .ok value => done (.ok value)
    | .error fault =>
        if selects fault then handler fault else raise fault

/-- A cleanup on every outcome; a fault of the cleanup replaces it. -/
def ensure (body : Stateful Call Reply Fault Store α)
    (cleanup : Stateful Call Reply Fault Store Unit) :
    Stateful Call Reply Fault Store α :=
  body.attempt fun outcome =>
    cleanup.attempt fun
      | .ok _ => done outcome
      | .error fault => raise fault

section

variable {kind : Fault → Prop}

theorem faults_ok (value : α) :
    ∀ fault, (.ok value : Except Fault α) = .error fault → kind fault := by
  intro fault clash
  cases clash

theorem faults_error {fault : Fault} (raised : kind fault) :
    ∀ other, (.error fault : Except Fault α) = .error other → kind other := by
  intro other same
  cases same
  exact raised

theorem faults_map {outcome : Except Fault α} {change : α → β}
    (raised : ∀ fault, outcome = .error fault → kind fault) :
    ∀ fault, outcome.map change = .error fault → kind fault := by
  cases outcome with
  | ok value => exact faults_ok _
  | error fault => exact faults_error (raised fault rfl)

end

variable {Phase : Type}

/-- Under the protocol the program ends with an outcome, a store and a phase
that satisfy the postcondition. -/
def Leaves (protocol : Protocol Call Reply Fault Phase) (phase : Phase)
    (store : Store) (program : Stateful Call Reply Fault Store α)
    (post : Except Fault α → Store → Phase → Prop) : Prop :=
  (program store).Follows protocol phase fun outcome reached =>
    ∃ result after, outcome = .ok (result, after) ∧ post result after reached

section

variable {protocol : Protocol Call Reply Fault Phase} {phase : Phase}
variable {store : Store} {program : Stateful Call Reply Fault Store α}

theorem leaves_done {result : Except Fault α}
    {post : Except Fault α → Store → Phase → Prop}
    (holds : post result store phase) :
    Leaves protocol phase store
      (done result : Stateful Call Reply Fault Store α) post :=
  ⟨result, store, rfl, holds⟩

theorem leaves_pure {value : α} {post : Except Fault α → Store → Phase → Prop}
    (holds : post (.ok value) store phase) :
    Leaves protocol phase store
      (pure value : Stateful Call Reply Fault Store α) post :=
  leaves_done holds

theorem leaves_raise {fault : Fault}
    {post : Except Fault α → Store → Phase → Prop}
    (holds : post (.error fault) store phase) :
    Leaves protocol phase store
      (raise fault : Stateful Call Reply Fault Store α) post :=
  leaves_done holds

theorem leaves_perform {request : Call}
    {post : Except Fault (Reply request) → Store → Phase → Prop}
    (permitted : protocol.permits phase request)
    (answered : ∀ reply, protocol.assumes phase request reply →
      post reply store (protocol.advance phase request reply)) :
    Leaves protocol phase store
      (perform request : Stateful Call Reply Fault Store (Reply request)) post := by
  refine ⟨permitted, fun reply assumed => ?_⟩
  exact ⟨reply, store, rfl, answered reply assumed⟩

theorem leaves_read {post : Except Fault Store → Store → Phase → Prop}
    (holds : post (.ok store) store phase) :
    Leaves protocol phase store
      (read : Stateful Call Reply Fault Store Store) post :=
  ⟨_, store, rfl, holds⟩

theorem leaves_write {change : Store → Store}
    {post : Except Fault Unit → Store → Phase → Prop}
    (holds : post (.ok ()) (change store) phase) :
    Leaves protocol phase store
      (write change : Stateful Call Reply Fault Store Unit) post :=
  ⟨_, change store, rfl, holds⟩

theorem leaves_reading {next : Store → Stateful Call Reply Fault Store α}
    {post : Except Fault α → Store → Phase → Prop}
    (continues : Leaves protocol phase store (next store) post) :
    Leaves protocol phase store (read >>= next) post :=
  continues

theorem leaves_writing {change : Store → Store}
    {next : Unit → Stateful Call Reply Fault Store α}
    {post : Except Fault α → Store → Phase → Prop}
    (continues : Leaves protocol phase (change store) (next ()) post) :
    Leaves protocol phase store (write change >>= next) post :=
  continues

theorem Leaves.mono {weak strong : Except Fault α → Store → Phase → Prop}
    (leaves : Leaves protocol phase store program strong)
    (weaken : ∀ result after reached, strong result after reached →
      weak result after reached) :
    Leaves protocol phase store program weak := by
  apply Program.Follows.mono leaves
  intro outcome reached holds
  obtain ⟨result, after, same, kept⟩ := holds
  exact ⟨result, after, same, weaken result after reached kept⟩

theorem Leaves.attempt {middle : Except Fault α → Store → Phase → Prop}
    {next : Except Fault α → Stateful Call Reply Fault Store β}
    {post : Except Fault β → Store → Phase → Prop}
    (first : Leaves protocol phase store program middle)
    (continues : ∀ outcome after reached, middle outcome after reached →
      Leaves protocol reached after (next outcome) post) :
    Leaves protocol phase store (program.attempt next) post := by
  apply Program.Follows.attempt first
  intro outcome reached holds
  obtain ⟨result, after, rfl, kept⟩ := holds
  exact continues result after reached kept

theorem Leaves.bind {middle : Except Fault α → Store → Phase → Prop}
    {next : α → Stateful Call Reply Fault Store β}
    {post : Except Fault β → Store → Phase → Prop}
    (first : Leaves protocol phase store program middle)
    (returned : ∀ value after reached, middle (.ok value) after reached →
      Leaves protocol reached after (next value) post)
    (raised : ∀ fault after reached, middle (.error fault) after reached →
      post (.error fault) after reached) :
    Leaves protocol phase store (program >>= next) post := by
  apply Leaves.attempt first
  intro outcome after reached holds
  cases outcome with
  | ok value => exact returned value after reached holds
  | error fault => exact leaves_raise (raised fault after reached holds)

/-- The value is dropped; what holds does not depend on it. -/
theorem Leaves.discard {post : Except Fault Unit → Store → Phase → Prop}
    (leaves : Leaves protocol phase store program fun outcome after reached =>
      post (outcome.map fun _ => ()) after reached) :
    Leaves protocol phase store
      (do
        let _ ← program
        return ()) post := by
  apply leaves.bind
  · intro _ after reached kept
    exact leaves_pure kept
  · intro fault after reached kept
    exact kept

theorem Leaves.rescue {middle post : Except Fault α → Store → Phase → Prop}
    {selects : Fault → Bool}
    {handler : Fault → Stateful Call Reply Fault Store α}
    (body : Leaves protocol phase store program middle)
    (returned : ∀ value after reached, middle (.ok value) after reached →
      post (.ok value) after reached)
    (selected : ∀ fault after reached, middle (.error fault) after reached →
      selects fault = true →
      Leaves protocol reached after (handler fault) post)
    (passed : ∀ fault after reached, middle (.error fault) after reached →
      selects fault = false → post (.error fault) after reached) :
    Leaves protocol phase store (program.rescue selects handler) post := by
  apply body.attempt
  intro outcome after reached holds
  cases outcome with
  | ok value => exact leaves_done (returned value after reached holds)
  | error fault =>
      cases chosen : selects fault with
      | true =>
          simp only [chosen, if_true]
          exact selected fault after reached holds chosen
      | false =>
          simp only [chosen, Bool.false_eq_true, if_false]
          exact leaves_raise (passed fault after reached holds chosen)

/-- Only faults that are selected are raised, and they are passed over. -/
theorem Leaves.swallow {selects : Fault → Bool}
    {body : Stateful Call Reply Fault Store Unit}
    {post : Store → Phase → Prop}
    (leaves : Leaves protocol phase store body fun outcome after reached =>
      (∀ fault, outcome = .error fault → selects fault = true) ∧
        post after reached) :
    Leaves protocol phase store (body.rescue selects fun _ => pure ())
      fun outcome after reached => outcome = .ok () ∧ post after reached := by
  apply leaves.rescue
  · intro _ after reached kept
    exact ⟨rfl, kept.2⟩
  · intro fault after reached kept _
    exact leaves_pure ⟨rfl, kept.2⟩
  · intro fault after reached kept passed
    rw [kept.1 fault rfl] at passed
    cases passed

theorem Leaves.ensure {middle post : Except Fault α → Store → Phase → Prop}
    {cleanup : Stateful Call Reply Fault Store Unit}
    (body : Leaves protocol phase store program middle)
    (cleans : ∀ outcome after reached, middle outcome after reached →
      Leaves protocol reached after cleanup fun cleaned last ended =>
        match cleaned with
        | .ok _ => post outcome last ended
        | .error fault => post (.error fault) last ended) :
    Leaves protocol phase store (program.ensure cleanup) post := by
  apply body.attempt
  intro outcome after reached holds
  apply (cleans outcome after reached holds).attempt
  intro cleaned last ended kept
  cases cleaned with
  | ok _ => exact leaves_done kept
  | error fault => exact leaves_raise kept

end

/-- Whatever the outcome, an invariant of the store and the phase is kept. -/
def Keeps (protocol : Protocol Call Reply Fault Phase)
    (invariant : Store → Phase → Prop)
    (program : Stateful Call Reply Fault Store α) : Prop :=
  ∀ phase store, invariant store phase →
    Leaves protocol phase store program fun _ => invariant

section

variable {protocol : Protocol Call Reply Fault Phase}
variable {invariant : Store → Phase → Prop}
variable {program : Stateful Call Reply Fault Store α}

theorem keeps_done (result : Except Fault α) :
    Keeps protocol invariant
      (done result : Stateful Call Reply Fault Store α) :=
  fun _ _ holds => leaves_done holds

theorem keeps_pure (value : α) :
    Keeps protocol invariant
      (pure value : Stateful Call Reply Fault Store α) :=
  keeps_done _

theorem keeps_raise (fault : Fault) :
    Keeps protocol invariant
      (raise fault : Stateful Call Reply Fault Store α) :=
  keeps_done _

theorem keeps_read :
    Keeps protocol invariant (read : Stateful Call Reply Fault Store Store) :=
  fun _ _ holds => leaves_read holds

theorem keeps_write {change : Store → Store}
    (kept : ∀ store phase, invariant store phase →
      invariant (change store) phase) :
    Keeps protocol invariant
      (write change : Stateful Call Reply Fault Store Unit) :=
  fun phase store holds => leaves_write (kept store phase holds)

theorem keeps_perform {request : Call}
    (permitted : ∀ store phase, invariant store phase →
      protocol.permits phase request)
    (kept : ∀ store phase reply, invariant store phase →
      invariant store (protocol.advance phase request reply)) :
    Keeps protocol invariant
      (perform request : Stateful Call Reply Fault Store (Reply request)) := by
  intro phase store holds
  apply leaves_perform (permitted store phase holds)
  intro reply _
  exact kept store phase reply holds

theorem Keeps.attempt
    {next : Except Fault α → Stateful Call Reply Fault Store β}
    (first : Keeps protocol invariant program)
    (continues : ∀ outcome, Keeps protocol invariant (next outcome)) :
    Keeps protocol invariant (program.attempt next) := by
  intro phase store holds
  apply (first phase store holds).attempt
  intro outcome after reached kept
  exact continues outcome reached after kept

theorem Keeps.bind {next : α → Stateful Call Reply Fault Store β}
    (first : Keeps protocol invariant program)
    (continues : ∀ value, Keeps protocol invariant (next value)) :
    Keeps protocol invariant (program >>= next) := by
  apply first.attempt
  intro outcome
  cases outcome with
  | ok value => exact continues value
  | error fault => exact keeps_raise fault

theorem Keeps.rescue {selects : Fault → Bool}
    {handler : Fault → Stateful Call Reply Fault Store α}
    (body : Keeps protocol invariant program)
    (handles : ∀ fault, Keeps protocol invariant (handler fault)) :
    Keeps protocol invariant (program.rescue selects handler) := by
  apply body.attempt
  intro outcome
  cases outcome with
  | ok value => exact keeps_done _
  | error fault =>
      dsimp only
      split
      · exact handles fault
      · exact keeps_raise fault

theorem Keeps.ensure {cleanup : Stateful Call Reply Fault Store Unit}
    (body : Keeps protocol invariant program)
    (cleans : Keeps protocol invariant cleanup) :
    Keeps protocol invariant (program.ensure cleanup) := by
  apply body.attempt
  intro outcome
  apply cleans.attempt
  intro cleaned
  cases cleaned with
  | ok _ => exact keeps_done _
  | error fault => exact keeps_raise fault

end

def Yields (protocol : Protocol Call Reply Fault Phase)
    (faulted : Store → Phase → Prop) (phase : Phase) (store : Store)
    (program : Stateful Call Reply Fault Store α)
    (post : α → Store → Phase → Prop) : Prop :=
  Leaves protocol phase store program fun outcome after reached =>
    match outcome with
    | .ok value => post value after reached
    | .error _ => faulted after reached

section

variable {protocol : Protocol Call Reply Fault Phase}
variable {faulted : Store → Phase → Prop} {phase : Phase} {store : Store}
variable {program : Stateful Call Reply Fault Store α}

theorem yields_pure {value : α} {post : α → Store → Phase → Prop}
    (holds : post value store phase) :
    Yields protocol faulted phase store
      (pure value : Stateful Call Reply Fault Store α) post :=
  leaves_pure holds

theorem yields_raise {fault : Fault} {post : α → Store → Phase → Prop}
    (holds : faulted store phase) :
    Yields protocol faulted phase store
      (raise fault : Stateful Call Reply Fault Store α) post :=
  leaves_raise holds

theorem yields_read {next : Store → Stateful Call Reply Fault Store α}
    {post : α → Store → Phase → Prop}
    (continues : Yields protocol faulted phase store (next store) post) :
    Yields protocol faulted phase store (read >>= next) post :=
  continues

theorem yields_write {change : Store → Store}
    {next : Unit → Stateful Call Reply Fault Store α}
    {post : α → Store → Phase → Prop}
    (continues : Yields protocol faulted phase (change store) (next ()) post) :
    Yields protocol faulted phase store (write change >>= next) post :=
  continues

theorem Yields.mono {strong weak : α → Store → Phase → Prop}
    (yields : Yields protocol faulted phase store program strong)
    (weaken : ∀ value after reached, strong value after reached →
      weak value after reached) :
    Yields protocol faulted phase store program weak := by
  apply Leaves.mono yields
  intro outcome after reached holds
  cases outcome with
  | ok value => exact weaken value after reached holds
  | error fault => exact holds

theorem Yields.weaken {raised : Store → Phase → Prop}
    {post : α → Store → Phase → Prop}
    (yields : Yields protocol raised phase store program post)
    (weaken : ∀ after reached, raised after reached →
      faulted after reached) :
    Yields protocol faulted phase store program post := by
  apply Leaves.mono yields
  intro outcome after reached holds
  cases outcome with
  | ok value => exact holds
  | error fault => exact weaken after reached holds

theorem Yields.bind {next : α → Stateful Call Reply Fault Store β}
    {middle : α → Store → Phase → Prop} {post : β → Store → Phase → Prop}
    (first : Yields protocol faulted phase store program middle)
    (continues : ∀ value after reached, middle value after reached →
      Yields protocol faulted reached after (next value) post) :
    Yields protocol faulted phase store (program >>= next) post := by
  apply Leaves.bind first
  · exact continues
  · intro _ _ _ holds
    exact holds

theorem Yields.rescue {post : α → Store → Phase → Prop}
    {selects : Fault → Bool}
    {handler : Fault → Stateful Call Reply Fault Store α}
    (body : Yields protocol faulted phase store program post)
    (handles : ∀ fault after reached, faulted after reached →
      Yields protocol faulted reached after (handler fault) post) :
    Yields protocol faulted phase store (program.rescue selects handler)
      post := by
  apply Leaves.rescue body
  · intro _ _ _ holds
    exact holds
  · intro fault after reached holds _
    exact handles fault after reached holds
  · intro _ _ _ holds _
    exact holds

theorem Leaves.yields {invariant : Store → Phase → Prop}
    (leaves : Leaves protocol phase store program fun _ => invariant)
    (weaken : ∀ after reached, invariant after reached →
      faulted after reached) :
    Yields protocol faulted phase store program fun _ => invariant := by
  apply leaves.mono
  intro outcome after reached kept
  cases outcome with
  | ok value => exact kept
  | error fault => exact weaken after reached kept

theorem Keeps.yields {invariant : Store → Phase → Prop}
    (keeps : Keeps protocol invariant program)
    (weaken : ∀ after reached, invariant after reached →
      faulted after reached)
    (holds : invariant store phase) :
    Yields protocol faulted phase store program fun _ => invariant :=
  (keeps phase store holds).yields weaken

theorem keeps_of_yields {invariant : Store → Phase → Prop}
    {post : α → Store → Phase → Prop}
    (yields : ∀ phase store, invariant store phase →
      Yields protocol invariant phase store program post)
    (weaken : ∀ value after reached, post value after reached →
      invariant after reached) : Keeps protocol invariant program := by
  intro phase store holds
  apply Leaves.mono (yields phase store holds)
  intro outcome after reached kept
  cases outcome with
  | ok value => exact weaken value after reached kept
  | error fault => exact kept

end

/-- Replace each call of a program by a program with a store. -/
def serve {Call' Store' : Type} {Reply' : Call' → Type}
    (handler : (request : Call) →
      Stateful Call' Reply' Fault Store' (Reply request)) :
    Program Call Reply Fault α → Stateful Call' Reply' Fault Store' α
  | .done result => done result
  | .call request resume =>
      (handler request).attempt fun reply => serve handler (resume reply)

/-- What serves the calls follows a protocol of its own, whose phases together
with the store are related to those of the program. -/
theorem Leaves.serve {Call' Store' Phase' : Type} {Reply' : Call' → Type}
    {protocol : Protocol Call Reply Fault Phase}
    {inner : Protocol Call' Reply' Fault Phase'}
    {handler : (request : Call) →
      Stateful Call' Reply' Fault Store' (Reply request)}
    {relates : Phase → Store' → Phase' → Prop}
    (implements : ∀ phase store below request, relates phase store below →
      protocol.permits phase request →
      Leaves inner below store (handler request) fun reply after reached =>
        protocol.assumes phase request reply ∧
          relates (protocol.advance phase request reply) after reached)
    {program : Program Call Reply Fault α} {phase : Phase} {store : Store'}
    {below : Phase'} {post : Except Fault α → Phase → Prop}
    (follows : program.Follows protocol phase post)
    (related : relates phase store below) :
    Leaves inner below store (serve handler program)
      fun outcome after reached =>
        ∃ phase, post outcome phase ∧ relates phase after reached := by
  induction program generalizing phase store below with
  | done result => exact leaves_done ⟨phase, follows, related⟩
  | call request resume ih =>
      obtain ⟨permitted, continues⟩ := follows
      apply (implements phase store below request related permitted).attempt
      intro reply after reached kept
      exact ih reply (continues reply kept.1) kept.2

end Stateful

end OfflineReels.Foundation
