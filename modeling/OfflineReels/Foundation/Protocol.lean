import OfflineReels.Foundation.Program

namespace OfflineReels.Foundation

/-! Protocols of calls.  A protocol observes the calls of one program and keeps
a phase; in each phase it says which calls the program may make and what the
program may assume of their replies. -/

structure Protocol (Call : Type) (Reply : Call → Type) (Fault Phase : Type) where
  permits : Phase → Call → Prop
  assumes : Phase → (request : Call) → Except Fault (Reply request) → Prop
  advance : Phase → (request : Call) → Except Fault (Reply request) → Phase

namespace Program

variable {Call : Type} {Reply : Call → Type} {Fault Phase α β : Type}
variable (protocol : Protocol Call Reply Fault Phase)

/-- Every call the program makes is permitted in its phase, and the outcome
satisfies the postcondition, as long as the replies are as assumed. -/
def Follows : Phase → Program Call Reply Fault α →
    (Except Fault α → Phase → Prop) → Prop
  | phase, .done result, post => post result phase
  | phase, .call request resume, post =>
      protocol.permits phase request ∧
        ∀ reply, protocol.assumes phase request reply →
          Follows (protocol.advance phase request reply) (resume reply) post

variable {protocol}

@[simp] theorem follows_done {phase : Phase} {result : Except Fault α}
    {post : Except Fault α → Phase → Prop} :
    Follows protocol phase (done result : Program Call Reply Fault α) post ↔
      post result phase := Iff.rfl

@[simp] theorem follows_call {phase : Phase} {request : Call}
    {resume : Except Fault (Reply request) → Program Call Reply Fault α}
    {post : Except Fault α → Phase → Prop} :
    Follows protocol phase (call request resume) post ↔
      protocol.permits phase request ∧
        ∀ reply, protocol.assumes phase request reply →
          Follows protocol (protocol.advance phase request reply)
            (resume reply) post := Iff.rfl

@[simp] theorem follows_perform {phase : Phase} {request : Call}
    {post : Except Fault (Reply request) → Phase → Prop} :
    Follows protocol phase (perform request) post ↔
      protocol.permits phase request ∧
        ∀ reply, protocol.assumes phase request reply →
          post reply (protocol.advance phase request reply) := Iff.rfl

@[simp] theorem follows_raise {phase : Phase} {fault : Fault}
    {post : Except Fault α → Phase → Prop} :
    Follows protocol phase (raise fault : Program Call Reply Fault α) post ↔
      post (.error fault) phase := Iff.rfl

@[simp] theorem follows_pure {phase : Phase} {value : α}
    {post : Except Fault α → Phase → Prop} :
    Follows protocol phase (pure value : Program Call Reply Fault α) post ↔
      post (.ok value) phase := Iff.rfl

theorem Follows.mono {program : Program Call Reply Fault α} {phase : Phase}
    {weak strong : Except Fault α → Phase → Prop}
    (follows : Follows protocol phase program strong)
    (weaken : ∀ result phase, strong result phase → weak result phase) :
    Follows protocol phase program weak := by
  induction program generalizing phase with
  | done result => exact weaken result phase follows
  | call request resume ih =>
      obtain ⟨permitted, continues⟩ := follows
      exact ⟨permitted, fun reply assumed =>
        ih reply (continues reply assumed)⟩

@[simp] theorem follows_attempt {program : Program Call Reply Fault α}
    {next : Except Fault α → Program Call Reply Fault β} {phase : Phase}
    {post : Except Fault β → Phase → Prop} :
    Follows protocol phase (program.attempt next) post ↔
      Follows protocol phase program fun outcome reached =>
        Follows protocol reached (next outcome) post := by
  induction program generalizing phase with
  | done result => exact Iff.rfl
  | call request resume ih =>
      simp only [attempt_call, follows_call]
      refine and_congr_right fun _ => forall_congr' fun reply => ?_
      exact imp_congr_right fun _ => ih reply

@[simp] theorem follows_bind {program : Program Call Reply Fault α}
    {next : α → Program Call Reply Fault β} {phase : Phase}
    {post : Except Fault β → Phase → Prop} :
    Follows protocol phase (program >>= next) post ↔
      Follows protocol phase program fun outcome reached =>
        match outcome with
        | .ok value => Follows protocol reached (next value) post
        | .error fault => post (.error fault) reached := by
  rw [bind_eq_attempt, follows_attempt]
  constructor <;> intro follows
  · refine follows.mono fun outcome reached continues => ?_
    cases outcome with
    | ok value => exact continues
    | error fault => exact continues
  · refine follows.mono fun outcome reached continues => ?_
    cases outcome with
    | ok value => exact continues
    | error fault => exact continues

theorem Follows.bind {program : Program Call Reply Fault α}
    {next : α → Program Call Reply Fault β} {phase : Phase}
    {middle : Except Fault α → Phase → Prop}
    {post : Except Fault β → Phase → Prop}
    (first : Follows protocol phase program middle)
    (returned : ∀ value reached, middle (.ok value) reached →
      Follows protocol reached (next value) post)
    (raised : ∀ fault reached, middle (.error fault) reached →
      post (.error fault) reached) :
    Follows protocol phase (program >>= next) post := by
  rw [follows_bind]
  refine first.mono fun outcome reached holds => ?_
  cases outcome with
  | ok value => exact returned value reached holds
  | error fault => exact raised fault reached holds

theorem Follows.attempt {program : Program Call Reply Fault α}
    {next : Except Fault α → Program Call Reply Fault β} {phase : Phase}
    {middle : Except Fault α → Phase → Prop}
    {post : Except Fault β → Phase → Prop}
    (first : Follows protocol phase program middle)
    (continues : ∀ outcome reached, middle outcome reached →
      Follows protocol reached (next outcome) post) :
    Follows protocol phase (program.attempt next) post :=
  follows_attempt.mpr (first.mono continues)

theorem Follows.rescue {program : Program Call Reply Fault α}
    {selects : Fault → Bool} {handler : Fault → Program Call Reply Fault α}
    {phase : Phase} {middle post : Except Fault α → Phase → Prop}
    (body : Follows protocol phase program middle)
    (returned : ∀ value reached, middle (.ok value) reached →
      post (.ok value) reached)
    (selected : ∀ fault reached, middle (.error fault) reached →
      selects fault = true → Follows protocol reached (handler fault) post)
    (passed : ∀ fault reached, middle (.error fault) reached →
      selects fault = false → post (.error fault) reached) :
    Follows protocol phase (program.rescue selects handler) post := by
  refine body.attempt fun outcome reached holds => ?_
  cases outcome with
  | ok value => exact returned value reached holds
  | error fault =>
      cases chosen : selects fault with
      | true => simpa [chosen] using selected fault reached holds chosen
      | false => simpa [chosen] using passed fault reached holds chosen

theorem Follows.ensure {program : Program Call Reply Fault α}
    {cleanup : Program Call Reply Fault Unit} {phase : Phase}
    {middle post : Except Fault α → Phase → Prop}
    (body : Follows protocol phase program middle)
    (cleans : ∀ outcome reached, middle outcome reached →
      Follows protocol reached cleanup fun cleaned after =>
        match cleaned with
        | .ok _ => post outcome after
        | .error fault => post (.error fault) after) :
    Follows protocol phase (program.ensure cleanup) post := by
  refine body.attempt fun outcome reached holds => ?_
  refine (cleans outcome reached holds).attempt fun cleaned after kept => ?_
  cases cleaned with
  | ok _ => exact kept
  | error fault => exact kept

theorem Follows.handle {Call' : Type} {Reply' : Call' → Type}
    {inner : Protocol Call' Reply' Fault Phase}
    {handler : (request : Call) → Program Call' Reply' Fault (Reply request)}
    (implements : ∀ phase request, protocol.permits phase request →
      Follows inner phase (handler request) fun reply reached =>
        protocol.assumes phase request reply ∧
          reached = protocol.advance phase request reply)
    {program : Program Call Reply Fault α} {phase : Phase}
    {post : Except Fault α → Phase → Prop}
    (follows : Follows protocol phase program post) :
    Follows inner phase (program.handle handler) post := by
  induction program generalizing phase with
  | done result => exact follows
  | call request resume ih =>
      obtain ⟨permitted, continues⟩ := follows
      refine (implements phase request permitted).attempt ?_
      rintro reply reached ⟨assumed, rfl⟩
      exact ih reply (continues reply assumed)

/-- The calls of a program, each handled by a program under another protocol
whose phases are related to its own. -/
theorem Follows.simulate {Call' Phase' : Type} {Reply' : Call' → Type}
    {inner : Protocol Call' Reply' Fault Phase'}
    {handler : (request : Call) → Program Call' Reply' Fault (Reply request)}
    {relates : Phase → Phase' → Prop}
    (implements : ∀ phase below request, relates phase below →
      protocol.permits phase request →
      Follows inner below (handler request) fun reply reached =>
        protocol.assumes phase request reply ∧
          relates (protocol.advance phase request reply) reached)
    {program : Program Call Reply Fault α} {phase : Phase} {below : Phase'}
    {post : Except Fault α → Phase → Prop}
    (follows : Follows protocol phase program post)
    (related : relates phase below) :
    Follows inner below (program.handle handler) fun outcome reached =>
      ∃ phase, post outcome phase ∧ relates phase reached := by
  induction program generalizing phase below with
  | done result => exact ⟨phase, follows, related⟩
  | call request resume ih =>
      obtain ⟨permitted, continues⟩ := follows
      refine (implements phase below request related permitted).attempt ?_
      intro reply reached ⟨assumed, kept⟩
      exact ih reply (continues reply assumed) kept

theorem Follows.and {Other : Type}
    {other : Protocol Call Reply Fault Other}
    (weaker : ∀ phase beside request reply,
      protocol.assumes phase request reply →
        other.assumes beside request reply)
    {program : Program Call Reply Fault α} {phase : Phase} {beside : Other}
    {post : Except Fault α → Phase → Prop}
    {also : Except Fault α → Other → Prop}
    (first : Follows protocol phase program post)
    (second : Follows other beside program also) :
    Follows protocol phase program fun outcome reached =>
      post outcome reached ∧ ∃ after, also outcome after := by
  induction program generalizing phase beside with
  | done result => exact ⟨first, beside, second⟩
  | call request resume ih =>
      obtain ⟨permitted, continues⟩ := first
      obtain ⟨_, follows⟩ := second
      exact ⟨permitted, fun reply assumed =>
        ih reply (continues reply assumed)
          (follows reply (weaker phase beside request reply assumed))⟩

theorem follows_any (permitted : ∀ phase request,
      protocol.permits phase request)
    (program : Program Call Reply Fault α) (phase : Phase) :
    Follows protocol phase program fun _ _ => True := by
  induction program generalizing phase with
  | done result => trivial
  | call request resume ih =>
      exact ⟨permitted phase request, fun reply _ => ih reply _⟩

theorem follows_still {phase : Phase}
    (permitted : ∀ request, protocol.permits phase request)
    (still : ∀ request reply, protocol.advance phase request reply = phase)
    (program : Program Call Reply Fault α) :
    Follows protocol phase program fun _ reached => reached = phase := by
  induction program with
  | done result => rfl
  | call request resume ih =>
      refine ⟨permitted request, fun reply _ => ?_⟩
      rw [still]
      exact ih reply

def Yields (protocol : Protocol Call Reply Fault Phase)
    (faulted : Phase → Prop) (phase : Phase)
    (program : Program Call Reply Fault α) (post : α → Phase → Prop) : Prop :=
  Follows protocol phase program fun outcome reached =>
    match outcome with
    | .ok value => post value reached
    | .error _ => faulted reached

section

variable {faulted : Phase → Prop} {phase : Phase}

theorem yields_pure {value : α} {post : α → Phase → Prop}
    (holds : post value phase) :
    Yields protocol faulted phase
      (pure value : Program Call Reply Fault α) post :=
  holds

theorem yields_raise {fault : Fault} {post : α → Phase → Prop}
    (holds : faulted phase) :
    Yields protocol faulted phase
      (raise fault : Program Call Reply Fault α) post :=
  holds

theorem yields_perform {request : Call} {post : Reply request → Phase → Prop}
    (permitted : protocol.permits phase request)
    (returned : ∀ value, protocol.assumes phase request (.ok value) →
      post value (protocol.advance phase request (.ok value)))
    (raised : ∀ fault, protocol.assumes phase request (.error fault) →
      faulted (protocol.advance phase request (.error fault))) :
    Yields protocol faulted phase
      (perform request : Program Call Reply Fault (Reply request)) post := by
  refine ⟨permitted, fun reply assumed => ?_⟩
  cases reply with
  | ok value => exact returned value assumed
  | error fault => exact raised fault assumed

theorem Yields.mono {program : Program Call Reply Fault α}
    {first second : α → Phase → Prop}
    (yields : Yields protocol faulted phase program first)
    (weaken : ∀ value reached, first value reached → second value reached) :
    Yields protocol faulted phase program second := by
  refine Follows.mono yields fun outcome reached holds => ?_
  cases outcome with
  | ok value => exact weaken value reached holds
  | error fault => exact holds

theorem Yields.weaken {program : Program Call Reply Fault α}
    {post : α → Phase → Prop} {weaker : Phase → Prop}
    (yields : Yields protocol faulted phase program post)
    (weaken : ∀ reached, faulted reached → weaker reached) :
    Yields protocol weaker phase program post := by
  refine Follows.mono yields fun outcome reached holds => ?_
  cases outcome with
  | ok value => exact holds
  | error fault => exact weaken reached holds

theorem Yields.bind {program : Program Call Reply Fault α}
    {next : α → Program Call Reply Fault β}
    {middle : α → Phase → Prop} {post : β → Phase → Prop}
    (first : Yields protocol faulted phase program middle)
    (continues : ∀ value reached, middle value reached →
      Yields protocol faulted reached (next value) post) :
    Yields protocol faulted phase (program >>= next) post :=
  Follows.bind first continues fun _ _ holds => holds

theorem Yields.rescue {program : Program Call Reply Fault α}
    {selects : Fault → Bool} {handler : Fault → Program Call Reply Fault α}
    {post : α → Phase → Prop}
    (body : Yields protocol faulted phase program post)
    (handles : ∀ fault reached, faulted reached →
      Yields protocol faulted reached (handler fault) post) :
    Yields protocol faulted phase (program.rescue selects handler) post :=
  Follows.rescue body (fun _ _ holds => holds)
    (fun fault reached holds _ => handles fault reached holds)
    fun _ _ holds _ => holds

theorem Yields.ensure {program : Program Call Reply Fault α}
    {cleanup : Program Call Reply Fault Unit} {post : α → Phase → Prop}
    (body : Yields protocol faulted phase program post)
    (cleans : ∀ value reached, post value reached →
      Yields protocol faulted reached cleanup fun _ after => post value after)
    (abandons : ∀ reached, faulted reached →
      Yields protocol faulted reached cleanup fun _ after => faulted after) :
    Yields protocol faulted phase (program.ensure cleanup) post := by
  refine Follows.ensure body fun outcome reached holds => ?_
  cases outcome with
  | ok value =>
      refine Follows.mono (cleans value reached holds) fun cleaned _ kept => ?_
      cases cleaned <;> exact kept
  | error fault =>
      refine Follows.mono (abandons reached holds) fun cleaned _ kept => ?_
      cases cleaned <;> exact kept

end

def Leads (protocol : Protocol Call Reply Fault Phase)
    (before after : Phase → Prop) (program : Program Call Reply Fault α) :
    Prop :=
  ∀ phase, before phase →
    Follows protocol phase program fun _ reached => after reached

theorem leads_done {before after : Phase → Prop} {result : Except Fault α}
    (weaken : ∀ phase, before phase → after phase) :
    Leads protocol before after (done result : Program Call Reply Fault α) :=
  weaken

theorem leads_pure {before after : Phase → Prop} {value : α}
    (weaken : ∀ phase, before phase → after phase) :
    Leads protocol before after (pure value : Program Call Reply Fault α) :=
  weaken

theorem leads_raise {before after : Phase → Prop} {fault : Fault}
    (weaken : ∀ phase, before phase → after phase) :
    Leads protocol before after (raise fault : Program Call Reply Fault α) :=
  weaken

theorem leads_perform {before after : Phase → Prop} {request : Call}
    (permitted : ∀ phase, before phase → protocol.permits phase request)
    (advances : ∀ phase reply, before phase →
      protocol.assumes phase request reply →
      after (protocol.advance phase request reply)) :
    Leads protocol before after
      (perform request : Program Call Reply Fault (Reply request)) :=
  fun phase holds => ⟨permitted phase holds, fun reply assumed =>
    advances phase reply holds assumed⟩

theorem Leads.weaken {before after stronger weaker : Phase → Prop}
    {program : Program Call Reply Fault α}
    (leads : Leads protocol before after program)
    (strengthen : ∀ phase, stronger phase → before phase)
    (weaken : ∀ phase, after phase → weaker phase) :
    Leads protocol stronger weaker program :=
  fun phase holds => (leads phase (strengthen phase holds)).mono
    fun _ reached kept => weaken reached kept

theorem Leads.yields {before after : Phase → Prop}
    {program : Program Call Reply Fault α}
    (leads : Leads protocol before after program) {phase : Phase}
    (holds : before phase) :
    Yields protocol after phase program fun _ reached => after reached := by
  refine (leads phase holds).mono fun outcome reached kept => ?_
  cases outcome <;> exact kept

theorem leads_of_yields {before after : Phase → Prop}
    {program : Program Call Reply Fault α}
    (yields : ∀ phase, before phase →
      Yields protocol after phase program fun _ reached => after reached) :
    Leads protocol before after program := by
  intro phase holds
  refine Follows.mono (yields phase holds) fun outcome reached kept => ?_
  cases outcome <;> exact kept

theorem Leads.attempt {before middle after : Phase → Prop}
    {program : Program Call Reply Fault α}
    {next : Except Fault α → Program Call Reply Fault β}
    (first : Leads protocol before middle program)
    (second : ∀ outcome, Leads protocol middle after (next outcome)) :
    Leads protocol before after (program.attempt next) :=
  fun phase holds => (first phase holds).attempt
    fun outcome reached kept => second outcome reached kept

theorem Leads.bind {before middle after : Phase → Prop}
    {program : Program Call Reply Fault α}
    {next : α → Program Call Reply Fault β}
    (first : Leads protocol before middle program)
    (second : ∀ value, Leads protocol middle after (next value))
    (weaken : ∀ phase, middle phase → after phase) :
    Leads protocol before after (program >>= next) := by
  rw [bind_eq_attempt]
  refine first.attempt fun outcome => ?_
  cases outcome with
  | ok value => exact second value
  | error fault => exact leads_done weaken

theorem Leads.rescue {before middle after : Phase → Prop}
    {program : Program Call Reply Fault α} {selects : Fault → Bool}
    {handler : Fault → Program Call Reply Fault α}
    (body : Leads protocol before middle program)
    (handles : ∀ fault, Leads protocol middle after (handler fault))
    (weaken : ∀ phase, middle phase → after phase) :
    Leads protocol before after (program.rescue selects handler) := by
  refine body.attempt fun outcome => ?_
  cases outcome with
  | ok value => exact leads_done weaken
  | error fault =>
      cases chosen : selects fault with
      | true => simpa [chosen] using handles fault
      | false => simpa [chosen] using leads_done weaken

theorem Leads.ensure {before middle after : Phase → Prop}
    {program : Program Call Reply Fault α}
    {cleanup : Program Call Reply Fault Unit}
    (body : Leads protocol before middle program)
    (cleans : Leads protocol middle after cleanup) :
    Leads protocol before after (program.ensure cleanup) := by
  refine body.attempt fun outcome => cleans.attempt fun cleaned => ?_
  cases cleaned with
  | ok _ => exact leads_done fun _ kept => kept
  | error fault => exact leads_done fun _ kept => kept

theorem Leads.handle {Call' : Type} {Reply' : Call' → Type}
    {inner : Protocol Call' Reply' Fault Phase}
    {handler : (request : Call) → Program Call' Reply' Fault (Reply request)}
    (implements : ∀ phase request, protocol.permits phase request →
      Follows inner phase (handler request) fun reply reached =>
        protocol.assumes phase request reply ∧
          reached = protocol.advance phase request reply)
    {before after : Phase → Prop} {program : Program Call Reply Fault α}
    (leads : Leads protocol before after program) :
    Leads inner before after (program.handle handler) :=
  fun phase holds => (leads phase holds).handle implements

def Rests (protocol : Protocol Call Reply Fault Phase) (phase : Phase)
    (program : Program Call Reply Fault α) : Prop :=
  Follows protocol phase program fun _ reached => reached = phase

section

variable {phase : Phase}

theorem rests_done (result : Except Fault α) :
    Rests protocol phase (done result : Program Call Reply Fault α) :=
  rfl

theorem rests_pure (value : α) :
    Rests protocol phase (pure value : Program Call Reply Fault α) :=
  rfl

theorem rests_raise (fault : Fault) :
    Rests protocol phase (raise fault : Program Call Reply Fault α) :=
  rfl

theorem rests_perform {request : Call}
    (permitted : protocol.permits phase request)
    (still : ∀ reply, protocol.advance phase request reply = phase) :
    Rests protocol phase
      (perform request : Program Call Reply Fault (Reply request)) :=
  ⟨permitted, fun reply _ => still reply⟩

theorem Rests.attempt {program : Program Call Reply Fault α}
    {next : Except Fault α → Program Call Reply Fault β}
    (first : Rests protocol phase program)
    (second : ∀ outcome, Rests protocol phase (next outcome)) :
    Rests protocol phase (program.attempt next) := by
  apply Follows.attempt first
  intro outcome reached same
  subst same
  exact second outcome

theorem Rests.bind {program : Program Call Reply Fault α}
    {next : α → Program Call Reply Fault β}
    (first : Rests protocol phase program)
    (second : ∀ value, Rests protocol phase (next value)) :
    Rests protocol phase (program >>= next) := by
  rw [bind_eq_attempt]
  refine first.attempt fun outcome => ?_
  cases outcome with
  | ok value => exact second value
  | error fault => exact rests_done _

theorem Rests.rescue {program : Program Call Reply Fault α}
    {selects : Fault → Bool} {handler : Fault → Program Call Reply Fault α}
    (body : Rests protocol phase program)
    (handles : ∀ fault, Rests protocol phase (handler fault)) :
    Rests protocol phase (program.rescue selects handler) := by
  refine body.attempt fun outcome => ?_
  cases outcome with
  | ok value => exact rests_done _
  | error fault =>
      cases chosen : selects fault with
      | true => simpa [chosen] using handles fault
      | false => simpa [chosen] using rests_done _

theorem Rests.ensure {program : Program Call Reply Fault α}
    {cleanup : Program Call Reply Fault Unit}
    (body : Rests protocol phase program)
    (cleans : Rests protocol phase cleanup) :
    Rests protocol phase (program.ensure cleanup) := by
  refine body.attempt fun outcome => cleans.attempt fun cleaned => ?_
  cases cleaned with
  | ok _ => exact rests_done _
  | error fault => exact rests_done _

/-- Whatever the program, its calls rest if their handlers do. -/
theorem rests_handle {Call' : Type} {Reply' : Call' → Type}
    {handler : (request : Call') →
      Program Call Reply Fault (Reply' request)}
    (rests : ∀ request, Rests protocol phase (handler request))
    (program : Program Call' Reply' Fault α) :
    Rests protocol phase (program.handle handler) := by
  induction program with
  | done result => exact rests_done _
  | call request resume ih => exact (rests request).attempt ih

theorem Rests.before {program : Program Call Reply Fault α}
    {next : α → Program Call Reply Fault β}
    {post : Except Fault β → Phase → Prop}
    (first : Rests protocol phase program)
    (second : ∀ value, Follows protocol phase (next value) post)
    (raised : ∀ fault, post (.error fault) phase) :
    Follows protocol phase (program >>= next) post := by
  refine Follows.bind first (fun value reached same => ?_)
    fun fault reached same => ?_
  · exact same ▸ second value
  · exact same ▸ raised fault

end

theorem Follows.plays {State : Type} {responds : State → (request : Call) →
      Except Fault (Reply request) → State → Prop}
    {watches : Phase → State → Prop}
    (answers : ∀ phase state request reply middle, watches phase state →
      protocol.permits phase request → responds state request reply middle →
      protocol.assumes phase request reply ∧
        watches (protocol.advance phase request reply) middle)
    {program : Program Call Reply Fault α} {phase : Phase}
    {post : Except Fault α → Phase → Prop}
    (follows : Follows protocol phase program post)
    {state after : State} {outcome : Except Fault α}
    (watched : watches phase state)
    (plays : program.Plays responds state outcome after) :
    ∃ reached, post outcome reached ∧ watches reached after := by
  induction program generalizing phase state with
  | done result =>
      obtain ⟨rfl, rfl⟩ := plays
      exact ⟨phase, follows, watched⟩
  | call request resume ih =>
      obtain ⟨permitted, continues⟩ := follows
      obtain ⟨reply, middle, responded, rest⟩ := plays
      obtain ⟨assumed, kept⟩ :=
        answers phase state request reply middle watched permitted responded
      exact ih reply (continues reply assumed) kept rest

theorem Follows.reaches {State : Type} {responds : State → (request : Call) →
      Except Fault (Reply request) → State → Prop}
    {watches : Phase → State → Prop}
    (answers : ∀ phase state request reply middle, watches phase state →
      protocol.permits phase request → responds state request reply middle →
      protocol.assumes phase request reply ∧
        watches (protocol.advance phase request reply) middle)
    {program rest : Program Call Reply Fault α} {phase : Phase}
    {post : Except Fault α → Phase → Prop}
    (follows : Follows protocol phase program post)
    {state after : State} (watched : watches phase state)
    (reached : program.Reaches responds state rest after) :
    ∃ phase, Follows protocol phase rest post ∧ watches phase after := by
  induction reached with
  | start => exact ⟨phase, follows, watched⟩
  | step reached responded ih =>
      obtain ⟨here, ⟨permitted, continues⟩, watched⟩ := ih
      obtain ⟨assumed, kept⟩ :=
        answers here _ _ _ _ watched permitted responded
      exact ⟨_, continues _ assumed, kept⟩

end Program

end OfflineReels.Foundation
