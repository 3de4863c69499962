import OfflineReels.Profile.LoginBrowser

namespace OfflineReels.Profile

open OfflineReels.Foundation
open OfflineReels.Collector
open OfflineReels.Collector.PlaywrightReelsFeed
  (Uninterrupted SessionPlan drives)
open Ownership

/-! Sessions of the Collector and login browsers on one profile, call by call in
any order. -/

/-- The open file that holds the lock, how many files were opened, and which
one each process has open.  A descriptor stands for the open file, so that no
two parties share one. -/
structure Host where
  owner : Option Nat := none
  next : Nat := 0
  files : ThreadId → Option Nat := fun _ => none

/-- A request to the control server is handled beside its `main`. -/
inductive ProfileJob
  | collect (plan : SessionPlan)
  | login (requests : List BrowserRuntime.StopRequest)
  | control (request : BrowserRuntime.ControlRequest)

def ProfileJob.program :
    ProfileJob → Program ProfileCall ProfileReply CollectorFault Unit
  | .collect plan => ProfileLock.collect plan
  | .login requests => BrowserRuntime.process requests
  | .control request => (BrowserRuntime.handled request {}).attempt fun _ =>
      .done (.ok ())

/-- What the outside decides about one call. -/
structure HostChoice where
  fails : Bool
  page : (call : PageCall) → Except CollectorFault (PageReply call)
  runtime : (call : RuntimeCall) → Except CollectorFault (RuntimeReply call)

namespace Host

/-- The lock of an open file goes when it is given back and when the file is
closed. -/
def unlocked (host : Host) (descriptor : Nat) : Host :=
  if host.owner = some descriptor then { host with owner := none } else host

def closed (host : Host) (thread : ThreadId) (descriptor : Nat) : Host :=
  { host.unlocked descriptor with
    files := Function.update host.files thread none }

/-- A file that a process has open when it ends is closed. -/
def exited (host : Host) (thread : ThreadId) : Host :=
  (host.files thread).elim host (host.closed thread)

def answer {α : Type} (choice : HostChoice) (value : α) :
    Except CollectorFault α :=
  if choice.fails then .error .otherException else .ok value

/-- The lock is refused while another open file has it. -/
def available (host : Host) (descriptor : Nat) : Bool :=
  host.owner = none || host.owner = some descriptor

def openLock (host : Host) (thread : ThreadId) (choice : HostChoice) :
    Host × Except CollectorFault Nat :=
  if choice.fails then (host, .error .otherException)
  else
    ({ host with
        next := host.next + 1
        files := Function.update host.files thread (some host.next) },
      .ok host.next)

def flock (host : Host) (choice : HostChoice) (descriptor : Nat) :
    Host × Except CollectorFault Unit :=
  if choice.fails || !host.available descriptor then
    (host, .error .otherException)
  else ({ host with owner := some descriptor }, .ok ())

def unlock (host : Host) (choice : HostChoice) (descriptor : Nat) :
    Host × Except CollectorFault Unit :=
  if choice.fails then (host, .error .otherException)
  else (host.unlocked descriptor, .ok ())

def perform (thread : ThreadId) (host : Host) (choice : HostChoice) :
    (call : ProfileCall) → Host × Except CollectorFault (ProfileReply call)
  | .openLock => host.openLock thread choice
  | .flock descriptor => host.flock choice descriptor
  | .unlock descriptor => host.unlock choice descriptor
  | .close descriptor => (host.closed thread descriptor, answer choice ())
  | .mkdir => (host, answer choice ())
  | .ftruncate _ => (host, answer choice ())
  | .writeMarker _ => (host, answer choice ())
  | .page call => (host, choice.page call)
  | .runtime call => (host, choice.runtime call)
  | .exit => (host.exited thread, .ok ())

end Host

def profileMachine : Machine ProfileCall ProfileReply CollectorFault Party Host
    ProfileJob HostChoice where
  protocol := ownership
  idle := {}
  program := ProfileJob.program
  perform := fun thread host call choice =>
    some (Host.perform thread host choice call)

/-- Nobody is interrupted, or killed while a file is open, and what a party is
assured of it can do. -/
def peaceful : Machine.StepCondition ProfileCall Party Host HostChoice where
  call := fun _ _ _ call choice =>
    match call with
    | .page call => Foreseen (.page call) (choice.page call)
    | .runtime call => Foreseen (.runtime call) (choice.runtime call)
    | _ => True
  crash := fun thread _ phases => (phases thread).descriptor = none

/-- Calls that need the profile.  What a handler of the control server asks of
a browser goes to its own port, whoever answers there. -/
def touches : ProfileCall → Bool
  | .page call => drives call || prepares call || closes (.page call)
  | .runtime (.unlinkTransient _) => true
  | .runtime (.popen _) => true
  | .runtime call => closes (.runtime call)
  | _ => false

/-- Calls that remove what a Chromium has locked, or start another one. -/
def clears : ProfileCall → Bool
  | .page call => prepares call
  | .runtime (.unlinkTransient _) => true
  | _ => false

def givesUp : ProfileCall → Bool
  | .unlock _ | .close _ | .exit => true
  | _ => false

namespace Sharing

variable {host after : Host} {phases : ThreadId → Party}
variable {thread : ThreadId} {party : Party}

/-- The lock is where the party is that took it. -/
structure Shares (host : Host) (phases : ThreadId → Party) : Prop where
  files : ∀ thread, host.files thread = (phases thread).descriptor
  fresh : ∀ thread descriptor,
    (phases thread).descriptor = some descriptor → descriptor < host.next
  apart : ∀ one other descriptor,
    (phases one).descriptor = some descriptor →
    (phases other).descriptor = some descriptor → one = other
  owner : ∀ thread, (phases thread).owns = true →
    ∃ descriptor, (phases thread).descriptor = some descriptor ∧
      host.owner = some descriptor
  held : ∀ descriptor, host.owner = some descriptor →
    ∃ thread, (phases thread).descriptor = some descriptor ∧
      (phases thread).owns = true
  browser : ∀ thread, (phases thread).browser = true →
    (phases thread).owns = true

/-- What one party has to show when it does something of its own. -/
structure Moves (host : Host) (phases : ThreadId → Party) (thread : ThreadId)
    (party : Party) (after : Host) : Prop where
  next : host.next ≤ after.next
  files : after.files = Function.update host.files thread party.descriptor
  fresh : ∀ descriptor, party.descriptor = some descriptor →
    descriptor < after.next
  apart : ∀ descriptor, party.descriptor = some descriptor →
    ∀ other, other ≠ thread → (phases other).descriptor ≠ some descriptor
  owner : party.owns = true →
    ∃ descriptor, party.descriptor = some descriptor ∧
      after.owner = some descriptor
  others : ∀ other descriptor, other ≠ thread →
    (phases other).descriptor = some descriptor →
    host.owner = some descriptor → after.owner = some descriptor
  held : ∀ descriptor, after.owner = some descriptor →
    party.descriptor = some descriptor ∧ party.owns = true ∨
      host.owner = some descriptor ∧
        (phases thread).descriptor ≠ some descriptor
  browser : party.browser = true → party.owns = true

theorem Shares.moved (shares : Shares host phases)
    (moves : Moves host phases thread party after) :
    Shares after (Function.update phases thread party) where
  files := by
    intro other
    rw [moves.files]
    by_cases same : other = thread
    · rw [same, Function.update_self, Function.update_self]
    · rw [Function.update_of_ne same, Function.update_of_ne same]
      exact shares.files other
  fresh := by
    intro other descriptor opened
    by_cases same : other = thread
    · subst same
      rw [Function.update_self] at opened
      exact moves.fresh descriptor opened
    · rw [Function.update_of_ne same] at opened
      exact Nat.lt_of_lt_of_le (shares.fresh other descriptor opened) moves.next
  apart := by
    intro one other descriptor first second
    by_cases here : one = thread
    · by_cases there : other = thread
      · rw [here, there]
      · rw [here, Function.update_self] at first
        rw [Function.update_of_ne there] at second
        exact absurd second (moves.apart descriptor first other there)
    · rw [Function.update_of_ne here] at first
      by_cases there : other = thread
      · rw [there, Function.update_self] at second
        exact absurd first (moves.apart descriptor second one here)
      · rw [Function.update_of_ne there] at second
        exact shares.apart one other descriptor first second
  owner := by
    intro other owns
    by_cases same : other = thread
    · subst same
      rw [Function.update_self] at owns ⊢
      exact moves.owner owns
    · rw [Function.update_of_ne same] at owns ⊢
      obtain ⟨descriptor, opened, locked⟩ := shares.owner other owns
      exact ⟨descriptor, opened,
        moves.others other descriptor same opened locked⟩
  held := by
    intro descriptor locked
    rcases moves.held descriptor locked with own | ⟨before, elsewhere⟩
    · exact ⟨thread, by rw [Function.update_self]; exact own⟩
    · obtain ⟨other, opened, owns⟩ := shares.held descriptor before
      have apart : other ≠ thread := by
        intro same
        rw [same] at opened
        exact elsewhere opened
      exact ⟨other, by rw [Function.update_of_ne apart]; exact ⟨opened, owns⟩⟩
  browser := by
    intro other running
    by_cases same : other = thread
    · subst same
      rw [Function.update_self] at running ⊢
      exact moves.browser running
    · rw [Function.update_of_ne same] at running ⊢
      exact shares.browser other running

namespace Shares

variable {descriptor : Nat} (shares : Shares host phases)

include shares

theorem files_self :
    host.files =
      Function.update host.files thread (phases thread).descriptor := by
  rw [← shares.files thread, Function.update_eq_self]

theorem runs (browser : Bool)
    (owned : browser = true → (phases thread).owns = true) :
    Moves host phases thread { phases thread with browser } host where
  next := Nat.le_refl _
  files := shares.files_self
  fresh := shares.fresh thread
  apart := fun descriptor opened other elsewhere clash =>
    elsewhere (shares.apart other thread descriptor clash opened)
  owner := shares.owner thread
  others := fun _ _ _ _ locked => locked
  held := by
    intro descriptor locked
    obtain ⟨other, opened, owns⟩ := shares.held descriptor locked
    by_cases same : other = thread
    · subst same
      exact .inl ⟨opened, owns⟩
    · right
      refine ⟨locked, ?_⟩
      intro clash
      exact same (shares.apart other thread descriptor opened clash)
  browser := owned

theorem still : Moves host phases thread (phases thread) host :=
  shares.runs (phases thread).browser (shares.browser thread)

theorem opens (idle : phases thread = {}) :
    Moves host phases thread ⟨some host.next, false, false⟩
      { host with
        next := host.next + 1
        files := Function.update host.files thread (some host.next) } where
  next := Nat.le_succ _
  files := rfl
  fresh := by
    intro descriptor same
    obtain rfl := Option.some.inj same
    exact Nat.lt_succ_self _
  apart := by
    intro descriptor same other _ opened
    obtain rfl := Option.some.inj same
    exact Nat.lt_irrefl _ (shares.fresh other host.next opened)
  owner := fun clash => by cases clash
  others := fun _ _ _ _ locked => locked
  held := by
    intro descriptor locked
    right
    refine ⟨locked, ?_⟩
    rw [idle]
    intro clash
    cases clash
  browser := fun clash => by cases clash

theorem locks (opened : (phases thread).descriptor = some descriptor)
    (available : host.available descriptor = true) :
    Moves host phases thread { phases thread with owns := true }
      { host with owner := some descriptor } where
  next := Nat.le_refl _
  files := shares.files_self
  fresh := shares.fresh thread
  apart := fun descriptor opened other elsewhere clash =>
    elsewhere (shares.apart other thread descriptor clash opened)
  owner := fun _ => ⟨descriptor, opened, rfl⟩
  others := by
    intro other found elsewhere before locked
    unfold Host.available at available
    rw [locked] at available
    obtain rfl : found = descriptor := by simpa using available
    exact absurd (shares.apart other thread found before opened) elsewhere
  held := by
    intro found locked
    obtain rfl := Option.some.inj locked
    exact .inl ⟨opened, rfl⟩
  browser := fun _ => rfl

theorem leaves (opened : (phases thread).descriptor = some descriptor)
    (kept : party.descriptor = some descriptor ∨ party.descriptor = none)
    (unowned : party.owns = false) (idle : party.browser = false)
    (same : after = { host.unlocked descriptor with
      files := Function.update host.files thread party.descriptor }) :
    Moves host phases thread party after where
  next := by
    rw [same]
    unfold Host.unlocked
    split
    · exact Nat.le_refl _
    · exact Nat.le_refl _
  files := by
    rw [same]
  fresh := by
    intro found has
    have here : after.next = host.next := by
      rw [same]
      unfold Host.unlocked
      split
      · rfl
      · rfl
    rw [here]
    rcases kept with still | gone
    · rw [still] at has
      obtain rfl := Option.some.inj has
      exact shares.fresh thread descriptor opened
    · rw [gone] at has
      cases has
  apart := by
    intro found has other elsewhere clash
    rcases kept with still | gone
    · rw [still] at has
      obtain rfl := Option.some.inj has
      exact elsewhere (shares.apart other thread descriptor clash opened)
    · rw [gone] at has
      cases has
  owner := by
    intro clash
    rw [unowned] at clash
    cases clash
  others := by
    intro other found elsewhere before locked
    rw [same]
    unfold Host.unlocked
    split
    · rename_i here
      obtain rfl := Option.some.inj (locked.symm.trans here)
      exact absurd (shares.apart other thread found before opened) elsewhere
    · exact locked
  held := by
    intro found locked
    rw [same] at locked
    unfold Host.unlocked at locked
    split at locked
    · cases locked
    · rename_i other
      right
      refine ⟨locked, ?_⟩
      intro clash
      obtain rfl := Option.some.inj (clash.symm.trans opened)
      exact other locked
  browser := by
    intro clash
    rw [idle] at clash
    cases clash

end Shares

theorem answer_osError {α : Type} {choice : HostChoice} {value : α} :
    ∀ fault, Host.answer choice value = .error fault →
      isOsError fault = true := by
  intro fault raised
  unfold Host.answer at raised
  split at raised
  · cases raised
    rfl
  · cases raised

theorem perform_foreseen {call : ProfileCall} {choice : HostChoice}
    (peace : peaceful.call thread host phases call choice) :
    Foreseen call (Host.perform thread host choice call).2 := by
  cases call with
  | page call => exact peace
  | runtime call => exact peace
  | mkdir => exact answer_osError
  | ftruncate descriptor => exact answer_osError
  | writeMarker descriptor => exact answer_osError
  | close descriptor => exact answer_osError
  | exit => exact Stateful.faults_ok _
  | openLock =>
      intro fault raised
      change (host.openLock thread choice).2 = _ at raised
      unfold Host.openLock at raised
      split at raised
      · cases raised
        rfl
      · cases raised
  | flock descriptor =>
      intro fault raised
      change (host.flock choice descriptor).2 = _ at raised
      unfold Host.flock at raised
      split at raised
      · cases raised
        rfl
      · cases raised
  | unlock descriptor =>
      intro fault raised
      change (host.unlock choice descriptor).2 = _ at raised
      unfold Host.unlock at raised
      split at raised
      · cases raised
        rfl
      · cases raised

theorem page_moves (shares : Shares host phases) {call : PageCall}
    (permitted : (phases thread).permits (.page call))
    (reply : Except CollectorFault (PageReply call)) :
    Moves host phases thread ((phases thread).note (.page call) reply)
      host := by
  have launched : (phases thread).owns = true →
      Moves host phases thread { phases thread with browser := true } host :=
    fun owns => shares.runs true fun _ => owns
  have ended : Moves host phases thread
      { phases thread with browser := false } host :=
    shares.runs false fun clash => by cases clash
  cases call with
  | launchPersistentContext =>
      cases reply with
      | ok _ => exact launched (permitted.2.1 rfl).1
      | error fault => exact shares.still
  | closeContext =>
      cases reply with
      | ok _ => exact ended
      | error fault => exact shares.still
  | _ => exact shares.still

theorem runtime_moves (shares : Shares host phases) {call : RuntimeCall}
    (permitted : (phases thread).permits (.runtime call))
    (reply : Except CollectorFault (RuntimeReply call)) :
    Moves host phases thread ((phases thread).note (.runtime call) reply)
      host := by
  have ended : Moves host phases thread
      { phases thread with browser := false } host :=
    shares.runs false fun clash => by cases clash
  cases call with
  | popen process =>
      cases process with
      | chromium =>
          cases reply with
          | ok _ => exact shares.runs true fun _ => permitted
          | error fault => exact shares.still
      | _ => exact shares.still
  | wait process =>
      cases process with
      | chromium =>
          cases reply with
          | ok inTime =>
              cases inTime with
              | true => exact ended
              | false => exact shares.still
          | error fault => exact shares.still
      | _ => exact shares.still
  | kill process =>
      cases process with
      | chromium =>
          cases reply with
          | ok _ => exact ended
          | error fault => exact shares.still
      | _ => exact shares.still
  | _ => exact shares.still

theorem Shares.idle (shares : Shares host phases)
    (closed : (phases thread).descriptor = none) : phases thread = {} := by
  have unowned : (phases thread).owns = false := by
    rw [Bool.eq_false_iff]
    intro owns
    obtain ⟨descriptor, opened, _⟩ := shares.owner thread owns
    rw [closed] at opened
    cases opened
  have stopped : (phases thread).browser = false := by
    rw [Bool.eq_false_iff]
    intro running
    rw [shares.browser thread running] at unowned
    cases unowned
  generalize phases thread = party at closed unowned stopped
  obtain ⟨descriptor, owns, browser⟩ := party
  cases closed
  cases unowned
  cases stopped
  rfl

theorem openLock_moves (shares : Shares host phases)
    (idle : phases thread = {}) (choice : HostChoice) :
    Moves host phases thread
      ((phases thread).note .openLock (host.openLock thread choice).2)
      (host.openLock thread choice).1 := by
  unfold Host.openLock
  split
  · exact shares.still
  · rw [idle]
    exact shares.opens idle

theorem flock_moves (shares : Shares host phases) {descriptor : Nat}
    (opened : (phases thread).descriptor = some descriptor)
    (choice : HostChoice) :
    Moves host phases thread
      ((phases thread).note (.flock descriptor)
        (host.flock choice descriptor).2)
      (host.flock choice descriptor).1 := by
  unfold Host.flock
  split
  · exact shares.still
  · rename_i granted
    rw [Bool.or_eq_true, not_or, Bool.not_eq_true', Bool.not_eq_false]
      at granted
    exact shares.locks opened granted.2

theorem unlock_moves (shares : Shares host phases) {descriptor : Nat}
    (opened : (phases thread).descriptor = some descriptor)
    (idle : (phases thread).browser = false) (choice : HostChoice) :
    Moves host phases thread
      ((phases thread).note (.unlock descriptor)
        (host.unlock choice descriptor).2)
      (host.unlock choice descriptor).1 := by
  unfold Host.unlock
  split
  · exact shares.still
  · have noted : ({ phases thread with owns := false } : Party).descriptor =
        some descriptor := opened
    apply shares.leaves opened (.inl noted) rfl idle
    change host.unlocked descriptor = { host.unlocked descriptor with
      files := Function.update host.files thread (phases thread).descriptor }
    rw [← shares.files_self]
    unfold Host.unlocked
    split
    · rfl
    · rfl

theorem exited_moves (shares : Shares host phases)
    (idle : (phases thread).browser = false)
    (reply : Except CollectorFault Unit) :
    Moves host phases thread ((phases thread).note .exit reply)
      (host.exited thread) := by
  unfold Host.exited
  rw [shares.files thread]
  cases opened : (phases thread).descriptor with
  | none =>
      have same : (phases thread).note .exit reply = phases thread := by
        rw [shares.idle opened]
        rfl
      rw [same]
      exact shares.still
  | some descriptor => exact shares.leaves opened (.inr rfl) rfl idle rfl

theorem perform_moves (shares : Shares host phases) {call : ProfileCall}
    (permitted : (phases thread).permits call) (choice : HostChoice) :
    Moves host phases thread
      ((phases thread).note call (Host.perform thread host choice call).2)
      (Host.perform thread host choice call).1 := by
  cases call with
  | page call => exact page_moves shares permitted _
  | runtime call => exact runtime_moves shares permitted _
  | mkdir => exact shares.still
  | ftruncate descriptor => exact shares.still
  | writeMarker descriptor => exact shares.still
  | openLock => exact openLock_moves shares permitted choice
  | flock descriptor => exact flock_moves shares permitted choice
  | unlock descriptor =>
      exact unlock_moves shares permitted.1 permitted.2 choice
  | close descriptor =>
      exact shares.leaves permitted.1 (.inr rfl) rfl permitted.2 rfl
  | exit => exact exited_moves shares permitted _

theorem update_idle (idle : phases thread = {}) :
    Function.update phases thread {} = phases := by
  rw [← idle, Function.update_eq_self]

theorem job_follows (job : ProfileJob) :
    (profileMachine.program job).Follows profileMachine.protocol
      profileMachine.idle fun _ phase => phase = {} := by
  cases job with
  | collect plan => exact collect_follows plan
  | login requests => exact BrowserRuntime.process_follows requests
  | control request =>
      apply Program.Follows.attempt (BrowserRuntime.handled_leaves request)
      intro outcome reached kept
      obtain ⟨_, _, _, same⟩ := kept
      exact same

abbrev ProfileConfig : Type :=
  Config ProfileCall ProfileReply CollectorFault Party Host

abbrev ProfileLabel : Type := Label ProfileJob HostChoice

/-- The machine is sound: the lock is shared as it should be, and what is left
of every party goes on as its owner. -/
abbrev Sound (config : ProfileConfig) : Prop :=
  Machine.Sound profileMachine Shares (· = {}) config

theorem sound_next (config : ProfileConfig) (label : ProfileLabel)
    (after : ProfileConfig) (sound : Sound config)
    (meets : Machine.stepCondition peaceful config label)
    (stepped : profileMachine.next config label = some after) :
    Sound after := by
  apply Machine.sound_next_steps job_follows _ _ _ config label after sound
    meets stepped
  · intro shared phases thread shares free
    have idle : phases thread = {} := free.elim id id
    change Shares shared (Function.update phases thread {})
    rw [update_idle idle]
    exact shares
  · intro shared phases thread shares closed
    change Shares shared (Function.update phases thread {})
    rw [update_idle (shares.idle closed)]
    exact shares
  · intro thread shared phases call choice after reply shares permitted peace
      performed
    have same : Host.perform thread shared choice call = (after, reply) :=
      Option.some.inj performed
    have foreseen := perform_foreseen peace
    have moves := perform_moves shares permitted choice
    rw [same] at foreseen moves
    exact ⟨foreseen, shares.moved moves⟩

theorem sound_start : Sound (profileMachine.initial {}) := by
  apply Machine.sound_initial
  exact {
    files := fun _ => rfl
    fresh := fun _ _ clash => by cases clash
    apart := fun _ _ _ clash => by cases clash
    owner := fun _ clash => by cases clash
    held := fun _ clash => by cases clash
    browser := fun _ clash => by cases clash }

/-- One party at most owns the profile, a browser runs for its owner only, and
the lock is free when everybody is done. -/
structure Exclusive (config : ProfileConfig) : Prop where
  alone : ∀ one other, (config.phases one).owns = true →
    (config.phases other).owns = true → one = other
  browsers : ∀ thread, (config.phases thread).browser = true →
    ∃ descriptor, (config.phases thread).descriptor = some descriptor ∧
      config.shared.owner = some descriptor
  free : Machine.Quiescent config → config.shared.owner = none

/-- What holds just before a party makes a call. -/
structure OwnedCall (thread : ThreadId) (host : Host)
    (phases : ThreadId → Party) (call : ProfileCall) : Prop where
  owned : touches call = true →
    ∃ descriptor, (phases thread).descriptor = some descriptor ∧
      host.owner = some descriptor
  alone : touches call = true →
    ∀ other, other ≠ thread → (phases other).browser = false
  cleared : clears call = true → ∀ other, (phases other).browser = false
  kept : givesUp call = true → (phases thread).browser = false

section

variable {config final : ProfileConfig} {labels : List ProfileLabel}

theorem Shares.alone (shares : Shares host phases) {one other : ThreadId}
    (first : (phases one).owns = true) (second : (phases other).owns = true) :
    one = other := by
  obtain ⟨descriptor, opened, locked⟩ := shares.owner one first
  obtain ⟨found, here, same⟩ := shares.owner other second
  obtain rfl := Option.some.inj (locked.symm.trans same)
  exact shares.apart one other descriptor opened here

theorem Shares.elsewhere (shares : Shares host phases)
    (owns : (phases thread).owns = true) :
    ∀ other, other ≠ thread → (phases other).browser = false := by
  intro other apart
  rw [Bool.eq_false_iff]
  intro running
  exact apart (shares.alone (shares.browser other running) owns)

theorem owned_call (shares : Shares host phases) {call : ProfileCall}
    (permitted : (phases thread).permits call) :
    OwnedCall thread host phases call := by
  have touched : touches call = true → (phases thread).owns = true := by
    intro touching
    cases call with
    | page call =>
        rcases Bool.or_eq_true_iff.mp touching with needing | closing
        · rcases Bool.or_eq_true_iff.mp needing with driving | preparing
          · exact (permitted.1 driving).1
          · exact (permitted.2.1 preparing).1
        · exact permitted.2.2 closing
    | runtime call =>
        cases call with
        | unlinkTransient name => exact permitted.1
        | popen process => exact permitted
        | closeBrowser => exact permitted
        | _ => cases touching
    | _ => cases touching
  have cleared : clears call = true →
      (phases thread).owns = true ∧ (phases thread).browser = false := by
    intro clearing
    cases call with
    | page call => exact permitted.2.1 clearing
    | runtime call =>
        cases call with
        | unlinkTransient name => exact permitted
        | _ => cases clearing
    | _ => cases clearing
  exact {
    owned := fun touching => shares.owner thread (touched touching)
    alone := fun touching => shares.elsewhere (touched touching)
    cleared := by
      intro clearing other
      obtain ⟨owns, idle⟩ := cleared clearing
      by_cases same : other = thread
      · rw [same]
        exact idle
      · exact shares.elsewhere owns other same
    kept := by
      intro giving
      cases call with
      | unlock descriptor => exact permitted.2
      | close descriptor => exact permitted.2
      | exit => exact permitted
      | _ => cases giving }

/-- Whatever the order of the calls and whatever they are answered. -/
theorem profile_exclusive
    (meets : Meets profileMachine.next (Machine.stepCondition peaceful)
      (profileMachine.initial {}) labels)
    (ran : run profileMachine.next (profileMachine.initial {}) labels =
      some final) : Exclusive final := by
  have sound : Sound final := run_invariant sound_next sound_start meets ran
  have shares := sound.holds
  exact {
    alone := fun one other => shares.alone
    browsers := fun thread running =>
      shares.owner thread (shares.browser thread running)
    free := by
      intro quiescent
      cases locked : final.shared.owner with
      | none => rfl
      | some descriptor =>
          obtain ⟨thread, opened, _⟩ := shares.held descriptor locked
          have idle := sound.finished_of_quiescent rfl quiescent thread
          rw [idle] at opened
          cases opened }

/-- The same, of every call on the way. -/
theorem profile_calls_owned
    (meets : Meets profileMachine.next (Machine.stepCondition peaceful)
      (profileMachine.initial {}) labels) :
    Meets profileMachine.next (Machine.condition OwnedCall)
      (profileMachine.initial {}) labels := by
  apply along_of_invariant _ sound_start meets
  intro before label after sound holds stepped
  refine ⟨sound_next before label after sound holds stepped, ?_⟩
  cases label with
  | spawn thread job => trivial
  | crash thread => trivial
  | step thread choice =>
      intro call resume running
      obtain ⟨permitted, _⟩ := sound.follows thread _ running
      exact owned_call sound.holds permitted

end

def sampleRuntime : (call : RuntimeCall) → RuntimeReply call
  | .unlinkTransient _ | .unlinkDisplay _ => false
  | .poll _ => true
  | .wait process => process ≠ .chromium
  | .readiness => "login"
  | .requireRuntimeBoundary | .mkdir | .chmod | .requireProfilePermissions
  | .popen _ | .waitForDisplay | .closeBrowser | .terminate _ | .kill _
  | .bindServer | .navigate _ => ()

def sampleChoice : HostChoice where
  fails := false
  page := fun call => .ok (PlaywrightReelsFeed.Runs.samplePage [] call)
  runtime := fun call => .ok (sampleRuntime call)

def samplePlan : SessionPlan where
  limits := PlaywrightReelsFeed.Runs.sampleLimits
  allowLoginBootstrap := false
  navigateFirst := true
  observeFeedJson := true
  actions := [.current]

def steps (thread : ThreadId) (count : Nat) : List ProfileLabel :=
  List.replicate count (.step thread sampleChoice)

/-- The Collector is refused while the login browser runs, and then not. -/
def sampleLabels : List ProfileLabel :=
  .spawn 0 (.login [.shutdown]) :: steps 0 18 ++
    .spawn 2 (.control .openLogin) :: steps 2 1 ++
    .spawn 1 (.collect samplePlan) :: steps 1 6 ++ steps 0 22 ++
      .spawn 1 (.collect samplePlan) :: steps 1 12

def isSmooth : ProfileLabel → Prop
  | .spawn _ _ => True
  | .step _ choice => choice = sampleChoice
  | .crash _ => False

theorem steps_smooth (thread : ThreadId) (count : Nat) :
    ∀ label ∈ steps thread count, isSmooth label := by
  intro label member
  rw [List.eq_of_mem_replicate member]
  exact rfl

theorem smooth_peaceful {config : ProfileConfig} {label : ProfileLabel}
    (smooth : isSmooth label) : Machine.stepCondition peaceful config label := by
  cases label with
  | spawn thread job => trivial
  | crash thread => exact smooth.elim
  | step thread choice =>
      intro call resume _
      obtain rfl : choice = sampleChoice := smooth
      cases call with
      | page call =>
          have mild : Uninterrupted (sampleChoice.page call) :=
            Stateful.faults_ok _
          exact ⟨mild, fun _ => ⟨_, rfl⟩⟩
      | runtime call =>
          have mild : Uninterrupted (sampleChoice.runtime call) :=
            Stateful.faults_ok _
          cases call with
          | unlinkTransient name => exact Stateful.faults_ok _
          | _ => exact ⟨mild, fun _ => ⟨_, rfl⟩⟩
      | _ => trivial

theorem sample_meets :
    Meets profileMachine.next (Machine.stepCondition peaceful)
      (profileMachine.initial {}) sampleLabels := by
  have smooth : ∀ label ∈ sampleLabels, isSmooth label := by
    unfold sampleLabels
    simp only [List.cons_append, List.append_assoc, List.forall_mem_cons,
      List.forall_mem_append]
    exact ⟨trivial, steps_smooth 0 18, trivial, steps_smooth 2 1, trivial,
      steps_smooth 1 6, steps_smooth 0 22, trivial, steps_smooth 1 12⟩
  apply Along.mono _ (meets_of_forall smooth)
  intro before label after holds
  exact smooth_peaceful holds

theorem sample_profile_exclusive :
    ∃ final, run profileMachine.next (profileMachine.initial {})
        sampleLabels = some final ∧
      (final.phases 1).browser = true ∧ Exclusive final := by
  have whole : ((run profileMachine.next (profileMachine.initial {})
      sampleLabels).map fun final => (final.phases 1).browser) =
        some true := by
    decide +kernel
  obtain ⟨final, ran, running⟩ := Option.map_eq_some_iff.mp whole
  exact ⟨final, ran, running, profile_exclusive sample_meets ran⟩

theorem sample_calls_owned :
    ((run profileMachine.next (profileMachine.initial {}) sampleLabels).map
        fun final => (final.phases 1).owns) = some true ∧
      Meets profileMachine.next (Machine.condition OwnedCall)
        (profileMachine.initial {}) sampleLabels :=
  ⟨by decide +kernel, profile_calls_owned sample_meets⟩

end Sharing

end OfflineReels.Profile
