import OfflineReels.Foundation.Interleaving
import OfflineReels.Profile.ProfileLock

namespace OfflineReels.Profile

open OfflineReels.Foundation
open OfflineReels.Foundation.Stateful
open OfflineReels.Collector
open OfflineReels.Collector.PlaywrightReelsFeed
  (Uninterrupted Custody SessionPlan custody session drives)

/-! Who owns the profile.  A party owns it while the lock is on a file that it
has open; its browser runs from the call that starts it to the one that ends
it. -/

structure Party where
  descriptor : Option Nat := none
  owns : Bool := false
  browser : Bool := false
  deriving DecidableEq, Repr

/-- Calls that change the profile or start something on it. -/
def prepares : PageCall → Bool
  | .clearTransientChromiumLocks | .startPlaywright
  | .launchPersistentContext => true
  | _ => false

/-- Calls that ask a browser to close. -/
def closes : ProfileCall → Bool
  | .page .closeContext | .runtime .closeBrowser => true
  | _ => false

/-- What the login browser is sure to be able to do: end its own processes, and
bind the port of its control server. -/
def assured : RuntimeCall → Bool
  | .poll _ | .terminate _ | .wait _ | .kill _ | .bindServer => true
  | _ => false

/-- The system calls raise nothing but an `OSError`, nobody is interrupted, the
Collector can close its own browser, and the login browser can do what it is
assured of. -/
def Foreseen : (call : ProfileCall) → Except CollectorFault (ProfileReply call) →
    Prop
  | .page request, reply =>
      Uninterrupted reply ∧
        (request = .closeContext → ∃ value, reply = .ok value)
  | .runtime (.unlinkTransient _), reply =>
      ∀ fault, reply = .error fault → isOsError fault = true
  | .runtime request, reply =>
      Uninterrupted reply ∧
        (assured request = true → ∃ value, reply = .ok value)
  | _, reply => ∀ fault, reply = .error fault → isOsError fault = true

def Party.permits (phase : Party) : ProfileCall → Prop
  | .openLock => phase = {}
  | .flock descriptor | .ftruncate descriptor | .writeMarker descriptor =>
      phase.descriptor = some descriptor
  | .unlock descriptor | .close descriptor =>
      phase.descriptor = some descriptor ∧ phase.browser = false
  | .page request =>
      (drives request = true → phase.owns = true ∧ phase.browser = true) ∧
        (prepares request = true →
          phase.owns = true ∧ phase.browser = false) ∧
        (closes (.page request) = true → phase.owns = true)
  | .runtime (.unlinkTransient _) =>
      phase.owns = true ∧ phase.browser = false
  | .runtime (.popen _) | .runtime .closeBrowser => phase.owns = true
  | .exit => phase.browser = false
  | _ => True

def Party.note (phase : Party) (call : ProfileCall)
    (reply : Except CollectorFault (ProfileReply call)) : Party :=
  match call, reply with
  | .openLock, .ok descriptor => { phase with descriptor := some descriptor }
  | .flock _, .ok _ => { phase with owns := true }
  | .unlock _, .ok _ => { phase with owns := false }
  | .close _, _ => { phase with descriptor := none, owns := false }
  | .page .launchPersistentContext, .ok _ => { phase with browser := true }
  | .page .closeContext, .ok _ => { phase with browser := false }
  | .runtime (.popen .chromium), .ok _ => { phase with browser := true }
  | .runtime (.wait .chromium), .ok true => { phase with browser := false }
  | .runtime (.kill .chromium), .ok _ => { phase with browser := false }
  | .exit, _ => { phase with descriptor := none, owns := false }
  | _, _ => phase

def ownership : Protocol ProfileCall ProfileReply CollectorFault Party where
  permits := Party.permits
  assumes := fun _ call reply => Foreseen call reply
  advance := Party.note

namespace Ownership

section

variable {Store : Type} {store : Store} {phase : Party}

theorem exception_of_osError {fault : CollectorFault}
    (raised : isOsError fault = true) : fault.isException = true := by
  unfold isOsError at raised
  rw [of_decide_eq_true raised]
  rfl

def Claimed (store : Store) :
    Except CollectorFault Nat → Store → Party → Prop
  | .ok descriptor, after, phase =>
      after = store ∧ phase = ⟨some descriptor, true, false⟩
  | .error fault, after, phase =>
      after = store ∧ phase = {} ∧ fault.isException = true

def Attempted (store : Store) (descriptor : Nat) :
    Except CollectorFault Nat → Store → Party → Prop
  | .ok found, after, phase =>
      found = descriptor ∧ after = store ∧
        phase = ⟨some descriptor, true, false⟩
  | .error fault, after, phase =>
      isOsError fault = true ∧ after = store ∧
        phase.descriptor = some descriptor ∧ phase.browser = false

theorem claimed_leaves (descriptor : Nat) :
    Leaves ownership ⟨some descriptor, false, false⟩ store
      (claimed descriptor : ProfileProgram Store Nat)
      (Attempted store descriptor) := by
  have locking : Leaves ownership ⟨some descriptor, false, false⟩ store
      (request (.flock descriptor) : ProfileProgram Store Unit)
      fun outcome after reached => after = store ∧
        (∀ fault, outcome = .error fault → isOsError fault = true ∧
          reached = ⟨some descriptor, false, false⟩) ∧
        (∀ value, outcome = .ok value →
          reached = ⟨some descriptor, true, false⟩) := by
    apply leaves_perform
    · exact rfl
    · intro reply foreseen
      refine ⟨rfl, ?_, ?_⟩
      · intro fault raised
        rw [raised]
        exact ⟨foreseen fault raised, rfl⟩
      · intro value returned
        rw [returned]
        rfl
  have holding : ∀ call, (∀ reply, Party.note ⟨some descriptor, true, false⟩
        call reply = ⟨some descriptor, true, false⟩) →
      Party.permits ⟨some descriptor, true, false⟩ call →
      (∀ reply, Foreseen call reply → ∀ fault, reply = .error fault →
        isOsError fault = true) →
      Leaves ownership ⟨some descriptor, true, false⟩ store
        (request call : ProfileProgram Store _)
        fun outcome after reached => after = store ∧
          reached = ⟨some descriptor, true, false⟩ ∧
          ∀ fault, outcome = .error fault → isOsError fault = true := by
    intro call same permitted raises
    apply leaves_perform permitted
    intro reply foreseen
    exact ⟨rfl, same reply, raises reply foreseen⟩
  have truncating := holding (.ftruncate descriptor) (fun _ => rfl) rfl
    fun _ foreseen => foreseen
  have writing := holding (.writeMarker descriptor) (fun _ => rfl) rfl
    fun _ foreseen => foreseen
  apply locking.bind
  · intro _ after reached kept
    obtain ⟨rfl, _, owned⟩ := kept
    rw [owned _ rfl]
    apply truncating.bind
    · intro _ after reached kept
      obtain ⟨rfl, rfl, _⟩ := kept
      apply writing.bind
      · intro _ after reached kept
        obtain ⟨rfl, rfl, _⟩ := kept
        exact leaves_pure ⟨rfl, rfl, rfl⟩
      · intro fault after reached kept
        obtain ⟨rfl, rfl, raised⟩ := kept
        exact ⟨raised fault rfl, rfl, rfl, rfl⟩
    · intro fault after reached kept
      obtain ⟨rfl, rfl, raised⟩ := kept
      exact ⟨raised fault rfl, rfl, rfl, rfl⟩
  · intro fault after reached kept
    obtain ⟨rfl, raised, _⟩ := kept
    obtain ⟨osError, rfl⟩ := raised fault rfl
    exact ⟨osError, rfl, rfl, rfl⟩

section

variable {descriptor : Nat}

theorem close_leaves (opened : phase.descriptor = some descriptor)
    (idle : phase.browser = false) :
    Leaves ownership phase store
      (request (.close descriptor) : ProfileProgram Store Unit)
      fun outcome after reached => after = store ∧ reached = {} ∧
        ∀ fault, outcome = .error fault → isOsError fault = true := by
  apply leaves_perform
  · exact ⟨opened, idle⟩
  · intro reply foreseen
    refine ⟨rfl, ?_, foreseen⟩
    change ({ phase with descriptor := none, owns := false } : Party) = {}
    rw [idle]

theorem given_leaves (opened : phase.descriptor = some descriptor)
    (idle : phase.browser = false) (change : Store → Store) :
    Leaves ownership phase store
      (do
        let _ ← request (.close descriptor)
        write change : ProfileProgram Store Unit)
      fun outcome after reached => reached = {} ∧ Uninterrupted outcome ∧
        (after = store ∨ after = change store) := by
  apply (close_leaves opened idle).bind
  · intro _ after reached kept
    obtain ⟨rfl, ended, _⟩ := kept
    exact leaves_write ⟨ended, faults_ok _, .inr rfl⟩
  · intro fault after reached kept
    obtain ⟨rfl, ended, raised⟩ := kept
    exact ⟨ended, faults_error (exception_of_osError (raised fault rfl)),
      .inl rfl⟩

theorem unlock_leaves (opened : phase.descriptor = some descriptor)
    (idle : phase.browser = false) :
    Leaves ownership phase store
      (do
        let _ ← request (.unlock descriptor)
        return () : ProfileProgram Store Unit)
      fun outcome after reached => after = store ∧
        reached.descriptor = some descriptor ∧ reached.browser = false ∧
        ∀ fault, outcome = .error fault → isOsError fault = true := by
  apply Leaves.discard
  apply leaves_perform
  · exact ⟨opened, idle⟩
  · intro reply foreseen
    cases reply with
    | ok _ => exact ⟨rfl, opened, idle, faults_map foreseen⟩
    | error fault => exact ⟨rfl, opened, idle, faults_map foreseen⟩

end

theorem exclusively_leaves {before : ProfileProgram Store Unit}
    {refusal : CollectorFault} (mild : refusal.isException = true)
    (prepared : Leaves ownership {} store before fun outcome after reached =>
      after = store ∧ reached = {} ∧
        ∀ fault, outcome = .error fault → isOsError fault = true) :
    Leaves ownership {} store (exclusively before refusal) (Claimed store) := by
  have opened : Leaves ownership {} store
      (do
        before
        request .openLock : ProfileProgram Store Nat)
      fun outcome after reached => after = store ∧
        (∀ fault, outcome = .error fault →
          isOsError fault = true ∧ reached = {}) ∧
        (∀ descriptor, outcome = .ok descriptor →
          reached = ⟨some descriptor, false, false⟩) := by
    apply prepared.bind
    · intro _ after reached kept
      obtain ⟨rfl, rfl, _⟩ := kept
      apply leaves_perform
      · exact rfl
      · intro reply foreseen
        refine ⟨rfl, ?_, ?_⟩
        · intro fault raised
          rw [raised]
          exact ⟨foreseen fault raised, rfl⟩
        · intro descriptor returned
          rw [returned]
          rfl
    · intro fault after reached kept
      obtain ⟨rfl, rfl, raised⟩ := kept
      refine ⟨rfl, faults_error ⟨raised fault rfl, rfl⟩, ?_⟩
      intro descriptor clash
      cases clash
  apply opened.attempt
  intro outcome after reached kept
  obtain ⟨rfl, failed, found⟩ := kept
  cases outcome with
  | error fault =>
      obtain ⟨osError, rfl⟩ := failed fault rfl
      dsimp only
      rw [osError, if_pos rfl]
      exact leaves_raise ⟨rfl, rfl, mild⟩
  | ok descriptor =>
      obtain rfl := found descriptor rfl
      apply (claimed_leaves descriptor).rescue
      · intro same later reached kept
        obtain ⟨rfl, rfl, rfl⟩ := kept
        exact ⟨rfl, rfl⟩
      · intro fault later reached kept _
        obtain ⟨_, rfl, opened, idle⟩ := kept
        apply (close_leaves opened idle).bind
        · intro _ last ended kept
          obtain ⟨rfl, rfl, _⟩ := kept
          exact leaves_raise ⟨rfl, rfl, mild⟩
        · intro fault last ended kept
          obtain ⟨rfl, rfl, raised⟩ := kept
          exact ⟨rfl, rfl, exception_of_osError (raised fault rfl)⟩
      · intro fault later reached kept passed
        rw [kept.1] at passed
        cases passed

end

/-- How the lock of a session and what it has of the profile belong together. -/
structure Relates (custody : Custody) (lock : Option Nat) (phase : Party) :
    Prop where
  browser : phase.browser = custody.context
  within : custody.context = true → custody.lock = .held
  free : custody.lock = .free → lock = none
  given : custody.lock ≠ .held →
    phase.descriptor = none ∧ phase.owns = false
  held : custody.lock = .held →
    ∃ descriptor, lock = some descriptor ∧
      phase.descriptor = some descriptor ∧ phase.owns = true

section

variable {lock : Option Nat} {phase : Party} {custody : Custody}

theorem mkdir_leaves : Leaves ownership {} lock ProfileLock.mkdir
    fun outcome after reached => after = lock ∧ reached = {} ∧
      ∀ fault, outcome = .error fault → isOsError fault = true := by
  apply Leaves.discard
  apply leaves_perform
  · trivial
  · intro reply foreseen
    exact ⟨rfl, rfl, faults_map foreseen⟩

theorem acquire_leaves :
    Leaves ownership {} none ProfileLock.acquire fun outcome after reached =>
      Uninterrupted outcome ∧
        ((∃ descriptor, outcome = .ok () ∧ after = some descriptor ∧
            reached = ⟨some descriptor, true, false⟩) ∨
          (∃ fault, outcome = .error fault) ∧ after = none ∧ reached = {}) := by
  have claims : Leaves ownership {} none
      (exclusively ProfileLock.mkdir (.coded "PROFILE_IN_USE"))
      (Claimed none) := exclusively_leaves rfl mkdir_leaves
  apply claims.bind
  · intro descriptor after reached kept
    obtain ⟨rfl, rfl⟩ := kept
    apply leaves_write
    exact ⟨faults_ok _, .inl ⟨descriptor, rfl, rfl, rfl⟩⟩
  · intro fault after reached kept
    obtain ⟨rfl, rfl, raised⟩ := kept
    exact ⟨faults_error raised, .inr ⟨⟨fault, rfl⟩, rfl, rfl⟩⟩

theorem release_leaves {descriptor : Nat}
    (opened : phase.descriptor = some descriptor)
    (idle : phase.browser = false) :
    Leaves ownership phase (some descriptor) ProfileLock.release
      fun outcome _ reached => reached = {} ∧ Uninterrupted outcome := by
  have mild : Leaves ownership phase (some descriptor)
      ((do
        let _ ← request (.unlock descriptor)
        return () : ProfileLock.LockProgram Unit).rescue isOsError
          fun _ => pure ())
      fun outcome _ reached => outcome = .ok () ∧
        reached.descriptor = some descriptor ∧ reached.browser = false := by
    apply Leaves.swallow
    apply (unlock_leaves opened idle).mono
    intro outcome after reached kept
    exact ⟨kept.2.2.2, kept.2.1, kept.2.2.1⟩
  apply leaves_reading
  apply mild.ensure
  intro outcome after reached kept
  obtain ⟨rfl, opened, idle⟩ := kept
  apply (given_leaves opened idle fun _ => none).mono
  intro cleaned last ended kept
  cases cleaned with
  | ok _ => exact ⟨kept.1, faults_ok _⟩
  | error fault => exact ⟨kept.1, kept.2.1⟩

theorem page_leaves {call : PageCall}
    (permitted : phase.permits (.page call))
    (related : ∀ reply, Foreseen (.page call) reply →
      Relates (custody.note call reply) lock (phase.note (.page call) reply)) :
    Leaves ownership phase lock
      (request (.page call) : ProfileProgram (Option Nat) (PageReply call))
      fun reply after reached => Uninterrupted reply ∧
        Relates (custody.note call reply) after reached := by
  apply leaves_perform permitted
  intro reply foreseen
  exact ⟨foreseen.1, related reply foreseen⟩

namespace Relates

theorem owns (related : Relates custody lock phase)
    (held : custody.lock = .held) : phase.owns = true := by
  obtain ⟨_, _, _, owned⟩ := related.held held
  exact owned

theorem idle (related : Relates custody lock phase)
    (other : custody.lock ≠ .held) : phase = {} := by
  obtain ⟨absent, unowned⟩ := related.given other
  have none : phase.browser = false := by
    rw [related.browser, Bool.eq_false_iff]
    intro running
    exact other (related.within running)
  obtain ⟨descriptor, owns, browser⟩ := phase
  cases absent
  cases unowned
  cases none
  rfl

theorem released (lock : Option Nat) (playwright : Bool) :
    Relates ⟨.released, playwright, false⟩ lock {} where
  browser := rfl
  within := fun clash => by cases clash
  free := fun clash => by cases clash
  given := fun _ => ⟨rfl, rfl⟩
  held := fun clash => by cases clash

theorem launched (related : Relates custody lock phase) (context : Bool)
    (held : custody.lock = .held) :
    Relates { custody with context } lock { phase with browser := context } where
  browser := rfl
  within := fun _ => held
  free := related.free
  given := related.given
  held := related.held

theorem started (related : Relates custody lock phase) (playwright : Bool) :
    Relates { custody with playwright } lock phase where
  browser := related.browser
  within := related.within
  free := related.free
  given := related.given
  held := related.held

theorem acquired (related : Relates custody none {}) (descriptor : Nat) :
    Relates { custody with lock := .held } (some descriptor)
      ⟨some descriptor, true, false⟩ where
  browser := related.browser
  within := fun _ => rfl
  free := fun clash => by cases clash
  given := fun clash => absurd rfl clash
  held := fun _ => ⟨descriptor, rfl, rfl, rfl⟩

end Relates

theorem acquireLock_leaves (related : Relates custody lock phase)
    (free : custody.lock = .free) :
    Leaves ownership phase lock (ProfileLock.handling .acquireLock)
      fun reply after reached => Uninterrupted reply ∧
        Relates (custody.note .acquireLock reply) after reached := by
  have other : custody.lock ≠ .held := by
    rw [free]
    decide
  obtain rfl := related.idle other
  obtain rfl := related.free free
  apply acquire_leaves.mono
  intro outcome after reached kept
  obtain ⟨uninterrupted, found⟩ := kept
  refine ⟨uninterrupted, ?_⟩
  rcases found with ⟨descriptor, rfl, rfl, rfl⟩ | ⟨⟨fault, rfl⟩, rfl, rfl⟩
  · exact related.acquired descriptor
  · exact related

theorem releaseLock_leaves (related : Relates custody lock phase)
    (permitted : custody.permits .releaseLock) :
    Leaves ownership phase lock (ProfileLock.handling .releaseLock)
      fun reply after reached => Uninterrupted reply ∧
        Relates (custody.note .releaseLock reply) after reached := by
  obtain ⟨unreleased, closed, _⟩ := permitted
  have noted : ∀ reply, custody.note .releaseLock reply =
      if custody.lock = .held then { custody with lock := .released }
      else custody := fun _ => rfl
  by_cases held : custody.lock = .held
  · obtain ⟨descriptor, rfl, opened, _⟩ := related.held held
    have idle : phase.browser = false := related.browser.trans closed
    apply (release_leaves opened idle).mono
    intro outcome after reached kept
    obtain ⟨rfl, uninterrupted⟩ := kept
    refine ⟨uninterrupted, ?_⟩
    rw [noted, if_pos held]
    obtain ⟨_, playwright, _⟩ := custody
    cases closed
    exact Relates.released after playwright
  · have free : custody.lock = .free := by
      cases state : custody.lock with
      | free => rfl
      | held => exact absurd state held
      | released => exact absurd state unreleased
    obtain rfl := related.free free
    apply leaves_reading
    apply leaves_pure
    constructor
    · intro fault clash
      cases clash
    · rw [noted, if_neg held]
      exact related

theorem handling_leaves (related : Relates custody lock phase)
    (call : PageCall) (permitted : custody.permits call) :
    Leaves ownership phase lock (ProfileLock.handling call)
      fun reply after reached => Uninterrupted reply ∧
        Relates (custody.note call reply) after reached := by
  have prepared : drives call = false → custody.lock = .held →
      custody.context = false → phase.permits (.page call) := by
    intro still held closed
    refine ⟨?_, ?_, fun _ => related.owns held⟩
    · intro clash
      rw [still] at clash
      cases clash
    · intro _
      exact ⟨related.owns held, related.browser.trans closed⟩
  cases call with
  | acquireLock => exact acquireLock_leaves related permitted
  | releaseLock => exact releaseLock_leaves related permitted
  | clearTransientChromiumLocks =>
      apply page_leaves
      · exact prepared rfl permitted.1 permitted.2
      · intro reply _
        exact related
  | startPlaywright =>
      apply page_leaves
      · exact prepared rfl permitted.1 permitted.2
      · intro reply _
        cases reply with
        | ok _ => exact related.started true
        | error fault => exact related
  | launchPersistentContext =>
      apply page_leaves
      · exact prepared rfl permitted.1 permitted.2
      · intro reply _
        cases reply with
        | ok _ => exact related.launched true permitted.1
        | error fault => exact related
  | closeContext =>
      apply page_leaves
      · exact ⟨fun clash => (by cases clash), fun clash => (by cases clash),
          fun _ => related.owns permitted⟩
      · intro reply foreseen
        obtain ⟨value, rfl⟩ := foreseen.2 rfl
        exact related.launched false permitted
  | stopPlaywright =>
      apply page_leaves
      · exact ⟨fun clash => (by cases clash), fun clash => (by cases clash),
          fun clash => (by cases clash)⟩
      · intro reply _
        exact related.started false
  | _ =>
      apply page_leaves
      · refine ⟨?_, fun clash => (by cases clash), fun clash => (by cases clash)⟩
        intro driven
        obtain ⟨held, opened⟩ := permitted driven
        exact ⟨related.owns held, related.browser.trans opened⟩
      · intro reply _
        exact related

/-- A session makes each call as the owner it has to be, and ends as it
began. -/
theorem collect_follows (plan : SessionPlan) :
    (ProfileLock.collect plan).Follows ownership {} fun _ phase =>
      phase = {} := by
  have unlocked : Relates {} none {} := {
    browser := rfl
    within := fun clash => by cases clash
    free := fun _ => rfl
    given := fun _ => ⟨rfl, rfl⟩
    held := fun clash => by cases clash }
  have implements : ∀ (custody : Custody) lock phase call,
      Relates custody lock phase →
      PlaywrightReelsFeed.custody.permits custody call →
      Leaves ownership phase lock (ProfileLock.handling call)
        fun reply after reached =>
          PlaywrightReelsFeed.custody.assumes custody call reply ∧
            Relates (PlaywrightReelsFeed.custody.advance custody call reply)
              after reached := fun _ _ _ call related permitted =>
    handling_leaves related call permitted
  have served := Leaves.serve implements
    (PlaywrightReelsFeed.Custody.session_follows plan) unlocked
  apply Program.Follows.attempt served
  intro outcome reached kept
  obtain ⟨result, after, rfl, last, ended, related⟩ := kept
  exact related.idle ended.lock

end

end Ownership

end OfflineReels.Profile
