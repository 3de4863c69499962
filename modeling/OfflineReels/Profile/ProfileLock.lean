import OfflineReels.Collector.FeedSessions

namespace OfflineReels.Profile

open OfflineReels.Foundation
open OfflineReels.Foundation.Stateful
open OfflineReels.Collector
open OfflineReels.Collector.PlaywrightReelsFeed (Uninterrupted)

/-! The persistent profile of an account.  The login browser and the Collector
share its directory, each under an exclusive lock on the same file. -/

inductive BrowserProcess
  | xvfb
  | openbox
  | chromium
  | x11vnc
  | websockify
  deriving DecidableEq, Repr

/-- What the login browser asks of its host, apart from the lock.  `poll`
answers whether the process still runs, `wait` whether it ended in time, and the
unlinking of a file whether it was there. -/
inductive RuntimeCall
  | requireRuntimeBoundary
  | mkdir
  | chmod
  | requireProfilePermissions
  | unlinkTransient (name : String)
  | popen (process : BrowserProcess)
  | waitForDisplay
  | closeBrowser
  | poll (process : BrowserProcess)
  | terminate (process : BrowserProcess)
  | wait (process : BrowserProcess)
  | kill (process : BrowserProcess)
  | unlinkDisplay (path : String)
  | bindServer
  | navigate (url : String)
  | readiness
  deriving DecidableEq, Repr

abbrev RuntimeReply : RuntimeCall → Type
  | .unlinkTransient _ | .poll _ | .wait _ | .unlinkDisplay _ => Bool
  | .readiness => String
  | _ => Unit

inductive ProfileCall
  | mkdir
  | openLock
  | flock (descriptor : Nat)
  | ftruncate (descriptor : Nat)
  | writeMarker (descriptor : Nat)
  | unlock (descriptor : Nat)
  | close (descriptor : Nat)
  | page (request : PageCall)
  | runtime (request : RuntimeCall)
  | exit
  deriving DecidableEq

abbrev ProfileReply : ProfileCall → Type
  | .openLock => Nat
  | .page request => PageReply request
  | .runtime request => RuntimeReply request
  | _ => Unit

abbrev ProfileProgram (Store α : Type) : Type :=
  Stateful ProfileCall ProfileReply CollectorFault Store α

section

variable {Store : Type}

def request (call : ProfileCall) : ProfileProgram Store (ProfileReply call) :=
  perform call

/-- The system calls raise no other exception. -/
def isOsError (fault : CollectorFault) : Bool :=
  fault = .otherException

def claimed (descriptor : Nat) : ProfileProgram Store Nat := do
  let _ ← request (.flock descriptor)
  let _ ← request (.ftruncate descriptor)
  let _ ← request (.writeMarker descriptor)
  return descriptor

/-- Open the file and lock it without waiting.  What was opened is closed again
when the lock is refused. -/
def exclusively (before : ProfileProgram Store Unit)
    (refusal : CollectorFault) : ProfileProgram Store Nat :=
  (do
    before
    request .openLock : ProfileProgram Store Nat).attempt fun
  | .error fault => raise (if isOsError fault then refusal else fault)
  | .ok descriptor =>
      (claimed descriptor).rescue isOsError fun _ => do
        let _ ← request (.close descriptor)
        raise refusal

end

namespace ProfileLock

/-- The descriptor is there as long as the lock is `_held`. -/
abbrev LockProgram (α : Type) : Type := ProfileProgram (Option Nat) α

def mkdir : LockProgram Unit := do
  let _ ← request .mkdir
  return ()

/-- `_acquire_posix` -/
def acquire : LockProgram Unit := do
  let descriptor ← exclusively mkdir (.coded "PROFILE_IN_USE")
  write fun _ => some descriptor

def given (descriptor : Nat) : LockProgram Unit := do
  let _ ← request (.close descriptor)
  write fun _ => none

def release : LockProgram Unit := do
  match ← read with
  | none => pure ()
  | some descriptor =>
      ((do
        let _ ← request (.unlock descriptor)
        return () : LockProgram Unit).rescue isOsError fun _ => pure ()).ensure
          (given descriptor)

/-- The lock of a session of the Collector; the rest is for its browser. -/
def handling : (call : PageCall) → LockProgram (PageReply call)
  | .acquireLock => acquire
  | .releaseLock => release
  | call => request (.page call)

def collect (plan : PlaywrightReelsFeed.SessionPlan) :
    Program ProfileCall ProfileReply CollectorFault Unit :=
  (serve handling (PlaywrightReelsFeed.session plan) none).attempt fun _ =>
    .done (.ok ())

end ProfileLock

structure BrowserRuntime where
  stopping : Bool := false
  processes : List BrowserProcess := []
  profileLockDescriptor : Option Nat := none
  deriving DecidableEq, Repr

namespace BrowserRuntime

abbrev RuntimeProgram (α : Type) : Type := ProfileProgram BrowserRuntime α

def ask (call : RuntimeCall) : RuntimeProgram (RuntimeReply call) :=
  request (.runtime call)

def acquireProfileLock : RuntimeProgram Unit := do
  let descriptor ← exclusively (pure ()) .otherException
  write fun runtime => { runtime with
    profileLockDescriptor := some descriptor }

def given (descriptor : Nat) : RuntimeProgram Unit := do
  let _ ← request (.close descriptor)
  write fun runtime => { runtime with profileLockDescriptor := none }

def releaseProfileLock : RuntimeProgram Unit := do
  match (← read).profileLockDescriptor with
  | none => pure ()
  | some descriptor =>
      (do
        let _ ← request (.unlock descriptor)
        return () : RuntimeProgram Unit).ensure (given descriptor)

def closeChromiumGracefully : RuntimeProgram Unit :=
  (do
    let _ ← ask .closeBrowser
    return () : RuntimeProgram Unit).rescue (·.isException) fun _ => pure ()

/-- `terminate` where the process still runs. -/
def terminated : List BrowserProcess → RuntimeProgram Unit
  | [] => pure ()
  | process :: later => do
      if ← ask (.poll process) then
        let _ ← ask (.terminate process)
        terminated later
      else terminated later

/-- `kill` where the process does not end in time. -/
def awaited : List BrowserProcess → RuntimeProgram Unit
  | [] => pure ()
  | process :: later => do
      if ← ask (.wait process) then awaited later
      else
        let _ ← ask (.kill process)
        awaited later

def ended : RuntimeProgram Unit := do
  closeChromiumGracefully
  terminated (← read).processes.reverse
  awaited (← read).processes.reverse

def tidied : RuntimeProgram Unit := do
  let _ ← ask (.unlinkDisplay "/tmp/.X99-lock")
  let _ ← ask (.unlinkDisplay "/tmp/.X11-unix/X99")
  releaseProfileLock

def stop : RuntimeProgram Unit := do
  if (← read).stopping then pure ()
  else
    write fun runtime => { runtime with stopping := true }
    ended.ensure tidied

/-- The transient locks that Chromium leaves behind. -/
def cleared : List String → RuntimeProgram Unit
  | [] => pure ()
  | name :: later =>
      (ask (.unlinkTransient name)).attempt fun
        | .ok _ => cleared later
        | .error fault =>
            if isOsError fault then do
              releaseProfileLock
              raise fault
            else raise fault

def popen (process : BrowserProcess) : RuntimeProgram Unit := do
  let _ ← ask (.popen process)
  write fun runtime => { runtime with
    processes := runtime.processes ++ [process] }

def spawned : RuntimeProgram Unit := do
  popen .xvfb
  let _ ← ask .waitForDisplay
  popen .openbox
  popen .chromium
  popen .x11vnc
  popen .websockify

def start : RuntimeProgram Unit := do
  let _ ← ask .requireRuntimeBoundary
  let _ ← ask .mkdir
  let _ ← ask .chmod
  let _ ← ask .requireProfilePermissions
  acquireProfileLock
  cleared ["SingletonLock", "SingletonSocket", "SingletonCookie"]
  spawned.rescue (·.isException) fun fault => do
    stop
    raise fault

inductive ControlRequest
  | readiness
  | openLogin
  | verifyProfile
  deriving DecidableEq, Repr

/-- An answer of the control server; what is raised on the way is answered as
well. -/
def answered (call : RuntimeCall) : RuntimeProgram Unit :=
  (do
    let _ ← ask call
    return () : RuntimeProgram Unit).rescue (·.isException) fun _ => pure ()

/-- A request is handled in a thread of its own. -/
def handled : ControlRequest → RuntimeProgram Unit
  | .readiness => answered .readiness
  | .openLogin => answered (.navigate "https://www.instagram.com/accounts/login/")
  | .verifyProfile => answered (.navigate "https://www.instagram.com/reels/")

inductive StopRequest
  | shutdown
  | signal
  deriving DecidableEq, Repr

/-- What asks the server to end, one after another, up to a failure of its own.
The thread of a shutdown whose stop raises goes without shutting the server
down; a signal always leaves.  A second one while a stop goes on is not among
them: it ends the process there, which for the lock is a crash. -/
def served : List StopRequest → RuntimeProgram Unit
  | [] => raise .otherException
  | .shutdown :: later =>
      stop.attempt fun
        | .ok _ => pure ()
        | .error _ => served later
  | .signal :: _ => do
      stop
      raise .baseException

def main (requests : List StopRequest) : RuntimeProgram Unit := do
  start
  let _ ← ask .bindServer
  (served requests).ensure stop

/-- The process of the login browser.  What it has open is closed with it. -/
def process (requests : List StopRequest) :
    Program ProfileCall ProfileReply CollectorFault Unit :=
  (main requests {}).attempt fun _ =>
    .call .exit fun _ => .done (.ok ())

end BrowserRuntime

end OfflineReels.Profile
