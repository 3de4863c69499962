import Mathlib.Data.List.Basic

namespace OfflineReels.Dashboard

/-! The hook that refreshes the management session of a page and polls its
status.  The callbacks of the page and the continuations of the requests take
turns. -/

inductive ManagementUiState
  | checking
  | unpaired
  | paired
  | temporaryError
  deriving DecidableEq, Repr

inductive ManagementErrorCode
  | unpaired
  | pairingInvalid
  | pairingRateLimited
  | reauthRequired
  | conflict
  | temporary
  | invalidResponse
  deriving DecidableEq, Repr

structure Shown (ManagementStatus : Type) where
  state : ManagementUiState
  status : Option ManagementStatus
  error : Option ManagementErrorCode
  deriving DecidableEq, Repr

inductive WorkStage
  | refreshManagementSession
  | getInstagramStatus
  | settled
  deriving DecidableEq, Repr

/-- The work of one refresh, with its controller. -/
structure Work where
  generation : Nat
  aborted : Bool
  stage : WorkStage
  deriving DecidableEq, Repr

/-- The references of the hook name a work by its place among all the works
begun: the one its controller, the other its promise. -/
structure Control (ManagementStatus : Type) where
  isOnline : Bool
  visible : Bool
  generation : Nat
  request : Option Nat
  refreshing : Option Nat
  works : List Work
  shown : Shown ManagementStatus
  deriving DecidableEq, Repr

inductive Answer (ManagementStatus : Type)
  | session (paired : Bool)
  | status (next : ManagementStatus)
  | failed (code : ManagementErrorCode)
  deriving DecidableEq, Repr

namespace Control

variable {ManagementStatus : Type}

def initial (isOnline visible : Bool) : Control ManagementStatus where
  isOnline := isOnline
  visible := visible
  generation := 0
  request := none
  refreshing := none
  works := []
  shown := ⟨.checking, none, none⟩

def aborted (control : Control ManagementStatus) (number : Nat) : Bool :=
  control.works[number]?.any (·.aborted)

/-- `requestRef.current?.abort()` -/
def abort (control : Control ManagementStatus) : Control ManagementStatus :=
  match control.request with
  | none => control
  | some number =>
      { control with works :=
          control.works.modify number fun work => { work with aborted := true } }

def abortRequest (control : Control ManagementStatus) :
    Control ManagementStatus :=
  { control.abort with
    generation := control.generation + 1
    request := none }

def start (control : Control ManagementStatus) (hasCsrf : Bool) :
    Control ManagementStatus :=
  { control.abort with
    generation := control.generation + 1
    request := some control.works.length
    refreshing := some control.works.length
    works := control.abort.works ++ [{
      generation := control.generation + 1
      aborted := false
      stage := if hasCsrf then .getInstagramStatus
        else .refreshManagementSession }] }

/-- The promise that a call shares, if its controller is not aborted. -/
def joinable (control : Control ManagementStatus) : Option Nat :=
  if control.request.any control.aborted then none else control.refreshing

inductive Refreshed
  | skipped
  | joined (number : Nat)
  | started
  deriving DecidableEq, Repr

/-- A callback knows the network status of the render that it was made in. -/
def refresh (control : Control ManagementStatus) (isOnline hasCsrf : Bool) :
    Control ManagementStatus × Refreshed :=
  if !isOnline || !control.visible then (control, .skipped)
  else
    match control.joinable with
    | some number => (control, .joined number)
    | none => (control.start hasCsrf, .started)

/-- Only the newest work shows its result. -/
def publish (control : Control ManagementStatus) (work : Work)
    (update : Shown ManagementStatus → Shown ManagementStatus) :
    Control ManagementStatus :=
  if work.generation = control.generation ∧ ¬ work.aborted then
    { control with shown := update control.shown }
  else control

def settle (control : Control ManagementStatus) (number : Nat) :
    Control ManagementStatus :=
  let works := control.works.modify number fun work =>
    { work with stage := .settled }
  if control.request = some number then
    { control with
      works
      request := none
      refreshing := none }
  else { control with works }

def unpairedShown (_ : Shown ManagementStatus) : Shown ManagementStatus :=
  ⟨.unpaired, none, none⟩

def pairedShown (next : ManagementStatus) (_ : Shown ManagementStatus) :
    Shown ManagementStatus :=
  ⟨.paired, some next, none⟩

def failedShown (code : ManagementErrorCode)
    (shown : Shown ManagementStatus) : Shown ManagementStatus :=
  if code = .unpaired then ⟨.unpaired, none, some code⟩
  else ⟨.temporaryError, shown.status, some code⟩

/-- The work goes on with the answer to the request it waits for. -/
def resume (control : Control ManagementStatus) (number : Nat)
    (answer : Answer ManagementStatus) : Option (Control ManagementStatus) :=
  match control.works[number]? with
  | none => none
  | some work =>
      match work.stage, answer with
      | .refreshManagementSession, .session true =>
          some { control with works := control.works.modify number fun work =>
            { work with stage := .getInstagramStatus } }
      | .refreshManagementSession, .session false =>
          some ((control.publish work unpairedShown).settle number)
      | .getInstagramStatus, .status next =>
          some ((control.publish work (pairedShown next)).settle number)
      | .refreshManagementSession, .failed code
      | .getInstagramStatus, .failed code =>
          some ((control.publish work (failedShown code)).settle number)
      | _, _ => none

end Control

inductive Action (ManagementStatus : Type)
  | refresh (isOnline hasCsrf : Bool)
  | abortRequest
  | setVisible (visible : Bool)
  | setOnline (isOnline : Bool)
  /-- What the mutations of the page show themselves. -/
  | setShown (shown : Shown ManagementStatus)
  | resume (number : Nat) (answer : Answer ManagementStatus)
  deriving DecidableEq, Repr

section

variable {ManagementStatus : Type}

def next (control : Control ManagementStatus) :
    Action ManagementStatus → Option (Control ManagementStatus)
  | .refresh isOnline hasCsrf => some (control.refresh isOnline hasCsrf).1
  | .abortRequest => some control.abortRequest
  | .setVisible visible => some { control with visible }
  | .setOnline isOnline => some { control with isOnline }
  | .setShown shown => some { control with shown }
  | .resume number answer => control.resume number answer

def onVisibility (visible isOnline hasCsrf : Bool) :
    List (Action ManagementStatus) :=
  .setVisible visible ::
    if !visible then [.abortRequest]
    else if isOnline then [.refresh isOnline hasCsrf] else []

/-- The effects of the last render are cleaned up before the next ones run. -/
def onNetwork (isOnline hasCsrf : Bool) : List (Action ManagementStatus) :=
  [.setOnline isOnline, .abortRequest,
    if isOnline then .refresh isOnline hasCsrf else .abortRequest]

/-- The exchange of a pairing code has succeeded. -/
def onPaired (isOnline hasCsrf : Bool) : List (Action ManagementStatus) :=
  [.abortRequest, .refresh isOnline hasCsrf]

/-- The device has been revoked. -/
def onDisconnected : List (Action ManagementStatus) :=
  [.abortRequest, .setShown ⟨.unpaired, none, none⟩]

end

end OfflineReels.Dashboard
