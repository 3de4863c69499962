import OfflineReels.Gateway.HandoffState
import OfflineReels.Management.LoginLifecycle

namespace OfflineReels.Gateway

open OfflineReels.Foundation
open OfflineReels.Instagram
open OfflineReels.Management

/-! The gateway between a viewer and the remote browser. -/

/-- What a viewer holds. -/
inductive Grant
  | login (sessionId : UUID)
  | handoff (sessionId : UUID)
  deriving DecidableEq, Repr

structure LoginGatewaySettings where
  gatewayOrigin : String
  sessionSecret : String
  deriving DecidableEq, Repr

def trimSlashes (text : String) : List Char :=
  (text.toList.reverse.dropWhile (· = '/')).reverse

def lower (text : List Char) : List Char :=
  text.map Char.toLower

def LoginGatewaySettings.origin (settings : LoginGatewaySettings) :
    List Char :=
  trimSlashes settings.gatewayOrigin

def removePrefix (text start : List Char) : List Char :=
  (text.dropPrefix? start).getD text

def LoginGatewaySettings.host (settings : LoginGatewaySettings) : List Char :=
  removePrefix (removePrefix settings.origin "https://".toList)
    "http://".toList

/-- A cookie that the gateway signed, or any other text. The signature is
represented by what it was computed from. -/
inductive Cookie
  | signed (secret : String) (sessionId : UUID)
  | other (text : String)
  deriving DecidableEq, Repr

def signSession (sessionId : UUID) (settings : LoginGatewaySettings) : Cookie :=
  .signed settings.sessionSecret sessionId

/-- The headers of a request that are looked at. -/
structure WebSocketRequest where
  host : String
  origin : String
  loginGatewaySession : Option Cookie
  handoffGatewaySession : Option Cookie
  deriving DecidableEq, Repr

def validCookie (value : Option Cookie) (sessionId : UUID)
    (settings : LoginGatewaySettings) : Bool :=
  value = some (signSession sessionId settings)

def websocketAllowed (request : WebSocketRequest) (cookie : Option Cookie)
    (sessionId : UUID) (settings : LoginGatewaySettings) : Bool :=
  lower request.host.toList = lower settings.host &&
    trimSlashes request.origin = settings.origin &&
    validCookie cookie sessionId settings

inductive ClientMessage
  | disconnect
  | bytes (data : Bytes)
  | text (data : String)
  /-- A message with neither. -/
  | empty
  deriving DecidableEq, Repr

inductive Frame
  | bytes (data : Bytes)
  | text (data : String)
  deriving DecidableEq, Repr

inductive Side
  | client
  | upstream
  deriving DecidableEq, Repr

/-- A loop of a relay waits for a message or for its delivery. -/
inductive TaskState
  | receiving
  | sending
  | done
  deriving DecidableEq, Repr

inductive Stage
  | accepting
  | connecting
  /-- The loops that receive from the client and from the remote browser. -/
  | relaying (client upstream : TaskState)
  | closed
  deriving DecidableEq, Repr

structure Relay where
  grant : Grant
  stage : Stage
  deriving DecidableEq, Repr

def Relay.isOpen (relay : Relay) : Bool :=
  relay.stage ≠ .closed

def Relay.task (relay : Relay) (side : Side) : Option TaskState :=
  match relay.stage, side with
  | .relaying client _, .client => some client
  | .relaying _ upstream, .upstream => some upstream
  | _, _ => none

def Relay.setTask (relay : Relay) (side : Side) (task : TaskState) : Relay :=
  match relay.stage, side with
  | .relaying _ upstream, .client =>
      { relay with stage := .relaying task upstream }
  | .relaying client _, .upstream =>
      { relay with stage := .relaying client task }
  | _, _ => relay

structure Forwarded where
  relay : Nat
  source : Side
  frame : Frame
  time : Time
  deriving DecidableEq, Repr

/-- Relays are numbered in the order in which they were let in. -/
structure LoginGateway where
  work : Workspace
  handoffs : HandoffStore
  relays : List Relay
  forwarded : List Forwarded

namespace LoginGateway

def setRelay (gateway : LoginGateway) (number : Nat) (relay : Relay) :
    LoginGateway :=
  { gateway with relays := gateway.relays.set number relay }

def addRelay (gateway : LoginGateway) (grant : Grant) : LoginGateway :=
  { gateway with relays := gateway.relays ++ [⟨grant, .accepting⟩] }

def websockify (gateway : LoginGateway) (settings : LoginGatewaySettings)
    (now : Time) (sessionId : UUID) (request : WebSocketRequest) : LoginGateway :=
  if websocketAllowed request request.loginGatewaySession sessionId settings
  then
    match LoginSessions.status gateway.work now sessionId with
    | .ok (work, status) =>
        let gateway := { gateway with work }
        if status = some .active then gateway.addRelay (.login sessionId)
        else gateway
    | .error _ => gateway
  else gateway

def handoffWebsockify (gateway : LoginGateway) (settings : LoginGatewaySettings)
    (now : Time) (sessionId : UUID) (request : WebSocketRequest) : LoginGateway :=
  if websocketAllowed request request.handoffGatewaySession sessionId
      settings &&
    validCookie request.handoffGatewaySession sessionId settings then
    let (handoffs, state) := gateway.handoffs.state now sessionId
    let gateway := { gateway with handoffs }
    if state = some .active then gateway.addRelay (.handoff sessionId)
    else gateway
  else gateway

/-- The loop that received a message sends it on and waits. -/
def forward (gateway : LoginGateway) (number : Nat) (relay : Relay) (source : Side)
    (frame : Frame) (now : Time) : LoginGateway :=
  { gateway.setRelay number (relay.setTask source .sending) with
    forwarded := gateway.forwarded ++ [⟨number, source, frame, now⟩] }

def receiveClient (gateway : LoginGateway) (number : Nat) (relay : Relay)
    (now : Time) : ClientMessage → LoginGateway
  | .disconnect => gateway.setRelay number (relay.setTask .client .done)
  | .bytes data => gateway.forward number relay .client (.bytes data) now
  | .text data => gateway.forward number relay .client (.text data) now
  | .empty => gateway

/-- The stream of the remote browser ends without a frame. -/
def receiveUpstream (gateway : LoginGateway) (number : Nat) (relay : Relay)
    (now : Time) : Option Frame → LoginGateway
  | none => gateway.setRelay number (relay.setTask .upstream .done)
  | some frame => gateway.forward number relay .upstream frame now

def onRelay (gateway : LoginGateway) (number : Nat) (ready : Relay → Bool)
    (change : Relay → LoginGateway) : Option LoginGateway :=
  match gateway.relays[number]? with
  | some relay => if ready relay then some (change relay) else none
  | none => none

end LoginGateway

inductive HandoffOperation
  | create (now : Time) (sessionId : UUID) (token : String) (ttl : Time)
  | activate (now : Time) (sessionId : UUID) (token : String)
  | state (now : Time) (sessionId : UUID)
  | resolve (now : Time) (sessionId : UUID) (confirmed : Bool)
  deriving DecidableEq, Repr

/-- An operation that raises leaves the store as it is. -/
def HandoffOperation.perform (store : HandoffStore) :
    HandoffOperation → HandoffStore
  | .create now sessionId token ttl =>
      (store.create now sessionId token ttl).getD store
  | .activate now sessionId token =>
      (HandoffStore.activate store now sessionId token).1
  | .state now sessionId => (HandoffStore.state store now sessionId).1
  | .resolve now sessionId confirmed =>
      (HandoffStore.resolve store now sessionId confirmed).1

/-- The login sessions and the handoffs are moved by any process. -/
inductive Event
  | login (operation : LoginLifecycle.Operation)
  | handoff (operation : HandoffOperation)
  | connect (now : Time) (grant : Grant) (request : WebSocketRequest)
  | accepted (number : Nat)
  | connected (number : Nat)
  | receiveClient (number : Nat) (now : Time) (message : ClientMessage)
  | receiveUpstream (number : Nat) (now : Time) (frame : Option Frame)
  | sent (number : Nat) (source : Side) (delivered : Bool)
  /-- One of the loops is done, so the relay ends. -/
  | ended (number : Nat)
  /-- The connection cannot be made, or the process ends. -/
  | lost (number : Nat)
  deriving DecidableEq

def next (settings : LoginGatewaySettings) (gateway : LoginGateway) :
    Event → Option LoginGateway
  | .login operation =>
      (LoginLifecycle.next gateway.work operation).map fun work =>
        { gateway with work }
  | .handoff operation =>
      some { gateway with handoffs := operation.perform gateway.handoffs }
  | .connect now (.login sessionId) request =>
      some (gateway.websockify settings now sessionId request)
  | .connect now (.handoff sessionId) request =>
      some (gateway.handoffWebsockify settings now sessionId request)
  | .accepted number =>
      gateway.onRelay number (·.stage = .accepting) fun relay =>
        gateway.setRelay number { relay with stage := .connecting }
  | .connected number =>
      gateway.onRelay number (·.stage = .connecting) fun relay =>
        gateway.setRelay number
          { relay with stage := .relaying .receiving .receiving }
  | .receiveClient number now message =>
      gateway.onRelay number (·.task .client = some .receiving) fun relay =>
        gateway.receiveClient number relay now message
  | .receiveUpstream number now frame =>
      gateway.onRelay number (·.task .upstream = some .receiving) fun relay =>
        gateway.receiveUpstream number relay now frame
  | .sent number source delivered =>
      gateway.onRelay number (·.task source = some .sending) fun relay =>
        gateway.setRelay number
          (relay.setTask source (if delivered then .receiving else .done))
  | .ended number =>
      gateway.onRelay number (fun relay => relay.task .client = some .done ||
        relay.task .upstream = some .done) fun relay =>
          gateway.setRelay number { relay with stage := .closed }
  | .lost number =>
      gateway.onRelay number (fun _ => true) fun relay =>
        gateway.setRelay number { relay with stage := .closed }

end OfflineReels.Gateway
