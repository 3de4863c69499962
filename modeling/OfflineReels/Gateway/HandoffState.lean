import OfflineReels.Foundation.Table
import OfflineReels.Instagram.Contracts

namespace OfflineReels.Gateway

open OfflineReels.Foundation
open OfflineReels.Instagram

/-! The store of the operator handoffs, one file each. -/

inductive HandoffState
  | pending
  | active
  | confirmed
  | cancelled
  | expired
  | disconnected
  deriving DecidableEq, Repr

def HandoffState.isTerminal : HandoffState → Bool
  | .confirmed | .cancelled | .expired | .disconnected => true
  | .pending | .active => false

/-- The lifetime is absent where it cannot be read. -/
structure Handoff where
  id : UUID
  state : HandoffState
  tokenHash : Sha256 String
  expiresAt : Option Time
  deriving DecidableEq, Repr

abbrev HandoffStore : Type := Table Handoff UUID Handoff.id

/-- 10 minutes -/
def HANDOFF_TTL : Time := 10 * 60 * 1000000

namespace HandoffStore

def expire (now : Time) (handoff : Handoff) : Handoff :=
  if handoff.state.isTerminal then handoff
  else if handoff.expiresAt.any (now < ·) then handoff
  else { handoff with state := .expired }

/-- An unsuitable lifetime is refused; the identifier is a fresh one. -/
def create (store : HandoffStore) (now : Time) (sessionId : UUID)
    (token : String) (ttl : Time) : Option HandoffStore :=
  if ttl = 0 ∨ ttl > HANDOFF_TTL then none
  else store.insert? ⟨sessionId, .pending, ⟨token⟩, some (now + ttl)⟩

/-- `none` stands for a handoff that is unavailable. -/
def activate (store : HandoffStore) (now : Time) (sessionId : UUID)
    (token : String) : HandoffStore × Option HandoffState :=
  match store.find? sessionId with
  | none => (store, none)
  | some handoff =>
      if handoff.tokenHash ≠ ⟨token⟩ then (store, none)
      else if (expire now handoff).state ≠ .pending then (store, none)
      else (store.put { handoff with state := .active }, some .active)

def state (store : HandoffStore) (now : Time) (sessionId : UUID) :
    HandoffStore × Option HandoffState :=
  match store.find? sessionId with
  | none => (store, none)
  | some handoff =>
      let left := expire now handoff
      (if left.state = .expired then store.put left else store,
        some left.state)

def resolve (store : HandoffStore) (now : Time) (sessionId : UUID)
    (confirmed : Bool) : HandoffStore × Option HandoffState :=
  match store.find? sessionId with
  | none => (store, none)
  | some handoff =>
      let left := expire now handoff
      if left.state ≠ .active then
        (if left.state = .expired then store.put left else store,
          some left.state)
      else
        let resolved := if confirmed then .confirmed else .cancelled
        (store.put { left with state := resolved }, some resolved)

end HandoffStore

end OfflineReels.Gateway
