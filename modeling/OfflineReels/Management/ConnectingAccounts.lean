import OfflineReels.Collector.OperatorRules
import OfflineReels.Collector.Stage3C1
import OfflineReels.Management.LoginMachine

namespace OfflineReels.Management.ConnectingAccounts

open OfflineReels.Foundation
open OfflineReels.Foundation.Program
open OfflineReels.Instagram
open OfflineReels.Collector
open LoginSessions LoginLifecycle LoginMachine

/-! The accounts that an operator's stage leaves connecting. -/

/-- Whether the stage has the handlers of `run_stage_3b`, and whether it has
made the account connecting and has not let go of it yet. -/
structure StagePhase where
  handles : Bool := false
  owing : Bool := false
  deriving DecidableEq, Repr

def recovers (handles : Bool) : CollectorFault → Bool
  | .coded code => handles && (Operator.safeAccountState code).isSome
  | _ => false

def abandons (handles : Bool) :
    (request : WorldCall) → Except CollectorFault (WorldReply request) → Bool
  | .openFeed _, .error fault => !recovers handles fault
  | .waitReady, .ok ready => !ready
  | .waitReady, .error fault => !recovers handles fault
  | .engine .current, .error fault => !recovers handles fault
  | .engine (.failRun _ _), .error _ => true
  | _, _ => false

def advanceWorld (accountId : UUID) (phase : StagePhase)
    (request : WorldCall) (reply : Except CollectorFault (WorldReply request)) :
    StagePhase :=
  match request, reply with
  | .claimQueuedRun _, _ => { phase with handles := true }
  | .setAccountStatus other status _, reply =>
      if other ≠ accountId then phase
      else if status ≠ .connecting then { phase with owing := false }
      else
        match reply with
        | .ok _ => { phase with owing := true }
        | .error _ => phase
  | request, reply =>
      if abandons phase.handles request reply then
        { phase with owing := false }
      else phase

def ofStage : StageCall → Bool
  | .loginSession _ => false
  | .world (.createCollectionRun _ _) => false
  | .world (.cancelCollectionRun _ _) => false
  | _ => true

def stageProtocol (accountId : UUID) :
    Protocol StageCall StageReply CollectorFault StagePhase where
  permits phase request := ofStage request = true ∨ phase.owing = false
  assumes _ _ _ := True
  advance phase request reply :=
    match request, reply with
    | .world request, reply => advanceWorld accountId phase request reply
    | _, _ => phase

/-- The same for the Collector's own programs. -/
def worldProtocol (accountId : UUID) :
    Protocol WorldCall WorldReply CollectorFault StagePhase where
  permits _ request := ofStage (.world request) = true
  assumes _ _ _ := True
  advance := advanceWorld accountId

inductive StageJob
  | runStage3B (storage : SourceStorage) (engine : CollectorEngine)
      (accountId : UUID) (existingFeed : Bool)
  | runStage3C1 (storage : SourceStorage) (engine : CollectorEngine)
      (accountId : UUID) (desiredTotal : Nat)
  | loginSession (operation : Operation)
  | createCollectionRun (accountId : UUID) (target : Nat)
  | cancelCollectionRun (accountId runId : UUID)

def unitProgram {α : Type} (program : StageProgram α) : StageProgram Unit :=
  program.attempt fun
    | .ok _ => pure ()
    | .error fault => raise fault

def StageJob.program : StageJob → StageProgram Unit
  | .runStage3B storage engine accountId existingFeed =>
      unitProgram
        (staged (Operator.runStage3B storage engine accountId existingFeed))
  | .runStage3C1 storage engine accountId desiredTotal =>
      unitProgram (Stage3C1.runStage3C1 storage engine accountId desiredTotal)
  | .loginSession operation => unitProgram (stage (.loginSession operation))
  | .createCollectionRun accountId target =>
      unitProgram (stage (.world (.createCollectionRun accountId target)))
  | .cancelCollectionRun accountId runId =>
      unitProgram (stage (.world (.cancelCollectionRun accountId runId)))

/-- The stages, the login service and the API, watched for one account. -/
def accountMachine (accountId : UUID) :
    Machine StageCall StageReply CollectorFault StagePhase Premises StageJob
      Choice where
  protocol := stageProtocol accountId
  idle := {}
  program := StageJob.program
  perform _ premises request choice := premises.perform choice request

section

variable {accountId : UUID}

abbrev Calm (phase : StagePhase) : Prop := phase.owing = false

def Connects : WorldCall → Prop
  | .setAccountStatus _ .connecting _ => True
  | _ => False

theorem advanceWorld_calm {phase : StagePhase} (calm : Calm phase)
    {request : WorldCall} (other : ¬ Connects request)
    (reply : Except CollectorFault (WorldReply request)) :
    Calm (advanceWorld accountId phase request reply) := by
  unfold advanceWorld
  split
  · exact calm
  · rename_i status _ _
    split
    · exact calm
    · split
      · rfl
      · rename_i connecting
        rw [not_not] at connecting
        subst connecting
        exact absurd trivial other
  · split
    · rfl
    · exact calm

theorem calm_invoke {request : WorldCall}
    (permitted : ofStage (.world request) = true)
    (other : ¬ Connects request) :
    Leads (worldProtocol accountId) Calm Calm (invoke request) :=
  leads_perform (fun _ _ => permitted) fun _ reply calm _ =>
    advanceWorld_calm calm other reply

theorem abandoned_eq {phase : StagePhase} (calm : Calm phase) :
    { phase with owing := false } = phase := by
  obtain ⟨handles, owing⟩ := phase
  cases calm
  rfl

theorem advanceWorld_still {phase : StagePhase} (calm : Calm phase)
    {request : WorldCall}
    (silent : (∃ engine, request = .engine engine) ∨
      isStorageCall request = true)
    (reply : Except CollectorFault (WorldReply request)) :
    advanceWorld accountId phase request reply = phase := by
  have dropped := abandoned_eq calm
  cases request with
  | claimQueuedRun => simp [isStorageCall] at silent
  | setAccountStatus => simp [isStorageCall] at silent
  | _ =>
      unfold advanceWorld
      dsimp only
      split
      · exact dropped
      · rfl

theorem storage_still {phase : StagePhase} (calm : Calm phase)
    (request : WorldCall) (storage : isStorageCall request = true) :
    CallSteady (worldProtocol accountId) (fun reached => reached = phase)
      request := by
  refine leads_perform (fun _ _ => ?_) fun reached reply same _ => ?_
  · cases request <;> first
      | rfl
      | cases storage
  · subst same
    exact advanceWorld_still calm (.inr storage) reply

def stillProtocol : Protocol EngineCall EngineReply CollectorFault
    StagePhase where
  permits phase _ := Calm phase
  assumes _ _ _ := True
  advance phase _ _ := phase

theorem adapter_implements (storage : SourceStorage) (phase : StagePhase)
    (request : EngineCall) (calm : stillProtocol.permits phase request) :
    Follows (worldProtocol accountId) phase (storage.adapter request)
      fun reply reached => stillProtocol.assumes phase request reply ∧
        reached = stillProtocol.advance phase request reply := by
  have quiet : ∀ {α : Type} {program : WorldProgram α},
      Leads (worldProtocol accountId) (fun reached => reached = phase)
        (fun reached => reached = phase) program →
      Follows (worldProtocol accountId) phase program
        fun _ reached => True ∧ reached = phase :=
    fun leads => (leads phase rfl).mono fun _ _ same => ⟨trivial, same⟩
  have stored := @storage_still accountId phase calm
  cases request with
  | temporaryPath shortcode =>
      exact quiet (storage.temporaryPath_leads shortcode)
  | publish path objectKey =>
      exact quiet (SourceStorage.publish_leads stored storage path objectKey)
  | delete objectKey =>
      exact quiet (SourceStorage.delete_leads stored objectKey)
  | cleanupTemporary path =>
      exact quiet (SourceStorage.cleanupTemporary_leads stored storage path)
  | _ => exact ⟨rfl, fun reply _ =>
      ⟨trivial, @advanceWorld_still accountId phase calm _
        (.inl ⟨_, rfl⟩) reply⟩⟩

theorem collect_calm (storage : SourceStorage) (engine : CollectorEngine)
    (request : CollectRequest) :
    Leads (worldProtocol accountId) Calm Calm
      (Operator.collectWith storage engine request) := by
  intro phase calm
  have collected : Follows stillProtocol phase (engine.collect request)
      fun _ reached => reached = phase :=
    follows_still (fun _ => calm) (fun _ _ => rfl) _
  refine (collected.handle (adapter_implements storage)).mono ?_
  intro _ reached same
  exact same ▸ calm

theorem failClaimedRun_calm (claim : Option InstagramCollectionRun)
    (reasonCode : String) :
    Leads (worldProtocol accountId) Calm Calm
      (Operator.failClaimedRun claim reasonCode) := by
  cases claim with
  | none => exact leads_pure fun _ calm => calm
  | some run => exact calm_invoke rfl id

theorem setSafeAccountState_calm (other : UUID) (code : String) :
    Leads (worldProtocol accountId) Calm Calm
      (Operator.setSafeAccountState other code) := by
  unfold Operator.setSafeAccountState
  split
  · exact leads_pure fun _ calm => calm
  · rename_i status shape
    refine Leads.rescue (calm_invoke rfl fun connects => ?_)
      (fun _ => leads_pure fun _ calm => calm) fun _ calm => calm
    unfold Operator.safeAccountState at shape
    split at shape
    · cases shape
      exact connects
    · split at shape
      · cases shape
        exact connects
      · cases shape

/-- A stage for another account owes nothing. -/
abbrev Concerns (accountId target : UUID) (phase : StagePhase) : Prop :=
  Calm phase ∨ target = accountId

def Recovering (accountId target : UUID) (fault : CollectorFault)
    (phase : StagePhase) : Prop :=
  Calm phase ∨ (target = accountId ∧ recovers true fault = true)

def Left {α : Type} (accountId target : UUID)
    (outcome : Except CollectorFault α) (phase : StagePhase) : Prop :=
  match outcome with
  | .ok _ => Calm phase
  | .error fault => Recovering accountId target fault phase

theorem calm_left {α : Type} {target : UUID} {program : WorldProgram α}
    (leads : Leads (worldProtocol accountId) Calm Calm program)
    {phase : StagePhase} (calm : Calm phase) :
    Program.Follows (worldProtocol accountId) phase program
      (Left accountId target) := by
  refine Program.Follows.mono (leads phase calm) fun outcome reached kept => ?_
  cases outcome with
  | ok value => exact kept
  | error fault => exact .inl kept

theorem verifyCompleted_calm (summary : CollectorSummary) :
    Leads (worldProtocol accountId) Calm Calm
      (Operator.verifyCompleted summary) := by
  unfold Operator.verifyCompleted
  split
  · refine Leads.bind (calm_invoke rfl id) (fun verified => ?_)
      fun _ calm => calm
    split
    · exact leads_pure fun _ calm => calm
    · exact leads_pure fun _ calm => calm
  · exact leads_pure fun _ calm => calm

theorem applyStopReason_calm (target : UUID) (summary : CollectorSummary) :
    Leads (worldProtocol accountId) Calm Calm
      (Operator.applyStopReason target summary) := by
  unfold Operator.applyStopReason
  split
  · exact setSafeAccountState_calm _ _
  · exact leads_pure fun _ calm => calm

theorem confirmed_calm (storage : SourceStorage) (engine : CollectorEngine)
    (target : UUID) (claim : Option InstagramCollectionRun) :
    Leads (worldProtocol accountId) Calm Calm (do
      if ← invoke .confirm then
        invoke .captureRunBaseline
        let summary ← Operator.collectWith storage engine {
          accountId := target
          trigger := .manual
          targetCount := STAGE_3B_TARGET
          desiredAccountTotal := none
          claimedRunId := claim.map (·.id) }
        Operator.applyStopReason target summary
        Operator.verifyCompleted summary
      else
        match claim with
        | none => return (⟨none, some "USER_CANCELLED"⟩ : StageResult)
        | some run =>
            let _ ← invoke (.engine (.cancelRun run.id "USER_CANCELLED"))
            return ⟨none, some "USER_CANCELLED"⟩) := by
  have stays : ∀ phase, Calm phase → Calm phase := fun _ calm => calm
  refine Leads.bind (calm_invoke rfl id) (fun confirmed => ?_) stays
  cases confirmed with
  | true =>
      refine Leads.bind (calm_invoke rfl id) (fun _ => ?_) stays
      refine (collect_calm storage engine _).bind (fun summary => ?_) stays
      exact (applyStopReason_calm target summary).bind
        (fun _ => verifyCompleted_calm summary) stays
  | false =>
      cases claim with
      | none => exact leads_pure stays
      | some run =>
          exact Leads.bind (calm_invoke rfl id)
            (fun _ => leads_pure stays) stays

theorem advance_recovering {target : UUID} {phase : StagePhase}
    (concerns : Concerns accountId target phase)
    (handles : phase.handles = true) {request : WorldCall}
    {fault : CollectorFault}
    (abandoned : abandons phase.handles request (.error fault) =
      !recovers phase.handles fault)
    (plain : advanceWorld accountId phase request (.error fault) =
      if abandons phase.handles request (.error fault) then
        { phase with owing := false }
      else phase) :
    Recovering accountId target fault
      (advanceWorld accountId phase request (.error fault)) := by
  rw [plain, abandoned, handles]
  cases recovered : recovers true fault with
  | true => exact concerns.imp_right fun own => ⟨own, recovered⟩
  | false => exact .inl rfl

theorem advance_settles {target : UUID} {phase : StagePhase}
    (concerns : Concerns accountId target phase) {status : AccountStatus}
    (settles : status ≠ .connecting) {reasonCode : Option String}
    (reply : Except CollectorFault Unit) :
    Calm (advanceWorld accountId phase
      (.setAccountStatus target status reasonCode) reply) := by
  by_cases own : target = accountId
  · simp [advanceWorld, own, settles]
  · have calm : Calm phase := concerns.resolve_right own
    simpa [advanceWorld, own] using calm

theorem superviseRun_left (storage : SourceStorage) (engine : CollectorEngine)
    (target : UUID) (claim : Option InstagramCollectionRun)
    {phase : StagePhase} (concerns : Concerns accountId target phase)
    (handles : phase.handles = true) :
    Program.Follows (worldProtocol accountId) phase
      (Operator.superviseRun storage engine target claim)
      (Left accountId target) := by
  refine ⟨rfl, fun reply _ => ?_⟩
  cases reply with
  | error fault => exact advance_recovering concerns handles rfl rfl
  | ok ready =>
      cases ready with
      | false =>
          have calm : Calm ((worldProtocol accountId).advance phase .waitReady
              (.ok false)) := rfl
          exact calm_left ((failClaimedRun_calm claim _).bind
            (fun _ => leads_pure fun _ calm => calm) fun _ calm => calm) calm
      | true =>
          refine ⟨rfl, fun reply _ => ?_⟩
          cases reply with
          | error fault => exact advance_recovering concerns handles rfl rfl
          | ok candidate =>
              refine ⟨rfl, fun reply _ => ?_⟩
              have settles : AccountStatus.connected ≠ .connecting := by decide
              have calm : Calm (advanceWorld accountId phase
                  (.setAccountStatus target .connected none) reply) :=
                advance_settles concerns settles reply
              cases reply with
              | error fault => exact .inl calm
              | ok _ =>
                  exact calm_left (confirmed_calm storage engine target claim)
                    calm

theorem safeAccountState_settles {code : String} {status : AccountStatus}
    (safe : Operator.safeAccountState code = some status) :
    status ≠ .connecting := by
  unfold Operator.safeAccountState at safe
  split at safe
  · cases safe
    decide
  · split at safe
    · cases safe
      decide
    · cases safe

theorem setSafeAccountState_left {target : UUID} {code : String}
    {phase : StagePhase}
    (recovering : Recovering accountId target (.coded code) phase) :
    Program.Follows (worldProtocol accountId) phase
      (Operator.setSafeAccountState target code)
      fun _ reached => Calm reached := by
  rcases recovering with calm | ⟨own, recovered⟩
  · exact setSafeAccountState_calm target code phase calm
  · unfold Operator.setSafeAccountState
    cases safe : Operator.safeAccountState code with
    | none => simp [recovers, safe] at recovered
    | some status =>
        refine ⟨rfl, fun reply _ => ?_⟩
        have calm : Calm (advanceWorld accountId phase
            (.setAccountStatus target status (some code)) reply) :=
          advance_settles (.inr own) (safeAccountState_settles safe) reply
        cases reply with
        | ok _ => exact calm
        | error fault =>
            simp only [attempt_done]
            split
            · exact calm
            · exact calm

theorem handleFault_calm {target : UUID}
    (claim : Option InstagramCollectionRun) {fault : CollectorFault}
    {phase : StagePhase}
    (recovering : Recovering accountId target fault phase) :
    Program.Follows (worldProtocol accountId) phase
      (Operator.handleFault target claim fault)
      fun _ reached => Calm reached := by
  have stays : ∀ phase, Calm phase → Calm phase := fun _ calm => calm
  cases fault with
  | coded code =>
      have settled : ∀ reached,
          Recovering accountId target (.coded code) reached →
          Program.Follows (worldProtocol accountId) reached
            (do
              Operator.setSafeAccountState target code
              return ⟨none, some code⟩ : WorldProgram StageResult)
            fun _ reached => Calm reached :=
        fun reached recovering => (setSafeAccountState_left recovering).bind
          (fun _ _ calm => calm) fun _ _ calm => calm
      cases claim with
      | none => exact settled phase recovering
      | some run =>
          refine ⟨rfl, fun reply _ => ?_⟩
          cases reply with
          | error failed => exact rfl
          | ok _ => exact settled phase recovering
  | keyboardInterrupt => exact recovering.elim id fun ⟨_, lost⟩ => nomatch lost
  | baseException => exact recovering.elim id fun ⟨_, lost⟩ => nomatch lost
  | _ =>
      have calm : Calm phase :=
        recovering.elim id fun ⟨_, lost⟩ => nomatch lost
      exact ((failClaimedRun_calm claim "COLLECTOR_FAILED").bind
        (fun _ => leads_raise stays) stays) phase calm

theorem supervised_calm (storage : SourceStorage) (engine : CollectorEngine)
    (target : UUID) (claim : Option InstagramCollectionRun)
    {phase : StagePhase} (concerns : Concerns accountId target phase)
    (handles : phase.handles = true) :
    Program.Follows (worldProtocol accountId) phase
      (Operator.withHandlers target claim
        (Operator.superviseRun storage engine target claim))
      fun _ reached => Calm reached := by
  refine (superviseRun_left storage engine target claim concerns
    handles).attempt ?_
  intro outcome reached left
  cases outcome with
  | ok result => exact left
  | error fault => exact handleFault_calm claim left

/-- The feed is closed on every way out. -/
theorem closed_calm :
    Leads (worldProtocol accountId) Calm Calm
      ((invoke (.engine .close)).rescue CollectorFault.isException
        fun _ => pure ()) :=
  Leads.rescue (calm_invoke rfl id) (fun _ => leads_pure fun _ calm => calm)
    fun _ calm => calm

theorem runClaimed_calm (storage : SourceStorage) (engine : CollectorEngine)
    (target : UUID) (existingFeed : Bool)
    (claim : Option InstagramCollectionRun) {phase : StagePhase}
    (concerns : Concerns accountId target phase)
    (handles : phase.handles = true) :
    Program.Follows (worldProtocol accountId) phase
      (Operator.runClaimed storage engine target existingFeed claim)
      fun _ reached => Calm reached := by
  have supervised : Program.Follows (worldProtocol accountId) phase
      (ensure (Operator.withHandlers target claim
          (Operator.superviseRun storage engine target claim))
        ((invoke (.engine .close)).rescue CollectorFault.isException
          fun _ => pure ())) fun _ reached => Calm reached := by
    refine Program.Follows.ensure
      (supervised_calm storage engine target claim concerns handles) ?_
    intro outcome reached calm
    refine (closed_calm reached calm).mono fun cleaned after kept => ?_
    cases cleaned with
    | ok _ => exact kept
    | error fault => exact kept
  cases existingFeed with
  | true => exact supervised
  | false =>
      refine ⟨rfl, fun reply _ => ?_⟩
      cases reply with
      | error fault =>
          exact handleFault_calm claim
            (advance_recovering concerns handles rfl rfl)
      | ok _ => exact supervised

theorem connectAccount_owes (target : UUID) {phase : StagePhase}
    (calm : Calm phase) :
    Program.Follows (worldProtocol accountId) phase
      (Operator.connectAccount target)
      fun outcome reached => reached.handles = phase.handles ∧
        match outcome with
        | .ok _ => Concerns accountId target reached
        | .error _ => Calm reached := by
  have read (reply : Except CollectorFault AccountStatus) :
      advanceWorld accountId phase (.accountStatus target) reply = phase := by
    simp [advanceWorld, abandons]
  refine ⟨rfl, fun reply _ => ?_⟩
  change Program.Follows (worldProtocol accountId)
    (advanceWorld accountId phase (.accountStatus target) reply) _ _
  rw [read]
  cases reply with
  | error fault => exact ⟨rfl, calm⟩
  | ok status =>
      simp only [attempt_done]
      split
      · exact ⟨rfl, .inl calm⟩
      · refine ⟨rfl, fun reply _ => ?_⟩
        change (advanceWorld accountId phase
          (.setAccountStatus target .connecting none) reply).handles = _ ∧ _
        by_cases own : target = accountId
        · cases reply with
          | error fault => simpa [worldProtocol, advanceWorld, own] using calm
          | ok _ => exact ⟨by simp [advanceWorld, own], .inr own⟩
        · cases reply with
          | error fault => simpa [worldProtocol, advanceWorld, own] using calm
          | ok _ =>
              refine ⟨by simp [advanceWorld, own], .inl ?_⟩
              simpa [worldProtocol, advanceWorld, own] using calm

theorem afterClaim_calm (storage : SourceStorage) (engine : CollectorEngine)
    (target : UUID) (existingFeed : Bool)
    (claim : Option InstagramCollectionRun) {phase : StagePhase}
    (handles : phase.handles = true) (calm : Calm phase) :
    Program.Follows (worldProtocol accountId) phase
      (Operator.afterClaim storage engine target existingFeed claim)
      fun _ reached => Calm reached := by
  have stays : ∀ phase, Calm phase → Calm phase := fun _ calm => calm
  have connected : Program.Follows (worldProtocol accountId) phase
      (do
        Operator.connectAccount target
        Operator.runClaimed storage engine target existingFeed claim)
      fun _ reached => Calm reached := by
    refine (connectAccount_owes target calm).bind ?_ fun _ _ owes => owes.2
    intro _ reached ⟨same, concerns⟩
    exact runClaimed_calm storage engine target existingFeed claim concerns
      (same.trans handles)
  unfold Operator.afterClaim
  split
  · exact ((failClaimedRun_calm claim _).bind
      (fun _ => leads_pure stays) stays) phase calm
  · unfold Operator.activeRunBlocks
    split
    · refine ⟨rfl, fun reply _ => ?_⟩
      cases reply with
      | error fault => exact calm
      | ok active =>
          cases active with
          | true => exact calm
          | false => exact connected
    · exact connected

theorem runStage3B_calm (storage : SourceStorage) (engine : CollectorEngine)
    (target : UUID) (existingFeed : Bool) :
    Program.Follows (worldProtocol accountId) {}
      (Operator.runStage3B storage engine target existingFeed)
      fun _ reached => Calm reached := by
  refine ⟨rfl, fun reply _ => ?_⟩
  cases reply with
  | error fault => exact rfl
  | ok _ =>
      refine ⟨rfl, fun reply _ => ?_⟩
      cases reply with
      | error fault => exact rfl
      | ok claim =>
          exact afterClaim_calm storage engine target existingFeed claim rfl
            rfl

theorem staged_follows {α : Type} {program : WorldProgram α}
    {phase : StagePhase} {post : Except CollectorFault α → StagePhase → Prop}
    (follows : Program.Follows (worldProtocol accountId) phase program post) :
    Program.Follows (stageProtocol accountId) phase (staged program) post := by
  have implements : ∀ phase request,
      (worldProtocol accountId).permits phase request →
      Program.Follows (stageProtocol accountId) phase (stage (.world request))
        fun reply reached =>
          (worldProtocol accountId).assumes phase request reply ∧
            reached = (worldProtocol accountId).advance phase request reply :=
    fun _ _ permitted => ⟨.inl permitted, fun _ _ => ⟨trivial, rfl⟩⟩
  exact follows.handle implements

theorem calm_stage {request : StageCall} (permitted : ofStage request = true)
    (other : ∀ world, request = .world world → ¬ Connects world) :
    Leads (stageProtocol accountId) Calm Calm (stage request) := by
  refine leads_perform (fun _ _ => .inl permitted) fun _ reply calm _ => ?_
  cases request with
  | world request => exact advanceWorld_calm calm (other request rfl) reply
  | _ => exact calm

theorem checkBaseline_still (items : List DurableReelSnapshot)
    (phase : StagePhase) :
    Leads (stageProtocol accountId) (fun reached => reached = phase)
      (fun reached => reached = phase) (Stage3C1.checkBaseline items) := by
  have stays : ∀ reached, reached = phase → reached = phase := fun _ same => same
  induction items with
  | nil => exact leads_pure stays
  | cons item rest ih =>
      unfold Stage3C1.checkBaseline
      have looked : Leads (stageProtocol accountId)
          (fun reached => reached = phase) (fun reached => reached = phase)
          (stage (.snapshotObject item.objectKey)) :=
        leads_perform (fun _ _ => .inl rfl) fun _ _ same _ => same
      refine Leads.bind (looked.rescue (fun _ => leads_raise stays) stays)
        (fun remote => ?_) stays
      split
      · exact leads_raise stays
      · exact ih

theorem prepareStage3C1_still (target : UUID) (desiredTotal : Nat)
    (phase : StagePhase) :
    Program.Follows (stageProtocol accountId) phase
      (Stage3C1.prepareStage3C1 target desiredTotal)
      fun outcome reached => reached = phase ∧
        ∀ plan, outcome = .ok plan → plan.accountId = target := by
  unfold Stage3C1.prepareStage3C1
  split
  · exact ⟨rfl, nofun⟩
  · refine ⟨.inl rfl, fun reply _ => ?_⟩
    cases reply with
    | error fault => exact ⟨rfl, nofun⟩
    | ok initial =>
        refine ⟨.inl rfl, fun reply _ => ?_⟩
        cases reply with
        | error fault => exact ⟨rfl, nofun⟩
        | ok baseline =>
            simp only [attempt_done]
            split
            · exact ⟨rfl, nofun⟩
            · refine (checkBaseline_still baseline phase phase rfl).bind ?_ ?_
              · intro _ reached same
                exact ⟨same, fun plan shape => by cases shape; rfl⟩
              · exact fun _ _ same => ⟨same, nofun⟩

theorem recovers_unhandled (fault : CollectorFault) :
    recovers false fault = false := by
  cases fault <;> rfl

theorem advance_unhandled {phase : StagePhase}
    (unhandled : phase.handles = false) {request : WorldCall}
    {fault : CollectorFault}
    (abandoned : abandons phase.handles request (.error fault) =
      !recovers phase.handles fault)
    (plain : advanceWorld accountId phase request (.error fault) =
      if abandons phase.handles request (.error fault) then
        { phase with owing := false }
      else phase) :
    Calm (advanceWorld accountId phase request (.error fault)) := by
  rw [plain, abandoned, unhandled, recovers_unhandled]
  rfl

theorem verified_calm (summary : Option CollectorSummary) (plan : Stage3C1Plan)
    (reason : Option String) :
    Leads (stageProtocol accountId) Calm Calm
      (Stage3C1.verified summary plan reason) := by
  have stays : ∀ phase, Calm phase → Calm phase := fun _ calm => calm
  have asked : Leads (stageProtocol accountId) Calm Calm
      (stage .verifyStage3C1) :=
    leads_perform (fun _ _ => .inl rfl) fun _ _ calm _ => calm
  unfold Stage3C1.verified
  refine asked.bind (fun answer => ?_) stays
  split
  · exact leads_pure stays
  · exact leads_pure stays

theorem continued_calm (storage : SourceStorage) (engine : CollectorEngine)
    (plan : Stage3C1Plan) :
    Leads (stageProtocol accountId) Calm Calm (do
      if ← stage (.world .confirm) then
        let summary ← staged (Operator.collectWith storage engine {
          accountId := plan.accountId
          trigger := .manual
          targetCount := plan.remaining
          desiredAccountTotal := some STAGE_3C1_DESIRED_TOTAL
          claimedRunId := none })
        if summary.status = .completed then
          Stage3C1.verified (some summary) plan summary.stopReasonCode
        else return (⟨some summary, plan, summary.stopReasonCode⟩ :
          Stage3C1Result)
      else return ⟨none, plan, some "USER_CANCELLED"⟩) := by
  have stays : ∀ phase, Calm phase → Calm phase := fun _ calm => calm
  refine Leads.bind (calm_stage rfl nofun) (fun confirmed => ?_) stays
  cases confirmed with
  | false => exact leads_pure stays
  | true =>
      have collected : ∀ request, Leads (stageProtocol accountId) Calm Calm
          (staged (Operator.collectWith storage engine request)) :=
        fun request phase calm =>
          staged_follows (collect_calm storage engine request phase calm)
      refine (collected _).bind (fun summary => ?_) stays
      split
      · exact verified_calm _ _ _
      · exact leads_pure stays

theorem supervise_calm (storage : SourceStorage) (engine : CollectorEngine)
    (plan : Stage3C1Plan) {phase : StagePhase}
    (concerns : Concerns accountId plan.accountId phase)
    (unhandled : phase.handles = false) :
    Program.Follows (stageProtocol accountId) phase
      (Stage3C1.supervise storage engine plan)
      fun _ reached => Calm reached := by
  refine ⟨.inl rfl, fun reply _ => ?_⟩
  cases reply with
  | error fault => exact advance_unhandled unhandled rfl rfl
  | ok ready =>
      cases ready with
      | false => exact rfl
      | true =>
          refine ⟨.inl rfl, fun reply _ => ?_⟩
          cases reply with
          | error fault => exact advance_unhandled unhandled rfl rfl
          | ok candidate =>
              refine ⟨.inl rfl, fun reply _ => ?_⟩
              have settles : AccountStatus.connected ≠ .connecting := by decide
              have calm : Calm (advanceWorld accountId phase
                  (.setAccountStatus plan.accountId .connected none) reply) :=
                advance_settles concerns settles reply
              cases reply with
              | error fault => exact calm
              | ok _ => exact continued_calm storage engine plan _ calm

theorem continueRun_calm (storage : SourceStorage) (engine : CollectorEngine)
    (plan : Stage3C1Plan) {phase : StagePhase}
    (concerns : Concerns accountId plan.accountId phase)
    (unhandled : phase.handles = false) :
    Program.Follows (stageProtocol accountId) phase
      (Stage3C1.continueRun storage engine plan)
      fun _ reached => Calm reached := by
  refine ⟨.inl rfl, fun reply _ => ?_⟩
  cases reply with
  | error fault => exact advance_unhandled unhandled rfl rfl
  | ok _ =>
      refine Program.Follows.ensure
        (supervise_calm storage engine plan concerns unhandled) ?_
      intro outcome reached calm
      have stays : ∀ phase, Calm phase → Calm phase := fun _ calm => calm
      have closed : Leads (stageProtocol accountId) Calm Calm
          ((stage (.world (.engine .close))).rescue CollectorFault.isException
            fun _ => pure ()) :=
        Leads.rescue (@calm_stage accountId (.world (.engine .close)) rfl nofun)
          (fun _ => leads_pure stays) stays
      refine (closed reached calm).mono fun cleaned after kept => ?_
      cases cleaned with
      | ok _ => exact kept
      | error fault => exact kept

theorem runStage3C1_calm (storage : SourceStorage) (engine : CollectorEngine)
    (target : UUID) (desiredTotal : Nat) :
    Program.Follows (stageProtocol accountId) {}
      (Stage3C1.runStage3C1 storage engine target desiredTotal)
      fun _ reached => Calm reached := by
  refine ⟨.inl rfl, fun reply _ => ?_⟩
  cases reply with
  | error fault => exact rfl
  | ok _ =>
      refine ⟨.inl rfl, fun reply _ => ?_⟩
      cases reply with
      | error fault => exact rfl
      | ok active =>
          cases active with
          | true => exact rfl
          | false =>
              have prepared := @prepareStage3C1_still accountId
                target desiredTotal {}
              refine prepared.bind ?_ fun _ _ same => same.1 ▸ rfl
              intro plan reached ⟨same, asked⟩
              subst same
              split
              · exact verified_calm none plan none {} rfl
              · have connected := staged_follows
                  (@connectAccount_owes accountId target {} rfl)
                refine connected.bind ?_ fun _ _ owes => owes.2
                intro _ reached ⟨unhandled, concerns⟩
                rw [← asked plan rfl] at concerns
                exact continueRun_calm storage engine plan concerns unhandled

theorem unitProgram_calm {α : Type} {program : StageProgram α}
    {phase : StagePhase}
    (follows : Program.Follows (stageProtocol accountId) phase program
      fun _ reached => Calm reached) :
    Program.Follows (stageProtocol accountId) phase (unitProgram program)
      fun _ reached => Calm reached := by
  refine follows.attempt fun outcome reached calm => ?_
  cases outcome with
  | ok _ => exact calm
  | error fault => exact calm

theorem program_calm (job : StageJob) :
    Program.Follows (stageProtocol accountId) {} job.program
      fun _ reached => Calm reached := by
  cases job with
  | runStage3B storage engine target existingFeed =>
      exact unitProgram_calm
        (staged_follows (runStage3B_calm storage engine target existingFeed))
  | runStage3C1 storage engine target desiredTotal =>
      exact unitProgram_calm
        (runStage3C1_calm storage engine target desiredTotal)
  | loginSession operation =>
      exact unitProgram_calm ⟨.inr rfl, fun _ _ => rfl⟩
  | createCollectionRun other target =>
      exact unitProgram_calm ⟨.inr rfl, fun _ _ => rfl⟩
  | cancelCollectionRun other runId =>
      exact unitProgram_calm ⟨.inr rfl, fun _ _ => rfl⟩

end

end OfflineReels.Management.ConnectingAccounts
