import OfflineReels.Collector.CollectRules
import OfflineReels.Collector.OperatorRules
import OfflineReels.Collector.RunTransactions

namespace OfflineReels.Collector.RunLifecycle

open OfflineReels.Foundation
open OfflineReels.Foundation.Program
open OfflineReels.Instagram
open OfflineReels.Collector.CollectorEngine
open OfflineReels.Collector.RunTransactions

/-! What a transaction may do to collection runs, and the discipline of the
processes that work on them: who holds a run, and until when. -/

def Moves (run next : InstagramCollectionRun) : Prop :=
  next.status = run.status ∨
    isTransitionAllowed COLLECTION_RUN_TRANSITIONS run.status next.status = true

def Settled (before after : Database) (run next : InstagramCollectionRun) :
    Prop :=
  next.status = run.status ∧
    next.sourceCommittedCount = run.sourceCommittedCount ∧
    next.alreadyAvailableCount = run.alreadyAvailableCount ∧
    next.failedCount = run.failedCount ∧
    ∀ item ∈ after.items, item.runId = run.id → item ∈ before.items

instance (run next : InstagramCollectionRun) : Decidable (Moves run next) :=
  inferInstanceAs (Decidable (_ ∨ _))

instance (before after : Database) (run next : InstagramCollectionRun) :
    Decidable (Settled before after run next) :=
  inferInstanceAs (Decidable (_ ∧ _))

/-- What a process may do to the runs: statuses move along the policy, and a
terminal run keeps its status, its counters and its items. -/
structure Lawful (before after : Database) : Prop where
  moves : ∀ run ∈ before.runs, ∃ next ∈ after.runs,
    next.id = run.id ∧ Moves run next
  settled : ∀ run ∈ before.runs, run.status.isActive = false →
    ∀ next ∈ after.runs, next.id = run.id → Settled before after run next
  created : ∀ next ∈ after.runs, (∀ run ∈ before.runs, run.id ≠ next.id) →
    next.status.isActive = true

instance (before after : Database) : Decidable (Lawful before after) :=
  decidable_of_iff
    ((∀ run ∈ before.runs, ∃ next ∈ after.runs,
        next.id = run.id ∧ Moves run next) ∧
      (∀ run ∈ before.runs, run.status.isActive = false →
        ∀ next ∈ after.runs, next.id = run.id →
          Settled before after run next) ∧
      ∀ next ∈ after.runs, (∀ run ∈ before.runs, run.id ≠ next.id) →
        next.status.isActive = true)
    ⟨fun holds => ⟨holds.1, holds.2.1, holds.2.2⟩,
      fun lawful => ⟨lawful.moves, lawful.settled, lawful.created⟩⟩

theorem lawful_of_same {before after : Database}
    (runs : after.runs = before.runs) (items : after.items = before.items) :
    Lawful before after where
  moves := fun run member => ⟨run, runs ▸ member, rfl, Or.inl rfl⟩
  settled := by
    intro run member _ next nextMember same
    rw [runs] at nextMember
    obtain rfl := Table.eq_of_key_eq nextMember member same
    exact ⟨rfl, rfl, rfl, rfl, fun _ itemMember _ => items ▸ itemMember⟩
  created := by
    intro next member fresh
    rw [runs] at member
    exact absurd rfl (fresh next member)

theorem lawful_refl (database : Database) : Lawful database database :=
  lawful_of_same rfl rfl

theorem lawful_of_insert {before after : Database}
    {run : InstagramCollectionRun}
    (inserted : before.runs.insert? run = some after.runs)
    (active : run.status.isActive = true)
    (items : after.items = before.items) : Lawful before after where
  moves := fun other member =>
    ⟨other, (Table.mem_insert? inserted).mpr (Or.inl member), rfl, Or.inl rfl⟩
  settled := by
    intro other member _ next nextMember same
    rcases (Table.mem_insert? inserted).mp nextMember with old | rfl
    · obtain rfl := Table.eq_of_key_eq old member same
      exact ⟨rfl, rfl, rfl, rfl, fun _ itemMember _ => items ▸ itemMember⟩
    · exact absurd same.symm ((Table.insert?_eq_some inserted).1 other member)
  created := by
    intro next member fresh
    rcases (Table.mem_insert? inserted).mp member with old | rfl
    · exact absurd rfl (fresh next old)
    · exact active

structure Rewrites (before after : Database) (run next : InstagramCollectionRun) :
    Prop where
  member : run ∈ before.runs
  key : next.id = run.id
  rows : after.runs = before.runs.put next

theorem Rewrites.mem {before after : Database}
    {run next : InstagramCollectionRun} (rewrites : Rewrites before after run next)
    (other : InstagramCollectionRun) :
    other ∈ after.runs ↔
      other = next ∨ (other ∈ before.runs ∧ other.id ≠ run.id) := by
  rw [rewrites.rows, Table.mem_put, rewrites.key]
  constructor
  · rintro (⟨same, _⟩ | remains)
    · exact Or.inl same
    · exact Or.inr remains
  · rintro (same | remains)
    · exact Or.inl ⟨same, run, rewrites.member, rfl⟩
    · exact Or.inr remains

theorem Rewrites.lawful {before after : Database}
    {run next : InstagramCollectionRun} (rewrites : Rewrites before after run next)
    (move : Moves run next)
    (active : run.status.isActive = true)
    (items : ∀ item ∈ after.items, item.runId ≠ run.id → item ∈ before.items) :
    Lawful before after where
  moves := by
    intro other member
    by_cases same : other.id = run.id
    · obtain rfl := Table.eq_of_key_eq member rewrites.member same
      exact ⟨next, (rewrites.mem next).mpr (Or.inl rfl), rewrites.key, move⟩
    · exact ⟨other, (rewrites.mem other).mpr (Or.inr ⟨member, same⟩), rfl,
        Or.inl rfl⟩
  settled := by
    intro other member terminal row rowMember same
    have different : other.id ≠ run.id := by
      intro equal
      obtain rfl := Table.eq_of_key_eq member rewrites.member equal
      rw [active] at terminal
      cases terminal
    rcases (rewrites.mem row).mp rowMember with rfl | ⟨old, _⟩
    · exact absurd (same.symm.trans rewrites.key) different
    · obtain rfl := Table.eq_of_key_eq old member same
      exact ⟨rfl, rfl, rfl, rfl, fun item itemMember owner =>
        items item itemMember (owner ▸ different)⟩
  created := by
    intro row member fresh
    rcases (rewrites.mem row).mp member with rfl | ⟨old, _⟩
    · exact absurd rewrites.key.symm (fresh run rewrites.member)
    · exact absurd rfl (fresh row old)

theorem Rewrites.settled {before after : Database}
    {run next : InstagramCollectionRun} (rewrites : Rewrites before after run next)
    (status : next.status = run.status)
    (committed : next.sourceCommittedCount = run.sourceCommittedCount)
    (available : next.alreadyAvailableCount = run.alreadyAvailableCount)
    (failed : next.failedCount = run.failedCount)
    (items : after.items = before.items) : Lawful before after where
  moves := by
    intro other member
    by_cases same : other.id = run.id
    · obtain rfl := Table.eq_of_key_eq member rewrites.member same
      exact ⟨next, (rewrites.mem next).mpr (Or.inl rfl), rewrites.key,
        Or.inl status⟩
    · exact ⟨other, (rewrites.mem other).mpr (Or.inr ⟨member, same⟩), rfl,
        Or.inl rfl⟩
  settled := by
    intro other member _ row rowMember same
    have kept : ∀ item ∈ after.items, item.runId = other.id →
        item ∈ before.items := fun _ itemMember _ => items ▸ itemMember
    rcases (rewrites.mem row).mp rowMember with rfl | ⟨old, _⟩
    · obtain rfl := Table.eq_of_key_eq member rewrites.member
        (same.symm.trans rewrites.key)
      exact ⟨status, committed, available, failed, kept⟩
    · obtain rfl := Table.eq_of_key_eq old member same
      exact ⟨rfl, rfl, rfl, rfl, kept⟩
  created := by
    intro row member fresh
    rcases (rewrites.mem row).mp member with rfl | ⟨old, _⟩
    · exact absurd rewrites.key.symm (fresh run rewrites.member)
    · exact absurd rfl (fresh row old)

/-- The run a process created or claimed, and whether it may still write to it
without looking at its status. -/
structure Hold where
  run : Option UUID
  live : Bool
  deriving DecidableEq, Repr

def Hold.idle : Hold := ⟨none, false⟩

def Hold.release (hold : Hold) : Hold := { hold with live := false }

def permits (hold : Hold) : WorldCall → Prop
  | .engine (.createRun _ _ _) => hold.run = none
  | .claimQueuedRun _ => hold.run = none
  | .engine (.commitAvailable runId _) => hold = ⟨some runId, true⟩
  | .engine (.commitSource runId _ _ _) => hold = ⟨some runId, true⟩
  | .engine (.recordFailure runId _ _ _) => hold = ⟨some runId, true⟩
  | .engine (.completeRun runId) => hold = ⟨some runId, true⟩
  | .engine (.completeIfAccountDurableTotal runId _) => hold.run = some runId
  | .engine (.failRun runId _) => hold.run = some runId
  | _ => True

def advance (hold : Hold) : (request : WorldCall) →
    Except CollectorFault (WorldReply request) → Hold
  | .engine (.createRun _ _ _), .ok runId => ⟨some runId, true⟩
  | .claimQueuedRun _, .ok (some run) => ⟨some run.id, true⟩
  | .engine (.completeRun _), _ => hold.release
  | .engine (.completeIfAccountDurableTotal _ _), _ => hold.release
  | .engine (.failRun _ _), _ => hold.release
  | .engine (.cancelRun _ _), _ => hold.release
  | _, _ => hold

def protocol : Protocol WorldCall WorldReply CollectorFault Hold where
  permits := permits
  assumes := fun _ _ _ => True
  advance := advance

/-- The protocol as the engine sees it. -/
def engineProtocol : Protocol EngineCall EngineReply CollectorFault Hold where
  permits := fun hold request => permits hold (.engine request)
  assumes := fun _ _ _ => True
  advance := fun hold request reply => advance hold (.engine request) reply

def Works (runId : UUID) (hold : Hold) : Prop := hold = ⟨some runId, true⟩

def Holds (runId : UUID) (hold : Hold) : Prop := hold.run = some runId

theorem ordinary_steady (steady : Hold → Prop) :
    OrdinarySteady engineProtocol steady := by
  intro request ordinary
  cases request <;> first
    | exact leads_perform (fun _ _ => trivial) fun _ _ kept _ => kept
    | cases ordinary

theorem acquisition_steady (runId : UUID) :
    AcquisitionSteady engineProtocol (Works runId) runId where
  ordinary := ordinary_steady _
  temporaryPath := fun _ =>
    leads_perform (fun _ _ => trivial) fun _ _ kept _ => kept
  download := fun _ _ =>
    leads_perform (fun _ _ => trivial) fun _ _ kept _ => kept
  validate := fun _ =>
    leads_perform (fun _ _ => trivial) fun _ _ kept _ => kept
  publish := fun _ _ =>
    leads_perform (fun _ _ => trivial) fun _ _ kept _ => kept
  delete := fun _ =>
    leads_perform (fun _ _ => trivial) fun _ _ kept _ => kept
  cleanup := fun _ =>
    leads_perform (fun _ _ => trivial) fun _ _ kept _ => kept
  commitSource := fun _ _ _ =>
    leads_perform (fun _ works => works) fun _ _ kept _ => kept
  recordFailure := fun _ _ _ =>
    leads_perform (fun _ works => works) fun _ _ kept _ => kept

theorem holds_of_works {runId : UUID} (hold : Hold) (works : Works runId hold) :
    Holds runId hold := by
  rw [works]
  rfl

theorem loop_rules (runId : UUID) :
    LoopRules engineProtocol (Works runId) (Holds runId) runId where
  weaken := holds_of_works
  ordinary := ordinary_steady _
  quietEnded := (ordinary_steady _).quiet
  available := fun _ =>
    leads_perform (fun _ works => works) fun _ _ kept _ => kept
  acquires := fun engine deadline progress =>
    acquire_leads (acquisition_steady runId) engine deadline progress
  completes := leads_perform (fun _ works => works)
    fun hold _ works _ => holds_of_works hold works
  completesTotal := fun _ => leads_perform
    (fun hold works => holds_of_works hold works)
    fun hold _ works _ => holds_of_works hold works
  fails := fun _ => leads_perform (fun _ holds => holds) fun _ _ kept _ => kept
  cancels := fun _ =>
    leads_perform (fun _ _ => trivial) fun _ _ kept _ => kept

theorem collect_claimed_leads (engine : CollectorEngine)
    (request : CollectRequest) (runId : UUID)
    (claimed : request.claimedRunId = some runId) :
    Leads engineProtocol (Works runId) (Holds runId)
      (engine.collect request) := by
  refine collect_leads Works Holds (fun chosen => chosen = runId) engine request
    loop_rules ?_ ?_ holds_of_works
  · intro hold works
    unfold obtainRun
    rw [claimed]
    exact ⟨rfl, works⟩
  · intro chosen hold same holds
    exact same ▸ holds

theorem collect_created_leads (engine : CollectorEngine)
    (request : CollectRequest) (created : request.claimedRunId = none) :
    Leads engineProtocol (fun hold => hold.run = none) (fun _ => True)
      (engine.collect request) := by
  refine collect_leads Works Holds (fun _ => True) engine request loop_rules ?_
    (fun _ _ _ _ => trivial) fun _ _ => trivial
  intro hold free
  unfold obtainRun
  rw [created]
  refine ⟨free, fun reply _ => ?_⟩
  cases reply with
  | ok runId => exact ⟨trivial, rfl⟩
  | error fault => trivial

theorem storage_steady (steady : Hold → Prop) (request : WorldCall)
    (storage : isStorageCall request = true) :
    CallSteady protocol steady request := by
  cases request <;> first
    | exact leads_perform (fun _ _ => trivial) fun _ _ kept _ => kept
    | cases storage

theorem supervision_steady (steady : Hold → Prop) (request : WorldCall)
    (supervision : isSupervision request = true) :
    CallSteady protocol steady request := by
  cases request with
  | engine request =>
      cases request <;> first
        | exact leads_perform (fun _ _ => trivial) fun _ _ kept _ => kept
        | cases supervision
  | _ => first
      | exact leads_perform (fun _ _ => trivial) fun _ _ kept _ => kept
      | cases supervision

theorem adapter_implements (storage : SourceStorage) (hold : Hold)
    (request : EngineCall)
    (permitted : engineProtocol.permits hold request) :
    Follows protocol hold (storage.adapter request) fun reply reached =>
      engineProtocol.assumes hold request reply ∧
        reached = engineProtocol.advance hold request reply := by
  have quiet : ∀ {α : Type} {program : WorldProgram α},
      Leads protocol (fun reached => reached = hold)
        (fun reached => reached = hold) program →
      Follows protocol hold program fun _ reached => True ∧ reached = hold :=
    fun leads => (leads hold rfl).mono fun _ _ same => ⟨trivial, same⟩
  have stored := storage_steady fun reached => reached = hold
  cases request with
  | temporaryPath shortcode =>
      exact quiet (storage.temporaryPath_leads shortcode)
  | publish path objectKey =>
      exact quiet (SourceStorage.publish_leads stored storage path objectKey)
  | delete objectKey =>
      exact quiet (SourceStorage.delete_leads stored objectKey)
  | cleanupTemporary path =>
      exact quiet (SourceStorage.cleanupTemporary_leads stored storage path)
  | _ => exact ⟨permitted, fun _ _ => ⟨trivial, rfl⟩⟩

def Free (hold : Hold) : Prop := hold.run = none

def Claimed (claim : Option InstagramCollectionRun) (hold : Hold) : Prop :=
  match claim with
  | some run => Works run.id hold
  | none => Free hold

def Settling (claim : Option InstagramCollectionRun) (hold : Hold) : Prop :=
  match claim with
  | some run => Holds run.id hold
  | none => True

theorem stage_rules (storage : SourceStorage) (engine : CollectorEngine)
    (accountId : UUID) (claim : Option InstagramCollectionRun) :
    Operator.StageRules protocol (Claimed claim) (Settling claim) storage engine
      accountId claim where
  weaken := by
    intro hold claimed
    cases claim with
    | none => trivial
    | some run => exact holds_of_works hold claimed
  supervises := supervision_steady _
  supervisesEnded := supervision_steady _
  collects := by
    cases claim with
    | none =>
        exact (collect_created_leads engine _ rfl).handle
          (adapter_implements storage)
    | some run =>
        exact (collect_claimed_leads engine _ run.id rfl).handle
          (adapter_implements storage)
  fails := by
    intro reasonCode
    cases claim with
    | none => exact leads_pure fun _ kept => kept
    | some run =>
        exact leads_perform (fun _ holds => holds) fun _ _ kept _ => kept
  cancels := by
    intro run shape
    subst shape
    exact leads_perform (fun _ _ => trivial)
      fun hold _ works _ => holds_of_works hold works

theorem activeRunBlocks_leads {steady : Hold → Prop} (accountId : UUID)
    (claim : Option InstagramCollectionRun) :
    Leads protocol steady steady
      (Operator.activeRunBlocks accountId claim) := by
  unfold Operator.activeRunBlocks
  split
  · exact leads_perform (fun _ _ => trivial) fun _ _ kept _ => kept
  · exact leads_pure fun _ kept => kept

theorem connectAccount_leads {steady : Hold → Prop} (accountId : UUID) :
    Leads protocol steady steady (Operator.connectAccount accountId) := by
  refine Leads.bind
    (leads_perform (fun _ _ => trivial) fun _ _ kept _ => kept)
    (fun status => ?_) fun _ kept => kept
  split
  · exact leads_pure fun _ kept => kept
  · exact leads_perform (fun _ _ => trivial) fun _ _ kept _ => kept

theorem afterClaim_leads (storage : SourceStorage) (engine : CollectorEngine)
    (accountId : UUID) (existingFeed : Bool)
    (claim : Option InstagramCollectionRun) :
    Leads protocol (Claimed claim) (fun _ => True)
      (Operator.afterClaim storage engine accountId existingFeed claim) := by
  have rules := stage_rules storage engine accountId claim
  have supervised := (Operator.runClaimed_leads rules existingFeed).weaken
    (fun _ kept => kept) fun _ _ => trivial
  unfold Operator.afterClaim
  split
  · exact ((rules.fails _).bind (fun _ => leads_pure fun _ kept => kept)
      fun _ kept => kept).weaken rules.weaken fun _ _ => trivial
  · refine Leads.bind (activeRunBlocks_leads accountId claim)
      (fun blocked => ?_) fun _ _ => trivial
    split
    · exact leads_raise fun _ _ => trivial
    · exact (connectAccount_leads accountId).bind (fun _ => supervised)
        fun _ _ => trivial

theorem runStage3B_follows (storage : SourceStorage)
    (engine : CollectorEngine) (accountId : UUID) (existingFeed : Bool) :
    Follows protocol Hold.idle
      (Operator.runStage3B storage engine accountId existingFeed)
      fun _ _ => True := by
  have continued := afterClaim_leads storage engine accountId existingFeed
  refine ⟨trivial, fun ensured _ => ?_⟩
  cases ensured with
  | error fault => trivial
  | ok _ =>
      refine ⟨rfl, fun claimed _ => ?_⟩
      cases claimed with
      | error fault => trivial
      | ok claim =>
          cases claim with
          | none => exact continued none Hold.idle rfl
          | some run => exact continued (some run) ⟨some run.id, true⟩ rfl

theorem unitProgram_follows {α : Type} {program : WorldProgram α}
    (follows : Follows protocol Hold.idle program fun _ _ => True) :
    Follows protocol Hold.idle (unitProgram program) fun _ _ => True := by
  refine follows.attempt fun outcome _ _ => ?_
  cases outcome with
  | ok value => trivial
  | error fault => trivial

theorem programs_follow (job : Job) :
    Follows protocol Hold.idle job.program fun _ _ => True := by
  cases job with
  | collect storage engine accountId trigger targetCount desiredAccountTotal =>
      exact unitProgram_follows ((collect_created_leads engine _ rfl).handle
        (adapter_implements storage) Hold.idle rfl)
  | runStage3B storage engine accountId existingFeed =>
      exact unitProgram_follows
        (runStage3B_follows storage engine accountId existingFeed)
  | createCollectionRun accountId target =>
      exact unitProgram_follows ⟨trivial, fun _ _ => trivial⟩
  | cancelCollectionRun accountId runId =>
      exact unitProgram_follows ⟨trivial, fun _ _ => trivial⟩
  | cancelRun runId =>
      exact unitProgram_follows ⟨trivial, fun _ _ => trivial⟩

/-- A process that reads that its run is running may end it, whatever is
committed before its update. -/
def permitsCall (hold : Hold) : RunCall → Prop
  | .world request => isSplit request = false ∧ permits hold request
  | .selectRun _ | .accountDurableCount _ => True
  | .updateRun _ (.cancelled _) => True
  | .updateRun runId (.failed _) | .updateRun runId .completed =>
      hold = ⟨some runId, true⟩

def advanceCall (hold : Hold) : (request : RunCall) →
    Except CollectorFault (RunReply request) → Hold
  | .world request, reply => advance hold request reply
  | .selectRun runId, .ok (some run) =>
      if hold.run = some runId ∧ run.status = .running then
        { hold with live := true }
      else hold
  | .updateRun _ _, _ => hold.release
  | _, _ => hold

def callProtocol : Protocol RunCall RunReply CollectorFault Hold where
  permits := permitsCall
  assumes := fun _ _ _ => True
  advance := advanceCall

/-- What a process may still write without looking it may also write between
the statements of a transaction. -/
structure Covers (hold below : Hold) : Prop where
  run : below.run = hold.run
  live : hold.live = true → below.live = true

theorem Covers.release {hold below : Hold} (covers : Covers hold below) :
    Covers hold.release below := ⟨covers.run, nofun⟩

theorem Covers.released {hold below : Hold} (covers : Covers hold below) :
    Covers hold.release below.release := ⟨covers.run, nofun⟩

theorem Covers.works {hold below : Hold} {runId : UUID}
    (covers : Covers hold below) (works : hold = ⟨some runId, true⟩) :
    below = ⟨some runId, true⟩ := by
  subst works
  obtain ⟨run, live⟩ := below
  have same : run = some runId := covers.run
  have lives : live = true := covers.live rfl
  rw [same, lives]

theorem Covers.permits {hold below : Hold} (covers : Covers hold below)
    {request : WorldCall} (permitted : RunLifecycle.permits hold request) :
    RunLifecycle.permits below request := by
  cases request with
  | engine request =>
      cases request with
      | createRun accountId trigger targetCount =>
          exact covers.run.trans permitted
      | commitAvailable runId candidate => exact covers.works permitted
      | commitSource runId candidate source objectKey =>
          exact covers.works permitted
      | recordFailure runId candidate reasonCode attempted =>
          exact covers.works permitted
      | completeRun runId => exact covers.works permitted
      | completeIfAccountDurableTotal runId desiredTotal =>
          exact covers.run.trans permitted
      | failRun runId reasonCode => exact covers.run.trans permitted
      | _ => trivial
  | claimQueuedRun accountId => exact covers.run.trans permitted
  | _ => trivial

theorem Covers.advance {hold below : Hold} (covers : Covers hold below)
    {request : WorldCall} (unsplit : isSplit request = false)
    (reply : Except CollectorFault (WorldReply request)) :
    Covers (RunLifecycle.advance hold request reply)
      (RunLifecycle.advance below request reply) := by
  cases request with
  | engine request =>
      cases request with
      | createRun accountId trigger targetCount =>
          cases reply with
          | ok runId => exact ⟨rfl, fun _ => rfl⟩
          | error fault => exact covers
      | failRun runId reasonCode => cases unsplit
      | cancelRun runId reasonCode => cases unsplit
      | completeRun runId => cases unsplit
      | completeIfAccountDurableTotal runId desiredTotal => cases unsplit
      | _ => exact covers
  | claimQueuedRun accountId =>
      cases reply with
      | error fault => exact covers
      | ok claimed =>
          cases claimed with
          | none => exact covers
          | some run => exact ⟨rfl, fun _ => rfl⟩
  | _ => exact covers

section

variable {hold below : Hold} {runId : UUID}

theorem Covers.selects (covers : Covers hold below) (runId : UUID)
    (run : InstagramCollectionRun) :
    Covers hold (advanceCall below (.selectRun runId) (.ok (some run))) := by
  unfold advanceCall
  dsimp only
  split
  · exact ⟨covers.run, fun _ => rfl⟩
  · exact covers

theorem Covers.running (covers : Covers hold below)
    (owner : hold.run = some runId) {run : InstagramCollectionRun}
    (running : run.status = .running) :
    advanceCall below (.selectRun runId) (.ok (some run)) =
      ⟨some runId, true⟩ := by
  have same : below.run = some runId := covers.run.trans owner
  unfold advanceCall
  dsimp only
  rw [if_pos ⟨same, running⟩, same]

def EndsRun {α : Type} (hold below : Hold) (program : RunProgram α) : Prop :=
  Follows callProtocol below program fun _ reached =>
    Covers hold.release reached

theorem endsRun_pure {α : Type} (covers : Covers hold below) (value : α) :
    EndsRun hold below (pure value : RunProgram α) :=
  covers.release

theorem endsRun_update {update : RunUpdate} (covers : Covers hold below)
    (permitted : permitsCall below (.updateRun runId update)) :
    EndsRun hold below (execute (.updateRun runId update)) :=
  ⟨permitted, fun _ _ => covers.released⟩

theorem EndsRun.bind {α β : Type} {program : RunProgram α}
    {next : α → RunProgram β}
    (first : EndsRun hold below program)
    (returns : ∀ value, ∃ result, next value = pure result) :
    EndsRun hold below (program >>= next) := by
  refine Follows.bind first (fun value reached covers => ?_)
    fun _ _ covers => covers
  obtain ⟨result, same⟩ := returns value
  rw [same]
  exact covers

theorem endsRun_select {α : Type}
    {next : Option InstagramCollectionRun → RunProgram α}
    (covers : Covers hold below) (absent : EndsRun hold below (next none))
    (found : ∀ run,
      EndsRun hold (advanceCall below (.selectRun runId) (.ok (some run)))
        (next (some run))) :
    EndsRun hold below (execute (.selectRun runId) >>= next) := by
  refine ⟨trivial, fun reply _ => ?_⟩
  cases reply with
  | error fault => exact covers.release
  | ok selected =>
      cases selected with
      | none => exact absent
      | some run => exact found run

theorem failRun_ends (covers : Covers hold below)
    (owner : hold.run = some runId) (reasonCode : String) :
    EndsRun hold below (failRun runId reasonCode) := by
  apply endsRun_select covers
  · exact endsRun_pure covers _
  · intro run
    by_cases running : run.status = .running
    · simp only [if_pos running]
      exact endsRun_update (covers.selects runId run)
        (covers.running owner running)
    · simp only [if_neg running]
      exact endsRun_pure (covers.selects runId run) ()

theorem cancelRun_ends (covers : Covers hold below) (reasonCode : String) :
    EndsRun hold below (cancelRun runId reasonCode) := by
  apply endsRun_select covers
  · exact endsRun_pure covers _
  · intro run
    by_cases active : run.status = .queued ∨ run.status = .running
    · simp only [if_pos active]
      have update : EndsRun hold _
          (execute (.updateRun runId (.cancelled reasonCode))) :=
        endsRun_update (covers.selects runId run) trivial
      exact update.bind fun _ => ⟨_, rfl⟩
    · simp only [if_neg active]
      exact endsRun_pure (covers.selects runId run) _

theorem completeRun_ends (covers : Covers hold below)
    (works : hold = ⟨some runId, true⟩) :
    EndsRun hold below (completeRun runId) := by
  apply endsRun_select covers
  · exact endsRun_pure covers _
  · intro run
    have selected := covers.selects runId run
    exact endsRun_update selected (selected.works works)

theorem completeIfAccountDurableTotal_ends (covers : Covers hold below)
    (owner : hold.run = some runId) (desiredTotal : Nat) :
    EndsRun hold below
      (completeIfAccountDurableTotal runId desiredTotal) := by
  apply endsRun_select covers
  · exact endsRun_pure covers _
  · intro run
    have selected := covers.selects runId run
    by_cases running : run.status = .running
    · simp only [if_neg (not_not.mpr running)]
      refine ⟨trivial, fun reply _ => ?_⟩
      cases reply with
      | error fault => exact selected.release
      | ok count =>
          change EndsRun hold _ (if _ then _ else _)
          split
          · exact endsRun_pure selected _
          · have update : EndsRun hold _
                (execute (.updateRun runId .completed)) :=
              endsRun_update selected (covers.running owner running)
            exact update.bind fun _ => ⟨_, rfl⟩
    · simp only [if_pos running]
      exact endsRun_pure selected _

end

theorem transaction_implements (hold below : Hold) (request : WorldCall)
    (covers : Covers hold below)
    (permitted : protocol.permits hold request) :
    Follows callProtocol below (transaction request) fun reply reached =>
      protocol.assumes hold request reply ∧
        Covers (protocol.advance hold request reply) reached := by
  have ended : ∀ {α : Type} {program : RunProgram α},
      EndsRun hold below program →
      Follows callProtocol below program fun _ reached =>
        True ∧ Covers hold.release reached :=
    fun ends => Follows.mono ends fun _ _ covers => ⟨trivial, covers⟩
  cases split : isSplit request with
  | false =>
      rw [transaction_unsplit split]
      exact ⟨⟨split, covers.permits permitted⟩,
        fun reply _ => ⟨trivial, covers.advance split reply⟩⟩
  | true =>
      cases request with
      | engine request =>
          cases request with
          | failRun runId reasonCode =>
              exact ended (failRun_ends covers permitted reasonCode)
          | cancelRun runId reasonCode =>
              exact ended (cancelRun_ends covers reasonCode)
          | completeRun runId => exact ended (completeRun_ends covers permitted)
          | completeIfAccountDurableTotal runId desiredTotal =>
              exact ended (completeIfAccountDurableTotal_ends covers permitted
                desiredTotal)
          | _ => cases split
      | _ => cases split

theorem statements_follow (job : Job) :
    Follows callProtocol Hold.idle (job.program.handle transaction)
      fun _ _ => True :=
  ((programs_follow job).simulate transaction_implements
    ⟨rfl, fun live => live⟩).mono fun _ _ _ => trivial

end OfflineReels.Collector.RunLifecycle
