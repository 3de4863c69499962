import OfflineReels.Collector.RunHolds

namespace OfflineReels.Collector.RunLifecycle

open OfflineReels.Foundation
open OfflineReels.Foundation.Program
open OfflineReels.Instagram
open OfflineReels.Collector.RunTransactions

/-! The life of collection runs under all their writers: the control plane, the
claim, the operator's cancellation and the engines at work. -/

def Fits (live : Bool) (status : CollectionRunStatus) : Prop :=
  status ≠ .queued ∧
    (live = true → status = .running ∨ status = .cancelled)

structure HoldInvariant (database : Database) (holds : ThreadId → Hold) :
    Prop where
  unique : ∀ first second runId, (holds first).run = some runId →
    (holds second).run = some runId → first = second
  fits : ∀ thread runId, (holds thread).run = some runId →
    ∃ run ∈ database.runs, run.id = runId ∧
      Fits (holds thread).live run.status

namespace HoldInvariant

variable {before after : Database} {holds : ThreadId → Hold}
variable {run next : InstagramCollectionRun}

theorem fits_row (invariant : HoldInvariant before holds) {thread : ThreadId}
    (member : run ∈ before.runs) (held : (holds thread).run = some run.id) :
    Fits (holds thread).live run.status := by
  obtain ⟨other, otherMember, same, fits⟩ := invariant.fits thread run.id held
  obtain rfl := Table.eq_of_key_eq otherMember member same
  exact fits

theorem of_runs (invariant : HoldInvariant before holds)
    (runs : after.runs = before.runs) : HoldInvariant after holds where
  unique := invariant.unique
  fits := by
    intro thread runId held
    rw [runs]
    exact invariant.fits thread runId held

theorem of_insert (invariant : HoldInvariant before holds)
    (inserted : before.runs.insert? run = some after.runs) :
    HoldInvariant after holds where
  unique := invariant.unique
  fits := by
    intro thread runId held
    obtain ⟨other, member, same, fits⟩ := invariant.fits thread runId held
    exact ⟨other, (Table.mem_insert? inserted).mpr (Or.inl member), same, fits⟩

theorem of_rewrite (invariant : HoldInvariant before holds)
    (rewrites : Rewrites before after run next)
    (fitting : ∀ thread, (holds thread).run = some run.id →
      Fits (holds thread).live next.status) : HoldInvariant after holds where
  unique := invariant.unique
  fits := by
    intro thread runId held
    obtain ⟨other, member, same, fits⟩ := invariant.fits thread runId held
    by_cases rewritten : other.id = run.id
    · have owner : runId = run.id := same.symm.trans rewritten
      subst owner
      exact ⟨next, (rewrites.mem next).mpr (Or.inl rfl), rewrites.key,
        fitting thread held⟩
    · exact ⟨other, (rewrites.mem other).mpr (Or.inr ⟨member, rewritten⟩),
        same, fits⟩

theorem rehold (invariant : HoldInvariant before holds) {thread : ThreadId}
    {hold : Hold}
    (run : ∀ runId, hold.run = some runId → (holds thread).run = some runId)
    (fits : ∀ runId, hold.run = some runId → ∃ row ∈ before.runs,
      row.id = runId ∧ Fits hold.live row.status) :
    HoldInvariant before (Function.update holds thread hold) := by
  have held : ∀ other runId,
      (Function.update holds thread hold other).run = some runId →
      (holds other).run = some runId := by
    intro other runId owner
    by_cases same : other = thread
    · subst other
      rw [Function.update_self] at owner
      exact run runId owner
    · rwa [Function.update_of_ne same] at owner
  refine ⟨fun first second runId left right =>
    invariant.unique first second runId (held first runId left)
      (held second runId right), fun other runId owner => ?_⟩
  by_cases same : other = thread
  · subst other
    rw [Function.update_self] at owner ⊢
    exact fits runId owner
  · rw [Function.update_of_ne same] at owner ⊢
    exact invariant.fits other runId owner

theorem update (invariant : HoldInvariant before holds) {thread : ThreadId}
    {hold : Hold}
    (run : ∀ runId, hold.run = some runId → (holds thread).run = some runId)
    (live : hold.live = true → (holds thread).live = true) :
    HoldInvariant before (Function.update holds thread hold) := by
  refine invariant.rehold run fun runId owner => ?_
  obtain ⟨row, member, key, fits⟩ :=
    invariant.fits thread runId (run runId owner)
  exact ⟨row, member, key, fits.1, fun lives => fits.2 (live lives)⟩

theorem revive (invariant : HoldInvariant before holds) {thread : ThreadId}
    (member : run ∈ before.runs) (owner : (holds thread).run = some run.id)
    (running : run.status = .running) :
    HoldInvariant before
      (Function.update holds thread { holds thread with live := true }) := by
  refine invariant.rehold (fun _ held => held) fun runId held => ?_
  refine ⟨run, member, Option.some.inj (owner.symm.trans held), ?_⟩
  rw [running]
  exact ⟨nofun, fun _ => Or.inl rfl⟩

theorem release (invariant : HoldInvariant before holds) (thread : ThreadId) :
    HoldInvariant before
      (Function.update holds thread (holds thread).release) :=
  invariant.update (fun _ held => held) nofun

theorem acquire (invariant : HoldInvariant before holds) {thread : ThreadId}
    (member : run ∈ before.runs) (running : run.status = .running)
    (unheld : ∀ other, (holds other).run ≠ some run.id) :
    HoldInvariant before
      (Function.update holds thread ⟨some run.id, true⟩) where
  unique := by
    intro first second runId left right
    by_cases firstSame : first = thread
    · by_cases secondSame : second = thread
      · rw [firstSame, secondSame]
      · subst firstSame
        rw [Function.update_self] at left
        rw [Function.update_of_ne secondSame, ← left] at right
        exact absurd right (unheld second)
    · rw [Function.update_of_ne firstSame] at left
      by_cases secondSame : second = thread
      · subst secondSame
        rw [Function.update_self] at right
        rw [← right] at left
        exact absurd left (unheld first)
      · rw [Function.update_of_ne secondSame] at right
        exact invariant.unique first second runId left right
  fits := by
    intro other runId held
    by_cases same : other = thread
    · subst same
      rw [Function.update_self] at held ⊢
      refine ⟨run, member, Option.some.inj held, ?_, fun _ => Or.inl running⟩
      rw [running]
      nofun
    · rw [Function.update_of_ne same] at held ⊢
      exact invariant.fits other runId held

theorem of_owner_rewrite (invariant : HoldInvariant before holds)
    {thread : ThreadId} (rewrites : Rewrites before after run next)
    (owner : (holds thread).run = some run.id)
    (started : next.status ≠ .queued) :
    HoldInvariant after
      (Function.update holds thread (holds thread).release) := by
  refine (invariant.release thread).of_rewrite rewrites fun other held => ?_
  by_cases same : other = thread
  · subst same
    rw [Function.update_self]
    exact ⟨started, nofun⟩
  · rw [Function.update_of_ne same] at held
    exact absurd (invariant.unique other thread run.id held owner) same

theorem resets (invariant : HoldInvariant before holds) (thread : ThreadId) :
    HoldInvariant before (Function.update holds thread Hold.idle) :=
  invariant.update nofun nofun

end HoldInvariant

/-- The run that a call writes to, and the statuses that another process may
have ended it with. -/
def contested : RunCall → Option (UUID × List CollectionRunStatus)
  | .world (.engine (.commitAvailable runId _)) => some (runId, [.cancelled])
  | .world (.engine (.commitSource runId _ _ _)) => some (runId, [.cancelled])
  | .world (.engine (.recordFailure runId _ _ _)) => some (runId, [.cancelled])
  | .updateRun runId (.failed _) => some (runId, [.cancelled])
  | .updateRun runId .completed => some (runId, [.cancelled])
  | .updateRun runId (.cancelled _) => some (runId, [.completed, .failed])
  | _ => none

/-- No engine adds an item to its run, fails or completes it, after the run was
cancelled under it; and nobody cancels a run that its engine has ended since it
was read. -/
def Uncontested (_ : ThreadId) (world : World) (_ : ThreadId → Hold)
    (request : RunCall) : Prop :=
  ∀ written ∈ contested request, ∀ run ∈ world.database.runs,
    run.id = written.1 → run.status ∉ written.2

instance (thread : ThreadId) (world : World) (holds : ThreadId → Hold)
    (request : RunCall) :
    Decidable (Uncontested thread world holds request) :=
  inferInstanceAs (Decidable (∀ written ∈ contested request,
    ∀ run ∈ world.database.runs, run.id = written.1 → run.status ∉ written.2))

theorem Uncontested.uncancelled {thread : ThreadId} {world : World}
    {holds : ThreadId → Hold} {request : RunCall} {runId : UUID}
    (uncontested : Uncontested thread world holds request)
    (written : contested request = some (runId, [.cancelled])) :
    ∀ run ∈ world.database.runs, run.id = runId → run.status ≠ .cancelled := by
  intro run member same cancelled
  apply uncontested _ written run member same
  rw [cancelled]
  exact List.mem_singleton_self _

/-- One step of a process keeps the invariant and is lawful. -/
structure StepKept (before after : Database) (holds reached : ThreadId → Hold) :
    Prop where
  invariant : HoldInvariant after reached
  lawful : Lawful before after

theorem advance_error (hold : Hold) (request : WorldCall)
    (fault : CollectorFault) :
    advance hold request (.error fault) = hold ∨
      advance hold request (.error fault) = hold.release := by
  cases request with
  | engine request =>
      cases request <;> first
        | exact Or.inl rfl
        | exact Or.inr rfl
  | _ => exact Or.inl rfl

theorem advance_other (hold : Hold) (request : WorldCall)
    (reply : Except CollectorFault (WorldReply request))
    (other : World.writesRuns request = false) :
    advance hold request reply = hold := by
  cases request with
  | engine request =>
      cases request <;> first
        | rfl
        | cases other
  | _ => first
    | rfl
    | cases other

section

variable {world : World} {holds : ThreadId → Hold} {thread : ThreadId}
variable {after : Database} {run next : InstagramCollectionRun}
variable (invariant : HoldInvariant world.database holds)

include invariant

theorem kept_of_error (request : WorldCall) (fault : CollectorFault) :
    StepKept world.database world.database holds
      (Function.update holds thread
        (advance (holds thread) request (.error fault))) where
  invariant := by
    rcases advance_error (holds thread) request fault with same | released
    · rw [same, Function.update_eq_self]
      exact invariant
    · rw [released]
      exact invariant.release thread
  lawful := lawful_refl _

theorem kept_of_runs (runs : after.runs = world.database.runs)
    (items : after.items = world.database.items) :
    StepKept world.database after holds
      (Function.update holds thread (holds thread)) where
  invariant := by
    rw [Function.update_eq_self]
    exact invariant.of_runs runs
  lawful := lawful_of_same runs items

theorem kept_of_insert
    (inserted : world.database.runs.insert? run = some after.runs)
    (active : run.status.isActive = true)
    (items : after.items = world.database.items) :
    StepKept world.database after holds
      (Function.update holds thread (holds thread)) where
  invariant := by
    rw [Function.update_eq_self]
    exact invariant.of_insert inserted
  lawful := lawful_of_insert inserted active items

theorem kept_of_move (rewrites : Rewrites world.database after run next)
    (move : Moves run next) (active : run.status.isActive = true)
    (fitting : ∀ other, (holds other).run = some run.id →
      Fits (holds other).live next.status)
    (items : after.items = world.database.items) :
    StepKept world.database after holds
      (Function.update holds thread (holds thread)) where
  invariant := by
    rw [Function.update_eq_self]
    exact invariant.of_rewrite rewrites fitting
  lawful := rewrites.lawful move active fun _ member _ => items ▸ member

theorem kept_of_end (rewrites : Rewrites world.database after run next)
    (move : Moves run next) (active : run.status.isActive = true)
    (owner : (holds thread).run = some run.id)
    (started : next.status ≠ .queued)
    (items : after.items = world.database.items) :
    StepKept world.database after holds
      (Function.update holds thread (holds thread).release) where
  invariant := invariant.of_owner_rewrite rewrites owner started
  lawful := rewrites.lawful move active fun _ member _ => items ▸ member

theorem kept_of_item {now : Time} {itemId : UUID} {reel : InstagramReel}
    {outcome : RunItemOutcome} {middle : Database} {runId : UUID}
    (added : Persistence.ItemAdded middle now itemId runId reel outcome after)
    (runs : middle.runs = world.database.runs)
    (items : middle.items = world.database.items)
    (works : holds thread = ⟨some runId, true⟩)
    (uncancelled : ∀ run ∈ world.database.runs, run.id = runId →
      run.status ≠ .cancelled) :
    StepKept world.database after holds
      (Function.update holds thread (holds thread)) := by
  obtain ⟨run, rows, _, found, itemRows, inserted, _, owner, _, _, written⟩ :=
    added.rows
  rw [runs] at found written
  rw [items] at inserted
  obtain ⟨member, key⟩ := Table.find?_eq_some.mp found
  have held : (holds thread).run = some run.id := by rw [works, key]
  have fits := invariant.fits_row member held
  have running : run.status = .running := by
    rcases fits.2 (by rw [works]) with running | cancelled
    · exact running
    · exact absurd cancelled (uncancelled run member key)
  have status : (Persistence.counted run outcome).status = run.status := by
    cases outcome <;> rfl
  have identifier : (Persistence.counted run outcome).id = run.id := by
    cases outcome <;> rfl
  have rewrites : Rewrites world.database after run
      (Persistence.counted run outcome) := ⟨member, identifier, written⟩
  refine ⟨?_, rewrites.lawful (Or.inl status) (by rw [running]; rfl) ?_⟩
  · rw [Function.update_eq_self]
    refine invariant.of_rewrite rewrites fun other otherHeld => ?_
    rw [status]
    exact invariant.fits_row member otherHeld
  · intro other otherMember different
    rw [itemRows] at otherMember
    rcases (Table.mem_insert? inserted).mp otherMember with old | rfl
    · exact old
    · exact absurd (owner.trans key.symm) different

end

section

variable {world : World} {holds : ThreadId → Hold} {thread : ThreadId}
variable (invariant : HoldInvariant world.database holds)

include invariant

theorem kept_of_commit {ε : Type} {request : WorldCall}
    {reply : Except CollectorFault (WorldReply request)}
    {outcome : Except ε Database}
    (replied : (∃ fault, (world.commit outcome).2 = .error fault) →
      ∃ fault, reply = .error fault)
    (committed : ∀ database, outcome = .ok database →
      StepKept world.database database holds
        (Function.update holds thread (advance (holds thread) request reply))) :
    StepKept world.database (world.commit outcome).1.database holds
      (Function.update holds thread
        (advance (holds thread) request reply)) := by
  rcases world.commit_cases outcome with ⟨fault, shape⟩ | ⟨database, same, shape⟩
  · obtain ⟨raised, rfl⟩ := replied ⟨fault, by rw [shape]⟩
    rw [shape]
    exact kept_of_error invariant request raised
  · rw [shape]
    exact committed database same

theorem kept_of_transaction {ε α : Type} {request : WorldCall}
    {reply : Except CollectorFault (WorldReply request)}
    {outcome : Except ε (Database × α)}
    (replied : (∃ fault, (world.transaction outcome).2 = .error fault) →
      ∃ fault, reply = .error fault)
    (committed : ∀ database value, outcome = .ok (database, value) →
      StepKept world.database database holds
        (Function.update holds thread (advance (holds thread) request reply))) :
    StepKept world.database (world.transaction outcome).1.database holds
      (Function.update holds thread
        (advance (holds thread) request reply)) := by
  rcases world.transaction_cases outcome with
    ⟨fault, shape⟩ | ⟨database, value, same, shape⟩
  · obtain ⟨raised, rfl⟩ := replied ⟨fault, by rw [shape]⟩
    rw [shape]
    exact kept_of_error invariant request raised
  · rw [shape]
    exact committed database value same

end

theorem find_run {database : Database} {runId : UUID}
    {run : InstagramCollectionRun}
    (found : database.runs.find? runId = some run) :
    run ∈ database.runs ∧ run.id = runId := Table.find?_eq_some.mp found

theorem rewrites_of_write {database after : Database}
    {run next : InstagramCollectionRun}
    (written : database.writeRun next = .ok after)
    (member : run ∈ database.runs) (key : next.id = run.id) :
    Rewrites database after run next ∧ after.items = database.items := by
  obtain ⟨_, _, rfl⟩ := Database.writeRun_eq_ok written
  exact ⟨⟨member, key, rfl⟩, rfl⟩

theorem inserted_of_insert {database after : Database}
    {run : InstagramCollectionRun}
    (inserted : database.insertRun run = .ok after) :
    database.runs.insert? run = some after.runs ∧
      after.items = database.items := by
  obtain ⟨_, rows, _, _, rfl⟩ := Database.insertRun_eq_ok inserted
  exact ⟨rows, rfl⟩

theorem kept_of_unlearned {after : Database} {holds : ThreadId → Hold}
    {thread : ThreadId} (grown : HoldInvariant after holds) :
    HoldInvariant after (Function.update holds thread (holds thread)) := by
  rw [Function.update_eq_self]
  exact grown

theorem fits_cancelled (live : Bool) : Fits live .cancelled :=
  ⟨nofun, fun _ => Or.inr rfl⟩

section

variable {world : World} {holds : ThreadId → Hold} {thread : ThreadId}
variable {draw : Draw} {after : Database}
variable (invariant : HoldInvariant world.database holds)

include invariant

theorem createRun_kept {accountId : UUID} {trigger : CollectionTrigger}
    {targetCount : Nat} {reply : Except CollectorFault UUID}
    (replied : reply = .ok draw.runId ∨ ∃ fault, reply = .error fault)
    (created : Persistence.createRun world.database draw.now draw.runId
      accountId trigger targetCount = .ok after) :
    StepKept world.database after holds
      (Function.update holds thread (advance (holds thread)
        (.engine (.createRun accountId trigger targetCount)) reply)) := by
  unfold Persistence.createRun at created
  split at created
  · cases created
  obtain ⟨rows, items⟩ := inserted_of_insert created
  have grown := invariant.of_insert rows
  refine ⟨?_, lawful_of_insert rows rfl items⟩
  rcases replied with rfl | ⟨fault, rfl⟩
  · refine grown.acquire ((Table.mem_insert? rows).mpr (Or.inr rfl)) rfl ?_
    intro other held
    obtain ⟨run, member, key, _⟩ := invariant.fits other _ held
    exact (Table.insert?_eq_some rows).1 run member key
  · exact kept_of_unlearned grown

theorem claimQueuedRun_kept {accountId : UUID}
    {claimed : Option InstagramCollectionRun}
    {reply : Except CollectorFault (Option InstagramCollectionRun)}
    (replied : reply = .ok claimed ∨ ∃ fault, reply = .error fault)
    (succeeded : Persistence.claimQueuedRun world.database draw.now draw.locked
      accountId = .ok (after, claimed)) :
    StepKept world.database after holds
      (Function.update holds thread
        (advance (holds thread) (.claimQueuedRun accountId) reply)) := by
  rcases Persistence.claimQueuedRun_eq_ok succeeded with
    ⟨rfl, rfl⟩ | ⟨run, member, queued, _, rfl, written⟩
  · refine ⟨?_, lawful_refl _⟩
    rcases replied with rfl | ⟨fault, rfl⟩
    · exact kept_of_unlearned invariant
    · exact kept_of_unlearned invariant
  · obtain ⟨rewrites, items⟩ := rewrites_of_write written member rfl
    have unheld : ∀ other, (holds other).run ≠ some run.id := by
      intro other held
      exact (invariant.fits_row member held).1 queued
    have moved := invariant.of_rewrite rewrites fun other held =>
      absurd held (unheld other)
    have lawful : Lawful world.database after := by
      refine rewrites.lawful (Or.inr ?_) (by rw [queued]; rfl)
        fun _ itemMember _ => items ▸ itemMember
      rw [queued]
      rfl
    refine ⟨?_, lawful⟩
    rcases replied with rfl | ⟨fault, rfl⟩
    · exact moved.acquire ((rewrites.mem _).mpr (Or.inl rfl)) rfl unheld
    · exact kept_of_unlearned moved

theorem selectRun_kept {runId : UUID}
    {reply : Except CollectorFault (Option InstagramCollectionRun)}
    (replied : reply = .ok (world.database.runs.find? runId) ∨
      ∃ fault, reply = .error fault) :
    StepKept world.database world.database holds
      (Function.update holds thread
        (advanceCall (holds thread) (.selectRun runId) reply)) := by
  have unmoved : StepKept world.database world.database holds
      (Function.update holds thread (holds thread)) :=
    kept_of_runs invariant rfl rfl
  rcases replied with rfl | ⟨fault, rfl⟩
  · cases found : world.database.runs.find? runId with
    | none => exact unmoved
    | some run =>
        obtain ⟨member, rfl⟩ := find_run found
        unfold advanceCall
        dsimp only
        split
        · rename_i own
          exact ⟨invariant.revive member own.1 own.2, lawful_refl _⟩
        · exact unmoved
  · exact unmoved

/-- The engine ends its run.  Here the condition is needed: since the row was
read the run may have been cancelled. -/
theorem endRun_kept {runId : UUID} {update : RunUpdate}
    (works : holds thread = ⟨some runId, true⟩)
    (uncancelled : ∀ run ∈ world.database.runs, run.id = runId →
      run.status ≠ .cancelled)
    (ends : ∀ run, (update.apply draw.now run).status = .failed ∨
      (update.apply draw.now run).status = .completed)
    (updated : updateRun world.database draw.now runId update = .ok after) :
    StepKept world.database after holds
      (Function.update holds thread (holds thread).release) := by
  obtain ⟨run, found, written⟩ := updateRun_eq_ok updated
  obtain ⟨member, rfl⟩ := find_run found
  obtain ⟨rewrites, items⟩ :=
    rewrites_of_write written member (update.apply_id _ run)
  have held : (holds thread).run = some run.id := by rw [works]
  have running : run.status = .running := by
    rcases (invariant.fits_row member held).2 (by rw [works]) with
      running | cancelled
    · exact running
    · exact absurd cancelled (uncancelled run member rfl)
  refine kept_of_end invariant rewrites (Or.inr ?_) ?_ held ?_ items
  · rw [running]
    rcases ends run with failed | completed
    · rw [failed]
      rfl
    · rw [completed]
      rfl
  · rw [running]
    rfl
  · rcases ends run with failed | completed
    · rw [failed]
      nofun
    · rw [completed]
      nofun

/-- Anybody may cancel: a run under work is then cancelled under it.  Since the
row was read its engine may have ended it. -/
theorem cancelRun_kept {runId : UUID} {reasonCode : String}
    (unended : ∀ run ∈ world.database.runs, run.id = runId →
      run.status ∉ [CollectionRunStatus.completed, .failed])
    (updated : updateRun world.database draw.now runId (.cancelled reasonCode) =
      .ok after) :
    StepKept world.database after holds
      (Function.update holds thread (holds thread).release) := by
  obtain ⟨run, found, written⟩ := updateRun_eq_ok updated
  obtain ⟨member, rfl⟩ := find_run found
  obtain ⟨rewrites, items⟩ := rewrites_of_write written member rfl
  have moved := invariant.of_rewrite rewrites fun other _ =>
    fits_cancelled _
  have open_ := unended run member rfl
  refine ⟨moved.release thread, ?_⟩
  cases status : run.status with
  | queued =>
      refine rewrites.lawful (Or.inr ?_) (by rw [status]; rfl)
        fun _ itemMember _ => items ▸ itemMember
      rw [status]
      rfl
  | running =>
      refine rewrites.lawful (Or.inr ?_) (by rw [status]; rfl)
        fun _ itemMember _ => items ▸ itemMember
      rw [status]
      rfl
  | cancelled => exact rewrites.settled status.symm rfl rfl rfl items
  | completed => simp [status] at open_
  | failed => simp [status] at open_

theorem createCollectionRun_kept {accountId : UUID} {target : Nat}
    {response : Nat × Management.RunResponse}
    (created : Management.createCollectionRun world.database draw.now
      draw.runId accountId target = .ok (after, response)) :
    StepKept world.database after holds
      (Function.update holds thread (holds thread)) := by
  obtain ⟨rows, items⟩ :=
    inserted_of_insert (Management.createCollectionRun_eq_ok created)
  exact kept_of_insert invariant rows rfl items

theorem cancelCollectionRun_kept {accountId runId : UUID}
    {response : Nat × Management.RunResponse}
    (cancelled : Management.cancelCollectionRun world.database draw.now
      accountId runId = .ok (after, response)) :
    StepKept world.database after holds
      (Function.update holds thread (holds thread)) := by
  rcases Management.cancelCollectionRun_eq_ok cancelled with
    rfl | ⟨run, found, _, active, written⟩
  · exact kept_of_runs invariant rfl rfl
  · obtain ⟨member, rfl⟩ := find_run found
    have key : (Management.cancelRequested run draw.now).id = run.id := by
      unfold Management.cancelRequested
      split <;> rfl
    obtain ⟨rewrites, items⟩ := rewrites_of_write written member key
    by_cases queued : run.status = .queued
    · have status : (Management.cancelRequested run draw.now).status =
          .cancelled := by
        simp [Management.cancelRequested, queued]
      refine kept_of_move invariant rewrites (Or.inr ?_) active ?_ items
      · rw [status, queued]
        rfl
      · rw [status]
        exact fun other _ => fits_cancelled _
    · have status : (Management.cancelRequested run draw.now).status =
          run.status := by
        simp [Management.cancelRequested, queued]
      refine kept_of_move invariant rewrites (Or.inl status) active ?_ items
      rw [status]
      exact fun other held => invariant.fits_row member held

theorem commitAvailable_kept {runId : UUID} {candidate : ReelCandidate}
    (works : holds thread = ⟨some runId, true⟩)
    (uncancelled : ∀ run ∈ world.database.runs, run.id = runId →
      run.status ≠ .cancelled)
    (committed : Persistence.commitAvailable world.database draw.now draw.ids
      runId candidate = .ok after) :
    StepKept world.database after holds
      (Function.update holds thread (holds thread)) := by
  obtain ⟨reel, _, _, added⟩ := Persistence.commitAvailable_eq_ok committed
  exact kept_of_item invariant added rfl rfl works uncancelled

theorem commitSource_kept {runId : UUID} {candidate : ReelCandidate}
    {source : ValidatedSource} {objectKey : SourceObjectKey}
    (works : holds thread = ⟨some runId, true⟩)
    (uncancelled : ∀ run ∈ world.database.runs, run.id = runId →
      run.status ≠ .cancelled)
    (committed : Persistence.commitSource world.database draw.now draw.ids
      runId candidate source objectKey = .ok after) :
    StepKept world.database after holds
      (Function.update holds thread (holds thread)) := by
  obtain ⟨discovered, reel, written, jobs, found, _, rfl, _, _, _, added⟩ :=
    Persistence.commitSource_eq_ok committed
  obtain ⟨runs, items⟩ := Persistence.discover_keeps_runs found
  exact kept_of_item invariant added runs items works uncancelled

theorem recordFailure_kept {runId : UUID} {candidate : ReelCandidate}
    {reasonCode : String} {attempted : Bool}
    (works : holds thread = ⟨some runId, true⟩)
    (uncancelled : ∀ run ∈ world.database.runs, run.id = runId →
      run.status ≠ .cancelled)
    (recorded : Persistence.recordFailure world.database draw.now draw.ids
      runId candidate reasonCode attempted = .ok after) :
    StepKept world.database after holds
      (Function.update holds thread (holds thread)) := by
  obtain ⟨discovered, reel, written, found, stored, added⟩ :=
    Persistence.recordFailure_eq_ok recorded
  obtain ⟨runs, items⟩ := Persistence.discover_keeps_runs found
  have same : written.runs = discovered.runs ∧
      written.items = discovered.items := by
    rcases stored with ⟨_, rfl⟩ | ⟨_, _, rfl⟩ <;> exact ⟨rfl, rfl⟩
  exact kept_of_item invariant added (same.1.trans runs)
    (same.2.trans items) works uncancelled

theorem effect_kept (request : WorldCall)
    (reply : Except CollectorFault (WorldReply request))
    (unsplit : isSplit request = false)
    (permitted : permits (holds thread) request)
    (uncontested : Uncontested thread world holds (.world request))
    (replied : reply = (world.effect draw request).2 ∨
      ∃ fault, reply = .error fault) :
    StepKept world.database (world.effect draw request).1.database holds
      (Function.update holds thread
        (advance (holds thread) request reply)) := by
  have raised : (∃ fault, (world.effect draw request).2 = .error fault) →
      ∃ fault, reply = .error fault := by
    rintro ⟨fault, shape⟩
    rcases replied with rfl | error
    · exact ⟨fault, shape⟩
    · exact error
  by_cases writes : World.writesRuns request = false
  · obtain ⟨runs, items⟩ := world.effect_keeps_runs draw request writes
    rw [advance_other (holds thread) request reply writes]
    exact kept_of_runs invariant runs items
  cases request with
  | engine request =>
      cases request with
      | createRun accountId trigger targetCount =>
          refine kept_of_transaction invariant raised
            fun database runId shape => ?_
          obtain ⟨written, created, same⟩ := map_eq_ok shape
          cases same
          refine createRun_kept invariant ?_ created
          rcases replied with rfl | error
          · left
            simp only [World.effect, World.engineEffect, World.transaction,
              shape]
          · exact Or.inr error
      | commitAvailable runId candidate =>
          exact kept_of_commit invariant raised fun database committed =>
            commitAvailable_kept invariant permitted
              (uncontested.uncancelled rfl) committed
      | commitSource runId candidate source objectKey =>
          exact kept_of_commit invariant raised fun database committed =>
            commitSource_kept invariant permitted
              (uncontested.uncancelled rfl) committed
      | recordFailure runId candidate reasonCode attempted =>
          exact kept_of_commit invariant raised fun database committed =>
            recordFailure_kept invariant permitted
              (uncontested.uncancelled rfl) committed
      | completeRun runId => cases unsplit
      | completeIfAccountDurableTotal runId desiredTotal => cases unsplit
      | failRun runId reasonCode => cases unsplit
      | cancelRun runId reasonCode => cases unsplit
      | _ => exact absurd rfl writes
  | claimQueuedRun accountId =>
      refine kept_of_transaction invariant raised
        fun database claimed succeeded =>
          claimQueuedRun_kept invariant ?_ succeeded
      rcases replied with rfl | error
      · left
        simp only [World.effect, World.transaction, succeeded]
      · exact Or.inr error
  | createCollectionRun accountId target =>
      exact kept_of_transaction invariant raised fun database _ created =>
        createCollectionRun_kept invariant created
  | cancelCollectionRun accountId runId =>
      exact kept_of_transaction invariant raised fun database _ cancelled =>
        cancelCollectionRun_kept invariant cancelled
  | _ => exact absurd rfl writes

theorem updateRun_kept {runId : UUID} (update : RunUpdate)
    (permitted : permitsCall (holds thread) (.updateRun runId update))
    (uncontested : Uncontested thread world holds (.updateRun runId update)) :
    StepKept world.database
      (effect world draw (.updateRun runId update)).1.database holds
      (Function.update holds thread (holds thread).release) := by
  rcases world.commit_cases
      (updateRun world.database draw.now runId update) with
    ⟨fault, shape⟩ | ⟨database, updated, shape⟩
  · change StepKept _ (world.commit _).1.database _ _
    rw [shape]
    exact ⟨invariant.release thread, lawful_refl _⟩
  · change StepKept _ (world.commit _).1.database _ _
    rw [shape]
    cases update with
    | failed reasonCode =>
        exact endRun_kept invariant permitted (uncontested.uncancelled rfl)
          (fun _ => Or.inl rfl) updated
    | cancelled reasonCode =>
        exact cancelRun_kept invariant (uncontested _ rfl) updated
    | completed =>
        exact endRun_kept invariant permitted (uncontested.uncancelled rfl)
          (fun _ => Or.inr rfl) updated

end

/-- The Collector's runs and the other actors, statement by statement where a
run is ended. -/
abbrev machine :
    Machine RunCall RunReply CollectorFault Hold World Job Choice where
  protocol := callProtocol
  idle := Hold.idle
  program := fun job => job.program.handle transaction
  perform := fun _ world request choice => perform world request choice

/-- What a call does besides those of one step: it takes effect, or not, and its
answer may be lost. -/
theorem perform_cases {world after : World} {request : RunCall}
    {choice : Choice} {reply : Except CollectorFault (RunReply request)}
    (performed : perform world request choice = some (after, reply)) :
    (after = world ∧ ∃ fault, reply = .error fault) ∨
      ∃ draw, after = (effect world draw request).1 ∧
        (reply = (effect world draw request).2 ∨
          ∃ fault, reply = .error fault) := by
  cases request with
  | world request =>
      rcases World.perform_cases performed with
        ⟨same, fault, _, error⟩ | ⟨draw, same, replied | ⟨fault, _, error⟩⟩
      · exact Or.inl ⟨same, fault, error⟩
      · exact Or.inr ⟨draw, same, Or.inl replied⟩
      · exact Or.inr ⟨draw, same, Or.inr ⟨fault, error⟩⟩
  | _ =>
      cases choice with
      | returns draw =>
          have shape := Option.some.inj performed
          exact Or.inr ⟨draw, (congrArg Prod.fst shape).symm,
            Or.inl (congrArg Prod.snd shape).symm⟩
      | refused fault =>
          have shape := Option.some.inj performed
          exact Or.inl ⟨(congrArg Prod.fst shape).symm, fault,
            (congrArg Prod.snd shape).symm⟩
      | lost draw fault =>
          have shape := Option.some.inj performed
          exact Or.inr ⟨draw, (congrArg Prod.fst shape).symm,
            Or.inr ⟨fault, (congrArg Prod.snd shape).symm⟩⟩

theorem kept_of_refusal {database : Database} {holds : ThreadId → Hold}
    {thread : ThreadId} (invariant : HoldInvariant database holds)
    (request : RunCall) (fault : CollectorFault) :
    StepKept database database holds
      (Function.update holds thread
        (advanceCall (holds thread) request (.error fault))) := by
  have unmoved : StepKept database database holds
      (Function.update holds thread (holds thread)) := by
    rw [Function.update_eq_self]
    exact ⟨invariant, lawful_refl _⟩
  have released : StepKept database database holds
      (Function.update holds thread (holds thread).release) :=
    ⟨invariant.release thread, lawful_refl _⟩
  cases request with
  | world request =>
      rcases advance_error (holds thread) request fault with same | gone
      · change StepKept _ _ _ (Function.update _ _ (advance _ _ _))
        rw [same]
        exact unmoved
      · change StepKept _ _ _ (Function.update _ _ (advance _ _ _))
        rw [gone]
        exact released
  | selectRun runId => exact unmoved
  | accountDurableCount accountId => exact unmoved
  | updateRun runId update => exact released

theorem perform_kept (thread : ThreadId) (world : World)
    (holds : ThreadId → Hold) (request : RunCall) (choice : Choice)
    (after : World) (reply : Except CollectorFault (RunReply request))
    (invariant : HoldInvariant world.database holds)
    (permitted : permitsCall (holds thread) request)
    (uncontested : Uncontested thread world holds request)
    (performed : perform world request choice = some (after, reply)) :
    StepKept world.database after.database holds
      (Function.update holds thread
        (advanceCall (holds thread) request reply)) := by
  rcases perform_cases performed with ⟨rfl, fault, rfl⟩ | ⟨draw, rfl, replied⟩
  · exact kept_of_refusal invariant request fault
  · cases request with
    | world request =>
        exact effect_kept invariant request reply permitted.1 permitted.2
          uncontested replied
    | selectRun runId => exact selectRun_kept invariant replied
    | accountDurableCount accountId => exact kept_of_runs invariant rfl rfl
    | updateRun runId update =>
        exact updateRun_kept invariant update permitted uncontested

theorem initial_invariant (database : Database) :
    HoldInvariant database fun _ => Hold.idle where
  unique := nofun
  fits := nofun

def availableReel : InstagramReel where
  id := 2
  shortcode := "A"
  canonicalUrl := "https://www.instagram.com/reel/A/"
  pipelineStatus := .sourceReady
  sourceObjectKey := some ⟨"A"⟩
  sourceSha256 := some (sha256 [1])
  sourceByteSize := some 1
  videoId := none
  failureReasonCode := none
  discoveredAt := some 0
  sourceReadyAt := some 0
  readyAt := none
  failedAt := none
  sourceCleanupPending := false

def startingWorld : World where
  database := { Database.empty with
    accounts := ⟨[connectedAccount], by decide⟩
    reels := ⟨[availableReel], by decide⟩ }
  objects := fun _ => none
  files := fun _ => none

def startingJob : Job :=
  .collect ⟨0, 100⟩ ⟨{}, true, true⟩ 1 .manual 1 none

def usualChoice : Choice :=
  .returns {
    now := 1
    runId := 7
    ids := ⟨5, 6, 3⟩
    candidate := ⟨"A", "https://www.instagram.com/reel/A/"⟩ }

def untilCompletion : List (Label Job Choice) :=
  .spawn 0 startingJob :: List.replicate 11 (.step 0 usualChoice)

def cancelledLate : List (Label Job Choice) :=
  untilCompletion ++
    [.spawn 1 (.cancelRun 7), .step 1 usualChoice, .step 1 usualChoice,
      .step 0 usualChoice, .step 0 usualChoice]

/-- The engine reads that its run is running before the cancellation, and fails
it afterwards. -/
def cancelledBetween : List (Label Job Choice) :=
  .spawn 0 startingJob :: List.replicate 10 (.step 0 usualChoice) ++
    [.step 0 (.refused .otherException), .step 0 usualChoice,
      .spawn 1 (.cancelRun 7), .step 1 usualChoice, .step 1 usualChoice,
      .step 0 usualChoice]

end OfflineReels.Collector.RunLifecycle
