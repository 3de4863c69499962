import OfflineReels.Collector.Engine
import OfflineReels.Foundation.Protocol

namespace OfflineReels.Collector.CollectorEngine

open OfflineReels.Foundation
open OfflineReels.Foundation.Program
open OfflineReels.Instagram

/-! Rules for the engine under a protocol.  The walk through the program is
done once; a protocol only says what each class of calls does to its phases. -/

variable {Phase Locals α β : Type}
variable {protocol : Protocol EngineCall EngineReply CollectorFault Phase}
variable {before middle after steady working ended : Phase → Prop}

def isQuiet : EngineCall → Bool
  | .cancellationRequested _ => true
  | .accountHasDurableReel _ _ => true
  | .reelStatus _ => true
  | .summary _ => true
  | .close => true
  | .clock => true
  | .sleep _ => true
  | _ => false

def isSilent : EngineCall → Bool
  | .current => true
  | .pauseCurrent => true
  | .nextFromAuthenticatedFeed _ _ => true
  | .advance => true
  | .waitForNext _ _ => true
  | request => isQuiet request

def isRecording : EngineCall → Bool
  | .record _ _ => true
  | .recordEvent _ => true
  | _ => false

def isOrdinary (request : EngineCall) : Bool :=
  isSilent request || isRecording request

def Steady (protocol : Protocol EngineCall EngineReply CollectorFault Phase)
    (steady : Phase → Prop) (request : EngineCall) : Prop :=
  Leads protocol steady steady (ask request)

section

variable (protocol) (steady)

def QuietSteady : Prop :=
  ∀ request, isQuiet request = true → Steady protocol steady request

def SilentSteady : Prop :=
  ∀ request, isSilent request = true → Steady protocol steady request

def RecordingSteady : Prop :=
  ∀ request, isRecording request = true → Steady protocol steady request

def OrdinarySteady : Prop :=
  ∀ request, isOrdinary request = true → Steady protocol steady request

end

theorem SilentSteady.quiet (silent : SilentSteady protocol steady) :
    QuietSteady protocol steady := by
  intro request quiet
  refine silent request ?_
  cases request <;> first
    | exact quiet
    | rfl

theorem OrdinarySteady.silent (ordinary : OrdinarySteady protocol steady) :
    SilentSteady protocol steady :=
  fun request silent => ordinary request (by simp [isOrdinary, silent])

theorem OrdinarySteady.recording (ordinary : OrdinarySteady protocol steady) :
    RecordingSteady protocol steady :=
  fun request recording => ordinary request (by simp [isOrdinary, recording])

theorem OrdinarySteady.quiet (ordinary : OrdinarySteady protocol steady) :
    QuietSteady protocol steady :=
  ordinary.silent.quiet

theorem swallow_leads {statement : EngineProgram Unit}
    (body : Leads protocol before after statement) :
    Leads protocol before after (swallow statement) :=
  body.rescue (fun _ => leads_pure fun _ kept => kept) fun _ kept => kept

theorem ofExcept_leads {outcome : Except CollectorFault α} :
    Leads protocol steady steady (ofExcept outcome) :=
  leads_done fun _ kept => kept

section

variable (quiet : QuietSteady protocol steady)

include quiet

theorem deadlineExpired_leads (deadline : Option Int) :
    Leads protocol steady steady (deadlineExpired deadline) := by
  cases deadline with
  | none => exact leads_pure fun _ kept => kept
  | some deadline =>
      exact (quiet .clock rfl).bind
        (fun _ => leads_pure fun _ kept => kept) fun _ kept => kept

theorem requireDeadline_leads (deadline : Option Int) :
    Leads protocol steady steady (requireDeadline deadline) := by
  refine (deadlineExpired_leads quiet deadline).bind (fun expired => ?_)
    fun _ kept => kept
  cases expired with
  | true => exact leads_raise fun _ kept => kept
  | false => exact leads_pure fun _ kept => kept

theorem raiseIfCancelRequested_leads (engine : CollectorEngine)
    (runId : UUID) :
    Leads protocol steady steady (raiseIfCancelRequested engine runId) := by
  unfold raiseIfCancelRequested
  split
  · refine (quiet (.cancellationRequested runId) rfl).bind
      (fun requested => ?_) fun _ kept => kept
    cases requested with
    | true => exact leads_raise fun _ kept => kept
    | false => exact leads_pure fun _ kept => kept
  · exact leads_pure fun _ kept => kept

theorem summarize_yields (runId : UUID) (targetCount : Nat) (counts : Counts)
    (reason : Option String) (status : CollectionRunStatus) {phase : Phase}
    (holds : steady phase) :
    Yields protocol steady phase
      (summarize runId targetCount counts reason status)
      fun summary reached => steady reached ∧ summary.runId = runId ∧
        summary.status = status ∧
        summary.observations = counts.observations := by
  have read : Yields protocol steady phase
      ((ask (.summary runId)).rescue CollectorFault.isException
        fun _ => pure (0, 0, 0, status)) fun _ => steady :=
    ((quiet (.summary runId) rfl).rescue
      (fun _ => leads_pure fun _ kept => kept) fun _ kept => kept).yields holds
  exact read.bind fun _ _ kept => ⟨kept, rfl, rfl, rfl⟩

end

theorem waitForNext_leads (silent : SilentSteady protocol steady)
    (shortcode : String) :
    Leads protocol steady steady (waitForNext shortcode) :=
  (silent (.waitForNext shortcode true) rfl).rescue
    (fun _ => silent (.waitForNext shortcode false) rfl) fun _ kept => kept

theorem recorded_leads (recording : RecordingSteady protocol steady)
    (position : Nat) (event : EventName) :
    Leads protocol steady steady (recorded position event) := by
  unfold recorded
  refine (recording (.record position event) rfl).attempt fun outcome => ?_
  cases outcome with
  | ok value => exact leads_pure fun _ kept => kept
  | error fault =>
      cases fault with
      | typeError => exact swallow_leads (recording (.recordEvent event) rfl)
      | keyboardInterrupt => exact leads_raise fun _ kept => kept
      | baseException => exact leads_raise fun _ kept => kept
      | _ => exact leads_pure fun _ kept => kept

section

variable (ordinary : OrdinarySteady protocol steady)

include ordinary

theorem nextFromAuthenticatedFeed_leads (position : Nat)
    (previousShortcode : String) :
    Leads protocol steady steady
      (nextFromAuthenticatedFeed position previousShortcode) := by
  refine Leads.bind
    ((ordinary (.nextFromAuthenticatedFeed previousShortcode true) rfl).rescue
      (fun _ => ordinary (.nextFromAuthenticatedFeed previousShortcode false)
        rfl) fun _ kept => kept)
    (fun candidate => ?_) fun _ kept => kept
  cases candidate with
  | none => exact leads_pure fun _ kept => kept
  | some candidate =>
      exact (recorded_leads ordinary.recording position .feedSourceAdvance).bind
        (fun _ => leads_pure fun _ kept => kept) fun _ kept => kept

theorem gestureAttempts_leads (position : Nat) (previousShortcode : String)
    (deadline : Option Int) (remainingScrollActions : Option Nat)
    (attempts : List Nat) :
    Leads protocol steady steady
      (gestureAttempts position previousShortcode deadline
        remainingScrollActions attempts) := by
  induction attempts with
  | nil => exact leads_pure fun _ kept => kept
  | cons attempt later ih =>
      unfold gestureAttempts
      split
      · exact leads_pure fun _ kept => kept
      · have advanced : Leads protocol steady steady
            (do
              requireDeadline deadline
              ask .advance
              return true : EngineProgram Bool) :=
          (requireDeadline_leads ordinary.quiet deadline).bind
            (fun _ => (ordinary .advance rfl).bind
              (fun _ => leads_pure fun _ kept => kept) fun _ kept => kept)
            fun _ kept => kept
        refine Leads.bind
          (advanced.rescue (fun _ => leads_pure fun _ kept => kept)
            fun _ kept => kept)
          (fun moved => ?_) fun _ kept => kept
        cases moved with
        | false => exact leads_pure fun _ kept => kept
        | true =>
            refine (recorded_leads ordinary.recording position _).bind (fun _ => ?_)
              fun _ kept => kept
            refine (waitForNext_leads ordinary.silent previousShortcode).bind
              (fun candidate => ?_) fun _ kept => kept
            cases candidate with
            | some candidate => exact leads_pure fun _ kept => kept
            | none =>
                refine (deadlineExpired_leads ordinary.quiet deadline).bind
                  (fun expired => ?_) fun _ kept => kept
                cases expired with
                | true => exact leads_pure fun _ kept => kept
                | false => exact ih

theorem confirmTransition_leads (engine : CollectorEngine) (position : Nat)
    (previousShortcode : String) (deadline : Option Int)
    (remainingScrollActions : Option Nat) :
    Leads protocol steady steady
      (confirmTransition engine position previousShortcode deadline
        remainingScrollActions) := by
  unfold confirmTransition
  split
  · exact nextFromAuthenticatedFeed_leads ordinary position previousShortcode
  · exact gestureAttempts_leads ordinary position previousShortcode deadline
      remainingScrollActions [1, 2]

end

def Settles (protocol : Protocol EngineCall EngineReply CollectorFault Phase)
    (failed : Phase → Prop) (phase : Phase) {ε : Type}
    (program : EngineProgram (Except ε α)) (post : α → Phase → Prop) : Prop :=
  Yields protocol failed phase program fun outcome reached =>
    match outcome with
    | .ok value => post value reached
    | .error _ => failed reached

section

variable {failed : Phase → Prop} {phase : Phase} {ε : Type}

theorem settles_ok {value : α} {post : α → Phase → Prop}
    (holds : post value phase) :
    Settles protocol failed phase
      (pure (.ok value) : EngineProgram (Except ε α)) post :=
  holds

theorem Settles.mono {program : EngineProgram (Except ε α)}
    {first second : α → Phase → Prop}
    (settles : Settles protocol failed phase program first)
    (weaken : ∀ value reached, first value reached → second value reached) :
    Settles protocol failed phase program second := by
  refine Yields.mono settles fun outcome reached holds => ?_
  cases outcome with
  | ok value => exact weaken value reached holds
  | error error => exact holds

theorem keeping_settles {locals : Locals} {statement : EngineProgram α}
    {next : α → EngineProgram (Except (Interrupted Locals) β)}
    {middle : α → Phase → Prop} {post : β → Phase → Prop}
    (first : Yields protocol failed phase statement middle)
    (continues : ∀ value reached, middle value reached →
      Settles protocol failed reached (next value) post) :
    Settles protocol failed phase (keeping locals statement next) post := by
  refine Follows.attempt first fun outcome reached holds => ?_
  cases outcome with
  | ok value => exact continues value reached holds
  | error fault => exact holds

end

structure AcquireStates (Phase : Type) where
  before : Phase → Prop
  valid : ValidatedSource → Phase → Prop
  stored : ValidatedSource → PublishedSource → Phase → Prop
  acquired : Phase → Prop
  faulted : Option PublishedSource → Bool → Phase → Prop
  undone : Bool → Phase → Prop
  ended : Phase → Prop

structure AcquireRules
    (protocol : Protocol EngineCall EngineReply CollectorFault Phase)
    (states : AcquireStates Phase) (runId : UUID)
    (candidate : ReelCandidate) : Prop where
  beforeQuiet : QuietSteady protocol states.before
  beforeRecording : RecordingSteady protocol states.before
  validQuiet : ∀ source, QuietSteady protocol (states.valid source)
  validRecording : ∀ source, RecordingSteady protocol (states.valid source)
  storedQuiet : ∀ source published,
    QuietSteady protocol (states.stored source published)
  storedRecording : ∀ source published,
    RecordingSteady protocol (states.stored source published)
  acquiredQuiet : QuietSteady protocol states.acquired
  acquiredRecording : RecordingSteady protocol states.acquired
  temporaryPath : ∀ phase, states.before phase →
    Yields protocol states.ended phase
      (ask (.temporaryPath candidate.shortcode)) fun _ => states.before
  download : ∀ path phase, states.before phase →
    Yields protocol (states.faulted none false) phase
      (ask (.download candidate path)) fun _ => states.before
  validate : ∀ path phase, states.before phase →
    Yields protocol (states.faulted none false) phase (ask (.validate path))
      states.valid
  publish : ∀ source path objectKey phase, states.valid source phase →
    sourceObjectKey candidate.shortcode = .ok objectKey →
    Yields protocol (states.faulted none false) phase
      (ask (.publish path objectKey)) (states.stored source)
  commit : ∀ source published phase, states.stored source published phase →
    Yields protocol (states.faulted (some published) false) phase
      (ask (.commitSource runId candidate source published.objectKey))
      fun _ => states.acquired
  beforeFaults : ∀ phase, states.before phase →
    states.faulted none false phase
  validFaults : ∀ source phase, states.valid source phase →
    states.faulted none false phase
  storedFaults : ∀ source published phase,
    states.stored source published phase →
    states.faulted (some published) false phase
  acquiredFaults : ∀ published phase, states.acquired phase →
    states.faulted (some published) true phase
  delete : ∀ published phase, states.faulted (some published) false phase →
    published.createdByAttempt = true →
    Yields protocol (states.undone false) phase
      (ask (.delete published.objectKey)) fun _ => states.undone false
  keeps : ∀ published committed phase,
    states.faulted published committed phase →
    (committed = false →
      published.all fun published => !published.createdByAttempt) →
    states.undone committed phase
  recordFailure : ∀ reasonCode attempted phase, states.undone false phase →
    Yields protocol states.ended phase
      (ask (.recordFailure runId candidate reasonCode attempted))
      fun _ => states.ended
  ends : ∀ committed phase, states.undone committed phase → states.ended phase
  faultedEnds : ∀ published committed phase,
    states.faulted published committed phase → states.ended phase
  acquiredEnds : ∀ phase, states.acquired phase → states.ended phase
  cleanupAcquired : ∀ path,
    Steady protocol states.acquired (.cleanupTemporary path)
  cleanupEnded : ∀ path, Steady protocol states.ended (.cleanupTemporary path)

section

variable {states : AcquireStates Phase} {runId : UUID}
variable {candidate : ReelCandidate}
variable (rules : AcquireRules protocol states runId candidate)

include rules

def Attempts (protocol : Protocol EngineCall EngineReply CollectorFault Phase)
    (states : AcquireStates Phase) (phase : Phase)
    (program : EngineProgram (Except (Interrupted Acquiring) Nat)) : Prop :=
  Yields protocol states.ended phase program fun outcome reached =>
    match outcome with
    | .ok _ => states.acquired reached
    | .error interrupted =>
        states.faulted interrupted.locals.published
          interrupted.locals.dbCommitted reached

omit rules in
theorem keeping_attempts {locals : Acquiring} {statement : EngineProgram α}
    {next : α → EngineProgram (Except (Interrupted Acquiring) Nat)}
    {middle : α → Phase → Prop} {phase : Phase}
    (first : Yields protocol
      (states.faulted locals.published locals.dbCommitted) phase statement
      middle)
    (continues : ∀ value reached, middle value reached →
      Attempts protocol states reached (next value)) :
    Attempts protocol states phase (keeping locals statement next) := by
  refine Follows.attempt first fun outcome reached holds => ?_
  cases outcome with
  | ok value => exact continues value reached holds
  | error fault => exact holds

theorem acquireStatements_attempts (engine : CollectorEngine)
    (deadline : Option Int) (progress : Progress)
    (here : progress.candidate = candidate) (temporary : TemporaryPath)
    {phase : Phase} (holds : states.before phase) :
    Attempts protocol states phase
      (acquireStatements engine runId deadline progress temporary) := by
  subst here
  have cancel : ∀ {steady : Phase → Prop}, QuietSteady protocol steady →
      ∀ {reached}, steady reached →
      Yields protocol steady reached (raiseIfCancelRequested engine runId)
        fun _ => steady :=
    fun quiet _ kept =>
      (raiseIfCancelRequested_leads quiet engine runId).yields kept
  have timely : ∀ {steady : Phase → Prop}, QuietSteady protocol steady →
      ∀ {reached}, steady reached →
      Yields protocol steady reached (requireDeadline deadline)
        fun _ => steady :=
    fun quiet _ kept => (requireDeadline_leads quiet deadline).yields kept
  have event : ∀ {steady : Phase → Prop}, RecordingSteady protocol steady →
      ∀ {reached}, steady reached → ∀ name,
      Yields protocol steady reached (recorded progress.position name)
        fun _ => steady :=
    fun recording _ kept name =>
      (recorded_leads recording progress.position name).yields kept
  unfold acquireStatements
  refine keeping_attempts ((cancel rules.beforeQuiet holds).weaken
    rules.beforeFaults) fun _ _ holds => ?_
  refine keeping_attempts ((timely rules.beforeQuiet holds).weaken
    rules.beforeFaults) fun _ _ holds => ?_
  refine keeping_attempts (rules.download _ _ holds) fun _ _ holds => ?_
  refine keeping_attempts ((event rules.beforeRecording holds _).weaken
    rules.beforeFaults) fun _ _ holds => ?_
  refine keeping_attempts ((timely rules.beforeQuiet holds).weaken
    rules.beforeFaults) fun _ _ holds => ?_
  refine keeping_attempts (rules.validate _ _ holds) fun source _ holds => ?_
  have quiet := rules.validQuiet source
  have invalid := rules.validFaults source
  refine keeping_attempts ((event (rules.validRecording source) holds
    _).weaken invalid) fun _ _ holds => ?_
  refine keeping_attempts ((timely quiet holds).weaken invalid)
    fun _ reached holds => ?_
  split
  · exact invalid reached holds
  refine keeping_attempts ((cancel quiet holds).weaken invalid)
    fun _ _ holds => ?_
  refine keeping_attempts ((timely quiet holds).weaken invalid)
    fun _ reached holds => ?_
  have named : Yields protocol (states.faulted none false) reached
      (ofExcept (sourceObjectKey progress.candidate.shortcode))
      fun objectKey after => states.valid source after ∧
        sourceObjectKey progress.candidate.shortcode = .ok objectKey := by
    cases shape : sourceObjectKey progress.candidate.shortcode with
    | ok objectKey => exact ⟨holds, rfl⟩
    | error fault => exact invalid reached holds
  refine keeping_attempts named fun objectKey _ named => ?_
  refine keeping_attempts
    (rules.publish source _ objectKey _ named.1 named.2)
    fun published _ holds => ?_
  have stored := rules.storedFaults source published
  refine keeping_attempts ((event (rules.storedRecording source published)
    holds _).weaken stored) fun _ _ holds => ?_
  refine keeping_attempts ((timely (rules.storedQuiet source published)
    holds).weaken stored) fun _ _ holds => ?_
  refine keeping_attempts (rules.commit source published _ holds)
    fun _ _ holds => ?_
  have committed := rules.acquiredFaults published
  refine keeping_attempts ((event rules.acquiredRecording holds _).weaken
    committed) fun _ _ holds => ?_
  refine keeping_attempts ((timely rules.acquiredQuiet holds).weaken
    committed) fun _ _ holds => ?_
  exact holds

theorem compensate_yields (acquiring : Acquiring) {phase : Phase}
    (holds : states.faulted acquiring.published acquiring.dbCommitted phase) :
    Yields protocol (states.undone acquiring.dbCommitted) phase
      (compensate acquiring)
      fun _ => states.undone acquiring.dbCommitted := by
  unfold compensate
  cases committed : acquiring.dbCommitted with
  | true =>
      rw [committed] at holds
      have nothing : acquiring.compensated = none := by
        simp [Acquiring.compensated, committed]
      rw [nothing]
      exact rules.keeps _ _ _ holds nofun
  | false =>
      rw [committed] at holds
      cases shape : acquiring.published with
      | none =>
          have nothing : acquiring.compensated = none := by
            simp [Acquiring.compensated, committed, shape]
          rw [shape] at holds
          rw [nothing]
          exact rules.keeps _ _ _ holds fun _ => rfl
      | some published =>
          rw [shape] at holds
          cases created : published.createdByAttempt with
          | false =>
              have nothing : acquiring.compensated = none := by
                simp [Acquiring.compensated, committed, shape, created]
              rw [nothing]
              exact rules.keeps _ _ _ holds fun _ => by simp [created]
          | true =>
              have removed : acquiring.compensated =
                  some published.objectKey := by
                simp [Acquiring.compensated, committed, shape, created]
              rw [removed]
              refine Yields.rescue ?_ fun _ _ kept => kept
              exact (rules.delete published phase holds created).bind
                fun _ _ kept => kept

theorem handleAcquisitionFault_settles (interrupted : Interrupted Acquiring)
    {phase : Phase}
    (holds : states.faulted interrupted.locals.published
      interrupted.locals.dbCommitted phase) :
    Yields protocol states.ended phase
      (handleAcquisitionFault runId candidate interrupted)
      fun outcome reached => states.ended reached ∧
        ∀ bytes, outcome ≠ .ok bytes := by
  have ends := rules.ends interrupted.locals.dbCommitted
  have compensated := (compensate_yields rules interrupted.locals
    holds).weaken ends
  have kept := rules.faultedEnds _ _ phase holds
  unfold handleAcquisitionFault
  dsimp only
  split
  · exact compensated.bind fun _ reached kept => ends reached kept
  · exact kept
  · refine compensated.bind fun failed reached kept => ?_
    cases committed : interrupted.locals.dbCommitted with
    | true => exact ⟨ends reached kept, nofun⟩
    | false =>
        rw [committed] at kept
        refine Yields.bind (Yields.rescue
          (rules.recordFailure _ _ reached kept) fun _ _ kept => kept) ?_
        exact fun _ _ kept => ⟨kept, nofun⟩

theorem acquire_settles (engine : CollectorEngine) (deadline : Option Int)
    (progress : Progress) (here : progress.candidate = candidate)
    {phase : Phase} (holds : states.before phase) :
    Settles protocol states.ended phase
      (acquire engine runId deadline progress)
      fun _ => states.acquired := by
  unfold acquire
  rw [here]
  refine Yields.bind (rules.temporaryPath phase holds)
    fun temporary reached holds => ?_
  have statements := acquireStatements_attempts rules engine deadline progress
    here temporary holds
  refine Yields.ensure (Yields.bind statements
    fun outcome reached holds => ?_) ?_ ?_
  · cases outcome with
    | ok bytes => exact holds
    | error interrupted =>
        refine (handleAcquisitionFault_settles rules interrupted holds).mono ?_
        intro outcome reached refused
        cases outcome with
        | ok bytes => exact absurd rfl (refused.2 bytes)
        | error reason => exact refused.1
  · intro outcome reached holds
    cases outcome with
    | ok bytes =>
        exact ((swallow_leads (rules.cleanupAcquired temporary)).yields
          holds).weaken rules.acquiredEnds
    | error reason =>
        exact (swallow_leads (rules.cleanupEnded temporary)).yields holds
  · intro reached holds
    exact (swallow_leads (rules.cleanupEnded temporary)).yields holds

end

structure AcquisitionSteady
    (protocol : Protocol EngineCall EngineReply CollectorFault Phase)
    (steady : Phase → Prop) (runId : UUID) : Prop where
  ordinary : OrdinarySteady protocol steady
  temporaryPath : ∀ shortcode, Steady protocol steady (.temporaryPath shortcode)
  download : ∀ candidate path,
    Steady protocol steady (.download candidate path)
  validate : ∀ path, Steady protocol steady (.validate path)
  publish : ∀ path objectKey,
    Steady protocol steady (.publish path objectKey)
  delete : ∀ objectKey, Steady protocol steady (.delete objectKey)
  cleanup : ∀ path, Steady protocol steady (.cleanupTemporary path)
  commitSource : ∀ candidate source objectKey,
    Steady protocol steady (.commitSource runId candidate source objectKey)
  recordFailure : ∀ candidate reasonCode attempted,
    Steady protocol steady (.recordFailure runId candidate reasonCode attempted)

section

variable {runId : UUID} (rules : AcquisitionSteady protocol steady runId)

include rules

theorem AcquisitionSteady.acquireRules (candidate : ReelCandidate) :
    AcquireRules protocol
      ⟨steady, fun _ => steady, fun _ _ => steady, steady, fun _ _ => steady,
        fun _ => steady, steady⟩ runId candidate where
  beforeQuiet := rules.ordinary.quiet
  beforeRecording := rules.ordinary.recording
  validQuiet := fun _ => rules.ordinary.quiet
  validRecording := fun _ => rules.ordinary.recording
  storedQuiet := fun _ _ => rules.ordinary.quiet
  storedRecording := fun _ _ => rules.ordinary.recording
  acquiredQuiet := rules.ordinary.quiet
  acquiredRecording := rules.ordinary.recording
  temporaryPath := fun _ holds => (rules.temporaryPath _).yields holds
  download := fun path _ holds => (rules.download _ path).yields holds
  validate := fun path _ holds => (rules.validate path).yields holds
  publish := fun _ path objectKey _ holds _ =>
    (rules.publish path objectKey).yields holds
  commit := fun source published _ holds =>
    (rules.commitSource _ source published.objectKey).yields holds
  beforeFaults := fun _ holds => holds
  validFaults := fun _ _ holds => holds
  storedFaults := fun _ _ _ holds => holds
  acquiredFaults := fun _ _ holds => holds
  delete := fun published _ holds _ =>
    (rules.delete published.objectKey).yields holds
  keeps := fun _ _ _ holds _ => holds
  recordFailure := fun reasonCode attempted _ holds =>
    (rules.recordFailure _ reasonCode attempted).yields holds
  ends := fun _ _ holds => holds
  faultedEnds := fun _ _ _ holds => holds
  acquiredEnds := fun _ holds => holds
  cleanupAcquired := rules.cleanup
  cleanupEnded := rules.cleanup

theorem acquire_leads (engine : CollectorEngine) (deadline : Option Int)
    (progress : Progress) :
    Leads protocol steady steady (acquire engine runId deadline progress) := by
  refine leads_of_yields fun phase holds => ?_
  refine Yields.mono (acquire_settles (rules.acquireRules progress.candidate)
    engine deadline progress rfl holds) fun outcome reached kept => ?_
  cases outcome <;> exact kept

end

structure EndRules
    (protocol : Protocol EngineCall EngineReply CollectorFault Phase)
    (ended : Phase → Prop) (runId : UUID) : Prop where
  quiet : QuietSteady protocol ended
  fails : ∀ reasonCode, Steady protocol ended (.failRun runId reasonCode)
  cancels : ∀ reasonCode, Steady protocol ended (.cancelRun runId reasonCode)

section

variable {runId : UUID} (rules : EndRules protocol ended runId)
variable {phase : Phase}

include rules

theorem safeFailRun_leads (reasonCode : String) :
    Leads protocol ended ended (safeFailRun runId reasonCode) :=
  swallow_leads (rules.fails reasonCode)

theorem safeCancelRun_leads :
    Leads protocol ended ended (safeCancelRun runId) :=
  swallow_leads ((rules.cancels _).bind
    (fun _ => leads_pure fun _ kept => kept) fun _ kept => kept)

theorem failed_yields (targetCount : Nat) (counts : Counts) (stored : String)
    (reason : Option String) (holds : ended phase) :
    Yields protocol ended phase
      (do
        safeFailRun runId stored
        summarize runId targetCount counts reason .failed)
      fun summary reached => ended reached ∧ summary.status ≠ .completed := by
  refine Yields.bind ((safeFailRun_leads rules stored).yields holds)
    fun _ _ kept => ?_
  refine (summarize_yields rules.quiet runId targetCount counts reason .failed
    kept).mono ?_
  intro summary reached shape
  refine ⟨shape.1, ?_⟩
  rw [shape.2.2.1]
  exact nofun

theorem stop_settles (request : CollectRequest) (counts : Counts)
    (reason : String) (holds : ended phase) :
    Settles protocol ended phase (stop request runId counts reason)
      fun summary reached => ended reached ∧ summary.status ≠ .completed :=
  keeping_settles (failed_yields rules _ _ _ _ holds) fun _ _ kept => kept

theorem handleFault_yields (request : CollectRequest)
    (interrupted : Interrupted Counts) (holds : ended phase) :
    Yields protocol ended phase (handleFault request runId interrupted)
      fun summary reached => ended reached ∧ summary.status ≠ .completed := by
  have cancelled : ∀ reason, Yields protocol ended phase
      (do
        safeCancelRun runId
        summarize runId request.targetCount interrupted.locals reason
          .cancelled)
      fun summary reached => ended reached ∧ summary.status ≠ .completed := by
    intro reason
    refine Yields.bind ((safeCancelRun_leads rules).yields holds)
      fun _ _ kept => ?_
    refine (summarize_yields rules.quiet runId _ _ reason .cancelled
      kept).mono ?_
    intro summary reached shape
    refine ⟨shape.1, ?_⟩
    rw [shape.2.2.1]
    exact nofun
  unfold handleFault
  dsimp only
  split
  · exact failed_yields rules _ _ _ _ holds
  · exact cancelled _
  · exact holds
  · split
    · exact cancelled _
    · exact failed_yields rules _ _ _ _ holds

end

end OfflineReels.Collector.CollectorEngine
