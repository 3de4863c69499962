import OfflineReels.Foundation.Protocol
import OfflineReels.Media.Normalize

namespace OfflineReels.Media

open OfflineReels.Foundation
open OfflineReels.Foundation.Program
open MediaProgram

/-! What a normalization knows of the files, and what it may do with them.  A
draft is published only when it is known to be canonical. -/

/-- What is known of a file since it was last written. -/
structure Evidence where
  copied : Option FilePath := none
  probe : Option MediaProbe := none
  decoded : Bool := false
  filled : Bool := false
  deriving DecidableEq, Repr

structure Evidence.Publishable (evidence : Evidence) : Prop where
  canonical : ∃ probe, evidence.probe = some probe ∧
    isCanonicalMedia probe = true
  decoded : evidence.decoded = true
  filled : evidence.filled = true

def Evidence.without (evidence : Evidence) (gone : FilePath → Bool) :
    Evidence :=
  if evidence.copied.any gone then { evidence with copied := none }
  else evidence

abbrev Knowledge : Type := FilePath → Evidence

def Knowledge.forget (known : Knowledge) (gone : FilePath → Bool) :
    Knowledge :=
  fun path => if gone path then {} else (known path).without gone

def Knowledge.note (known : Knowledge) (path : FilePath)
    (change : Evidence → Evidence) : Knowledge :=
  Function.update known path (change (known path))

def isProbe (command : List Argument) : Bool :=
  command.head? = some (.text "ffprobe")

def reads (command : List Argument) : Option FilePath :=
  command.findSome? fun
    | .file path => some path
    | .text _ => none

/-- `ffmpeg` writes the file at its end. -/
def writes (command : List Argument) : Option FilePath :=
  if isProbe command then none
  else
    match command.getLast? with
    | some (.file path) => some path
    | _ => none

def observed (library : Library) (command : List Argument)
    (process : CompletedProcess) (evidence : Evidence) : Evidence :=
  if isProbe command then
    { evidence with
      probe := (parseProbeOutput library process.stdout).toOption }
  else { evidence with decoded := true }

def OUTPUT_NAME : String := "normalized.mp4"
def DRAFT_PREFIX : String := ".offline-reels-normalizing-"

def isDraftName (name : String) : Bool :=
  DRAFT_PREFIX.toList.isPrefixOf name.toList

/-- The directory of the normalization, what is known, and whether a directory
could not be removed. -/
structure Workspace where
  directory : Option String := none
  known : Knowledge := fun _ => {}
  uncleaned : Bool := false

section

variable (resolve : FilePath → FilePath)

def outputIn (directory : String) : FilePath :=
  resolve ⟨directory, OUTPUT_NAME⟩

def home (directory : String) : String := (outputIn resolve directory).directory

def isWithin (directory : String) (path : FilePath) : Bool :=
  path.directory = home resolve directory

def IsDraft (phase : Workspace) (path : FilePath) : Prop :=
  ∃ directory, phase.directory = some directory ∧
    isWithin resolve directory path = true ∧ isDraftName path.name = true

def Workspace.permits (phase : Workspace) : MediaCall → Prop
  | .temporaryDirectory => phase.directory = none
  | .cleanup directory => phase.directory = some directory
  | .run command _ => ∀ target, writes command = some target →
      IsDraft resolve phase target
  | .copyFile _ target => IsDraft resolve phase target
  | .replace source target =>
      IsDraft resolve phase source ∧ (phase.known source).Publishable ∧
        ∃ directory, phase.directory = some directory ∧
          target = outputIn resolve directory
  | .unlink path => IsDraft resolve phase path
  | .mkstemp directory => ∃ own, phase.directory = some own ∧
      directory = home resolve own
  | _ => True

/-- No name in the directory is a link. -/
def IsPlain (directory : String) : Prop :=
  ∀ name, resolve ⟨directory, name⟩ = ⟨home resolve directory, name⟩

/-- A new directory is plain, and a new file of `mkstemp` has a name of its
own. -/
def Workspace.assumes (phase : Workspace) :
    (call : MediaCall) → Except MediaFault (MediaReply call) → Prop
  | .temporaryDirectory, .ok directory => IsPlain resolve directory
  | .resolve path, .ok found => found = resolve path
  | .mkstemp directory, .ok path =>
      path.directory = directory ∧ isDraftName path.name = true ∧
        phase.known path = {}
  | _, _ => True

def Workspace.ran (library : Library) (phase : Workspace)
    (command : List Argument) (reply : Except MediaFault CompletedProcess) :
    Workspace :=
  match writes command, reads command, reply with
  | some target, _, _ =>
      { phase with known := phase.known.forget (· = target) }
  | none, some path, .ok process =>
      if process.returncode = 0 then
        { phase with
          known := phase.known.note path (observed library command process) }
      else phase
  | _, _, _ => phase

/-- A published draft takes what is known of it along. -/
def Knowledge.moved (known : Knowledge) (source target : FilePath) : Knowledge :=
  let gone := fun path => path = source || path = target
  Function.update (known.forget gone) target ((known source).without gone)

def Workspace.note (library : Library) (phase : Workspace)
    (call : MediaCall) (reply : Except MediaFault (MediaReply call)) :
    Workspace :=
  match call, reply with
  | .temporaryDirectory, .ok directory =>
      { phase with directory := some directory }
  | .cleanup directory, .ok _ =>
      { phase with
        directory := none
        known := phase.known.forget (isWithin resolve directory) }
  | .cleanup directory, .error _ =>
      { phase with
        known := phase.known.forget (isWithin resolve directory)
        uncleaned := true }
  | .run command _, reply => phase.ran library command reply
  | .copyFile source target, .ok _ =>
      { phase with
        known := (phase.known.forget (· = target)).note target fun _ =>
          { copied := if source = target then none else some source } }
  | .copyFile _ target, .error _ =>
      { phase with known := phase.known.forget (· = target) }
  | .size path, .ok bytes =>
      { phase with
        known := phase.known.note path fun evidence =>
          { evidence with filled := evidence.filled || 0 < bytes } }
  | .replace source target, .ok _ =>
      { phase with known := phase.known.moved source target }
  | .replace source target, .error _ =>
      { phase with
        known := phase.known.forget fun path =>
          path = source || path = target }
  | .unlink path, _ => { phase with known := phase.known.forget (· = path) }
  | _, _ => phase

def isQuestion : MediaCall → Bool
  | .resolve _ | .isFile _ | .pathExists _ | .isDirectory _ => true
  | _ => false

def publishing (library : Library) :
    Protocol MediaCall MediaReply MediaFault Workspace where
  permits := Workspace.permits resolve
  assumes := Workspace.assumes resolve
  advance := Workspace.note resolve library

end

@[simp] theorem Evidence.without_probe (evidence : Evidence)
    (gone : FilePath → Bool) :
    (evidence.without gone).probe = evidence.probe := by
  unfold Evidence.without
  split <;> rfl

@[simp] theorem Evidence.without_decoded (evidence : Evidence)
    (gone : FilePath → Bool) :
    (evidence.without gone).decoded = evidence.decoded := by
  unfold Evidence.without
  split <;> rfl

@[simp] theorem Evidence.without_filled (evidence : Evidence)
    (gone : FilePath → Bool) :
    (evidence.without gone).filled = evidence.filled := by
  unfold Evidence.without
  split <;> rfl

theorem Evidence.without_copied {evidence : Evidence} {source : FilePath}
    {gone : FilePath → Bool} (copied : evidence.copied = some source)
    (stays : gone source = false) :
    (evidence.without gone).copied = some source := by
  unfold Evidence.without
  rw [copied, if_neg (by simp [stays]), copied]

theorem Evidence.Publishable.without {evidence : Evidence}
    (publishable : evidence.Publishable) (gone : FilePath → Bool) :
    (evidence.without gone).Publishable := by
  constructor
  · rw [Evidence.without_probe]
    exact publishable.canonical
  · rw [Evidence.without_decoded]
    exact publishable.decoded
  · rw [Evidence.without_filled]
    exact publishable.filled

theorem Knowledge.forget_of_stays {known : Knowledge} {gone : FilePath → Bool}
    {path : FilePath} (stays : gone path = false) :
    known.forget gone path = (known path).without gone := by
  unfold Knowledge.forget
  rw [stays]
  rfl

@[simp] theorem Knowledge.note_same (known : Knowledge) (path : FilePath)
    (change : Evidence → Evidence) :
    known.note path change path = change (known path) :=
  Function.update_self ..

theorem Knowledge.note_other {known : Knowledge} {path other : FilePath}
    {change : Evidence → Evidence} (apart : other ≠ path) :
    known.note path change other = known other :=
  Function.update_of_ne apart ..

namespace Publishing

structure Same (phase reached : Workspace) : Prop where
  directory : reached.directory = phase.directory
  uncleaned : reached.uncleaned = phase.uncleaned

theorem Same.refl (phase : Workspace) : Same phase phase := ⟨rfl, rfl⟩

theorem Same.trans {first second third : Workspace}
    (before : Same first second) (after : Same second third) :
    Same first third :=
  ⟨after.directory.trans before.directory,
    after.uncleaned.trans before.uncleaned⟩

section

variable {resolve : FilePath → FilePath} {library : Library}
variable {phase : Workspace}

theorem isDraft_of_same {path : FilePath} {reached : Workspace}
    (draft : IsDraft resolve phase path) (same : Same phase reached) :
    IsDraft resolve reached path := by
  obtain ⟨directory, own, within, named⟩ := draft
  exact ⟨directory, same.directory.trans own, within, named⟩

theorem settle_eq_ok {failures : ToolFailures}
    {outcome : Except MediaFault CompletedProcess} {process : CompletedProcess}
    (settled : failures.settle outcome = .ok process) :
    outcome = .ok process ∧ process.returncode = 0 := by
  unfold ToolFailures.settle at settled
  split at settled
  · split at settled
    · rename_i well
      cases settled
      exact ⟨rfl, well⟩
    · cases settled
  · cases settled
  · cases settled
  · cases settled

theorem ran_failed {command : List Argument} {failures : ToolFailures}
    {outcome : Except MediaFault CompletedProcess} {fault : MediaFault}
    (unwritten : writes command = none)
    (failed : failures.settle outcome = .error fault) :
    phase.ran library command outcome = phase := by
  unfold Workspace.ran
  rw [unwritten]
  split
  · rename_i clash
    cases clash
  · rename_i process _ _
    split
    · rename_i well
      rw [ToolFailures.settle, if_pos well] at failed
      cases failed
    · rfl
  · rfl

theorem permits_question {call : MediaCall} (question : isQuestion call = true) :
    phase.permits resolve call := by
  cases call with
  | resolve path => trivial
  | isFile path => trivial
  | pathExists path => trivial
  | isDirectory directory => trivial
  | _ => cases question

theorem note_question {call : MediaCall}
    {reply : Except MediaFault (MediaReply call)}
    (question : isQuestion call = true) :
    phase.note resolve library call reply = phase := by
  cases call with
  | resolve path => rfl
  | isFile path => rfl
  | pathExists path => rfl
  | isDirectory directory => rfl
  | _ => cases question

theorem completed_reading {command : List Argument} {path : FilePath}
    {timeoutSeconds : Nat} {failures : ToolFailures}
    {post : Except MediaFault CompletedProcess → Workspace → Prop}
    (unwritten : writes command = none) (read : reads command = some path)
    (returned : ∀ process, post (.ok process)
      { phase with
        known := phase.known.note path (observed library command process) })
    (raised : ∀ fault, post (.error fault) phase) :
    Follows (publishing resolve library) phase
      (completed command timeoutSeconds failures) post := by
  apply follows_attempt.mpr
  constructor
  · intro target written
    rw [unwritten] at written
    cases written
  · intro reply _
    change post (failures.settle reply) (phase.ran library command reply)
    cases settled : failures.settle reply with
    | error fault =>
        rw [ran_failed unwritten settled]
        exact raised fault
    | ok process =>
        obtain ⟨rfl, well⟩ := settle_eq_ok settled
        simp only [Workspace.ran, unwritten, read, well, if_true]
        exact returned process

theorem completed_writing {command : List Argument} {target : FilePath}
    {timeoutSeconds : Nat} {failures : ToolFailures}
    {post : Except MediaFault CompletedProcess → Workspace → Prop}
    (written : writes command = some target)
    (draft : IsDraft resolve phase target)
    (ends : ∀ outcome, post outcome
      { phase with known := phase.known.forget (· = target) }) :
    Follows (publishing resolve library) phase
      (completed command timeoutSeconds failures) post := by
  apply follows_attempt.mpr
  constructor
  · intro other found
    rw [written] at found
    cases found
    exact draft
  · intro reply _
    change post (failures.settle reply) (phase.ran library command reply)
    simp only [Workspace.ran, written]
    exact ends _

theorem writes_probeCommand (path : FilePath) :
    writes (probeCommand path) = none := rfl

theorem reads_probeCommand (path : FilePath) :
    reads (probeCommand path) = some path := rfl

theorem writes_decodeCommand (path : FilePath) :
    writes (decodeCommand path) = none := rfl

theorem reads_decodeCommand (path : FilePath) :
    reads (decodeCommand path) = some path := rfl

theorem writes_remuxCommand (source output : FilePath) :
    writes (remuxCommand source output) = some output := rfl

theorem writes_transcodeCommand (source output : FilePath) :
    writes (transcodeCommand source output) = some output := rfl

end

section

variable {resolve : FilePath → FilePath} {normalizer : Normalizer}
variable {phase : Workspace}

def Probed (path : FilePath) (phase : Workspace) :
    Except MediaFault MediaProbe → Workspace → Prop
  | .ok probe, reached =>
      reached = { phase with
        known := phase.known.note path fun evidence =>
          { evidence with probe := some probe } }
  | .error _, reached => Same phase reached

theorem probeMedia_follows (path : FilePath) :
    Follows (publishing resolve normalizer.library) phase
      (normalizer.probeMedia path) (Probed path phase) := by
  apply follows_bind.mpr
  apply completed_reading (writes_probeCommand path) (reads_probeCommand path)
  · intro process
    dsimp only
    cases parsed : parseProbeOutput normalizer.library process.stdout with
    | error failure => exact ⟨rfl, rfl⟩
    | ok probe =>
        have told : observed normalizer.library (probeCommand path) process =
            fun evidence => { evidence with probe := some probe } := by
          funext evidence
          change { evidence with probe :=
            (parseProbeOutput normalizer.library process.stdout).toOption } = _
          rw [parsed]
          rfl
        rw [told]
        exact rfl
  · intro fault
    exact Same.refl phase

def Decoded (path : FilePath) (phase : Workspace) :
    Except MediaFault Unit → Workspace → Prop
  | .ok _, reached =>
      reached = { phase with
        known := phase.known.note path fun evidence =>
          { evidence with decoded := true } }
  | .error _, reached => Same phase reached

theorem validateDecode_follows (path : FilePath) :
    Follows (publishing resolve normalizer.library) phase
      (normalizer.validateDecode path) (Decoded path phase) := by
  apply follows_bind.mpr
  apply completed_reading (writes_decodeCommand path)
    (reads_decodeCommand path)
  · intro process
    exact rfl
  · intro fault
    exact Same.refl phase

structure Drafted (source temporary : FilePath)
    (strategy : NormalizationStrategy) (phase reached : Workspace) : Prop where
  same : Same phase reached
  others : ∀ path, path ≠ temporary →
    (reached.known path).probe = (phase.known path).probe
  copied : strategy = .passthrough → source ≠ temporary →
    (reached.known temporary).copied = some source

theorem probe_forget {known : Knowledge} {temporary path : FilePath}
    (apart : path ≠ temporary) :
    (known.forget (· = temporary) path).probe = (known path).probe := by
  rw [Knowledge.forget_of_stays (decide_eq_false apart),
    Evidence.without_probe]

theorem draft_follows {source temporary : FilePath}
    {strategy : NormalizationStrategy}
    (draft : IsDraft resolve phase temporary) :
    Follows (publishing resolve normalizer.library) phase
      (normalizer.draft source temporary strategy) fun outcome reached =>
        Same phase reached ∧ (outcome = .ok () →
          Drafted source temporary strategy phase reached) := by
  unfold Normalizer.draft
  split
  · rename_i passthrough
    constructor
    · exact draft
    · intro reply _
      cases reply with
      | error fault =>
          constructor
          · exact ⟨rfl, rfl⟩
          · intro clash
            cases clash
      | ok done =>
          constructor
          · exact ⟨rfl, rfl⟩
          · intro _
            constructor
            · exact ⟨rfl, rfl⟩
            · intro path apart
              exact (congrArg Evidence.probe
                (Knowledge.note_other apart)).trans (probe_forget apart)
            · intro _ apart
              change (Knowledge.note _ temporary _ temporary).copied = _
              rw [Knowledge.note_same, if_neg apart]
  · rename_i other
    apply follows_bind.mpr
    have written : ∀ command : List Argument,
        command = (if strategy = .transcode then
          transcodeCommand source temporary
          else remuxCommand source temporary) →
        writes command = some temporary := by
      intro command chosen
      rw [chosen]
      split
      · exact writes_transcodeCommand source temporary
      · exact writes_remuxCommand source temporary
    apply completed_writing (written _ rfl) draft
    intro outcome
    have same : Same phase { phase with
        known := phase.known.forget (· = temporary) } := ⟨rfl, rfl⟩
    cases outcome with
    | error fault =>
        constructor
        · exact same
        · intro clash
          cases clash
    | ok process =>
        constructor
        · exact same
        · intro _
          constructor
          · exact same
          · intro path apart
            exact probe_forget apart
          · intro passthrough
            exact absurd passthrough other

structure Published (source temporary destination : FilePath)
    (strategy : NormalizationStrategy) (phase : Workspace) (probe : MediaProbe)
    (reached : Workspace) : Prop where
  same : Same phase reached
  probe : (reached.known destination).probe = some probe
  publishable : (reached.known destination).Publishable
  copied : strategy = .passthrough → source ≠ temporary →
    source ≠ destination → (reached.known destination).copied = some source
  others : ∀ path, path ≠ temporary → path ≠ destination →
    (reached.known path).probe = (phase.known path).probe

theorem replace_follows {source temporary destination : FilePath}
    {strategy : NormalizationStrategy} {directory : String}
    {drafted decoded : Workspace} {probe : MediaProbe} {bytes : Nat}
    (draft : IsDraft resolve phase temporary)
    (own : phase.directory = some directory)
    (output : destination = outputIn resolve directory)
    (made : Drafted source temporary strategy phase drafted)
    (known : decoded.known = (drafted.known.note temporary fun evidence =>
      { evidence with probe := some probe }).note temporary fun evidence =>
        { evidence with decoded := true })
    (same : Same drafted decoded) (canonical : isCanonicalMedia probe = true)
    (positive : 0 < bytes) :
    Follows (publishing resolve normalizer.library)
      { decoded with known := decoded.known.note temporary fun evidence =>
        { evidence with filled := evidence.filled || 0 < bytes } }
      (do
        invoke (.replace temporary destination)
        return probe)
      fun outcome reached => Same phase reached ∧
        ∀ probe, outcome = .ok probe → Published source temporary destination
          strategy phase probe reached := by
  generalize sized : ({ decoded with
    known := decoded.known.note temporary fun evidence =>
      { evidence with filled := evidence.filled || 0 < bytes } } :
        Workspace) = ready
  have kept : Same phase ready := by
    rw [← sized]
    exact made.same.trans ⟨same.directory, same.uncleaned⟩
  have told : ready.known temporary =
      { drafted.known temporary with
        probe := some probe
        decoded := true
        filled := (drafted.known temporary).filled || 0 < bytes } := by
    rw [← sized]
    dsimp only
    rw [Knowledge.note_same, known, Knowledge.note_same, Knowledge.note_same]
  have others : ∀ path, path ≠ temporary →
      ready.known path = drafted.known path := by
    intro path apart
    rw [← sized]
    dsimp only
    rw [Knowledge.note_other apart, known, Knowledge.note_other apart,
      Knowledge.note_other apart]
  have publishable : (ready.known temporary).Publishable := by
    rw [told]
    constructor
    · exact ⟨probe, rfl, canonical⟩
    · rfl
    · simp [positive]
  apply follows_bind.mpr
  constructor
  · exact ⟨isDraft_of_same draft kept, publishable, directory,
      kept.directory.trans own, output⟩
  · intro reply _
    cases reply with
    | error fault =>
        constructor
        · exact ⟨kept.directory, kept.uncleaned⟩
        · intro _ clash
          cases clash
    | ok done =>
        constructor
        · exact ⟨kept.directory, kept.uncleaned⟩
        · intro found returned
          cases returned
          have moved : ready.known.moved temporary destination destination =
              (ready.known temporary).without fun path =>
                path = temporary || path = destination :=
            Function.update_self ..
          constructor
          · exact ⟨kept.directory, kept.uncleaned⟩
          · change (ready.known.moved temporary destination
              destination).probe = _
            rw [moved, Evidence.without_probe, told]
          · change (ready.known.moved temporary destination
              destination).Publishable
            rw [moved]
            exact publishable.without _
          · intro passthrough apart elsewhere
            change (ready.known.moved temporary destination
              destination).copied = _
            rw [moved]
            apply Evidence.without_copied
            · rw [told]
              exact made.copied passthrough apart
            · simp [apart, elsewhere]
          · intro path apart elsewhere
            change (ready.known.moved temporary destination path).probe = _
            unfold Knowledge.moved
            rw [Function.update_of_ne elsewhere, Knowledge.forget_of_stays
              (by simp [apart, elsewhere]), Evidence.without_probe,
              others path apart, made.others path apart]

theorem publish_follows {source temporary destination : FilePath}
    {strategy : NormalizationStrategy} {directory : String}
    (draft : IsDraft resolve phase temporary)
    (own : phase.directory = some directory)
    (output : destination = outputIn resolve directory) :
    Follows (publishing resolve normalizer.library) phase
      (normalizer.publish source temporary destination strategy)
      fun outcome reached => Same phase reached ∧
        ∀ probe, outcome = .ok probe → Published source temporary destination
          strategy phase probe reached := by
  have failing : ∀ {fault : MediaFault} {reached : Workspace},
      Same phase reached → Same phase reached ∧ ∀ probe,
        (.error fault : Except MediaFault MediaProbe) = .ok probe →
        Published source temporary destination strategy phase probe reached :=
    fun same => ⟨same, fun _ clash => by cases clash⟩
  unfold Normalizer.publish
  apply (draft_follows draft).bind
  · intro _ drafted holds
    have made := holds.2 rfl
    apply (probeMedia_follows temporary).bind
    · intro probe probed told
      apply (validateDecode_follows temporary).bind
      · intro _ decoded tried
        have known : decoded.known = (drafted.known.note temporary
            fun evidence => { evidence with probe := some probe }).note
            temporary fun evidence => { evidence with decoded := true } := by
          rw [tried, told]
        have same : Same drafted decoded := by
          rw [tried, told]
          exact ⟨rfl, rfl⟩
        split
        · exact failing (made.same.trans same)
        · rename_i canonical
          apply follows_bind.mpr
          constructor
          · trivial
          · intro reply _
            cases reply with
            | error fault => exact failing (made.same.trans same)
            | ok bytes =>
                apply follows_done.mpr
                dsimp only
                split
                · exact failing
                    (made.same.trans ⟨same.directory, same.uncleaned⟩)
                · rename_i nonempty
                  have positive : 0 < bytes := Nat.pos_of_ne_zero nonempty
                  exact replace_follows draft own output made known same
                    (by simpa using canonical) positive
      · intro fault reached holds
        have same : Same drafted probed := by
          rw [told]
          exact ⟨rfl, rfl⟩
        exact failing ((made.same.trans same).trans holds)
    · intro fault reached same
      exact failing (made.same.trans same)
  · intro fault reached holds
    exact failing holds.1

structure Normalized (source destination : FilePath) (phase : Workspace)
    (normalized : NormalizedFile) (reached : Workspace) : Prop where
  same : Same phase reached
  sourcePath : normalized.sourcePath = source
  outputPath : normalized.outputPath = destination
  original : (reached.known source).probe = some normalized.originalProbe
  strategy : strategyFor normalized.originalProbe = .ok normalized.strategy
  probe : (reached.known destination).probe = some normalized.probe
  publishable : (reached.known destination).Publishable
  copied : normalized.strategy = .passthrough →
    (reached.known destination).copied = some source

def Results (source destination : FilePath) (phase : Workspace) :
    Except MediaFault NormalizedFile → Workspace → Prop
  | .ok normalized, reached =>
      Normalized source destination phase normalized reached
  | .error _, reached => Same phase reached

theorem createTemporaryOutput_follows {directory own : String}
    (owned : phase.directory = some own)
    (here : directory = home resolve own) :
    Follows (publishing resolve normalizer.library) phase
      (Normalizer.createTemporaryOutput directory) fun outcome reached =>
        reached = phase ∧ ∀ path, outcome = .ok path →
          IsDraft resolve phase path ∧ phase.known path = {} := by
  unfold Normalizer.createTemporaryOutput
  apply follows_bind.mpr
  constructor
  · exact ⟨own, owned, here⟩
  · intro reply assumed
    cases reply with
    | error fault =>
        constructor
        · rfl
        · intro path clash
          cases clash
    | ok path =>
        obtain ⟨within, named, unknown⟩ := assumed
        apply follows_bind.mpr
        constructor
        · trivial
        · intro closed _
          cases closed with
          | error fault =>
              constructor
              · rfl
              · intro path clash
                cases clash
          | ok done =>
              constructor
              · rfl
              · intro found returned
                cases returned
                have inside : isWithin resolve own path = true :=
                  decide_eq_true (within.trans here)
                exact ⟨⟨own, owned, inside, named⟩, unknown⟩

def Finished (source destination : FilePath)
    (strategy : NormalizationStrategy) (original : MediaProbe)
    (phase : Workspace) : Except MediaFault MediaProbe → Workspace → Prop
  | .ok probe, reached => Normalized source destination phase
      ⟨source, destination, strategy, original, probe⟩ reached
  | .error _, reached => Same phase reached

theorem unlink_same {path : FilePath} {reached : Workspace}
    (same : Same phase reached) :
    Same phase { reached with known := reached.known.forget (· = path) } :=
  ⟨same.directory, same.uncleaned⟩

theorem normalized_of_published {source temporary destination : FilePath}
    {strategy : NormalizationStrategy} {original probe : MediaProbe}
    {created reached : Workspace} (before : Same phase created)
    (known : (created.known source).probe = some original)
    (chosen : strategyFor original = .ok strategy)
    (apart : source ≠ temporary) (away : destination ≠ temporary)
    (elsewhere : source ≠ destination)
    (published : Published source temporary destination strategy created probe
      reached) :
    Normalized source destination phase
      ⟨source, destination, strategy, original, probe⟩
      { reached with known := reached.known.forget (· = temporary) } := by
  have kept : reached.known.forget (· = temporary) destination =
      (reached.known destination).without (· = temporary) :=
    Knowledge.forget_of_stays (decide_eq_false away)
  constructor
  · exact unlink_same (before.trans published.same)
  · rfl
  · rfl
  · dsimp only
    rw [probe_forget apart, published.others source apart elsewhere, known]
  · exact chosen
  · dsimp only
    rw [probe_forget away, published.probe]
  · dsimp only
    rw [kept]
    exact published.publishable.without _
  · intro passthrough
    dsimp only
    rw [kept]
    exact Evidence.without_copied
      (published.copied passthrough apart elsewhere) (decide_eq_false apart)

theorem produce_follows {source destination : FilePath} {directory : String}
    (own : phase.directory = some directory)
    (output : destination = outputIn resolve directory)
    (named : destination.name = OUTPUT_NAME)
    (elsewhere : source ≠ destination) :
    Follows (publishing resolve normalizer.library) phase
      (normalizer.produce source destination)
      (Results source destination phase) := by
  unfold Normalizer.produce
  apply (probeMedia_follows source).bind
  · intro original probed told
    have first : Same phase probed := by
      rw [told]
      exact ⟨rfl, rfl⟩
    apply (validateDecode_follows source).bind
    · intro _ decoded tried
      have second : Same phase decoded := by
        rw [tried]
        exact ⟨first.directory, first.uncleaned⟩
      have known : (decoded.known source).probe = some original := by
        rw [tried, told]
        dsimp only
        rw [Knowledge.note_same, Knowledge.note_same]
      apply follows_bind.mpr
      cases chosen : strategyFor original with
      | error failure => exact second
      | ok strategy =>
          apply follows_pure.mpr
          dsimp only
          apply (createTemporaryOutput_follows
            (second.directory.trans own)
            (congrArg FilePath.directory output)).bind
          · intro temporary created holds
            obtain ⟨rfl, fresh⟩ := holds
            obtain ⟨draft, unknown⟩ := fresh temporary rfl
            have apart : source ≠ temporary := by
              intro same
              rw [same, unknown] at known
              cases known
            have away : destination ≠ temporary := by
              intro same
              obtain ⟨_, _, _, drafted⟩ := draft
              rw [← same, named] at drafted
              cases drafted
            have finished : Follows (publishing resolve normalizer.library)
                created ((normalizer.publish source temporary destination
                  strategy).ensure (invoke (.unlink temporary)))
                (Finished source destination strategy original phase) := by
              apply (publish_follows draft (second.directory.trans own)
                output).ensure
              intro outcome reached published
              constructor
              · exact isDraft_of_same draft published.1
              · intro reply _
                have same : Same phase { reached with
                    known := reached.known.forget (· = temporary) } :=
                  unlink_same (second.trans published.1)
                cases reply with
                | error fault => exact same
                | ok done =>
                    cases outcome with
                    | error fault => exact same
                    | ok probe =>
                        exact normalized_of_published second known chosen apart
                          away elsewhere (published.2 probe rfl)
            apply finished.bind
            · intro probe reached holds
              exact holds
            · intro fault reached same
              exact same
          · intro fault reached holds
            rw [holds.1]
            exact second
    · intro fault reached same
      exact first.trans same
  · intro fault reached same
    exact same

theorem asking {α : Type} {request : MediaCall}
    {next : MediaReply request → MediaProgram α}
    {post : Except MediaFault α → Workspace → Prop}
    (question : isQuestion request = true)
    (raised : ∀ fault, post (.error fault) phase)
    (continues : ∀ value, phase.assumes resolve request (.ok value) →
      Follows (publishing resolve normalizer.library) phase (next value) post) :
    Follows (publishing resolve normalizer.library) phase
      (invoke request >>= next) post := by
  apply follows_bind.mpr
  constructor
  · exact permits_question question
  · intro reply assumed
    have same : (publishing resolve normalizer.library).advance phase request
        reply = phase := note_question question
    rw [same]
    cases reply with
    | error fault => exact raised fault
    | ok value => exact continues value assumed

theorem normalizeToOutput_follows {input : FilePath} {directory : String}
    (own : phase.directory = some directory)
    (plain : IsPlain resolve directory) :
    Follows (publishing resolve normalizer.library) phase
      (normalizer.normalizeToOutput input ⟨directory, OUTPUT_NAME⟩)
      (Results (resolve input) (outputIn resolve directory) phase) := by
  have named : (outputIn resolve directory).name = OUTPUT_NAME :=
    congrArg FilePath.name (plain OUTPUT_NAME)
  have failing : ∀ fault, Results (resolve input) (outputIn resolve directory)
      phase (.error fault) phase := fun _ => Same.refl phase
  unfold Normalizer.normalizeToOutput
  apply asking
  · rfl
  · exact failing
  intro source here
  apply asking
  · rfl
  · exact failing
  intro destination there
  obtain rfl : source = resolve input := here
  obtain rfl : destination = outputIn resolve directory := there
  apply asking
  · rfl
  · exact failing
  intro present _
  split
  · exact failing _
  split
  · exact failing _
  rename_i elsewhere
  apply asking
  · rfl
  · exact failing
  intro taken _
  split
  · exact failing _
  split
  · exact failing _
  apply asking
  · rfl
  · exact failing
  intro housed _
  split
  · exact failing _
  exact produce_follows own rfl named elsewhere

/-- Where a normalization has nothing left, unless a directory could not be
removed. -/
def Left (phase : Workspace) : Prop :=
  phase.directory = none ∨ phase.uncleaned = true

theorem cleanup_follows {directory : String}
    (own : phase.directory = some directory) :
    Follows (publishing resolve normalizer.library) phase
      (invoke (.cleanup directory)) fun _ reached => Left reached := by
  constructor
  · exact own
  · intro reply _
    cases reply with
    | ok done => exact .inl rfl
    | error fault => exact .inr rfl

def Entered (resolve : FilePath → FilePath) (input : FilePath) :
    Except MediaFault (String × NormalizedFile) → Workspace → Prop
  | .ok (directory, normalized), reached =>
      reached.directory = some directory ∧ ∃ phase,
        Normalized (resolve input) (outputIn resolve directory) phase normalized
          reached
  | .error _, reached => Left reached

theorem enter_follows {input : FilePath} (fresh : phase.directory = none) :
    Follows (publishing resolve normalizer.library) phase
      (normalizer.enter input) (Entered resolve input) := by
  unfold Normalizer.enter
  apply follows_bind.mpr
  constructor
  · exact fresh
  · intro reply assumed
    cases reply with
    | error fault => exact .inl fresh
    | ok directory =>
        apply (normalizeToOutput_follows rfl assumed).attempt
        intro outcome reached results
        cases outcome with
        | ok normalized => exact ⟨results.same.directory, _, results⟩
        | error fault =>
            apply (cleanup_follows results.directory).bind
            · intro _ after left
              exact left
            · intro _ after left
              exact left

def isReading : MediaCall → Bool
  | .run command _ => writes command = none
  | .size _ => true
  | request => isQuestion request

def reading : Protocol MediaCall MediaReply MediaFault Unit where
  permits := fun _ call => isReading call = true
  assumes := fun _ _ _ => True
  advance := fun phase _ _ => phase

theorem permits_reading {call : MediaCall} (looks : isReading call = true) :
    phase.permits resolve call := by
  cases call with
  | run command timeoutSeconds =>
      intro target written
      rw [of_decide_eq_true looks] at written
      cases written
  | size path => trivial
  | resolve path => trivial
  | isFile path => trivial
  | pathExists path => trivial
  | isDirectory directory => trivial
  | _ => cases looks

theorem note_reading {call : MediaCall}
    {reply : Except MediaFault (MediaReply call)}
    (looks : isReading call = true) :
    Same phase (phase.note resolve normalizer.library call reply) := by
  cases call with
  | run command timeoutSeconds =>
      change Same phase (phase.ran normalizer.library command reply)
      unfold Workspace.ran
      split
      · exact ⟨rfl, rfl⟩
      · split
        · exact ⟨rfl, rfl⟩
        · exact Same.refl phase
      · exact Same.refl phase
  | size path =>
      cases reply with
      | ok bytes => exact ⟨rfl, rfl⟩
      | error fault => exact Same.refl phase
  | resolve path => exact Same.refl phase
  | isFile path => exact Same.refl phase
  | pathExists path => exact Same.refl phase
  | isDirectory directory => exact Same.refl phase
  | _ => cases looks

theorem reading_follows {α : Type} {program : MediaProgram α}
    (looks : Follows reading () program fun _ _ => True) :
    Follows (publishing resolve normalizer.library) phase program
      fun _ reached => Same phase reached := by
  induction program generalizing phase with
  | done result => exact Same.refl phase
  | call request resume ih =>
      obtain ⟨looking, continues⟩ := looks
      constructor
      · exact permits_reading looking
      · intro reply _
        apply (ih reply (continues reply trivial)).mono
        intro _ reached same
        exact (note_reading looking).trans same

theorem normalizeVideo_follows {α : Type} {input : FilePath}
    {body : NormalizedFile → MediaProgram α}
    (looks : ∀ normalized, Follows reading () (body normalized)
      fun _ _ => True)
    (fresh : phase.directory = none) :
    Follows (publishing resolve normalizer.library) phase
      (normalizer.normalizeVideo input body) fun _ reached => Left reached := by
  unfold Normalizer.normalizeVideo
  apply (enter_follows fresh).bind
  · intro entered reached holds
    obtain ⟨directory, normalized⟩ := entered
    apply (reading_follows (looks normalized)).ensure
    intro outcome after same
    apply (cleanup_follows (same.directory.trans holds.1)).mono
    intro cleaned last left
    cases cleaned with
    | ok done => exact left
    | error fault => exact left
  · intro fault reached left
    exact left

/-- What is entered is a published result, and nothing is left of it by a body
that looks at files only. -/
theorem video_normalized (resolve : FilePath → FilePath)
    (normalizer : Normalizer) (known : Knowledge) (input : FilePath) :
    Follows (publishing resolve normalizer.library) { known }
        (normalizer.enter input) (Entered resolve input) ∧
      ∀ (α : Type) (body : NormalizedFile → MediaProgram α),
        (∀ normalized, Follows reading () (body normalized) fun _ _ => True) →
        Follows (publishing resolve normalizer.library) { known }
          (normalizer.normalizeVideo input body)
          fun _ reached => Left reached := by
  constructor
  · exact enter_follows rfl
  · intro α body looks
    exact normalizeVideo_follows looks rfl

end

/-! A file that is canonical already, and that is copied. -/

def sampleProbe : MediaProbe where
  videoCodec := "h264"
  pixelFormat := some "yuv420p"
  audioCodecs := ["aac"]
  duration := some 1000000
  width := some 720
  height := some 1280
  containerFormats := ["mov", "mp4"]

def sampleNormalizer : Normalizer where
  library := asciiLibrary fun text =>
    if text = "1.000000" then some 1000000 else none

def sampleAnswer : (call : MediaCall) → MediaReply call
  | .temporaryDirectory => "/tmp/offline-reels-normalized-1"
  | .resolve path => path
  | .isFile _ => true
  | .pathExists _ => false
  | .isDirectory _ => true
  | .mkstemp directory => ⟨directory, ".offline-reels-normalizing-1.mp4"⟩
  | .run _ _ => ⟨0, some (documentOf sampleProbe (some "1.000000"))⟩
  | .size _ => 4096
  | .cleanup _ | .closeDescriptor _ | .copyFile _ _ | .replace _ _
  | .unlink _ => ()

def sampleEntered : Except MediaFault (String × NormalizedFile) :=
  ((sampleNormalizer.enter ⟨"/videos", "reel.mp4"⟩).play
    (fun _ call => (.ok (sampleAnswer call), ())) ()).1

def sampleBody (normalized : NormalizedFile) : MediaProgram Nat :=
  invoke (.size normalized.outputPath)

theorem sample_video_normalized :
    (sampleEntered.toOption.map fun entered => entered.2.strategy) =
        some .passthrough ∧
      Follows (publishing id sampleNormalizer.library) {}
        (sampleNormalizer.normalizeVideo ⟨"/videos", "reel.mp4"⟩ sampleBody)
        fun _ reached => Left reached := by
  constructor
  · decide +kernel
  · apply (video_normalized id sampleNormalizer (fun _ => {})
      ⟨"/videos", "reel.mp4"⟩).2
    intro normalized
    exact ⟨rfl, fun _ _ => trivial⟩

end Publishing

end OfflineReels.Media
