import OfflineReels.Collector.CollectRules

namespace OfflineReels.Collector.FeedGate

open OfflineReels.Foundation
open OfflineReels.Foundation.Program
open OfflineReels.Instagram
open OfflineReels.Collector.CollectorEngine

/-! The feed moves on only from a Reel that was committed or skipped.  The phase
is the whole history of port calls, so nothing is assumed of any port. -/

abbrev PortEvent : Type := Event EngineCall EngineReply CollectorFault

def isFeedInput : EngineCall → Bool
  | .advance => true
  | .nextFromAuthenticatedFeed _ _ => true
  | _ => false

def shows : PortEvent → Option ReelCandidate
  | ⟨.current, .ok candidate⟩ => some candidate
  | ⟨.waitForNext _ _, .ok candidate⟩ => candidate
  | ⟨.nextFromAuthenticatedFeed _ _, .ok candidate⟩ => candidate
  | _ => none

def commits (runId : UUID) (candidate : ReelCandidate) : PortEvent → Bool
  | ⟨.commitSource owner committed _ _, .ok _⟩ =>
      owner = runId ∧ committed = candidate
  | ⟨.commitAvailable owner committed, .ok _⟩ =>
      owner = runId ∧ committed = candidate
  | _ => false

def owns (accountId : UUID) (candidate : ReelCandidate) : PortEvent → Bool
  | ⟨.accountHasDurableReel owner shortcode, .ok owned⟩ =>
      owner = accountId ∧ shortcode = candidate.shortcode ∧ owned
  | _ => false

def acquires : PortEvent → Bool
  | ⟨.download _ _, _⟩ => true
  | ⟨.validate _, _⟩ => true
  | ⟨.publish _ _, _⟩ => true
  | ⟨.commitSource _ _ _ _, _⟩ => true
  | ⟨.commitAvailable _ _, _⟩ => true
  | _ => false

def fails : PortEvent → Bool
  | ⟨.pauseCurrent, .error _⟩ => true
  | ⟨.download _ _, .error _⟩ => true
  | ⟨.validate _, .error _⟩ => true
  | ⟨.publish _ _, .error _⟩ => true
  | ⟨.commitSource _ _ _ _, .error _⟩ => true
  | ⟨.commitAvailable _ _, .error _⟩ => true
  | _ => false

def creates : PortEvent → Option UUID
  | ⟨.createRun _ _ _, .ok runId⟩ => some runId
  | _ => none

def runOf (request : CollectRequest) (history : List PortEvent) :
    Option UUID :=
  match request.claimedRunId with
  | some runId => some runId
  | none => history.findSome? creates

def Showing (candidate : ReelCandidate) (since : List PortEvent → Prop)
    (history : List PortEvent) : Prop :=
  ∃ earlier shown later, history = earlier ++ shown :: later ∧
    shows shown = some candidate ∧ (∀ event ∈ later, shows event = none) ∧
    since later

def Committed (runId : UUID) (candidate : ReelCandidate)
    (later : List PortEvent) : Prop :=
  ∃ event ∈ later, commits runId candidate event = true

def Untouched (later : List PortEvent) : Prop :=
  ∀ event ∈ later, acquires event = false

def Owned (accountId : UUID) (candidate : ReelCandidate)
    (later : List PortEvent) : Prop :=
  ∃ event ∈ later, owns accountId candidate event = true

def Settled (accountId runId : UUID) (candidate : ReelCandidate)
    (later : List PortEvent) : Prop :=
  Committed runId candidate later ∨
    Untouched later ∧ Owned accountId candidate later

def Intact (history : List PortEvent) : Prop :=
  ∀ event ∈ history, fails event = false

def Gated (request : CollectRequest) (history : List PortEvent) : Prop :=
  Intact history ∧ ∃ runId candidate, runOf request history = some runId ∧
    Showing candidate (Settled request.accountId runId candidate) history

def gate (request : CollectRequest) :
    Protocol EngineCall EngineReply CollectorFault (List PortEvent) where
  permits := fun history input => isFeedInput input = true →
    Gated request history
  assumes := fun _ _ _ => True
  advance := fun history input reply => history ++ [⟨input, reply⟩]

section

variable {request : CollectRequest} {runId : UUID} {event : PortEvent}
variable {history later : List PortEvent} {candidate : ReelCandidate}

theorem runOf_append (known : runOf request history = some runId) :
    runOf request (history ++ [event]) = some runId := by
  unfold runOf at known ⊢
  split
  · rename_i claimed
    rwa [claimed] at known
  · rename_i created
    rw [created] at known
    dsimp only at known
    rw [List.findSome?_append, known]
    rfl

theorem Intact.append (intact : Intact history) (passes : fails event = false) :
    Intact (history ++ [event]) := by
  intro other member
  rcases List.mem_append.mp member with earlier | latest
  · exact intact other earlier
  · rw [List.mem_singleton.mp latest]
    exact passes

theorem Untouched.append (untouched : Untouched later)
    (apart : acquires event = false) : Untouched (later ++ [event]) := by
  intro other member
  rcases List.mem_append.mp member with earlier | latest
  · exact untouched other earlier
  · rw [List.mem_singleton.mp latest]
    exact apart

theorem Owned.append {accountId : UUID}
    (owned : Owned accountId candidate later) :
    Owned accountId candidate (later ++ [event]) := by
  obtain ⟨other, member, holds⟩ := owned
  exact ⟨other, List.mem_append_left _ member, holds⟩

theorem Settled.append {accountId : UUID}
    (settled : Settled accountId runId candidate later)
    (apart : acquires event = false) :
    Settled accountId runId candidate (later ++ [event]) := by
  rcases settled with ⟨other, member, commits⟩ | ⟨untouched, owned⟩
  · exact .inl ⟨other, List.mem_append_left _ member, commits⟩
  · exact .inr ⟨untouched.append apart, owned.append⟩

theorem Showing.append {since since' : List PortEvent → Prop}
    (showing : Showing candidate since history) (hidden : shows event = none)
    (extends' : ∀ later, since later → since' (later ++ [event])) :
    Showing candidate since' (history ++ [event]) := by
  obtain ⟨earlier, shown, later, rfl, shows, nothing, holds⟩ := showing
  refine ⟨earlier, shown, later ++ [event], by simp, shows, ?_,
    extends' later holds⟩
  intro other member
  rcases List.mem_append.mp member with earlier | latest
  · exact nothing other earlier
  · rw [List.mem_singleton.mp latest]
    exact hidden

theorem Showing.mono {since since' : List PortEvent → Prop}
    (showing : Showing candidate since history)
    (weaken : ∀ later, since later → since' later) :
    Showing candidate since' history := by
  obtain ⟨earlier, shown, later, split, shows, nothing, holds⟩ := showing
  exact ⟨earlier, shown, later, split, shows, nothing, weaken later holds⟩

end

def Running (request : CollectRequest) (runId : UUID)
    (history : List PortEvent) : Prop :=
  Intact history ∧ runOf request history = some runId

def Screen (request : CollectRequest) (runId : UUID)
    (candidate : ReelCandidate) (since : List PortEvent → Prop)
    (history : List PortEvent) : Prop :=
  Running request runId history ∧ Showing candidate since history

def isPlain (event : PortEvent) : Bool :=
  shows event = none && !fails event && !acquires event

def Stable (property : List PortEvent → Prop) : Prop :=
  ∀ history event, isPlain event = true → property history →
    property (history ++ [event])

section

variable {request : CollectRequest} {runId : UUID}
variable {history : List PortEvent} {candidate : ReelCandidate}
variable {since since' : List PortEvent → Prop}

theorem Running.append {event : PortEvent}
    (running : Running request runId history) (passes : fails event = false) :
    Running request runId (history ++ [event]) :=
  ⟨running.1.append passes, runOf_append running.2⟩

theorem Screen.append {event : PortEvent}
    (screen : Screen request runId candidate since history)
    (hidden : shows event = none) (passes : fails event = false)
    (extends' : ∀ later, since later → since' (later ++ [event])) :
    Screen request runId candidate since' (history ++ [event]) :=
  ⟨screen.1.append passes, screen.2.append hidden extends'⟩

theorem Screen.mono (screen : Screen request runId candidate since history)
    (weaken : ∀ later, since later → since' later) :
    Screen request runId candidate since' history :=
  ⟨screen.1, screen.2.mono weaken⟩

theorem Screen.shown {event : PortEvent}
    (running : Running request runId history)
    (shown : shows event = some candidate) (passes : fails event = false) :
    Screen request runId candidate Untouched (history ++ [event]) :=
  ⟨running.append passes, history, event, [], rfl, shown, nofun, nofun⟩

theorem isPlain_iff {event : PortEvent} : isPlain event = true ↔
    shows event = none ∧ fails event = false ∧ acquires event = false := by
  simp [isPlain, and_assoc]

theorem stable_any : Stable fun _ => True :=
  fun _ _ _ _ => trivial

theorem running_stable : Stable (Running request runId) := by
  intro history event plain running
  exact running.append (isPlain_iff.mp plain).2.1

theorem screen_stable (stable : Stable since) :
    Stable (Screen request runId candidate since) := by
  intro history event plain screen
  have parts := isPlain_iff.mp plain
  exact screen.append parts.1 parts.2.1 fun later => stable later event plain

theorem untouched_stable : Stable Untouched :=
  fun _ _ plain untouched => untouched.append (isPlain_iff.mp plain).2.2

theorem settled_stable {accountId : UUID} :
    Stable (Settled accountId runId candidate) :=
  fun _ _ plain settled => settled.append (isPlain_iff.mp plain).2.2

theorem gated_of_settled
    (screen : Screen request runId candidate
      (Settled request.accountId runId candidate) history) :
    Gated request history :=
  ⟨screen.1.1, runId, candidate, screen.1.2, screen.2⟩

theorem plain_steady {steady : List PortEvent → Prop} (stable : Stable steady)
    {input : EngineCall} (still : isFeedInput input = false)
    (plain : ∀ reply, isPlain ⟨input, reply⟩ = true) :
    Steady (gate request) steady input := by
  refine leads_perform (fun _ _ feeds => ?_) fun history reply holds _ => ?_
  · rw [still] at feeds
    cases feeds
  · exact stable history _ (plain reply) holds

theorem quiet_steady {steady : List PortEvent → Prop}
    (stable : Stable steady) : QuietSteady (gate request) steady := by
  intro input quiet
  cases input <;> first
    | exact plain_steady stable rfl fun _ => rfl
    | cases quiet

theorem recording_steady {steady : List PortEvent → Prop}
    (stable : Stable steady) : RecordingSteady (gate request) steady := by
  intro input recording
  cases input <;> first
    | exact plain_steady stable rfl fun _ => rfl
    | cases recording

theorem still_yields {input : EngineCall}
    (still : isFeedInput input = false)
    {post : EngineReply input → List PortEvent → Prop}
    (returned : ∀ value, post value (history ++ [⟨input, .ok value⟩])) :
    Yields (gate request) (fun _ => True) history (ask input) post := by
  refine yields_perform (fun feeds => ?_) (fun value _ => returned value)
    fun _ _ => trivial
  rw [still] at feeds
  cases feeds

theorem ended_rules : EndRules (gate request) (fun _ => True) runId where
  quiet := quiet_steady stable_any
  fails := fun _ => plain_steady stable_any rfl fun _ => rfl
  cancels := fun _ => plain_steady stable_any rfl fun _ => rfl

end

section

variable {request : CollectRequest} {runId : UUID}
variable {history : List PortEvent}

def acquiring (request : CollectRequest) (runId : UUID)
    (candidate : ReelCandidate) : AcquireStates (List PortEvent) where
  before := Screen request runId candidate fun _ => True
  valid := fun _ => Screen request runId candidate fun _ => True
  stored := fun _ _ => Screen request runId candidate fun _ => True
  acquired := Screen request runId candidate
    (Settled request.accountId runId candidate)
  faulted := fun _ _ _ => True
  undone := fun _ _ => True
  ended := fun _ => True

theorem acquire_rules (candidate : ReelCandidate) :
    AcquireRules (gate request) (acquiring request runId candidate) runId
      candidate where
  beforeQuiet := quiet_steady (screen_stable stable_any)
  beforeRecording := recording_steady (screen_stable stable_any)
  validQuiet := fun _ => quiet_steady (screen_stable stable_any)
  validRecording := fun _ =>
    recording_steady (screen_stable stable_any)
  storedQuiet := fun _ _ => quiet_steady (screen_stable stable_any)
  storedRecording := fun _ _ =>
    recording_steady (screen_stable stable_any)
  acquiredQuiet := quiet_steady (screen_stable settled_stable)
  acquiredRecording := recording_steady (screen_stable settled_stable)
  temporaryPath := fun _ screen => still_yields rfl fun _ =>
    screen.append rfl rfl fun _ _ => trivial
  download := fun _ _ screen => still_yields rfl fun _ =>
    screen.append rfl rfl fun _ _ => trivial
  validate := fun _ _ screen => still_yields rfl fun _ =>
    screen.append rfl rfl fun _ _ => trivial
  publish := fun _ _ _ _ screen _ => still_yields rfl fun _ =>
    screen.append rfl rfl fun _ _ => trivial
  commit := fun _ _ _ screen => still_yields rfl fun _ =>
    screen.append rfl rfl fun _ _ =>
      .inl ⟨_, List.mem_append_right _ (List.mem_singleton_self _),
        by simp [commits]⟩
  beforeFaults := fun _ _ => trivial
  validFaults := fun _ _ _ => trivial
  storedFaults := fun _ _ _ _ => trivial
  acquiredFaults := fun _ _ _ => trivial
  delete := fun _ _ _ _ => still_yields rfl fun _ => trivial
  keeps := fun _ _ _ _ _ => trivial
  recordFailure := fun _ _ _ _ => still_yields rfl fun _ => trivial
  ends := fun _ _ _ => trivial
  faultedEnds := fun _ _ _ _ => trivial
  acquiredEnds := fun _ _ => trivial
  cleanupAcquired := fun _ =>
    plain_steady (screen_stable settled_stable) rfl fun _ => rfl
  cleanupEnded := fun _ =>
    plain_steady stable_any rfl fun _ => rfl

def Asked (request : CollectRequest) (candidate : ReelCandidate)
    (owned : Bool) (later : List PortEvent) : Prop :=
  Untouched later ∧
    (owned = true → Owned request.accountId candidate later)

theorem asked_stable {candidate : ReelCandidate} {owned : Bool} :
    Stable (Asked request candidate owned) :=
  fun _ _ plain asked => ⟨asked.1.append (isPlain_iff.mp plain).2.2,
    fun holds => (asked.2 holds).append⟩

def Cleared (request : CollectRequest) (runId : UUID)
    (candidate : ReelCandidate) : List PortEvent → Prop :=
  Screen request runId candidate (Settled request.accountId runId candidate)

theorem cleared_stable {candidate : ReelCandidate} :
    Stable (Cleared request runId candidate) :=
  screen_stable settled_stable

theorem process_screens (engine : CollectorEngine) (deadline : Option Int)
    (progress : Progress) (owned : Bool) (status : Option ReelPipelineStatus)
    (screen : Screen request runId progress.candidate
      (Asked request progress.candidate owned) history) :
    Settles (gate request) (fun _ => True) history
      (process engine runId deadline progress owned status)
      fun processed => Cleared request runId processed.candidate := by
  have recording : RecordingSteady (gate request)
      (Cleared request runId progress.candidate) :=
    recording_steady cleared_stable
  refine (process_settles deadline progress owned status recording
    (fun _ _ => trivial) ?_ ?_ ?_).mono ?_
  · intro holds
    exact screen.mono fun later asked => .inr ⟨asked.1, asked.2 holds⟩
  · intro _ _
    refine still_yields rfl fun _ => screen.append rfl rfl fun _ _ => ?_
    exact .inl ⟨_, List.mem_append_right _ (List.mem_singleton_self _),
      by simp [commits]⟩
  · intro _ _
    exact acquire_settles (acquire_rules progress.candidate) engine deadline
      progress rfl (screen.mono fun _ _ => trivial)
  · intro processed reached settled
    obtain ⟨kept, bytes, rfl⟩ := settled
    exact kept

end

section

variable {request : CollectRequest} {runId : UUID}
variable {history : List PortEvent} {candidate : ReelCandidate}

def Moved (request : CollectRequest) (runId : UUID) (transition : Transition)
    (history : List PortEvent) : Prop :=
  ∀ candidate, transition.nextCandidate = some candidate →
    Screen request runId candidate Untouched history

def Found (request : CollectRequest) (runId : UUID)
    (previous : ReelCandidate) :
    Option ReelCandidate → List PortEvent → Prop
  | some candidate => Screen request runId candidate Untouched
  | none => Cleared request runId previous

theorem shown_yields {input : EngineCall}
    (reads : EngineReply input = Option ReelCandidate)
    (screen : Cleared request runId candidate history)
    (shown : ∀ value, shows ⟨input, .ok value⟩ = reads ▸ value)
    (apart : ∀ reply, fails ⟨input, reply⟩ = false ∧
      acquires ⟨input, reply⟩ = false)
    (refused : ∀ fault, shows ⟨input, .error fault⟩ = none) :
    Yields (gate request)
      (Cleared request runId candidate) history (ask input)
      fun value => Found request runId candidate (reads ▸ value) := by
  refine yields_perform (fun _ => gated_of_settled screen) ?_ ?_
  · intro value _
    have kept := apart (.ok value)
    cases found : (reads ▸ value : Option ReelCandidate) with
    | some next =>
        exact Screen.shown screen.1 ((shown value).trans found) kept.1
    | none =>
        exact screen.append ((shown value).trans found) kept.1
          fun _ settled => settled.append kept.2
  · intro fault _
    have kept := apart (.error fault)
    exact screen.append (refused fault) kept.1
      fun _ settled => settled.append kept.2

theorem nextFromFeed_found (previous : String) (preserve : Bool)
    (screen : Cleared request runId candidate history) :
    Yields (gate request)
      (Cleared request runId candidate) history
      (ask (.nextFromAuthenticatedFeed previous preserve))
      (Found request runId candidate) :=
  shown_yields rfl screen (fun _ => rfl) (fun _ => ⟨rfl, rfl⟩) fun _ => rfl

theorem waitForNext_found (previous : String) (paused : Bool)
    (screen : Cleared request runId candidate history) :
    Yields (gate request)
      (Cleared request runId candidate) history
      (ask (.waitForNext previous paused))
      (Found request runId candidate) :=
  shown_yields rfl screen (fun _ => rfl) (fun _ => ⟨rfl, rfl⟩) fun _ => rfl

theorem gestureAttempts_moved (position : Nat) (previous : String)
    (deadline : Option Int) (remaining : Option Nat) (attempts : List Nat)
    (screen : Cleared request runId candidate history) :
    Yields (gate request) (fun _ => True) history
      (gestureAttempts position previous deadline remaining attempts)
      (Moved request runId) := by
  have stable : Stable (Cleared request runId candidate) :=
    cleared_stable
  induction attempts generalizing history with
  | nil => exact fun _ clash => by cases clash
  | cons attempt later ih =>
      unfold gestureAttempts
      split
      · exact fun _ clash => by cases clash
      have advanced : Yields (gate request) (fun _ => True) history
          (do
            requireDeadline deadline
            ask .advance
            return true : EngineProgram Bool)
          fun _ => Cleared request runId candidate := by
        refine Yields.bind (((requireDeadline_leads (quiet_steady stable)
          deadline).yields screen).weaken fun _ _ => trivial)
          fun _ reached kept => ?_
        refine Yields.bind (yields_perform (fun _ => gated_of_settled kept)
          (fun _ _ => stable _ _ rfl kept) fun _ _ => trivial) ?_
        exact fun _ _ kept => kept
      have tried : Yields (gate request) (fun _ => True) history
          ((do
            requireDeadline deadline
            ask .advance
            return true : EngineProgram Bool).rescue
              (fun fault => fault = .collectorDeadlineExceeded)
              fun _ => pure false)
          fun moved reached => moved = true →
            Cleared request runId candidate reached :=
        Yields.rescue (advanced.mono fun _ _ kept _ => kept)
          fun _ _ _ impossible => by cases impossible
      refine Yields.bind tried fun moved reached kept => ?_
      cases moved with
      | false => exact fun _ clash => by cases clash
      | true =>
          refine Yields.bind (((recorded_leads (recording_steady stable)
            position _).yields (kept rfl)).weaken fun _ _ => trivial)
            fun _ reached kept => ?_
          have waited : Yields (gate request)
              (Cleared request runId candidate) reached
              (waitForNext previous) (Found request runId candidate) :=
            Yields.rescue (waitForNext_found previous true kept)
              fun _ _ kept => waitForNext_found previous false kept
          refine Yields.bind (Yields.weaken waited fun _ _ => trivial)
            fun next reached found => ?_
          cases next with
          | some next =>
              intro shown same
              cases same
              exact found
          | none =>
              refine Yields.bind (((deadlineExpired_leads
                (quiet_steady stable) deadline).yields found).weaken
                fun _ _ => trivial) fun expired reached kept => ?_
              cases expired with
              | true => exact fun _ clash => by cases clash
              | false => exact ih kept

theorem confirmTransition_moved (engine : CollectorEngine) (position : Nat)
    (previous : String) (deadline : Option Int) (remaining : Option Nat)
    (screen : Cleared request runId candidate history) :
    Yields (gate request) (fun _ => True) history
      (confirmTransition engine position previous deadline remaining)
      (Moved request runId) := by
  unfold confirmTransition
  split
  · have asked : Yields (gate request) (Cleared request runId candidate)
        history
        ((ask (.nextFromAuthenticatedFeed previous true)).rescue isTypeError
          fun _ => ask (.nextFromAuthenticatedFeed previous false))
        (Found request runId candidate) :=
      Yields.rescue (nextFromFeed_found previous true screen)
        fun _ _ kept => nextFromFeed_found previous false kept
    refine Yields.bind (Yields.weaken asked fun _ _ => trivial)
      fun next reached found => ?_
    cases next with
    | none => exact nofun
    | some next =>
        refine Yields.bind (((recorded_leads (recording_steady (screen_stable
          untouched_stable)) position _).yields found).weaken
          fun _ _ => trivial) fun _ reached kept => ?_
        intro shown same
        cases same
        exact kept
  · exact gestureAttempts_moved position previous deadline remaining _ screen

end

section

variable {request : CollectRequest} {runId : UUID}
variable {history : List PortEvent}

def gated (request : CollectRequest) (runId : UUID) :
    CollectStates (List PortEvent) where
  started := Running request runId
  watching := fun progress =>
    Screen request runId progress.candidate Untouched
  owning := fun progress owned => Screen request runId progress.candidate
    (Asked request progress.candidate owned)
  detected := fun progress owned _ =>
    Screen request runId progress.candidate
      (Asked request progress.candidate owned)
  acquired := fun _ progress => Cleared request runId progress.candidate
  enough := fun _ _ => True
  short := fun progress => Cleared request runId progress.candidate
  cooled := fun progress => Cleared request runId progress.candidate
  moved := fun _ => Moved request runId
  ended := fun _ => True
  done := fun _ _ => True

theorem firstCandidate_shown (engine : CollectorEngine)
    (running : Running request runId history) :
    Yields (gate request) (fun _ => True) history
      (firstCandidate engine runId)
      fun candidate => Screen request runId candidate Untouched := by
  refine Yields.bind (((raiseIfCancelRequested_leads
    (quiet_steady running_stable) engine runId).yields running).weaken
    fun _ _ => trivial) fun _ reached running => ?_
  have shown : Yields (gate request) (fun _ => True) reached (ask .current)
      fun candidate => Screen request runId candidate Untouched :=
    still_yields rfl fun _ => Screen.shown running rfl rfl
  refine Yields.bind shown fun candidate reached screen => ?_
  cases valid : validateCandidate candidate with
  | error fault => trivial
  | ok accepted =>
      obtain ⟨rfl, _⟩ := validateCandidate_eq_ok valid
      exact screen

theorem queryOwned_asked (progress : Progress)
    (screen : Screen request runId progress.candidate Untouched history) :
    Yields (gate request) (fun _ => True) history
      (queryOwned request progress) fun owned =>
        Screen request runId progress.candidate
          (Asked request progress.candidate owned) := by
  unfold queryOwned
  split
  · refine still_yields rfl fun owned => screen.append rfl rfl ?_
    intro later untouched
    refine ⟨untouched.append rfl, fun holds => ?_⟩
    exact ⟨_, List.mem_append_right _ (List.mem_singleton_self _),
      by simp [owns, holds]⟩
  · exact screen.mono fun _ untouched => ⟨untouched, nofun⟩

theorem detect_asked (progress : Progress) {owned : Bool}
    (screen : Screen request runId progress.candidate
      (Asked request progress.candidate owned) history) :
    Yields (gate request) (fun _ => True) history (detect progress)
      fun _ => Screen request runId progress.candidate
        (Asked request progress.candidate owned) := by
  have stable : Stable (Screen request runId progress.candidate
      (Asked request progress.candidate owned)) :=
    screen_stable asked_stable
  have recording : RecordingSteady (gate request) (Screen request runId
      progress.candidate (Asked request progress.candidate owned)) :=
    recording_steady stable
  have event := recorded_leads recording progress.position
  refine Yields.bind (((event .detect).yields screen).weaken
    fun _ _ => trivial) fun _ reached screen => ?_
  refine Yields.bind (still_yields rfl fun _ => stable _ _ rfl screen)
    fun _ reached screen => ?_
  refine Yields.bind (((event .pause).yields screen).weaken
    fun _ _ => trivial) fun _ reached screen => ?_
  exact still_yields rfl fun _ => stable _ _ rfl screen

theorem gated_rules (engine : CollectorEngine) :
    CollectRules (gate request) (gated request runId) engine request
      runId where
  endings := ended_rules
  starts := fun _ running => firstCandidate_shown engine running
  watchingQuiet := fun _ => quiet_steady (screen_stable untouched_stable)
  watchingEnds := fun _ _ _ => trivial
  owns := fun progress _ screen _ => queryOwned_asked progress screen
  owningEnds := fun _ _ _ _ => trivial
  detects := fun progress _ _ screen _ => detect_asked progress screen
  processes := fun deadline _ owned status _ screen =>
    process_screens engine deadline _ owned status screen
  counts := fun _ _ _ screen => still_yields rfl fun stored => by
    split
    · trivial
    · exact cleared_stable _ _ rfl screen
  completes := fun counts _ _ => (complete_leads ended_rules
    (plain_steady stable_any rfl fun _ => rfl)
    (fun _ => plain_steady stable_any rfl fun _ => rfl) request
    counts).yields trivial
  shortQuiet := fun _ => quiet_steady cleared_stable
  shortEnds := fun _ _ _ => trivial
  cools := fun deadline progress _ screen =>
    ((coolDown_leads (quiet_steady cleared_stable)
      (recording_steady cleared_stable) engine deadline progress).yields
      screen).weaken fun _ _ => trivial
  cooledQuiet := fun _ => quiet_steady cleared_stable
  cooledEnds := fun _ _ _ => trivial
  moves := fun deadline _ _ screen =>
    confirmTransition_moved engine _ _ deadline _ screen
  movedEnds := fun _ _ _ _ => trivial
  confirms := fun progress _ candidate _ moved found _ _ =>
    ((recorded_leads (recording_steady (screen_stable untouched_stable))
      progress.position _).yields (moved candidate found)).weaken
      fun _ _ => trivial
  finishes := fun _ _ _ _ => trivial
  doneEnds := fun _ _ _ => trivial
  doneQuiet := fun _ => quiet_steady stable_any

end

theorem obtainRun_running (request : CollectRequest) :
    Yields (gate request) (fun _ => True) [] (obtainRun request)
      fun runId => Running request runId := by
  unfold obtainRun
  split
  · rename_i runId claimed
    refine ⟨nofun, ?_⟩
    unfold runOf
    rw [claimed]
  · rename_i created
    refine still_yields rfl fun runId => ?_
    refine ⟨Intact.append nofun rfl, ?_⟩
    unfold runOf
    rw [created]
    rfl

/-- Whatever the ports answer, a feed input finds the last Reel settled. -/
theorem feed_input_gated (engine : CollectorEngine) (request : CollectRequest)
    {history : List PortEvent} {input : EngineCall}
    {resume : Except CollectorFault (EngineReply input) →
      EngineProgram CollectorSummary}
    (reached : (engine.collect request).Reaches Records []
      (.call input resume) history)
    (feeds : isFeedInput input = true) : Gated request history := by
  have rules : ∀ runId, argumentsAccepted engine.limits request = true →
      CollectRules (gate request) (gated request runId) engine request runId :=
    fun _ _ => gated_rules engine
  have follows := collect_yields (gated request) engine request
    (fun _ => quiet_steady running_stable) rules (fun _ _ _ => trivial)
    (obtainRun_running request) trivial fun _ _ _ => trivial
  have answers : ∀ (phase history : List PortEvent) (input : EngineCall) reply
      (after : List PortEvent), phase = history →
      (gate request).permits phase input →
      Records history input reply after →
      (gate request).assumes phase input reply ∧
        (gate request).advance phase input reply = after := by
    intro phase history input reply after same _ recorded
    subst same
    exact ⟨trivial, recorded.symm⟩
  obtain ⟨_, here, rfl⟩ := Follows.reaches answers follows rfl reached
  exact here.1 feeds

def firstReel : ReelCandidate := ⟨"A", "https://www.instagram.com/reel/A/"⟩

def firstRequest : CollectRequest := ⟨1, .manual, 2, none, some 7⟩

def firstCommit : List PortEvent :=
  [⟨.current, .ok firstReel⟩, ⟨.record 1 .detect, .ok ()⟩,
    ⟨.pauseCurrent, .ok ()⟩, ⟨.record 1 .pause, .ok ()⟩,
    ⟨.reelStatus "A", .ok (some .ready)⟩,
    ⟨.commitAvailable 7 firstReel, .ok ()⟩, ⟨.record 1 .dbCommit, .ok ()⟩,
    ⟨.summary 7, .ok (0, 1, 0, .running)⟩]

theorem first_input_gated : ∃ resume,
    (CollectorEngine.collect ⟨{}, false, false⟩ firstRequest).Reaches Records
      [] (.call .advance resume) firstCommit ∧
    Gated firstRequest firstCommit := by
  have started : (CollectorEngine.collect ⟨{}, false, false⟩
      firstRequest).Reaches Records [] _ [] := .start
  have shown := started.called .current rfl (.ok firstReel)
  have detected := shown.called (.record 1 .detect) rfl (.ok ())
  have paused := (detected.called .pauseCurrent rfl (.ok ())).called
    (.record 1 .pause) rfl (.ok ())
  have known := paused.called (.reelStatus "A") rfl (.ok (some .ready))
  have committed := (known.called (.commitAvailable 7 firstReel) rfl
    (.ok ())).called (.record 1 .dbCommit) rfl (.ok ())
  have counted := committed.called (.summary 7) rfl (.ok (0, 1, 0, .running))
  exact ⟨_, counted, feed_input_gated _ _ counted rfl⟩

end OfflineReels.Collector.FeedGate
