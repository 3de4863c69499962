import OfflineReels.Collector.CollectRules

namespace OfflineReels.Collector.RunLedger

open OfflineReels.Foundation
open OfflineReels.Foundation.Program
open OfflineReels.Instagram
open OfflineReels.Collector.CollectorEngine

/-! What a collection enters for its run: one line for each item, in order. -/

structure Entry where
  shortcode : String
  outcome : RunItemOutcome
  deriving DecidableEq, Repr

structure Ledger where
  run : Option UUID
  entries : List Entry
  deriving DecidableEq, Repr

namespace Ledger

def count (ledger : Ledger) (outcome : RunItemOutcome) : Nat :=
  (ledger.entries.map (·.outcome)).count outcome

def acquired (ledger : Ledger) (shortcode : String) : Prop :=
  ∃ entry ∈ ledger.entries, entry.shortcode = shortcode ∧
    entry.outcome ≠ .failed

def add (ledger : Ledger) (shortcode : String) (outcome : RunItemOutcome) :
    Ledger :=
  { ledger with entries := ledger.entries ++ [⟨shortcode, outcome⟩] }

end Ledger

/-- There is room for one more item of the run, for a Reel without one. -/
structure Room (request : CollectRequest) (runId : UUID) (shortcode : String)
    (ledger : Ledger) : Prop where
  run : ledger.run = some runId
  unfailed : ∀ entry ∈ ledger.entries, entry.outcome ≠ .failed
  short : ledger.entries.length < request.targetCount
  unlisted : ∀ entry ∈ ledger.entries, entry.shortcode ≠ shortcode

def permits (request : CollectRequest) (ledger : Ledger) : EngineCall → Prop
  | .createRun accountId _ targetCount =>
      ledger = ⟨none, []⟩ ∧ accountId = request.accountId ∧
        targetCount = request.targetCount
  | .commitAvailable runId candidate =>
      Room request runId candidate.shortcode ledger
  | .commitSource runId candidate _ _ =>
      Room request runId candidate.shortcode ledger
  | .recordFailure runId candidate _ _ =>
      Room request runId candidate.shortcode ledger
  | _ => True

/-- The account owns what its run acquired, and the summary counts it. -/
def assumes (request : CollectRequest) (ledger : Ledger) :
    (input : EngineCall) → Except CollectorFault (EngineReply input) → Prop
  | .accountHasDurableReel accountId shortcode, .ok owned =>
      accountId = request.accountId → ledger.run.isSome = true →
        ledger.acquired shortcode → owned = true
  | .summary runId, .ok (committed, available, _) =>
      ledger.run = some runId →
        committed = ledger.count .sourceCommitted ∧
          available = ledger.count .alreadyAvailable
  | _, _ => True

def advance (ledger : Ledger) :
    (input : EngineCall) → Except CollectorFault (EngineReply input) → Ledger
  | .createRun _ _ _, .ok runId => { ledger with run := some runId }
  | .commitAvailable _ candidate, .ok _ =>
      ledger.add candidate.shortcode .alreadyAvailable
  | .commitSource _ candidate _ _, .ok _ =>
      ledger.add candidate.shortcode .sourceCommitted
  | .recordFailure _ candidate _ _, .ok _ =>
      ledger.add candidate.shortcode .failed
  | _, _ => ledger

def bookkeeping (request : CollectRequest) :
    Protocol EngineCall EngineReply CollectorFault Ledger where
  permits := permits request
  assumes := assumes request
  advance := advance

/-- The entries of a run that goes on; without a desired total, each is of a
Reel that was seen. -/
structure Listed (request : CollectRequest) (runId : UUID)
    (seen : List String) (ledger : Ledger) : Prop where
  run : ledger.run = some runId
  unfailed : ∀ entry ∈ ledger.entries, entry.outcome ≠ .failed
  within : ledger.entries.length ≤ request.targetCount
  seen : request.desiredAccountTotal = none →
    ∀ entry ∈ ledger.entries, entry.shortcode ∈ seen

def Open (request : CollectRequest) (runId : UUID) (seen : List String)
    (ledger : Ledger) : Prop :=
  Listed request runId seen ledger ∧
    ledger.entries.length < request.targetCount

def Unlisted (shortcode : String) (ledger : Ledger) : Prop :=
  ∀ entry ∈ ledger.entries, entry.shortcode ≠ shortcode

section

variable {request : CollectRequest} {runId : UUID} {seen : List String}
variable {ledger : Ledger} {shortcode : String}

theorem Open.room (open' : Open request runId seen ledger)
    (unlisted : Unlisted shortcode ledger) :
    Room request runId shortcode ledger where
  run := open'.1.run
  unfailed := open'.1.unfailed
  short := open'.2
  unlisted := unlisted

theorem Listed.see (listed : Listed request runId seen ledger) :
    Listed request runId (shortcode :: seen) ledger where
  run := listed.run
  unfailed := listed.unfailed
  within := listed.within
  seen := fun single entry member =>
    List.mem_cons_of_mem _ (listed.seen single entry member)

theorem Listed.add {outcome : RunItemOutcome}
    (listed : Listed request runId seen ledger)
    (short : ledger.entries.length < request.targetCount)
    (acquired : outcome ≠ .failed) (member : shortcode ∈ seen) :
    Listed request runId seen (ledger.add shortcode outcome) where
  run := listed.run
  unfailed := by
    intro entry present
    rcases List.mem_append.mp present with earlier | latest
    · exact listed.unfailed entry earlier
    · rw [List.mem_singleton.mp latest]
      exact acquired
  within := by
    rw [Ledger.add, List.length_append]
    exact short
  seen := by
    intro single entry present
    rcases List.mem_append.mp present with earlier | latest
    · exact listed.seen single entry earlier
    · rw [List.mem_singleton.mp latest]
      exact member

theorem count_length {outcomes : List RunItemOutcome}
    (unfailed : ∀ outcome ∈ outcomes, outcome ≠ .failed) :
    outcomes.count .sourceCommitted + outcomes.count .alreadyAvailable =
      outcomes.length := by
  induction outcomes with
  | nil => rfl
  | cons outcome later ih =>
      have rest := ih fun other member =>
        unfailed other (List.mem_cons_of_mem _ member)
      have here := unfailed outcome List.mem_cons_self
      cases outcome with
      | failed => exact absurd rfl here
      | sourceCommitted =>
          simp
          omega
      | alreadyAvailable =>
          simp
          omega

theorem Listed.total (listed : Listed request runId seen ledger) :
    ledger.count .sourceCommitted + ledger.count .alreadyAvailable =
      ledger.entries.length := by
  have unfailed : ∀ outcome ∈ ledger.entries.map (·.outcome),
      outcome ≠ .failed := by
    intro outcome member
    obtain ⟨entry, present, rfl⟩ := List.mem_map.mp member
    exact listed.unfailed entry present
  have total := count_length unfailed
  rwa [List.length_map] at total

theorem silent_steady (steady : Ledger → Prop) :
    SilentSteady (bookkeeping request) steady := by
  intro input silent
  cases input <;> first
    | exact leads_perform (fun _ _ => trivial) fun _ _ kept _ => kept
    | cases silent

theorem ordinary_steady (steady : Ledger → Prop) :
    OrdinarySteady (bookkeeping request) steady := by
  intro input ordinary
  cases input <;> first
    | exact leads_perform (fun _ _ => trivial) fun _ _ kept _ => kept
    | cases ordinary

theorem ended_rules :
    EndRules (bookkeeping request) (fun _ => True) runId where
  quiet := (silent_steady _).quiet
  fails := fun _ => leads_perform (fun _ _ => trivial) fun _ _ _ _ => trivial
  cancels := fun _ =>
    leads_perform (fun _ _ => trivial) fun _ _ _ _ => trivial

theorem kept_yields {input : EngineCall} {steady faulted : Ledger → Prop}
    (holds : steady ledger)
    (permitted : permits request ledger input)
    (keeps : ∀ reply, advance ledger input reply = ledger)
    (weaken : steady ledger → faulted ledger) :
    Yields (bookkeeping request) faulted ledger (ask input)
      fun _ => steady := by
  refine yields_perform permitted (fun value _ => ?_) fun fault _ => ?_
  · exact (congrArg steady (keeps (.ok value))).mpr holds
  · exact (congrArg faulted (keeps (.error fault))).mpr (weaken holds)

end

section

variable {request : CollectRequest} {runId : UUID} {seen : List String}
variable {ledger : Ledger}

def Entering (request : CollectRequest) (runId : UUID) (seen : List String)
    (shortcode : String) (ledger : Ledger) : Prop :=
  Open request runId seen ledger ∧ Unlisted shortcode ledger

def acquiring (request : CollectRequest) (runId : UUID) (seen : List String)
    (shortcode : String) : AcquireStates Ledger where
  before := Entering request runId seen shortcode
  valid := fun _ => Entering request runId seen shortcode
  stored := fun _ _ => Entering request runId seen shortcode
  acquired := Listed request runId seen
  faulted := fun _ committed ledger =>
    committed = false → Entering request runId seen shortcode ledger
  undone := fun committed ledger =>
    committed = false → Entering request runId seen shortcode ledger
  ended := fun _ => True

theorem acquire_rules {candidate : ReelCandidate}
    (member : candidate.shortcode ∈ seen) :
    AcquireRules (bookkeeping request)
      (acquiring request runId seen candidate.shortcode) runId
      candidate where
  beforeQuiet := (silent_steady _).quiet
  beforeRecording := (ordinary_steady _).recording
  validQuiet := fun _ => (silent_steady _).quiet
  validRecording := fun _ => (ordinary_steady _).recording
  storedQuiet := fun _ _ => (silent_steady _).quiet
  storedRecording := fun _ _ => (ordinary_steady _).recording
  acquiredQuiet := (silent_steady _).quiet
  acquiredRecording := (ordinary_steady _).recording
  temporaryPath := fun _ entering =>
    kept_yields entering trivial (fun _ => rfl) fun _ => trivial
  download := fun _ _ entering =>
    kept_yields entering trivial (fun _ => rfl) fun holds _ => holds
  validate := fun _ _ entering => yields_perform trivial
    (fun _ _ => entering) fun _ _ _ => entering
  publish := fun _ _ _ _ entering _ => yields_perform trivial
    (fun _ _ => entering) fun _ _ _ => entering
  commit := fun _ _ _ entering => yields_perform
    (entering.1.room entering.2)
    (fun _ _ => entering.1.1.add entering.1.2 nofun member)
    fun _ _ _ => entering
  beforeFaults := fun _ entering _ => entering
  validFaults := fun _ _ entering _ => entering
  storedFaults := fun _ _ _ entering _ => entering
  acquiredFaults := fun _ _ _ => nofun
  delete := fun _ _ holds _ =>
    kept_yields holds trivial (fun _ => rfl) fun holds => holds
  keeps := fun _ _ _ holds _ => holds
  recordFailure := fun _ _ _ undone => yields_perform
    ((undone rfl).1.room (undone rfl).2) (fun _ _ => trivial)
    fun _ _ => trivial
  ends := fun _ _ _ => trivial
  faultedEnds := fun _ _ _ _ => trivial
  acquiredEnds := fun _ _ => trivial
  cleanupAcquired := fun _ =>
    leads_perform (fun _ _ => trivial) fun _ _ kept _ => kept
  cleanupEnded := fun _ =>
    leads_perform (fun _ _ => trivial) fun _ _ _ _ => trivial

theorem process_listed (engine : CollectorEngine) (deadline : Option Int)
    (progress : Progress) (owned : Bool) (status : Option ReelPipelineStatus)
    (open' : Open request runId progress.seen ledger)
    (member : progress.candidate.shortcode ∈ progress.seen)
    (unlisted : owned = false →
      Unlisted progress.candidate.shortcode ledger) :
    Settles (bookkeeping request) (fun _ => True) ledger
      (process engine runId deadline progress owned status)
      fun processed => Listed request runId processed.seen := by
  have recording : RecordingSteady (bookkeeping request)
      (Listed request runId progress.seen) :=
    (ordinary_steady _).recording
  refine (process_settles deadline progress owned status recording
    (fun _ _ => trivial) (fun _ => open'.1) ?_ ?_).mono ?_
  · intro unowned _
    exact yields_perform (open'.room (unlisted unowned))
      (fun _ _ => open'.1.add open'.2 nofun member) fun _ _ => trivial
  · intro unowned _
    exact acquire_settles (acquire_rules member) engine deadline progress rfl
      ⟨open', unlisted unowned⟩
  · intro processed reached settled
    obtain ⟨kept, bytes, rfl⟩ := settled
    exact kept

end

section

variable {request : CollectRequest} {runId : UUID} {ledger : Ledger}

def entering (request : CollectRequest) (runId : UUID) :
    CollectStates Ledger where
  started := fun ledger => ledger = ⟨some runId, []⟩
  watching := fun progress => Open request runId progress.seen
  owning := fun progress owned ledger =>
    Open request runId progress.seen ledger ∧
      (request.desiredAccountTotal ≠ none → owned = false →
        Unlisted progress.candidate.shortcode ledger)
  detected := fun progress owned _ ledger =>
    Open request runId progress.seen ledger ∧
      (owned = false → Unlisted progress.candidate.shortcode ledger)
  acquired := fun _ progress => Listed request runId progress.seen
  enough := fun _ _ => True
  short := fun progress => Open request runId progress.seen
  cooled := fun progress => Open request runId progress.seen
  moved := fun progress _ => Open request runId progress.seen
  ended := fun _ => True
  done := fun _ _ => True

theorem queryOwned_unlisted (progress : Progress)
    (open' : Open request runId progress.seen ledger) :
    Yields (bookkeeping request) (fun _ => True) ledger
      (queryOwned request progress)
      ((entering request runId).owning progress) := by
  unfold queryOwned
  split
  · refine yields_perform trivial (fun owned answered => ?_)
      fun _ _ => trivial
    refine ⟨open', fun _ unowned entry member same => ?_⟩
    have owns := answered rfl (by rw [open'.1.run]; rfl)
      ⟨entry, member, same, open'.1.unfailed entry member⟩
    rw [unowned] at owns
    cases owns
  · rename_i single
    exact ⟨open', fun desired => absurd single desired⟩

theorem Open.unlisted (progress : Progress) {owned : Bool}
    (open' : Open request runId progress.seen ledger)
    (asked : request.desiredAccountTotal ≠ none → owned = false →
      Unlisted progress.candidate.shortcode ledger)
    (fresh : (request.desiredAccountTotal.isNone &&
      progress.candidate.shortcode ∈ progress.seen) = false)
    (unowned : owned = false) :
    Unlisted progress.candidate.shortcode ledger := by
  cases desired : request.desiredAccountTotal with
  | some total => exact asked (by rw [desired]; exact nofun) unowned
  | none =>
      intro entry member same
      have seen := open'.1.seen desired entry member
      rw [same] at seen
      simp [desired, seen] at fresh

theorem entering_rules (engine : CollectorEngine)
    (positive : 0 < request.targetCount) :
    CollectRules (bookkeeping request) (entering request runId) engine request
      runId where
  endings := ended_rules
  starts := by
    intro ledger started
    have quiet : QuietSteady (bookkeeping request)
        fun reached => reached = ledger := (silent_steady _).quiet
    have opened : Leads (bookkeeping request) (fun reached => reached = ledger)
        (fun reached => reached = ledger) (firstCandidate engine runId) :=
      (raiseIfCancelRequested_leads quiet engine runId).bind
        (fun _ => (silent_steady _ .current rfl).bind (fun _ => ofExcept_leads)
          fun _ kept => kept) fun _ kept => kept
    refine Yields.mono ((opened.yields rfl).weaken fun _ _ => trivial) ?_
    intro candidate reached same
    subst same
    subst started
    exact ⟨⟨rfl, nofun, Nat.zero_le _, fun _ => nofun⟩, positive⟩
  watchingQuiet := fun _ => (silent_steady _).quiet
  watchingEnds := fun _ _ _ => trivial
  owns := fun progress _ open' _ => queryOwned_unlisted progress open'
  owningEnds := fun _ _ _ _ => trivial
  detects := by
    intro progress owned ledger holds fresh
    obtain ⟨open', asked⟩ := holds
    have ordinary : OrdinarySteady (bookkeeping request)
        fun reached => reached = ledger := ordinary_steady _
    have detected : Leads (bookkeeping request)
        (fun reached => reached = ledger) (fun reached => reached = ledger)
        (detect progress) := by
      have event := recorded_leads ordinary.recording progress.position
      refine (event .detect).bind (fun _ => ?_) fun _ kept => kept
      refine (ordinary .pauseCurrent rfl).bind (fun _ => ?_) fun _ kept => kept
      exact (event .pause).bind (fun _ => ordinary (.reelStatus _) rfl)
        fun _ kept => kept
    refine Yields.mono ((detected.yields rfl).weaken fun _ _ => trivial) ?_
    intro status reached same
    subst same
    exact ⟨open', open'.unlisted progress asked fresh⟩
  processes := by
    intro deadline progress owned status ledger holds
    exact process_listed engine deadline _ owned status
      ⟨holds.1.1.see, holds.1.2⟩ List.mem_cons_self holds.2
  counts := by
    intro counts progress ledger listed
    refine yields_perform trivial (fun stored answered => ?_)
      fun _ _ => trivial
    split
    · trivial
    · rename_i missing
      have counted := answered listed.run
      have total := listed.total
      rw [← counted.1, ← counted.2] at total
      exact ⟨listed, total ▸ Nat.lt_of_not_le missing⟩
  completes := by
    intro counts ledger _
    have completes : Steady (bookkeeping request) (fun _ => True)
        (.completeRun runId) :=
      leads_perform (fun _ _ => trivial) fun _ _ _ _ => trivial
    have completesTotal : ∀ desiredTotal, Steady (bookkeeping request)
        (fun _ => True) (.completeIfAccountDurableTotal runId desiredTotal) :=
      fun _ => leads_perform (fun _ _ => trivial) fun _ _ _ _ => trivial
    exact (complete_leads ended_rules completes completesTotal request
      counts).yields trivial
  shortQuiet := fun _ => (silent_steady _).quiet
  shortEnds := fun _ _ _ => trivial
  cools := fun deadline progress _ open' =>
    ((coolDown_leads (silent_steady _).quiet (ordinary_steady _).recording
      engine deadline progress).yields open').weaken fun _ _ => trivial
  cooledQuiet := fun _ => (silent_steady _).quiet
  cooledEnds := fun _ _ _ => trivial
  moves := fun deadline _ _ open' =>
    ((confirmTransition_leads (ordinary_steady _) engine _ _ deadline
      _).yields open').weaken fun _ _ => trivial
  movedEnds := fun _ _ _ _ => trivial
  confirms := fun progress _ _ _ open' _ _ _ =>
    ((recorded_leads (ordinary_steady _).recording progress.position
      _).yields open').weaken fun _ _ => trivial
  finishes := fun _ _ _ _ => trivial
  doneEnds := fun _ _ _ => trivial
  doneQuiet := fun _ => (silent_steady _).quiet

theorem collect_keeps_books (engine : CollectorEngine)
    (request : CollectRequest) :
    Follows (bookkeeping request) ⟨request.claimedRunId, []⟩
      (engine.collect request) fun _ _ => True := by
  have obtained : Yields (bookkeeping request) (fun _ => True)
      ⟨request.claimedRunId, []⟩ (obtainRun request)
      fun runId ledger => ledger = ⟨some runId, []⟩ := by
    unfold obtainRun
    split
    · rename_i runId claimed
      rw [claimed]
      exact yields_pure rfl
    · rename_i created
      rw [created]
      exact yields_perform ⟨rfl, rfl, rfl⟩ (fun _ _ => rfl) fun _ _ => trivial
  have rules : ∀ runId, argumentsAccepted engine.limits request = true →
      CollectRules (bookkeeping request) (entering request runId) engine
        request runId := by
    intro runId accepted
    refine entering_rules engine ?_
    simp only [argumentsAccepted, Bool.and_eq_true, decide_eq_true_eq]
      at accepted
    omega
  refine Follows.mono (collect_yields (entering request) engine request
    (fun _ => (silent_steady _).quiet) rules (fun _ _ _ => trivial) obtained
    trivial fun _ _ _ => trivial) fun _ _ _ => trivial

end

end OfflineReels.Collector.RunLedger
