import OfflineReels.Dashboard.ManagementControl
import OfflineReels.Foundation.Transition

namespace OfflineReels.Dashboard.Polling

open OfflineReels.Foundation

variable {ManagementStatus : Type}

def Newest (control : Control ManagementStatus) (number : Nat) : Prop :=
  ∃ work, control.works[number]? = some work ∧ work.aborted = false ∧
    work.generation = control.generation ∧
    ∀ other ∈ control.works, other.generation ≤ work.generation

def InFlight (control : Control ManagementStatus) (number : Nat) : Prop :=
  ∃ work, control.works[number]? = some work ∧ work.aborted = false ∧
    work.stage ≠ .settled

theorem exists_getElem_iff {works : List Work} {number : Nat}
    {test : Work → Prop} [DecidablePred test] :
    works[number]?.any (fun work => decide (test work)) = true ↔
      ∃ work, works[number]? = some work ∧ test work := by
  cases works[number]? with
  | none => simp
  | some work => simp

instance (control : Control ManagementStatus) (number : Nat) :
    Decidable (Newest control number) :=
  decidable_of_iff _ exists_getElem_iff

instance (control : Control ManagementStatus) (number : Nat) :
    Decidable (InFlight control number) :=
  decidable_of_iff _ exists_getElem_iff

def Asks (control : Control ManagementStatus) : Control.Refreshed → Prop
  | .skipped => False
  | .joined number => InFlight control number
  | .started => True

instance (control : Control ManagementStatus) :
    (refreshed : Control.Refreshed) → Decidable (Asks control refreshed)
  | .skipped => inferInstanceAs (Decidable False)
  | .joined number => inferInstanceAs (Decidable (InFlight control number))
  | .started => inferInstanceAs (Decidable True)

def Holds (control : Control ManagementStatus)
    (action : Action ManagementStatus)
    (after : Control ManagementStatus) : Prop :=
  match action with
  | .refresh isOnline hasCsrf =>
      control.isOnline = true → control.visible = true →
        Asks control (control.refresh isOnline hasCsrf).2
  | .resume number _ =>
      after.shown ≠ control.shown → Newest control number
  | _ => True

instance [DecidableEq ManagementStatus] :
    (control : Control ManagementStatus) →
      (action : Action ManagementStatus) →
      (after : Control ManagementStatus) → Decidable (Holds control action after)
  | _, .refresh .., _ => inferInstanceAs (Decidable (_ → _ → Asks _ _))
  | _, .resume .., _ => inferInstanceAs (Decidable (_ ≠ _ → Newest _ _))
  | _, .abortRequest, _ => inferInstanceAs (Decidable True)
  | _, .setVisible _, _ => inferInstanceAs (Decidable True)
  | _, .setOnline _, _ => inferInstanceAs (Decidable True)
  | _, .setShown _, _ => inferInstanceAs (Decidable True)

/-- A refresh of a page that is online and visible comes from a render that
knows it, and no request was aborted under way before. -/
def Uninterrupted (control : Control ManagementStatus)
    (action : Action ManagementStatus) : Prop :=
  match action with
  | .refresh isOnline _ =>
      control.isOnline = true → control.visible = true →
        isOnline = true ∧ ∀ work ∈ control.works, work.aborted = false
  | _ => True

/-- The references agree until a request is aborted under way. From then on
they name no controller and the promise of an aborted work. -/
inductive Refers (control : Control ManagementStatus) : Prop
  | idle (request : control.request = none)
      (refreshing : control.refreshing = none)
      (live : ∀ work ∈ control.works, work.aborted = false)
  | polling (number : Nat) (request : control.request = some number)
      (refreshing : control.refreshing = some number)
      (flying : InFlight control number)
      (live : ∀ work ∈ control.works, work.aborted = false)
  | stuck (number : Nat) (request : control.request = none)
      (refreshing : control.refreshing = some number)
      (aborted : control.aborted number = true)

structure Invariant (control : Control ManagementStatus) : Prop where
  refers : Refers control
  generations : ∀ work ∈ control.works, work.generation ≤ control.generation

theorem initial_invariant (isOnline visible : Bool) :
    Invariant (Control.initial isOnline visible : Control ManagementStatus) :=
  ⟨.idle rfl rfl fun _ member => absurd member List.not_mem_nil,
    fun _ member => absurd member List.not_mem_nil⟩

theorem aborted_iff {control : Control ManagementStatus} {number : Nat} :
    control.aborted number = true ↔
      ∃ work, control.works[number]? = some work ∧ work.aborted = true := by
  rw [← exists_getElem_iff]
  simp [Control.aborted]

theorem InFlight.not_aborted {control : Control ManagementStatus}
    {number : Nat} (flying : InFlight control number) :
    control.aborted number = false := by
  obtain ⟨work, found, live, _⟩ := flying
  simp [Control.aborted, found, live]

theorem not_live_of_stuck {control : Control ManagementStatus} {number : Nat}
    (aborted : control.aborted number = true) :
    ¬ ∀ work ∈ control.works, work.aborted = false := by
  intro live
  obtain ⟨work, found, gone⟩ := aborted_iff.mp aborted
  have kept := live work (List.mem_of_getElem? found)
  rw [gone] at kept
  cases kept

section

variable {control : Control ManagementStatus}

theorem mem_modify {works : List Work} {number : Nat} {update : Work → Work}
    {work : Work} (member : work ∈ works.modify number update) :
    ∃ before ∈ works, work = before ∨ work = update before := by
  obtain ⟨place, found⟩ := List.mem_iff_getElem?.mp member
  rw [List.getElem?_modify] at found
  obtain ⟨before, present, changed⟩ := Option.map_eq_some_iff.mp found
  refine ⟨before, List.mem_of_getElem? present, ?_⟩
  split at changed
  · exact .inr changed.symm
  · exact .inl changed.symm

theorem abort_works_generation {work : Work}
    (member : work ∈ control.abort.works) :
    ∃ before ∈ control.works, work.generation = before.generation := by
  unfold Control.abort at member
  split at member
  · exact ⟨work, member, rfl⟩
  · obtain ⟨before, present, rfl | rfl⟩ := mem_modify member
    · exact ⟨work, present, rfl⟩
    · exact ⟨before, present, rfl⟩

theorem abortRequest_kept (invariant : Invariant control) :
    Invariant control.abortRequest := by
  obtain ⟨refers, generations⟩ := invariant
  constructor
  · cases refers with
    | idle request refreshing live =>
        refine .idle rfl ?_ ?_
        · simp only [Control.abortRequest, Control.abort, request, refreshing]
        · simp only [Control.abortRequest, Control.abort, request]
          exact live
    | polling number request refreshing flying live =>
        obtain ⟨work, found, _, _⟩ := flying
        refine .stuck number rfl ?_ (aborted_iff.mpr
          ⟨{ work with aborted := true }, ?_, rfl⟩)
        · simp only [Control.abortRequest, Control.abort, request, refreshing]
        · simp only [Control.abortRequest, Control.abort, request,
            List.getElem?_modify, found, if_true, Option.map_eq_map,
            Option.map_some]
    | stuck number request refreshing aborted =>
        refine .stuck number rfl ?_ ?_
        · simp only [Control.abortRequest, Control.abort, request, refreshing]
        · unfold Control.aborted
          simp only [Control.abortRequest, Control.abort, request]
          exact aborted
  · intro work member
    obtain ⟨before, present, same⟩ := abort_works_generation member
    have below := generations before present
    change work.generation ≤ control.generation + 1
    omega

theorem refresh_cases (invariant : Invariant control) (isOnline hasCsrf : Bool) :
    (¬ (isOnline = true ∧ control.visible = true) ∧
        control.refresh isOnline hasCsrf = (control, .skipped)) ∨
      (isOnline = true ∧ control.visible = true ∧
        ((control.request = none ∧
            (∀ work ∈ control.works, work.aborted = false) ∧
            control.refresh isOnline hasCsrf =
              (control.start hasCsrf, .started)) ∨
          ∃ number, control.refreshing = some number ∧
            control.refresh isOnline hasCsrf = (control, .joined number) ∧
            (InFlight control number ∧
                (∀ work ∈ control.works, work.aborted = false) ∨
              control.aborted number = true))) := by
  unfold Control.refresh
  by_cases asks : isOnline = true ∧ control.visible = true
  · obtain ⟨online, visible⟩ := asks
    refine .inr ⟨online, visible, ?_⟩
    rw [if_neg (by simp [online, visible])]
    cases invariant.refers with
    | idle request refreshing live =>
        refine .inl ⟨request, live, ?_⟩
        have none : control.joinable = none := by
          simp [Control.joinable, request, refreshing]
        rw [none]
    | polling number request refreshing flying live =>
        refine .inr ⟨number, refreshing, ?_, .inl ⟨flying, live⟩⟩
        have joined : control.joinable = some number := by
          simp [Control.joinable, request, refreshing, flying.not_aborted]
        rw [joined]
    | stuck number request refreshing aborted =>
        refine .inr ⟨number, refreshing, ?_, .inr aborted⟩
        have joined : control.joinable = some number := by
          simp [Control.joinable, request, refreshing]
        rw [joined]
  · refine .inl ⟨asks, ?_⟩
    rw [if_pos]
    simpa [Bool.or_eq_true, imp_iff_not_or, not_and_or] using asks

theorem start_kept (invariant : Invariant control)
    (request : control.request = none)
    (live : ∀ work ∈ control.works, work.aborted = false) (hasCsrf : Bool) :
    Invariant (control.start hasCsrf) := by
  have same : control.abort = control := by
    simp only [Control.abort, request]
  constructor
  · refine .polling control.works.length rfl rfl ?_ ?_
    · have last : (control.start hasCsrf).works[control.works.length]? =
          some (Work.mk (control.generation + 1) false
            (if hasCsrf then .getInstagramStatus
              else .refreshManagementSession)) := by
        simp only [Control.start, same]
        exact List.getElem?_concat_length
      refine ⟨_, last, rfl, ?_⟩
      cases hasCsrf with
      | true => exact nofun
      | false => exact nofun
    · intro work member
      simp only [Control.start, same, List.mem_append, List.mem_singleton]
        at member
      rcases member with present | rfl
      · exact live work present
      · rfl
  · intro work member
    simp only [Control.start, same, List.mem_append, List.mem_singleton]
      at member
    change work.generation ≤ control.generation + 1
    rcases member with present | rfl
    · have below := invariant.generations work present
      omega
    · exact Nat.le_refl _

theorem refresh_kept (invariant : Invariant control)
    (isOnline hasCsrf : Bool) :
    Invariant (control.refresh isOnline hasCsrf).1 := by
  rcases refresh_cases invariant isOnline hasCsrf with ⟨_, skipped⟩ |
    ⟨_, _, ⟨request, live, started⟩ | ⟨number, _, joined, _⟩⟩
  · rw [skipped]
    exact invariant
  · rw [started]
    exact start_kept invariant request live hasCsrf
  · rw [joined]
    exact invariant

theorem refresh_exact (invariant : Invariant control)
    (isOnline hasCsrf : Bool) :
    Holds control (.refresh isOnline hasCsrf)
        (control.refresh isOnline hasCsrf).1 ↔
      Uninterrupted control (.refresh isOnline hasCsrf) := by
  refine forall_congr' fun online => forall_congr' fun visible => ?_
  rcases refresh_cases invariant isOnline hasCsrf with ⟨unasked, skipped⟩ |
    ⟨knows, _, ⟨request, live, started⟩ | ⟨number, _, joined, flight⟩⟩
  · rw [skipped]
    exact ⟨False.elim, fun ⟨knows, _⟩ => unasked ⟨knows, visible⟩⟩
  · rw [started]
    exact ⟨fun _ => ⟨knows, live⟩, fun _ => trivial⟩
  · rw [joined]
    rcases flight with ⟨flying, live⟩ | aborted
    · exact ⟨fun _ => ⟨knows, live⟩, fun _ => flying⟩
    · constructor
      · intro flying
        rw [flying.not_aborted] at aborted
        cases aborted
      · rintro ⟨_, live⟩
        exact absurd live (not_live_of_stuck aborted)

theorem resume_cases {number : Nat} {answer : Answer ManagementStatus}
    {after : Control ManagementStatus}
    (resumed : control.resume number answer = some after) :
    ∃ work, control.works[number]? = some work ∧ work.stage ≠ .settled ∧
      (after = { control with works := control.works.modify number fun work =>
          { work with stage := .getInstagramStatus } } ∨
        ∃ update, after = (control.publish work update).settle number) := by
  unfold Control.resume at resumed
  cases found : control.works[number]? with
  | none =>
      rw [found] at resumed
      cases resumed
  | some work =>
      rw [found] at resumed
      refine ⟨work, rfl, ?_⟩
      dsimp only at resumed
      split at resumed
      · rename_i stage
        cases resumed
        exact ⟨by rw [stage]; exact nofun, .inl rfl⟩
      · rename_i stage
        cases resumed
        exact ⟨by rw [stage]; exact nofun, .inr ⟨_, rfl⟩⟩
      · rename_i stage
        cases resumed
        exact ⟨by rw [stage]; exact nofun, .inr ⟨_, rfl⟩⟩
      · rename_i stage
        cases resumed
        exact ⟨by rw [stage]; exact nofun, .inr ⟨_, rfl⟩⟩
      · rename_i stage
        cases resumed
        exact ⟨by rw [stage]; exact nofun, .inr ⟨_, rfl⟩⟩
      · cases resumed

theorem publish_cases (work : Work)
    (update : Shown ManagementStatus → Shown ManagementStatus) :
    control.publish work update = control ∨
      (work.generation = control.generation ∧ work.aborted = false ∧
        control.publish work update =
          { control with shown := update control.shown }) := by
  unfold Control.publish
  split
  · rename_i newest
    exact .inr ⟨newest.1, Bool.not_eq_true _ ▸ newest.2, rfl⟩
  · exact .inl rfl

def setStage (stage : WorkStage) (work : Work) : Work :=
  { work with stage }

theorem modify_live {works : List Work} {number : Nat} {stage : WorkStage}
    (live : ∀ work ∈ works, work.aborted = false) :
    ∀ work ∈ works.modify number (setStage stage), work.aborted = false := by
  intro work member
  obtain ⟨before, present, rfl | rfl⟩ := mem_modify member
  · exact live work present
  · exact live before present

theorem modify_generations {works : List Work} {number bound : Nat}
    {stage : WorkStage} (below : ∀ work ∈ works, work.generation ≤ bound) :
    ∀ work ∈ works.modify number (setStage stage),
      work.generation ≤ bound := by
  intro work member
  obtain ⟨before, present, rfl | rfl⟩ := mem_modify member
  · exact below work present
  · exact below before present

theorem modify_aborted {works : List Work} {number other : Nat}
    {stage : WorkStage} (gone : works[other]?.any (·.aborted) = true) :
    (works.modify number (setStage stage))[other]?.any (·.aborted) = true := by
  rw [List.getElem?_modify]
  cases found : works[other]? with
  | none =>
      rw [found] at gone
      cases gone
  | some work =>
      rw [found] at gone
      by_cases same : number = other
      · simpa [same, setStage] using gone
      · simpa [same] using gone

theorem modify_flying {works : List Work} {number other : Nat}
    {stage : WorkStage} (unsettled : stage ≠ .settled ∨ number ≠ other)
    (flying : ∃ work, works[other]? = some work ∧ work.aborted = false ∧
      work.stage ≠ .settled) :
    ∃ work, (works.modify number (setStage stage))[other]? = some work ∧
      work.aborted = false ∧ work.stage ≠ .settled := by
  obtain ⟨work, found, live, waits⟩ := flying
  by_cases same : number = other
  · refine ⟨setStage stage work, ?_, live, ?_⟩
    · simp [found, same]
    · exact unsettled.resolve_right (not_not.mpr same)
  · refine ⟨work, ?_, live, waits⟩
    simp [found, same]

theorem advance_kept (invariant : Invariant control) (number : Nat) :
    Invariant { control with
      works := control.works.modify number (setStage .getInstagramStatus) } := by
  refine ⟨?_, modify_generations invariant.generations⟩
  cases invariant.refers with
  | idle request refreshing live =>
      exact .idle request refreshing (modify_live live)
  | polling current request refreshing flying live =>
      exact .polling current request refreshing
        (modify_flying (.inl nofun) flying) (modify_live live)
  | stuck current request refreshing aborted =>
      exact .stuck current request refreshing (modify_aborted aborted)

theorem settle_kept (invariant : Invariant control) (number : Nat) :
    Invariant (control.settle number) := by
  have generations := @modify_generations control.works number
    control.generation .settled invariant.generations
  by_cases current : control.request = some number
  · have settled : control.settle number = { control with
        works := control.works.modify number (setStage .settled)
        request := none
        refreshing := none } := if_pos current
    rw [settled]
    refine ⟨?_, generations⟩
    cases invariant.refers with
    | idle request refreshing live =>
        rw [request] at current
        cases current
    | polling other request refreshing flying live =>
        exact .idle rfl rfl (modify_live live)
    | stuck other request refreshing aborted =>
        rw [request] at current
        cases current
  · have settled : control.settle number = { control with
        works := control.works.modify number (setStage .settled) } :=
      if_neg current
    rw [settled]
    refine ⟨?_, generations⟩
    cases invariant.refers with
    | idle request refreshing live =>
        exact .idle request refreshing (modify_live live)
    | polling other request refreshing flying live =>
        have apart : number ≠ other := by
          rintro rfl
          exact current request
        exact .polling other request refreshing
          (modify_flying (.inr apart) flying) (modify_live live)
    | stuck other request refreshing aborted =>
        exact .stuck other request refreshing (modify_aborted aborted)

theorem settle_shown (number : Nat) :
    (control.settle number).shown = control.shown := by
  unfold Control.settle
  dsimp only
  split
  · rfl
  · rfl

theorem publish_kept (invariant : Invariant control) (work : Work)
    (update : Shown ManagementStatus → Shown ManagementStatus) :
    Invariant (control.publish work update) := by
  rcases @publish_cases _ control work update with same | ⟨_, _, changed⟩
  · rw [same]
    exact invariant
  · rw [changed]
    obtain ⟨refers, generations⟩ := invariant
    refine ⟨?_, generations⟩
    cases refers with
    | idle request refreshing live => exact .idle request refreshing live
    | polling number request refreshing flying live =>
        exact .polling number request refreshing flying live
    | stuck number request refreshing aborted =>
        exact .stuck number request refreshing aborted

theorem resume_kept (invariant : Invariant control) {number : Nat}
    {answer : Answer ManagementStatus} {after : Control ManagementStatus}
    (resumed : control.resume number answer = some after) :
    Invariant after ∧ Holds control (.resume number answer) after := by
  obtain ⟨work, found, _, rfl | ⟨update, rfl⟩⟩ := resume_cases resumed
  · exact ⟨advance_kept invariant number, fun changed => absurd rfl changed⟩
  · refine ⟨settle_kept (publish_kept invariant work update) number, ?_⟩
    intro changed
    rw [settle_shown] at changed
    rcases @publish_cases _ control work update with same | ⟨newest, live, _⟩
    · rw [same] at changed
      exact absurd rfl changed
    · refine ⟨work, found, live, newest, fun other member => ?_⟩
      rw [newest]
      exact invariant.generations other member

end

theorem Invariant.renamed {control renamed : Control ManagementStatus}
    (invariant : Invariant control) (request : renamed.request = control.request)
    (refreshing : renamed.refreshing = control.refreshing)
    (works : renamed.works = control.works)
    (generation : renamed.generation = control.generation) :
    Invariant renamed := by
  constructor
  · cases invariant.refers with
    | idle none idle live =>
        exact .idle (request.trans none) (refreshing.trans idle) (works ▸ live)
    | polling number some joined flying live =>
        refine .polling number (request.trans some)
          (refreshing.trans joined) ?_ (works ▸ live)
        unfold InFlight
        rw [works]
        exact flying
    | stuck number none joined aborted =>
        refine .stuck number (request.trans none)
          (refreshing.trans joined) ?_
        unfold Control.aborted
        rw [works]
        exact aborted
  · rw [works, generation]
    exact invariant.generations

theorem step_kept {control after : Control ManagementStatus}
    {action : Action ManagementStatus} (invariant : Invariant control)
    (stepped : next control action = some after) : Invariant after := by
  cases action with
  | refresh isOnline hasCsrf =>
      obtain rfl := Option.some.inj stepped
      exact refresh_kept invariant isOnline hasCsrf
  | abortRequest =>
      obtain rfl := Option.some.inj stepped
      exact abortRequest_kept invariant
  | setVisible visible =>
      obtain rfl := Option.some.inj stepped
      exact invariant.renamed rfl rfl rfl rfl
  | setOnline isOnline =>
      obtain rfl := Option.some.inj stepped
      exact invariant.renamed rfl rfl rfl rfl
  | setShown shown =>
      obtain rfl := Option.some.inj stepped
      exact invariant.renamed rfl rfl rfl rfl
  | resume number answer => exact (resume_kept invariant stepped).1

theorem step_exact (control : Control ManagementStatus)
    (action : Action ManagementStatus) (after : Control ManagementStatus)
    (invariant : Invariant control) (stepped : next control action = some after) :
    (Holds control action after ↔ Uninterrupted control action) ∧
      (Uninterrupted control action → Invariant after) := by
  refine ⟨?_, fun _ => step_kept invariant stepped⟩
  cases action with
  | refresh isOnline hasCsrf =>
      obtain rfl := Option.some.inj stepped
      exact refresh_exact invariant isOnline hasCsrf
  | abortRequest => exact Iff.rfl
  | setVisible visible => exact Iff.rfl
  | setOnline isOnline => exact Iff.rfl
  | setShown shown => exact Iff.rfl
  | resume number answer =>
      exact ⟨fun _ => trivial, fun _ => (resume_kept invariant stepped).2⟩

theorem refresh_of_aborted {control : Control ManagementStatus}
    (invariant : Invariant control)
    (aborted : ∃ work ∈ control.works, work.aborted = true)
    (isOnline hasCsrf : Bool) :
    (control.refresh isOnline hasCsrf).1 = control := by
  obtain ⟨work, member, gone⟩ := aborted
  rcases refresh_cases invariant isOnline hasCsrf with ⟨_, skipped⟩ |
    ⟨_, _, ⟨_, live, _⟩ | ⟨number, _, joined, _⟩⟩
  · rw [skipped]
  · have kept := live work member
    rw [gone] at kept
    cases kept
  · rw [joined]

theorem publish_settle_works {control : Control ManagementStatus} (work : Work)
    (update : Shown ManagementStatus → Shown ManagementStatus)
    (number : Nat) :
    ((control.publish work update).settle number).works =
      control.works.modify number (setStage .settled) := by
  have works : (control.publish work update).works = control.works := by
    rcases @publish_cases _ control work update with same | ⟨_, _, same⟩
    · rw [same]
    · rw [same]
  rw [← works]
  unfold Control.settle
  dsimp only
  split
  · rfl
  · rfl

theorem aborted_stays {control after : Control ManagementStatus}
    {action : Action ManagementStatus} {number : Nat}
    (invariant : Invariant control) (gone : control.aborted number = true)
    (stepped : next control action = some after) :
    after.aborted number = true ∧
      after.works.length = control.works.length := by
  cases action with
  | refresh isOnline hasCsrf =>
      obtain ⟨work, found, dead⟩ := aborted_iff.mp gone
      obtain rfl := Option.some.inj stepped
      rw [refresh_of_aborted invariant
        ⟨work, List.mem_of_getElem? found, dead⟩]
      exact ⟨gone, rfl⟩
  | abortRequest =>
      obtain rfl := Option.some.inj stepped
      cases invariant.refers with
      | idle _ _ live => exact absurd live (not_live_of_stuck gone)
      | polling _ _ _ _ live => exact absurd live (not_live_of_stuck gone)
      | stuck current request _ dead =>
          unfold Control.aborted
          simp only [Control.abortRequest, Control.abort, request]
          exact ⟨gone, trivial⟩
  | setVisible visible =>
      obtain rfl := Option.some.inj stepped
      exact ⟨gone, rfl⟩
  | setOnline isOnline =>
      obtain rfl := Option.some.inj stepped
      exact ⟨gone, rfl⟩
  | setShown shown =>
      obtain rfl := Option.some.inj stepped
      exact ⟨gone, rfl⟩
  | resume current answer =>
      obtain ⟨work, _, _, rfl | ⟨update, rfl⟩⟩ := resume_cases stepped
      · exact ⟨modify_aborted gone, List.length_modify ..⟩
      · unfold Control.aborted
        rw [publish_settle_works]
        exact ⟨modify_aborted gone, List.length_modify ..⟩

/-- Once a request was aborted under way, no run begins another one. -/
theorem polling_stops {control final : Control ManagementStatus}
    {actions : List (Action ManagementStatus)} {number : Nat}
    (invariant : Invariant control) (gone : control.aborted number = true)
    (ran : run next control actions = some final) :
    final.works.length = control.works.length := by
  have keeps : ∀ (before : Control ManagementStatus) action after,
      (Invariant before ∧ before.aborted number = true ∧
        before.works.length = control.works.length) → True →
      next before action = some after → Invariant after ∧
        after.aborted number = true ∧
        after.works.length = control.works.length := by
    rintro before action after ⟨holds, dead, count⟩ - stepped
    obtain ⟨stays, same⟩ := aborted_stays holds dead stepped
    exact ⟨step_kept holds stepped, stays, same.trans count⟩
  exact (run_invariant keeps ⟨invariant, gone, rfl⟩
    (meets_true control actions) ran).2.2

/-- The polling goes on in exactly those runs that never refresh after a
request was aborted under way. -/
theorem polling_resumes (isOnline visible : Bool)
    (actions : List (Action ManagementStatus)) :
    Along next Holds (Control.initial isOnline visible) actions ↔
      Meets next Uninterrupted (Control.initial isOnline visible) actions :=
  along_iff_meets step_exact (initial_invariant isOnline visible)

/-- The page is hidden while its first request is under way, and shown again:
the refresh joins the aborted request, also after that has ended. -/
theorem hidden_page_stays_stuck :
    let hidden : List (Action Nat) := .refresh true true ::
      onVisibility false true true ++ onVisibility true true true
    let ended := hidden ++ [.resume 0 (.failed .temporary),
      .refresh true true]
    ¬ Along next Holds (Control.initial true true) hidden ∧
      ¬ Along next Holds (Control.initial true true) ended ∧
      (run next (Control.initial true true) ended).map (fun control =>
        (control.works.length, control.refreshing, control.shown.state)) =
          some (1, some 0, .checking) := by
  decide

end OfflineReels.Dashboard.Polling
