import OfflineReels.Profile.Ownership

namespace OfflineReels.Profile.BrowserRuntime

open OfflineReels.Foundation
open OfflineReels.Foundation.Stateful
open OfflineReels.Collector
open OfflineReels.Collector.PlaywrightReelsFeed (Uninterrupted)
open Ownership

/-! The login browser owns the profile from its start to its stop. -/

structure Active (runtime : BrowserRuntime) (phase : Party) : Prop where
  running : runtime.stopping = false
  locked : phase.descriptor.isSome = true
  descriptor : phase.descriptor = runtime.profileLockDescriptor
  owns : phase.owns = true
  browser : phase.browser = true → .chromium ∈ runtime.processes

def Stopped (runtime : BrowserRuntime) (phase : Party) : Prop :=
  runtime.stopping = true ∧ phase.browser = false

section

variable {runtime : BrowserRuntime} {phase : Party}

theorem ask_leaves {call : RuntimeCall}
    (permitted : phase.permits (.runtime call)) :
    Leaves ownership phase runtime (ask call) fun reply after reached =>
      Foreseen (.runtime call) reply ∧ after = runtime ∧
        reached = phase.note (.runtime call) reply := by
  apply leaves_perform permitted
  intro reply foreseen
  exact ⟨foreseen, rfl, rfl⟩

theorem releaseProfileLock_leaves (locked : phase.descriptor.isSome = true)
    (same : phase.descriptor = runtime.profileLockDescriptor)
    (idle : phase.browser = false) :
    Leaves ownership phase runtime releaseProfileLock
      fun outcome after reached => reached = {} ∧ Uninterrupted outcome ∧
        after.stopping = runtime.stopping := by
  obtain ⟨descriptor, opened⟩ := Option.isSome_iff_exists.mp locked
  apply leaves_reading
  rw [← same, opened]
  apply (unlock_leaves opened idle).ensure
  intro outcome after reached kept
  obtain ⟨rfl, opened, idle, raised⟩ := kept
  apply (given_leaves opened idle fun runtime : BrowserRuntime =>
    { runtime with profileLockDescriptor := none }).mono
  intro cleaned last ended kept
  obtain ⟨gone, mild, stays⟩ := kept
  have stopping : last.stopping = after.stopping := by
    rcases stays with rfl | rfl <;> rfl
  cases cleaned with
  | ok _ =>
      refine ⟨gone, ?_, stopping⟩
      exact fun fault same => exception_of_osError (raised fault same)
  | error fault => exact ⟨gone, faults_error (mild fault rfl), stopping⟩

theorem closeChromiumGracefully_leaves (owns : phase.owns = true) :
    Leaves ownership phase runtime closeChromiumGracefully
      fun outcome after reached =>
        outcome = .ok () ∧ after = runtime ∧ reached = phase := by
  have permitted : phase.permits (.runtime .closeBrowser) := owns
  apply Leaves.swallow
  apply Leaves.discard
  apply (ask_leaves permitted).mono
  intro reply after reached kept
  exact ⟨faults_map kept.1.1, kept.2⟩

theorem assured_leaves {α : Type} {call : RuntimeCall}
    {next : RuntimeReply call → RuntimeProgram α}
    {post : Except CollectorFault α → BrowserRuntime → Party → Prop}
    (assures : assured call = true)
    (continues : ∀ value, Leaves ownership
      (phase.note (.runtime call) (.ok value)) runtime (next value) post) :
    Leaves ownership phase runtime (ask call >>= next) post := by
  have permitted : phase.permits (.runtime call) := by
    cases call <;> trivial
  apply (ask_leaves permitted).bind
  · intro value after reached kept
    obtain ⟨_, rfl, rfl⟩ := kept
    exact continues value
  · intro fault after reached kept
    have returned : ∃ value, (.error fault : Except CollectorFault
        (RuntimeReply call)) = .ok value := by
      cases call <;> first
        | exact kept.1.2 rfl
        | cases assures
    obtain ⟨_, clash⟩ := returned
    cases clash

theorem terminated_leaves (processes : List BrowserProcess) :
    Leaves ownership phase runtime (terminated processes)
      fun outcome after reached =>
        outcome = .ok () ∧ after = runtime ∧ reached = phase := by
  induction processes with
  | nil => exact leaves_pure ⟨rfl, rfl, rfl⟩
  | cons process later ih =>
      apply assured_leaves (rfl : assured (.poll process) = true)
      intro alive
      split
      · apply assured_leaves (rfl : assured (.terminate process) = true)
        intro _
        exact ih
      · exact ih

def Remains (processes : List BrowserProcess) (before after : Party) : Prop :=
  ∃ browser, after = { before with browser } ∧
    (browser = true → before.browser = true ∧ .chromium ∉ processes)

theorem remains_refl (phase : Party) : Remains [] phase phase :=
  ⟨phase.browser, rfl, fun running => ⟨running, List.not_mem_nil⟩⟩

theorem Remains.cons {process : BrowserProcess} {later : List BrowserProcess}
    {before middle after : Party} (first : Remains [process] before middle)
    (rest : Remains later middle after) :
    Remains (process :: later) before after := by
  obtain ⟨_, rfl, here⟩ := first
  obtain ⟨browser, rfl, there⟩ := rest
  refine ⟨browser, rfl, ?_⟩
  intro running
  obtain ⟨still, absent⟩ := there running
  obtain ⟨before, other⟩ := here still
  refine ⟨before, ?_⟩
  intro member
  rcases List.mem_cons.mp member with same | inside
  · exact other (by rw [same]; exact List.mem_singleton_self _)
  · exact absent inside

theorem remains_apart {process : BrowserProcess}
    (apart : process ≠ .chromium) (phase : Party) :
    Remains [process] phase phase := by
  refine ⟨phase.browser, rfl, ?_⟩
  intro running
  refine ⟨running, ?_⟩
  intro member
  exact apart (List.mem_singleton.mp member).symm

theorem remains_ended (process : BrowserProcess) (phase : Party) :
    Remains [process] phase { phase with browser := false } :=
  ⟨false, rfl, fun clash => by cases clash⟩

theorem waited_remains (process : BrowserProcess) (phase : Party) :
    Remains [process] phase (phase.note (.runtime (.wait process)) (.ok true)) := by
  cases process with
  | chromium => exact remains_ended _ _
  | xvfb => exact remains_apart (by decide) _
  | openbox => exact remains_apart (by decide) _
  | x11vnc => exact remains_apart (by decide) _
  | websockify => exact remains_apart (by decide) _

/-- To kill a process ends it, as its end in time does. -/
theorem killed_note (process : BrowserProcess) (phase : Party) :
    phase.note (.runtime (.kill process)) (.ok ()) =
      phase.note (.runtime (.wait process)) (.ok true) := by
  cases process <;> rfl

theorem timedOut_note (process : BrowserProcess) (phase : Party) :
    phase.note (.runtime (.wait process)) (.ok false) = phase := by
  cases process <;> rfl

theorem awaited_leaves (processes : List BrowserProcess) :
    Leaves ownership phase runtime (awaited processes)
      fun outcome after reached => outcome = .ok () ∧ after = runtime ∧
        Remains processes phase reached := by
  induction processes generalizing phase with
  | nil => exact leaves_pure ⟨rfl, rfl, remains_refl phase⟩
  | cons process later ih =>
      have rest : ∀ middle, Remains [process] phase middle →
          Leaves ownership middle runtime (awaited later)
            fun outcome after reached => outcome = .ok () ∧
              after = runtime ∧ Remains (process :: later) phase reached := by
        intro middle first
        apply ih.mono
        intro outcome after reached kept
        exact ⟨kept.1, kept.2.1, first.cons kept.2.2⟩
      apply assured_leaves (rfl : assured (.wait process) = true)
      intro inTime
      cases inTime with
      | true => exact rest _ (waited_remains process phase)
      | false =>
          rw [timedOut_note]
          apply assured_leaves (rfl : assured (.kill process) = true)
          intro _
          rw [killed_note]
          exact rest _ (waited_remains process phase)

structure Ending (runtime : BrowserRuntime) (phase : Party) : Prop where
  stopping : runtime.stopping = true
  locked : phase.descriptor.isSome = true
  descriptor : phase.descriptor = runtime.profileLockDescriptor
  browser : phase.browser = false

theorem ended_leaves (active : Active { runtime with stopping := false } phase)
    (stopping : runtime.stopping = true) :
    Leaves ownership phase runtime ended fun outcome after reached =>
      outcome = .ok () ∧ Ending after reached := by
  apply (closeChromiumGracefully_leaves active.owns).bind
  · intro _ after reached kept
    obtain ⟨_, rfl, rfl⟩ := kept
    apply leaves_reading
    apply (terminated_leaves _).bind
    · intro _ last ended kept
      obtain ⟨_, rfl, rfl⟩ := kept
      apply leaves_reading
      apply (awaited_leaves _).mono
      intro outcome final gone kept
      obtain ⟨rfl, rfl, browser, rfl, remains⟩ := kept
      refine ⟨rfl, stopping, active.locked, active.descriptor, ?_⟩
      rw [Bool.eq_false_iff]
      intro running
      obtain ⟨before, absent⟩ := remains running
      exact absent (List.mem_reverse.mpr (active.browser before))
    · intro fault last ended kept
      cases kept.1
  · intro fault after reached kept
    cases kept.1

/-- The display's files may stay, and the lock with them: then it goes when the
process ends. -/
theorem tidied_leaves (ending : Ending runtime phase) :
    Leaves ownership phase runtime tidied fun outcome after reached =>
      Uninterrupted outcome ∧ Stopped after reached := by
  have removed : ∀ path, Leaves ownership phase runtime
      (ask (.unlinkDisplay path)) fun reply after reached =>
        Uninterrupted reply ∧ after = runtime ∧ reached = phase := by
    intro path
    apply leaves_perform trivial
    intro reply foreseen
    exact ⟨foreseen.1, rfl, rfl⟩
  have stays : ∀ (fault : CollectorFault) after reached,
      Uninterrupted (.error fault : Except CollectorFault Bool) ∧
        after = runtime ∧ reached = phase →
      Uninterrupted (.error fault : Except CollectorFault Unit) ∧
        Stopped after reached := by
    intro fault after reached kept
    obtain ⟨mild, rfl, rfl⟩ := kept
    exact ⟨faults_error (mild fault rfl), ending.stopping, ending.browser⟩
  apply (removed _).bind
  · intro _ after reached kept
    obtain ⟨_, rfl, rfl⟩ := kept
    apply (removed _).bind
    · intro _ last ended kept
      obtain ⟨_, rfl, rfl⟩ := kept
      apply (releaseProfileLock_leaves ending.locked ending.descriptor
        ending.browser).mono
      intro outcome final gone kept
      obtain ⟨rfl, mild, same⟩ := kept
      exact ⟨mild, same.trans ending.stopping, rfl⟩
    · exact stays
  · exact stays

def Either (runtime : BrowserRuntime) (phase : Party) : Prop :=
  Active runtime phase ∨ Stopped runtime phase

theorem stop_leaves (either : Either runtime phase) :
    Leaves ownership phase runtime stop fun outcome after reached =>
      Uninterrupted outcome ∧ Stopped after reached := by
  apply leaves_reading
  rcases either with active | stopped
  · rw [active.running]
    apply leaves_writing
    have same : ({ runtime with stopping := false } : BrowserRuntime) =
        runtime := by
      rw [← active.running]
    have begun : Active { { runtime with stopping := true } with
        stopping := false } phase := by
      change Active { runtime with stopping := false } phase
      rw [same]
      exact active
    apply (ended_leaves begun rfl).ensure
    intro outcome after reached kept
    obtain ⟨rfl, ending⟩ := kept
    apply (tidied_leaves ending).mono
    intro cleaned last ended kept
    cases cleaned with
    | ok _ => exact kept
    | error fault => exact kept
  · rw [stopped.1]
    exact leaves_pure ⟨faults_ok _, stopped⟩

def Starting (post : BrowserRuntime → Party → Prop) :
    Except CollectorFault Unit → BrowserRuntime → Party → Prop
  | .ok _, runtime, phase => post runtime phase
  | .error fault, _, phase => fault.isException = true ∧ phase.browser = false

theorem acquireProfileLock_leaves :
    Leaves ownership {} {} acquireProfileLock (Starting fun after reached =>
      Active after reached ∧ reached.browser = false) := by
  have claims : Leaves ownership {} ({} : BrowserRuntime)
      (exclusively (pure ()) .otherException) (Claimed {}) := by
    apply exclusively_leaves rfl
    exact leaves_pure ⟨rfl, rfl, faults_ok _⟩
  apply claims.bind
  · intro descriptor after reached kept
    obtain ⟨rfl, rfl⟩ := kept
    apply leaves_write
    exact ⟨⟨rfl, rfl, rfl, rfl, fun clash => by cases clash⟩, rfl⟩
  · intro fault after reached kept
    obtain ⟨_, rfl, mild⟩ := kept
    exact ⟨mild, rfl⟩

theorem cleared_leaves (names : List String) (active : Active runtime phase)
    (idle : phase.browser = false) :
    Leaves ownership phase runtime (cleared names) (Starting Active) := by
  induction names with
  | nil => exact leaves_pure active
  | cons name later ih =>
      have unlinked : Leaves ownership phase runtime
          (ask (.unlinkTransient name))
          fun reply after reached =>
            Foreseen (.runtime (.unlinkTransient name)) reply ∧
              after = runtime ∧ reached = phase :=
        ask_leaves ⟨active.owns, idle⟩
      apply unlinked.attempt
      intro outcome after reached kept
      obtain ⟨foreseen, rfl, rfl⟩ := kept
      cases outcome with
      | ok _ => exact ih
      | error fault =>
          have osError : isOsError fault = true := foreseen fault rfl
          dsimp only
          rw [osError, if_pos rfl]
          apply (releaseProfileLock_leaves active.locked active.descriptor
            idle).bind
          · intro _ last ended kept
            obtain ⟨rfl, _⟩ := kept
            exact leaves_raise ⟨exception_of_osError osError, rfl⟩
          · intro other last ended kept
            obtain ⟨rfl, mild, _⟩ := kept
            exact ⟨mild other rfl, rfl⟩

theorem popen_leaves (process : BrowserProcess)
    (active : Active runtime phase) :
    Leaves ownership phase runtime (popen process)
      fun outcome after reached =>
        Uninterrupted outcome ∧ Active after reached := by
  have opened : Leaves ownership phase runtime (ask (.popen process))
      fun reply after reached =>
        Foreseen (.runtime (.popen process)) reply ∧ after = runtime ∧
          reached = phase.note (.runtime (.popen process)) reply :=
    ask_leaves active.owns
  apply opened.bind
  · intro _ after reached kept
    obtain ⟨_, rfl, rfl⟩ := kept
    apply leaves_write
    refine ⟨faults_ok _, ?_⟩
    have listed : phase.browser = true →
        BrowserProcess.chromium ∈ after.processes ++ [process] :=
      fun running => List.mem_append_left _ (active.browser running)
    cases process with
    | chromium =>
        exact {
          running := active.running
          locked := active.locked
          descriptor := active.descriptor
          owns := active.owns
          browser := fun _ =>
            List.mem_append_right _ (List.mem_singleton_self _) }
    | xvfb => exact { active with browser := listed }
    | openbox => exact { active with browser := listed }
    | x11vnc => exact { active with browser := listed }
    | websockify => exact { active with browser := listed }
  · intro fault after reached kept
    obtain ⟨foreseen, rfl, rfl⟩ := kept
    have same : phase.note (.runtime (.popen process)) (.error fault) =
        phase := by
      cases process <;> rfl
    rw [same]
    refine ⟨?_, active⟩
    intro other raised
    cases raised
    exact foreseen.1 fault rfl

theorem waitForDisplay_leaves (active : Active runtime phase) :
    Leaves ownership phase runtime (ask .waitForDisplay)
      fun outcome after reached =>
        Uninterrupted outcome ∧ Active after reached := by
  have waited : Leaves ownership phase runtime (ask .waitForDisplay)
      fun reply after reached =>
        Foreseen (.runtime .waitForDisplay) reply ∧ after = runtime ∧
          reached = phase := ask_leaves trivial
  apply waited.mono
  intro reply after reached kept
  obtain ⟨foreseen, rfl, rfl⟩ := kept
  exact ⟨foreseen.1, active⟩

theorem spawned_leaves (active : Active runtime phase) :
    Leaves ownership phase runtime spawned fun outcome after reached =>
      Uninterrupted outcome ∧ Active after reached := by
  have raising : ∀ {α : Type} (fault : CollectorFault)
      (after : BrowserRuntime) (reached : Party),
      (Uninterrupted (.error fault : Except CollectorFault α) ∧
        Active after reached) →
      Uninterrupted (.error fault : Except CollectorFault Unit) ∧
        Active after reached := by
    intro α fault after reached kept
    exact ⟨faults_error (kept.1 fault rfl), kept.2⟩
  apply (popen_leaves .xvfb active).bind
  · intro _ after reached kept
    apply (waitForDisplay_leaves kept.2).bind
    · intro _ after reached kept
      apply (popen_leaves .openbox kept.2).bind
      · intro _ after reached kept
        apply (popen_leaves .chromium kept.2).bind
        · intro _ after reached kept
          apply (popen_leaves .x11vnc kept.2).bind
          · intro _ after reached kept
            exact popen_leaves .websockify kept.2
          · exact raising
        · exact raising
      · exact raising
    · exact raising
  · exact raising

def isCheck : RuntimeCall → Bool
  | .requireRuntimeBoundary | .mkdir | .chmod
  | .requireProfilePermissions => true
  | _ => false

theorem check_leaves {call : RuntimeCall}
    {next : RuntimeReply call → RuntimeProgram Unit}
    {post : BrowserRuntime → Party → Prop} (checks : isCheck call = true)
    (continues : ∀ value,
      Leaves ownership {} {} (next value) (Starting post)) :
    Leaves ownership {} {} (ask call >>= next) (Starting post) := by
  have asked : Leaves ownership {} ({} : BrowserRuntime) (ask call)
      fun reply after reached => Uninterrupted reply ∧ after = {} ∧
        reached = {} := by
    cases call <;> first
      | exact leaves_perform trivial fun _ foreseen => ⟨foreseen.1, rfl, rfl⟩
      | cases checks
  apply asked.bind
  · intro value after reached kept
    obtain ⟨_, rfl, rfl⟩ := kept
    exact continues value
  · intro fault after reached kept
    obtain ⟨mild, rfl, rfl⟩ := kept
    exact ⟨mild fault rfl, rfl⟩

theorem start_leaves :
    Leaves ownership {} {} start (Starting Active) := by
  apply check_leaves
  · rfl
  intro _
  apply check_leaves
  · rfl
  intro _
  apply check_leaves
  · rfl
  intro _
  apply check_leaves
  · rfl
  intro _
  apply acquireProfileLock_leaves.bind
  · intro _ after reached kept
    apply (cleared_leaves _ kept.1 kept.2).bind
    · intro _ later ended active
      apply (spawned_leaves active).rescue
      · intro _ last gone kept
        exact kept.2
      · intro fault last gone kept selected
        apply (stop_leaves (.inl kept.2)).bind
        · intro _ final past kept
          exact leaves_raise ⟨selected, kept.2.2⟩
        · intro other final past kept
          exact ⟨kept.1 other rfl, kept.2.2⟩
      · intro fault last gone kept passed
        rw [kept.1 fault rfl] at passed
        cases passed
    · intro fault later ended kept
      exact kept
  · intro fault after reached kept
    exact kept

theorem answered_leaves {call : RuntimeCall}
    (permitted : phase.permits (.runtime call))
    (still : ∀ reply, phase.note (.runtime call) reply = phase) :
    Leaves ownership phase runtime (answered call) fun _ _ reached =>
      reached = phase := by
  have asked : Leaves ownership phase runtime
      (do
        let _ ← ask call
        return () : RuntimeProgram Unit)
      fun _ _ reached => reached = phase := by
    apply Leaves.discard
    apply leaves_perform permitted
    intro reply _
    exact still reply
  apply asked.rescue
  · intro _ after reached kept
    exact kept
  · intro fault after reached kept _
    exact leaves_pure kept
  · intro fault after reached kept _
    exact kept

theorem handled_leaves (control : ControlRequest) :
    Leaves ownership phase runtime (handled control) fun _ _ reached =>
      reached = phase := by
  cases control with
  | readiness =>
      exact answered_leaves trivial fun _ => rfl
  | openLogin =>
      exact answered_leaves trivial fun _ => rfl
  | verifyProfile =>
      exact answered_leaves trivial fun _ => rfl

theorem stop_keeps : Stateful.Keeps ownership Either stop := by
  intro phase runtime either
  apply (stop_leaves either).mono
  intro _ after reached kept
  exact .inr kept.2

theorem served_keeps (requests : List StopRequest) :
    Stateful.Keeps ownership Either (served requests) := by
  induction requests with
  | nil => exact keeps_raise _
  | cons request later ih =>
      cases request with
      | shutdown =>
          apply stop_keeps.attempt
          intro outcome
          cases outcome with
          | ok _ => exact keeps_pure _
          | error fault => exact ih
      | signal =>
          apply stop_keeps.bind
          intro _
          exact keeps_raise _

theorem main_leaves (requests : List StopRequest) :
    Leaves ownership {} {} (main requests) fun _ _ reached =>
      reached.browser = false := by
  apply start_leaves.bind
  · intro _ after reached active
    apply assured_leaves (rfl : assured .bindServer = true)
    intro _
    apply (served_keeps requests reached after (.inl active)).ensure
    intro outcome later gone either
    apply (stop_leaves either).mono
    intro cleaned final past kept
    cases cleaned with
    | ok _ => exact kept.2.2
    | error fault => exact kept.2.2
  · intro fault after reached kept
    exact kept.2

theorem process_follows (requests : List StopRequest) :
    (process requests).Follows ownership {} fun _ phase => phase = {} := by
  apply Program.Follows.attempt (main_leaves requests)
  intro outcome reached kept
  obtain ⟨_, _, _, idle⟩ := kept
  apply Program.follows_call.mpr
  refine ⟨idle, ?_⟩
  intro reply _
  apply Program.follows_done.mpr
  change ({ reached with descriptor := none, owns := false } : Party) = {}
  rw [idle]

end

end OfflineReels.Profile.BrowserRuntime
