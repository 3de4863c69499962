import OfflineReels.Collector.FeedJson

namespace OfflineReels.Collector.FeedJson

/-! A code that waits in the queue has not been used since it was queued. -/

def Awaits (code : String) (log : List FeedEvent) : Prop :=
  ∃ between earlier, log = between ++ .queued code :: earlier ∧
    FeedEvent.used code ∉ between

namespace Awaits

variable {code : String} {log : List FeedEvent}

theorem queued (code : String) (log : List FeedEvent) :
    Awaits code (.queued code :: log) :=
  ⟨[], log, rfl, List.not_mem_nil⟩

theorem cons (awaits : Awaits code log) {event : FeedEvent}
    (other : event ≠ .used code) : Awaits code (event :: log) := by
  obtain ⟨between, earlier, rfl, unused⟩ := awaits
  refine ⟨event :: between, earlier, rfl, ?_⟩
  intro member
  rcases List.mem_cons.mp member with same | within
  · exact other same.symm
  · exact unused within

theorem usedApart (awaits : Awaits code log) (unrepeated : Unrepeated log) :
    UsedApart code log := by
  obtain ⟨between, earlier, rfl, unused⟩ := awaits
  have before : UsedApart code earlier := unrepeated between code earlier rfl
  have queued : UsedApart code (.queued code :: earlier) :=
    before.cons fun clash => by cases clash
  clear unrepeated
  induction between with
  | nil => exact queued
  | cons event between ih =>
      rw [List.mem_cons, not_or] at unused
      exact (ih unused.2).cons fun same => unused.1 same.symm

end Awaits

def Awaited (session : FeedSession) : Prop :=
  ∀ code ∈ session.source.pending, Awaits code session.log

namespace Awaited

variable {session : FeedSession}

theorem empty : Awaited .empty := by
  intro code clash
  cases clash

theorem remember (awaited : Awaited session) (code : String) :
    Awaited (session.remember code) := by
  unfold FeedSession.remember
  split
  · exact awaited
  · unfold FeedSession.trimKnown
    split
    · split
      · intro other member
        apply Awaits.cons
        · exact (awaited other member).cons fun clash => by cases clash
        · intro clash
          cases clash
      · intro other member
        exact (awaited other member).cons fun clash => by cases clash
    · intro other member
      exact (awaited other member).cons fun clash => by cases clash

theorem append (awaited : Awaited session) (observation : Nat)
    (code : String) : Awaited (session.append observation code) := by
  have among : ∀ other ∈ (session.append observation code).source.pending,
      other ∈ session.source.pending ∨ other = code := by
    intro other member
    have whole : other ∈
        (session.source.codes ++ [(observation, code)]).map Prod.snd := by
      obtain ⟨entry, listed, same⟩ := List.mem_map.mp member
      refine List.mem_map.mpr ⟨entry, ?_, same⟩
      change entry ∈ FeedSession.trimCodes _ at listed
      unfold FeedSession.trimCodes at listed
      split at listed
      · exact List.mem_of_mem_tail listed
      · exact listed
    rw [List.map_append, List.mem_append] at whole
    exact whole.imp id List.mem_singleton.mp
  intro other member
  rcases among other member with before | rfl
  · exact (awaited other before).cons fun clash => by cases clash
  · exact Awaits.queued other session.log

theorem offer (awaited : Awaited session) (observation : Nat)
    (value : Option Json) : Awaited (session.offer observation value) := by
  unfold FeedSession.offer
  split
  · split
    · exact awaited
    · exact (awaited.remember _).append observation _
  · exact awaited

theorem collectFrom (awaited : Awaited session) (observation visits : Nat)
    (stack : List Json) :
    Awaited (FeedSession.collectFrom observation visits stack session) := by
  induction visits generalizing stack session with
  | zero => exact awaited
  | succ visits ih =>
      cases stack with
      | nil => exact awaited
      | cons value stack =>
          cases value with
          | object members =>
              exact ih (((awaited.offer observation _).offer observation _).offer
                observation _) _
          | array values => exact ih awaited _
          | string text => exact ih awaited _
          | scalar => exact ih awaited _

theorem offerAll (awaited : Awaited session) (values : List Json) :
    Awaited (values.foldl
      (fun session value => session.offer 0 (some value)) session) := by
  induction values generalizing session with
  | nil => exact awaited
  | cons value rest ih => exact ih (awaited.offer 0 (some value))

theorem observe (awaited : Awaited session) (response : JsonResponse) :
    Awaited (session.observe response) := by
  unfold FeedSession.observe
  split
  · exact awaited
  · split
    · exact awaited
    · split
      · exact awaited
      · have numbered : Awaited { session with source := {
            session.source with
            observation := session.source.observation + 1 } } := awaited
        exact numbered.collectFrom _ _ _

theorem observeEmbeddedCandidates (awaited : Awaited session)
    (payload : Json) :
    Awaited (session.observeEmbeddedCandidates payload) := by
  unfold FeedSession.observeEmbeddedCandidates
  split
  · exact awaited.offerAll _
  · exact awaited

theorem markUsed (awaited : Awaited session) (keeps : Keeps session)
    (shortcode : String) : Awaited (session.markUsed shortcode) := by
  unfold FeedSession.markUsed
  split
  · rename_i invalid
    intro code member
    apply (awaited code member).cons
    intro same
    rw [FeedEvent.used.inj same, keeps.bounded.valid code member] at invalid
    cases invalid
  · intro code member
    obtain ⟨entry, listed, rfl⟩ := List.mem_map.mp member
    obtain ⟨before, differs⟩ := List.mem_filter.mp listed
    have listed : entry.2 ∈ (session.remember shortcode).source.pending :=
      List.mem_map_of_mem before
    apply (awaited.remember shortcode entry.2 listed).cons
    intro same
    exact absurd (FeedEvent.used.inj same).symm (of_decide_eq_true differs)

theorem reserve (awaited : Awaited session)
    (distinct : session.source.pending.Nodup)
    (passes : Nat × String → Bool) :
    Awaited (session.reserve passes).1 := by
  unfold FeedSession.reserve
  split
  · exact awaited
  · rename_i observation used found
    intro code member
    have listed : code ∈
        (session.source.codes.eraseP (!passes ·)).map Prod.snd := member
    have before : code ∈ session.source.pending :=
      ((List.eraseP_sublist).map Prod.snd).subset listed
    apply (awaited code before).cons
    intro same
    obtain rfl := FeedEvent.used.inj same
    obtain ⟨free, others, rest, shape, passed⟩ :=
      List.find?_eq_some_iff_append.mp found
    have erased : session.source.codes.eraseP (!passes ·) = others ++ rest := by
      rw [shape, List.eraseP_append_right _ fun other before => by
        simpa using passed other before]
      rw [List.eraseP_cons, free, cond_true]
    have whole : session.source.pending =
        others.map Prod.snd ++ used :: rest.map Prod.snd := by
      unfold AuthenticatedFeedSource.pending
      rw [shape, List.map_append, List.map_cons]
    rw [whole, List.nodup_middle, List.nodup_cons] at distinct
    rw [erased, List.map_append] at listed
    exact distinct.1 listed

theorem perform (awaited : Awaited session) (keeps : Keeps session)
    (timely : Timely session.log) (operation : FeedOperation) :
    Awaited (session.perform operation) := by
  have distinct := (keeps.unqueued timely).distinct
  cases operation with
  | observe response => exact awaited.observe response
  | observeEmbeddedCandidates payload =>
      exact awaited.observeEmbeddedCandidates payload
  | markUsed shortcode => exact awaited.markUsed keeps shortcode
  | nextAfter previous after => exact awaited.reserve distinct _
  | nextFromCurrentFeed previous => exact awaited.reserve distinct _
  | nextEmbeddedFromCurrentFeed previous => exact awaited.reserve distinct _
  | resetForFeedNavigation =>
      intro code clash
      cases clash

theorem performAll (awaited : Awaited session) (keeps : Keeps session)
    (operations : List FeedOperation)
    (timely : Timely (operations.foldl FeedSession.perform session).log) :
    Awaited (operations.foldl FeedSession.perform session) := by
  induction operations generalizing session with
  | nil => exact awaited
  | cons operation rest ih =>
      have first := keeps.perform operation
      have onward := first.trans (first.keeps.performAll rest)
      exact ih (awaited.perform keeps (timely.of_suffix onward.grows) operation)
        first.keeps timely

end Awaited

/-- Whatever was done to the source, a code that waits was not used lately. -/
theorem pending_usedApart {operations : List FeedOperation}
    (timely : Timely (FeedSession.run operations).log) {code : String}
    (pending : code ∈ (FeedSession.run operations).source.pending) :
    UsedApart code (FeedSession.run operations).log := by
  have keeps := (Keeps.empty.performAll operations).keeps
  have awaited := Awaited.empty.performAll Keeps.empty operations timely
  exact (awaited code pending).usedApart (keeps.unqueued timely).unrepeated

end OfflineReels.Collector.FeedJson
