import Mathlib.Data.Finset.Card
import Mathlib.Data.List.Infix
import OfflineReels.Collector.Canonical

namespace OfflineReels.Collector.FeedJson

/-! Canonical Reel codes observed in the JSON of the authenticated feed.  The
aggregate counts of response classes and schemas are left out. -/

def MAX_CODES : Nat := 32
def MAX_KNOWN_CODES : Nat := 64
def CANONICAL_CODE_KEYS : List String := ["code", "shortcode", "media_code"]

def MAX_VISITED : Nat := 20000

/-- `scalar` stands for null, the booleans and the numbers. -/
inductive Json
  | scalar
  | string (text : String)
  | array (values : List Json)
  | object (members : List (String × Json))
  deriving Repr

/-- A header that is absent reads as the empty text; without `json` the body
does not parse. -/
structure JsonResponse where
  contentType : String
  url : String
  json : Option Json

structure AuthenticatedFeedSource where
  codes : List (Nat × String)
  knownCodes : Finset String
  knownOrder : List String
  observation : Nat
  deriving DecidableEq

def AuthenticatedFeedSource.empty : AuthenticatedFeedSource where
  codes := []
  knownCodes := ∅
  knownOrder := []
  observation := 0

def AuthenticatedFeedSource.pending (source : AuthenticatedFeedSource) :
    List String :=
  source.codes.map Prod.snd

/-- What the source does, for the record. -/
inductive FeedEvent
  | remembered (code : String)
  | forgotten (code : String) (pending : List String)
  | queued (code : String)
  | used (code : String)
  deriving DecidableEq, Repr

/-- The source and its record, the latest event first. -/
structure FeedSession where
  source : AuthenticatedFeedSource
  log : List FeedEvent
  deriving DecidableEq

namespace FeedSession

def empty : FeedSession := ⟨.empty, []⟩

/-- `_known_order.popleft()`, once it has too many codes. -/
def trimKnown (session : FeedSession) : FeedSession :=
  match session.source.knownOrder with
  | oldest :: newer =>
      if MAX_KNOWN_CODES < newer.length + 1 then
        { source := { session.source with
            knownCodes := session.source.knownCodes.erase oldest
            knownOrder := newer }
          log := .forgotten oldest session.source.pending :: session.log }
      else session
  | [] => session

def remember (session : FeedSession) (code : String) : FeedSession :=
  if code ∈ session.source.knownCodes then session
  else trimKnown {
    source := { session.source with
      knownCodes := insert code session.source.knownCodes
      knownOrder := session.source.knownOrder ++ [code] }
    log := .remembered code :: session.log }

def trimCodes (codes : List (Nat × String)) : List (Nat × String) :=
  if MAX_CODES < codes.length then codes.tail else codes

def append (session : FeedSession) (observation : Nat) (code : String) :
    FeedSession where
  source := { session.source with
    codes := trimCodes (session.source.codes ++ [(observation, code)]) }
  log := .queued code :: session.log

/-- A value found under a canonical key, or in the embedded list. -/
def offer (session : FeedSession) (observation : Nat) (value : Option Json) :
    FeedSession :=
  match value with
  | some (.string code) =>
      if !isShortcode code || code ∈ session.source.knownCodes then session
      else (session.remember code).append observation code
  | _ => session

def collectFrom (observation : Nat) :
    Nat → List Json → FeedSession → FeedSession
  | 0, _, session => session
  | _ + 1, [], session => session
  | visits + 1, value :: stack, session =>
      match value with
      | .object members =>
          collectFrom observation visits (members.map Prod.snd ++ stack)
            (CANONICAL_CODE_KEYS.foldl (fun session key =>
              session.offer observation (members.lookup key)) session)
      | .array values =>
          collectFrom observation visits (values ++ stack) session
      | _ => collectFrom observation visits stack session

def collect (session : FeedSession) (payload : Json) (observation : Nat) :
    FeedSession :=
  collectFrom observation MAX_VISITED [payload] session

def mentions (text part : String) : Bool :=
  decide (part.toList <:+: text.toList.map Char.toLower)

/-- Of the classes of responses only GraphQL has candidates. -/
def observe (session : FeedSession) (response : JsonResponse) : FeedSession :=
  if !mentions response.contentType "json" then session
  else if !mentions response.url "graphql" then session
  else
    match response.json with
    | none => session
    | some payload =>
        let observation := session.source.observation + 1
        { session with source := { session.source with observation } }.collect
          payload observation

def observeEmbeddedCandidates (session : FeedSession) (payload : Json) :
    FeedSession :=
  match payload with
  | .array values =>
      (values.take MAX_CODES).foldl
        (fun session value => session.offer 0 (some value)) session
  | _ => session

def markUsed (session : FeedSession) (shortcode : String) : FeedSession :=
  if !isShortcode shortcode then
    { session with log := .used shortcode :: session.log }
  else
    let session := session.remember shortcode
    { source := { session.source with
        codes := session.source.codes.filter (·.2 ≠ shortcode) }
      log := .used shortcode :: session.log }

/-- The first pending code that is not passed over. -/
def reserve (session : FeedSession) (passes : Nat × String → Bool) :
    FeedSession × Option ReelCandidate :=
  match session.source.codes.find? (!passes ·) with
  | none => (session, none)
  | some (_, code) =>
      ({ source := { session.source with
          codes := session.source.codes.eraseP (!passes ·) }
         log := .used code :: session.log },
        some ⟨code, "https://www.instagram.com/reel/" ++ code ++ "/"⟩)

def nextAfter (session : FeedSession) (previousShortcode : String)
    (afterObservation : Nat) : FeedSession × Option ReelCandidate :=
  session.reserve fun (observation, code) =>
    observation ≤ afterObservation || code = previousShortcode

def nextFromCurrentFeed (session : FeedSession) (previousShortcode : String) :
    FeedSession × Option ReelCandidate :=
  session.reserve fun (_, code) => code = previousShortcode

def nextEmbeddedFromCurrentFeed (session : FeedSession)
    (previousShortcode : String) : FeedSession × Option ReelCandidate :=
  session.reserve fun (observation, code) =>
    observation ≠ 0 || code = previousShortcode

def resetForFeedNavigation (session : FeedSession) : FeedSession :=
  { session with source := { session.source with
      codes := []
      observation := 0 } }

end FeedSession

inductive FeedOperation
  | observe (response : JsonResponse)
  | observeEmbeddedCandidates (payload : Json)
  | markUsed (shortcode : String)
  | nextAfter (previousShortcode : String) (afterObservation : Nat)
  | nextFromCurrentFeed (previousShortcode : String)
  | nextEmbeddedFromCurrentFeed (previousShortcode : String)
  | resetForFeedNavigation

def FeedSession.perform (session : FeedSession) : FeedOperation → FeedSession
  | .observe response => session.observe response
  | .observeEmbeddedCandidates payload =>
      session.observeEmbeddedCandidates payload
  | .markUsed shortcode => session.markUsed shortcode
  | .nextAfter previous after => (session.nextAfter previous after).1
  | .nextFromCurrentFeed previous => (session.nextFromCurrentFeed previous).1
  | .nextEmbeddedFromCurrentFeed previous =>
      (session.nextEmbeddedFromCurrentFeed previous).1
  | .resetForFeedNavigation => session.resetForFeedNavigation

def FeedSession.run (operations : List FeedOperation) : FeedSession :=
  operations.foldl FeedSession.perform .empty

open FeedSession

def rememberedCodes (log : List FeedEvent) : List String :=
  log.filterMap fun event => match event with
    | .remembered code => some code
    | _ => none

theorem rememberedCodes_append (later earlier : List FeedEvent) :
    rememberedCodes (later ++ earlier) =
      rememberedCodes later ++ rememberedCodes earlier :=
  List.filterMap_append

/-- The memory is the last codes remembered, and the queue is short. -/
structure Bounded (session : FeedSession) : Prop where
  short : session.source.codes.length ≤ MAX_CODES
  known : session.source.knownCodes = session.source.knownOrder.toFinset
  bounded : session.source.knownOrder.length ≤ MAX_KNOWN_CODES
  distinct : session.source.knownOrder.Nodup
  valid : ∀ code ∈ session.source.pending, isShortcode code = true
  recent : session.source.knownOrder.reverse =
    (rememberedCodes session.log).take MAX_KNOWN_CODES

namespace Bounded

variable {session : FeedSession}

theorem empty : Bounded FeedSession.empty where
  short := Nat.zero_le _
  known := rfl
  bounded := Nat.zero_le _
  distinct := List.nodup_nil
  valid := fun _ member => absurd member List.not_mem_nil
  recent := rfl

theorem mem_known (bounded : Bounded session) {code : String} :
    code ∈ session.source.knownCodes ↔ code ∈ session.source.knownOrder := by
  rw [bounded.known, List.mem_toFinset]

/-- Taking in a code: either nothing is forgotten, or the oldest code is. -/
theorem remember_cases (bounded : Bounded session) {code : String}
    (fresh : code ∉ session.source.knownOrder) :
    (session.remember code = {
        source := { session.source with
          knownCodes := insert code session.source.knownCodes
          knownOrder := session.source.knownOrder ++ [code] }
        log := .remembered code :: session.log } ∧
      session.source.knownOrder.length < MAX_KNOWN_CODES) ∨
    ∃ oldest newer, session.source.knownOrder = oldest :: newer ∧
      session.source.knownOrder.length = MAX_KNOWN_CODES ∧
      session.remember code = {
        source := { session.source with
          knownCodes := (insert code session.source.knownCodes).erase oldest
          knownOrder := newer ++ [code] }
        log := .forgotten oldest session.source.pending ::
          .remembered code :: session.log } := by
  have unknown : code ∉ session.source.knownCodes := fun member =>
    fresh (bounded.mem_known.mp member)
  have limit := bounded.bounded
  unfold FeedSession.remember
  rw [if_neg unknown]
  cases order : session.source.knownOrder with
  | nil =>
      left
      constructor
      · simp [FeedSession.trimKnown, MAX_KNOWN_CODES]
      · exact Nat.zero_lt_succ _
  | cons oldest newer =>
      rw [order, List.length_cons] at limit
      by_cases full : newer.length + 1 = MAX_KNOWN_CODES
      · right
        refine ⟨oldest, newer, rfl, full, ?_⟩
        simp [FeedSession.trimKnown, AuthenticatedFeedSource.pending, full]
      · left
        constructor
        · have room : ¬ MAX_KNOWN_CODES < newer.length + 1 + 1 := by omega
          simp [FeedSession.trimKnown, room]
        · rw [List.length_cons]
          omega

theorem remember (bounded : Bounded session) (code : String) :
    Bounded (session.remember code) := by
  by_cases member : code ∈ session.source.knownOrder
  · rwa [FeedSession.remember, if_pos (bounded.mem_known.mpr member)]
  rcases bounded.remember_cases member with
    ⟨shape, room⟩ | ⟨oldest, newer, order, full, shape⟩
  · rw [shape]
    have whole := congrArg List.length bounded.recent
    rw [List.length_reverse, List.length_take] at whole
    exact {
      short := bounded.short
      known := by
        ext other
        simp [bounded.known]
      bounded := by
        rw [List.length_append, List.length_singleton]
        omega
      distinct := by
        simpa using List.Nodup.concat member bounded.distinct
      valid := bounded.valid
      recent := by
        have everything : (rememberedCodes session.log).take MAX_KNOWN_CODES =
            (rememberedCodes session.log).take (MAX_KNOWN_CODES - 1) := by
          rw [List.take_of_length_le (by omega),
            List.take_of_length_le (by omega)]
        change _ = (code :: rememberedCodes session.log).take MAX_KNOWN_CODES
        rw [List.reverse_append, bounded.recent, everything]
        rfl }
  · have split := bounded.distinct
    rw [order, List.nodup_cons] at split
    have apart : oldest ≠ code := fun same =>
      member (order ▸ same ▸ List.mem_cons_self)
    have later : code ∉ newer := fun listed =>
      member (order ▸ List.mem_cons_of_mem _ listed)
    rw [shape]
    exact {
      short := bounded.short
      known := by
        ext other
        simp only [bounded.known, order, Finset.mem_erase, Finset.mem_insert,
          List.mem_toFinset, List.mem_cons, List.mem_append,
          List.not_mem_nil, or_false]
        constructor
        · intro kept
          tauto
        · intro kept
          rcases kept with listed | rfl
          · exact ⟨fun same => split.1 (same ▸ listed), .inr (.inr listed)⟩
          · exact ⟨apart.symm, .inl rfl⟩
      bounded := by
        rw [order, List.length_cons] at full
        simpa using full.le
      distinct := by
        simpa using List.Nodup.concat later split.2
      valid := bounded.valid
      recent := by
        have recent := congrArg (List.take (MAX_KNOWN_CODES - 1))
          bounded.recent
        rw [List.take_take, order, List.reverse_cons,
          List.take_append_of_le_length (by
            rw [order, List.length_cons] at full
            rw [List.length_reverse]
            omega),
          List.take_of_length_le (by
            rw [order, List.length_cons] at full
            rw [List.length_reverse]
            omega)] at recent
        change _ = (code :: rememberedCodes session.log).take MAX_KNOWN_CODES
        rw [List.reverse_append, recent]
        rfl }

theorem append (bounded : Bounded session) (observation : Nat) {code : String}
    (shape : isShortcode code = true) :
    Bounded (session.append observation code) where
  short := by
    have short := bounded.short
    unfold FeedSession.append FeedSession.trimCodes
    dsimp only
    split
    · rw [List.length_tail, List.length_append, List.length_singleton]
      omega
    · omega
  known := bounded.known
  bounded := bounded.bounded
  distinct := bounded.distinct
  valid := by
    intro other member
    have listed : other ∈ session.source.pending ++ [code] := by
      unfold FeedSession.append FeedSession.trimCodes
        AuthenticatedFeedSource.pending at member
      dsimp only at member
      change other ∈ session.source.codes.map Prod.snd ++
        [(observation, code)].map Prod.snd
      rw [← List.map_append]
      split at member
      · exact List.mem_of_mem_tail (List.map_tail.symm ▸ member)
      · exact member
    rcases List.mem_append.mp listed with before | here
    · exact bounded.valid other before
    · rw [List.mem_singleton.mp here, shape]
  recent := bounded.recent

end Bounded

def Spaced (code : String) (between : List FeedEvent) : Prop :=
  MAX_KNOWN_CODES ≤ ((rememberedCodes between).toFinset.erase code).card

def UsedApart (code : String) (log : List FeedEvent) : Prop :=
  ∀ between before, log = between ++ .used code :: before →
    Spaced code between

def Unrepeated (log : List FeedEvent) : Prop :=
  ∀ later code earlier, log = later ++ .queued code :: earlier →
    UsedApart code earlier

/-- A code is forgotten only when it does not wait in the queue, and when the
memory was filled since its last use. -/
def Timely (log : List FeedEvent) : Prop :=
  ∀ later code pending earlier,
    log = later ++ .forgotten code pending :: earlier →
      code ∉ pending ∧
        ∀ between before, earlier = between ++ .used code :: before →
          MAX_KNOWN_CODES ≤ (rememberedCodes between).length

theorem Spaced.cons {code : String} {between : List FeedEvent}
    (spaced : Spaced code between) (event : FeedEvent) :
    Spaced code (event :: between) := by
  apply Nat.le_trans spaced
  apply Finset.card_le_card
  apply Finset.erase_subset_erase
  intro other member
  rw [List.mem_toFinset] at member ⊢
  exact (List.Sublist.filterMap _ (List.sublist_cons_self event between)).mem
    member

theorem UsedApart.cons {code : String} {log : List FeedEvent}
    (apart : UsedApart code log) {event : FeedEvent}
    (other : event ≠ .used code) : UsedApart code (event :: log) := by
  intro between before shape
  rcases List.cons_eq_append_iff.mp shape with
    ⟨_, same⟩ | ⟨rest, rfl, earlier⟩
  · exact absurd (List.cons.inj same).1.symm other
  · exact (apart rest before earlier).cons event

theorem Unrepeated.cons {log : List FeedEvent} (unrepeated : Unrepeated log)
    {event : FeedEvent}
    (apart : ∀ code, event = .queued code → UsedApart code log) :
    Unrepeated (event :: log) := by
  intro later code earlier shape
  rcases List.cons_eq_append_iff.mp shape with
    ⟨_, same⟩ | ⟨rest, _, before⟩
  · obtain ⟨rfl, rfl⟩ := List.cons.inj same
    exact apart code rfl
  · exact unrepeated rest code earlier before

theorem Timely.of_suffix {log before : List FeedEvent} (timely : Timely log)
    (suffix : before <:+ log) : Timely before := by
  obtain ⟨since, rfl⟩ := suffix
  intro later code pending earlier shape
  apply timely (since ++ later) code pending earlier
  rw [shape, List.append_assoc]

structure Unqueued (session : FeedSession) : Prop where
  kept : ∀ code ∈ session.source.pending, code ∈ session.source.knownOrder
  distinct : session.source.pending.Nodup
  uses : ∀ code, isShortcode code = true →
    code ∈ session.source.knownOrder ∨ UsedApart code session.log
  unrepeated : Unrepeated session.log

theorem usedApart_oldest {oldest : String} {order : List String}
    {log : List FeedEvent} (full : order.length = MAX_KNOWN_CODES)
    (distinct : order.Nodup) (gone : oldest ∉ order)
    (recent : order.reverse = (rememberedCodes log).take MAX_KNOWN_CODES)
    (late : ∀ between before, log = between ++ .used oldest :: before →
      MAX_KNOWN_CODES ≤ (rememberedCodes between).length) :
    UsedApart oldest log := by
  intro between before shape
  have enough := late between before shape
  have within : order.reverse <+: rememberedCodes between := by
    rw [recent, shape, rememberedCodes_append,
      List.take_append_of_le_length enough]
    exact List.take_prefix _ _
  have subset : order.toFinset ⊆
      (rememberedCodes between).toFinset.erase oldest := by
    intro code member
    rw [List.mem_toFinset] at member
    rw [Finset.mem_erase, List.mem_toFinset]
    exact ⟨fun same => gone (same ▸ member),
      within.subset (List.mem_reverse.mpr member)⟩
  have size := Finset.card_le_card subset
  rwa [List.toFinset_card_of_nodup distinct, full] at size

namespace Unqueued

variable {session : FeedSession}

theorem empty : Unqueued FeedSession.empty where
  kept := fun _ member => absurd member List.not_mem_nil
  distinct := List.nodup_nil
  uses := by
    intro code _
    right
    intro between before shape
    exact absurd shape.symm (by simp [FeedSession.empty])
  unrepeated := by
    intro later code earlier shape
    exact absurd shape.symm (by simp [FeedSession.empty])

theorem remember (unqueued : Unqueued session) (bounded : Bounded session)
    (code : String) (timely : Timely (session.remember code).log) :
    Unqueued (session.remember code) := by
  by_cases member : code ∈ session.source.knownOrder
  · rwa [FeedSession.remember, if_pos (bounded.mem_known.mpr member)]
  have after := bounded.remember code
  rcases bounded.remember_cases member with
    ⟨shape, room⟩ | ⟨oldest, newer, order, full, shape⟩
  · rw [shape]
    exact {
      kept := fun other listed =>
        List.mem_append_left _ (unqueued.kept other listed)
      distinct := unqueued.distinct
      uses := by
        intro other valid
        rcases unqueued.uses other valid with known | apart
        · exact .inl (List.mem_append_left _ known)
        · exact .inr (apart.cons (fun clash => by cases clash))
      unrepeated := unqueued.unrepeated.cons fun _ clash => by cases clash }
  · rw [shape] at timely after ⊢
    obtain ⟨waiting, late⟩ := timely [] oldest _ _ rfl
    have split := bounded.distinct
    rw [order, List.nodup_cons] at split
    have newest : ∀ other ∈ session.source.knownOrder, other ≠ oldest →
        other ∈ newer ++ [code] := by
      intro other listed apart
      rw [order] at listed
      exact List.mem_append_left _
        ((List.mem_cons.mp listed).resolve_left apart)
    exact {
      kept := fun other listed => newest other (unqueued.kept other listed)
        (fun same => waiting (same ▸ listed))
      distinct := unqueued.distinct
      uses := by
        intro other valid
        by_cases same : other = oldest
        · subst same
          right
          have gone : other ∉ newer ++ [code] := by
            rw [List.mem_append, List.mem_singleton]
            intro either
            rcases either with listed | rfl
            · exact split.1 listed
            · exact member (order ▸ List.mem_cons_self)
          rw [order, List.length_cons] at full
          exact usedApart_oldest (by simpa using full) after.distinct gone
            after.recent (by
              intro between before there
              rcases List.cons_eq_append_iff.mp there with
                ⟨_, clash⟩ | ⟨rest, rfl, earlier⟩
              · cases clash
              · exact late rest before earlier)
        · rcases unqueued.uses other valid with known | apart
          · exact .inl (newest other known same)
          · exact .inr ((apart.cons (fun clash => by cases clash)).cons
              (fun clash => by cases clash))
      unrepeated := (unqueued.unrepeated.cons fun _ clash => by
        cases clash).cons fun _ clash => by cases clash }

theorem queue (unqueued : Unqueued session) (bounded : Bounded session)
    (observation : Nat) {code : String} (valid : isShortcode code = true)
    (fresh : code ∉ session.source.knownOrder)
    (timely : Timely (session.remember code).log) :
    Unqueued ((session.remember code).append observation code) := by
  have middle := unqueued.remember bounded code timely
  have apart : UsedApart code (session.remember code).log := by
    have before := (unqueued.uses code valid).resolve_left fresh
    rcases bounded.remember_cases fresh with
      ⟨shape, _⟩ | ⟨oldest, newer, _, _, shape⟩
    · rw [shape]
      exact before.cons (fun clash => by cases clash)
    · rw [shape]
      exact (before.cons (fun clash => by cases clash)).cons
        (fun clash => by cases clash)
  have last : code ∈ (session.remember code).source.knownOrder ∧
      (session.remember code).source.pending = session.source.pending := by
    rcases bounded.remember_cases fresh with
      ⟨shape, _⟩ | ⟨oldest, newer, _, _, shape⟩
    · rw [shape]
      exact ⟨List.mem_append_right _ (List.mem_singleton_self code), rfl⟩
    · rw [shape]
      exact ⟨List.mem_append_right _ (List.mem_singleton_self code), rfl⟩
  have waits : code ∉ (session.remember code).source.pending := fun listed =>
    fresh (unqueued.kept code (last.2 ▸ listed))
  have shorter : List.Sublist
      ((session.remember code).append observation code).source.pending
      ((session.remember code).source.pending ++ [code]) := by
    unfold FeedSession.append FeedSession.trimCodes
      AuthenticatedFeedSource.pending
    change List.Sublist _ (List.map Prod.snd _ ++
      [(observation, code)].map Prod.snd)
    rw [← List.map_append]
    apply List.Sublist.map
    dsimp only
    split
    · exact List.tail_sublist _
    · exact List.Sublist.refl _
  exact {
    kept := by
      intro other listed
      rcases List.mem_append.mp (shorter.subset listed) with before | here
      · exact middle.kept other before
      · exact List.mem_singleton.mp here ▸ last.1
    distinct := by
      apply List.Nodup.sublist shorter
      simpa using List.Nodup.concat waits middle.distinct
    uses := by
      intro other shape
      rcases middle.uses other shape with known | before
      · exact .inl known
      · exact .inr (before.cons (fun clash => by cases clash))
    unrepeated := by
      apply middle.unrepeated.cons
      intro other same
      cases same
      exact apart }

end Unqueued

structure Keeps (session : FeedSession) : Prop where
  bounded : Bounded session
  unqueued : Timely session.log → Unqueued session

theorem Keeps.empty : Keeps .empty := ⟨.empty, fun _ => .empty⟩

structure Extends (before after : FeedSession) : Prop where
  keeps : Keeps after
  grows : before.log <:+ after.log

namespace Extends

variable {first second third : FeedSession}

theorem refl (keeps : Keeps first) : Extends first first :=
  ⟨keeps, List.suffix_rfl⟩

theorem trans (one : Extends first second) (two : Extends second third) :
    Extends first third :=
  ⟨two.keeps, one.grows.trans two.grows⟩

end Extends

section

variable {session : FeedSession}

theorem remember_grows (session : FeedSession) (code : String) :
    session.log <:+ (session.remember code).log := by
  unfold FeedSession.remember
  split
  · exact List.suffix_rfl
  · unfold FeedSession.trimKnown
    split
    · split
      · exact (List.suffix_cons _ _).trans (List.suffix_cons _ _)
      · exact List.suffix_cons _ _
    · exact List.suffix_cons _ _

theorem Keeps.remember (keeps : Keeps session) (code : String) :
    Extends session (session.remember code) where
  keeps := {
    bounded := keeps.bounded.remember code
    unqueued := fun timely =>
      (keeps.unqueued (timely.of_suffix (remember_grows session code))).remember
        keeps.bounded code timely }
  grows := remember_grows session code

theorem Keeps.offer (keeps : Keeps session) (observation : Nat)
    (value : Option Json) :
    Extends session (session.offer observation value) := by
  unfold FeedSession.offer
  split
  · rename_i code
    split
    · exact .refl keeps
    · rename_i offered
      simp only [Bool.or_eq_true, Bool.not_eq_true', decide_eq_true_eq,
        not_or, Bool.not_eq_false] at offered
      obtain ⟨valid, unknown⟩ := offered
      have fresh : code ∉ session.source.knownOrder := fun member =>
        unknown (keeps.bounded.mem_known.mpr member)
      exact {
        keeps := {
          bounded := (keeps.bounded.remember code).append observation valid
          unqueued := by
            intro timely
            have remembered := timely.of_suffix (List.suffix_cons _ _)
            exact (keeps.unqueued (remembered.of_suffix
              (remember_grows session code))).queue keeps.bounded observation
                valid fresh remembered }
        grows := (remember_grows session code).trans (List.suffix_cons _ _) }
  · exact .refl keeps

theorem Keeps.collectFrom (keeps : Keeps session) (observation visits : Nat)
    (stack : List Json) :
    Extends session (collectFrom observation visits stack session) := by
  induction visits generalizing stack session with
  | zero => exact .refl keeps
  | succ visits ih =>
      cases stack with
      | nil => exact .refl keeps
      | cons value stack =>
          cases value with
          | object members =>
              have first := keeps.offer observation (members.lookup "code")
              have second := first.keeps.offer observation
                (members.lookup "shortcode")
              have third := second.keeps.offer observation
                (members.lookup "media_code")
              exact ((first.trans second).trans third).trans
                (ih third.keeps _)
          | array values => exact ih keeps _
          | string text => exact ih keeps _
          | scalar => exact ih keeps _

theorem Keeps.renumber (keeps : Keeps session) (observation : Nat) :
    Keeps { session with source := { session.source with observation } } where
  bounded := {
    short := keeps.bounded.short
    known := keeps.bounded.known
    bounded := keeps.bounded.bounded
    distinct := keeps.bounded.distinct
    valid := keeps.bounded.valid
    recent := keeps.bounded.recent }
  unqueued := by
    intro timely
    have unqueued := keeps.unqueued timely
    exact {
      kept := unqueued.kept
      distinct := unqueued.distinct
      uses := unqueued.uses
      unrepeated := unqueued.unrepeated }

theorem Keeps.leave (keeps : Keeps session) {codes : List (Nat × String)}
    (fewer : List.Sublist codes session.source.codes) {code : String}
    (known : Timely session.log → isShortcode code = true →
      code ∈ session.source.knownOrder) :
    Extends session {
      source := { session.source with codes }
      log := .used code :: session.log } where
  keeps := {
    bounded := {
      short := fewer.length_le.trans keeps.bounded.short
      known := keeps.bounded.known
      bounded := keeps.bounded.bounded
      distinct := keeps.bounded.distinct
      valid := fun other listed =>
        keeps.bounded.valid other ((fewer.map Prod.snd).subset listed)
      recent := keeps.bounded.recent }
    unqueued := by
      intro timely
      have before := timely.of_suffix (List.suffix_cons _ _)
      have unqueued := keeps.unqueued before
      exact {
        kept := fun other listed =>
          unqueued.kept other ((fewer.map Prod.snd).subset listed)
        distinct := unqueued.distinct.sublist (fewer.map Prod.snd)
        uses := by
          intro other valid
          by_cases same : other = code
          · subst same
            exact .inl (known before valid)
          · rcases unqueued.uses other valid with listed | apart
            · exact .inl listed
            · right
              apply apart.cons
              intro clash
              cases clash
              exact same rfl
        unrepeated := unqueued.unrepeated.cons fun _ clash => by
          cases clash } }
  grows := List.suffix_cons _ _

theorem Keeps.offerAll (keeps : Keeps session) (values : List Json) :
    Extends session (values.foldl
      (fun session value => session.offer 0 (some value)) session) := by
  induction values generalizing session with
  | nil => exact .refl keeps
  | cons value rest ih =>
      have first := keeps.offer 0 (some value)
      exact first.trans (ih first.keeps)

theorem Keeps.observe (keeps : Keeps session) (response : JsonResponse) :
    Extends session (session.observe response) := by
  unfold FeedSession.observe
  split
  · exact .refl keeps
  · split
    · exact .refl keeps
    · split
      · exact .refl keeps
      · rename_i payload _
        have collected := (keeps.renumber
          (session.source.observation + 1)).collectFrom
            (session.source.observation + 1) MAX_VISITED [payload]
        exact ⟨collected.keeps, collected.grows⟩

theorem Keeps.observeEmbeddedCandidates (keeps : Keeps session)
    (payload : Json) :
    Extends session (session.observeEmbeddedCandidates payload) := by
  unfold FeedSession.observeEmbeddedCandidates
  split
  · exact keeps.offerAll _
  · exact .refl keeps

theorem mem_remember (keeps : Keeps session) (code : String) :
    code ∈ (session.remember code).source.knownOrder := by
  by_cases member : code ∈ session.source.knownOrder
  · rwa [FeedSession.remember, if_pos (keeps.bounded.mem_known.mpr member)]
  · rcases keeps.bounded.remember_cases member with
      ⟨shape, _⟩ | ⟨oldest, newer, _, _, shape⟩
    · rw [shape]
      exact List.mem_append_right _ (List.mem_singleton_self code)
    · rw [shape]
      exact List.mem_append_right _ (List.mem_singleton_self code)

theorem Keeps.markUsed (keeps : Keeps session) (shortcode : String) :
    Extends session (session.markUsed shortcode) := by
  unfold FeedSession.markUsed
  split
  · rename_i invalid
    apply keeps.leave (List.Sublist.refl session.source.codes)
    intro _ valid
    rw [valid] at invalid
    cases invalid
  · have remembered := keeps.remember shortcode
    apply remembered.trans
    apply remembered.keeps.leave List.filter_sublist
    intro _ _
    exact mem_remember keeps shortcode

theorem Keeps.reserve (keeps : Keeps session)
    (passes : Nat × String → Bool) :
    Extends session (session.reserve passes).1 := by
  unfold FeedSession.reserve
  split
  · exact .refl keeps
  · rename_i observation code found
    apply keeps.leave List.eraseP_sublist
    intro timely _
    apply (keeps.unqueued timely).kept
    exact List.mem_map.mpr ⟨_, List.mem_of_find?_eq_some found, rfl⟩

theorem Keeps.resetForFeedNavigation (keeps : Keeps session) :
    Extends session session.resetForFeedNavigation where
  keeps := {
    bounded := {
      short := Nat.zero_le _
      known := keeps.bounded.known
      bounded := keeps.bounded.bounded
      distinct := keeps.bounded.distinct
      valid := fun _ member => absurd member List.not_mem_nil
      recent := keeps.bounded.recent }
    unqueued := by
      intro timely
      have unqueued := keeps.unqueued timely
      exact {
        kept := fun _ member => absurd member List.not_mem_nil
        distinct := List.nodup_nil
        uses := unqueued.uses
        unrepeated := unqueued.unrepeated } }
  grows := List.suffix_rfl

theorem Keeps.perform (keeps : Keeps session) (operation : FeedOperation) :
    Extends session (session.perform operation) := by
  cases operation with
  | observe response => exact keeps.observe response
  | observeEmbeddedCandidates payload =>
      exact keeps.observeEmbeddedCandidates payload
  | markUsed shortcode => exact keeps.markUsed shortcode
  | nextAfter previous after => exact keeps.reserve _
  | nextFromCurrentFeed previous => exact keeps.reserve _
  | nextEmbeddedFromCurrentFeed previous => exact keeps.reserve _
  | resetForFeedNavigation => exact keeps.resetForFeedNavigation

theorem Keeps.performAll (keeps : Keeps session)
    (operations : List FeedOperation) :
    Extends session (operations.foldl FeedSession.perform session) := by
  induction operations generalizing session with
  | nil => exact .refl keeps
  | cons operation rest ih =>
      have first := keeps.perform operation
      exact first.trans (ih first.keeps)

end

structure FeedLaws (session : FeedSession) : Prop where
  short : session.source.codes.length ≤ MAX_CODES
  known : session.source.knownCodes = session.source.knownOrder.toFinset
  bounded : session.source.knownOrder.length ≤ MAX_KNOWN_CODES
  knownOnce : session.source.knownOrder.Nodup
  pendingOnce : session.source.pending.Nodup
  valid : ∀ code ∈ session.source.pending, isShortcode code = true
  unrepeated : Unrepeated session.log

/-- As long as no code is forgotten that still waits, or that was used after a
later code was remembered. -/
theorem FeedSession.candidates_unrepeated (operations : List FeedOperation)
    (timely : Timely (FeedSession.run operations).log)
    (first : List FeedOperation) (reached : first <+: operations) :
    FeedLaws (FeedSession.run first) := by
  obtain ⟨rest, rfl⟩ := reached
  have keeps := (Keeps.empty.performAll first).keeps
  have onward := (keeps.performAll rest).grows
  have whole : FeedSession.run (first ++ rest) =
      rest.foldl FeedSession.perform (FeedSession.run first) :=
    List.foldl_append
  rw [whole] at timely
  have unqueued := keeps.unqueued (timely.of_suffix onward)
  exact {
    short := keeps.bounded.short
    known := keeps.bounded.known
    bounded := keeps.bounded.bounded
    knownOnce := keeps.bounded.distinct
    pendingOnce := unqueued.distinct
    valid := keeps.bounded.valid
    unrepeated := unqueued.unrepeated }

def sampleCodes (first count : Nat) : List String :=
  (List.range count).map fun index =>
    String.ofList [Char.ofNat (65 + first), Char.ofNat (65 + index / 8),
      Char.ofNat (65 + index % 8)]

def embedded (codes : List String) : FeedOperation :=
  .observeEmbeddedCandidates (.array (codes.map .string))

def isTimely : List FeedEvent → Bool
  | [] => true
  | .forgotten code pending :: earlier =>
      code ∉ pending &&
        (.used code ∉ earlier || MAX_KNOWN_CODES ≤ (rememberedCodes
          (earlier.takeWhile (· ≠ .used code))).length) &&
        isTimely earlier
  | _ :: earlier => isTimely earlier

theorem rememberedCodes_length_le {code : String}
    {earlier between before : List FeedEvent}
    (shape : earlier = between ++ .used code :: before) :
    (rememberedCodes (earlier.takeWhile (· ≠ .used code))).length ≤
      (rememberedCodes between).length := by
  have stops : (FeedEvent.used code :: before).takeWhile (· ≠ .used code) =
      [] := by
    simp
  have cut : earlier.takeWhile (· ≠ .used code) <+: between := by
    rw [shape, List.takeWhile_append]
    split
    · rw [stops, List.append_nil]
    · exact List.takeWhile_prefix _
  obtain ⟨rest, same⟩ := cut
  rw [← same, rememberedCodes_append, List.length_append]
  exact Nat.le_add_right _ _

theorem timely_of_isTimely {log : List FeedEvent}
    (checked : isTimely log = true) : Timely log := by
  induction log with
  | nil =>
      intro later code pending earlier shape
      cases later <;> cases shape
  | cons event rest ih =>
      intro later code pending earlier shape
      rcases List.cons_eq_append_iff.mp shape with
        ⟨_, same⟩ | ⟨others, _, before⟩
      · obtain ⟨rfl, rfl⟩ := List.cons.inj same
        simp only [isTimely, Bool.and_eq_true, decide_eq_true_eq,
          Bool.or_eq_true] at checked
        obtain ⟨⟨gone, unused | full⟩, _⟩ := checked
        · refine ⟨gone, fun between before shape => absurd ?_ unused⟩
          rw [shape]
          exact List.mem_append_right _ List.mem_cons_self
        · exact ⟨gone, fun between before shape =>
            full.trans (rememberedCodes_length_le shape)⟩
      · refine ih ?_ others code pending earlier before
        cases event with
        | forgotten code pending => exact (Bool.and_eq_true_iff.mp checked).2
        | _ => exact checked

def sampleOperations : List FeedOperation :=
  [.observe ⟨"application/json", "https://www.instagram.com/graphql/query/",
      some (.object [("items", .array [.object [("code", .string "FIRST")]])])⟩,
    .nextAfter "OTHER" 0, .markUsed "FIRST", embedded (sampleCodes 0 32),
    embedded (sampleCodes 1 31), embedded ["NEXT"], embedded ["FIRST"]]

theorem sample_unrepeated :
    FeedEvent.forgotten "FIRST" ("ADH" :: sampleCodes 1 31) ∈
        (FeedSession.run sampleOperations).log ∧
      (FeedSession.run sampleOperations).log.head? = some (.queued "FIRST") ∧
      Timely (FeedSession.run sampleOperations).log ∧
      FeedLaws (FeedSession.run sampleOperations) := by
  have timely : Timely (FeedSession.run sampleOperations).log :=
    timely_of_isTimely (by decide +kernel)
  exact ⟨by decide +kernel, by decide +kernel, timely,
    FeedSession.candidates_unrepeated sampleOperations timely _
      List.prefix_rfl⟩

def markedAgain : List FeedOperation :=
  [.markUsed "FIRST", embedded (sampleCodes 0 32), embedded (sampleCodes 1 31),
    .markUsed "FIRST"]

def seenAgain : List FeedOperation :=
  markedAgain ++ [embedded ["NEXT"], embedded ["FIRST"]]

theorem marked_again_queued : ¬ ∀ operations,
    FeedLaws (FeedSession.run operations) := by
  intro always
  have marked : (FeedSession.run markedAgain).log =
      .used "FIRST" :: (FeedSession.run markedAgain).log.tail := by
    decide +kernel
  have queued : ∃ between, (FeedSession.run seenAgain).log =
      .queued "FIRST" :: (between ++ (FeedSession.run markedAgain).log) ∧
      ((rememberedCodes between).toFinset.erase "FIRST").card = 1 := by
    refine ⟨((FeedSession.run seenAgain).log.take 6).tail, ?_, ?_⟩
    · decide +kernel
    · decide +kernel
  obtain ⟨between, shape, once⟩ := queued
  rw [marked] at shape
  have spaced := (always seenAgain).unrepeated [] "FIRST" _ shape between _ rfl
  rw [Spaced, once] at spaced
  exact absurd spaced (by decide)

end OfflineReels.Collector.FeedJson
