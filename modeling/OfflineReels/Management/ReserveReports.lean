import OfflineReels.Foundation.Latest
import OfflineReels.Foundation.Transition
import OfflineReels.Management.Idempotency

namespace OfflineReels.Management.ReserveReports

open OfflineReels.Foundation
open OfflineReels.Instagram

/-! The row of one reserve device under interleaved requests. -/

structure Device where
  accountId : UUID
  deviceUuid : UUID
  deriving DecidableEq, Repr

def Device.owns (device : Device) (item : ManagementReserveDevice) : Bool :=
  item.accountId = device.accountId && item.deviceUuid = device.deviceUuid

theorem Device.owns_iff {device : Device} {item : ManagementReserveDevice} :
    device.owns item = true ↔ device = ⟨item.accountId, item.deviceUuid⟩ := by
  obtain ⟨accountId, deviceUuid⟩ := device
  simp only [Device.owns, Bool.and_eq_true, decide_eq_true_eq, Device.mk.injEq]
  exact and_congr eq_comm eq_comm

def rowOf (reserves : Table ManagementReserveDevice UUID
    ManagementReserveDevice.id) (device : Device) :
    Option ManagementReserveDevice :=
  reserves.rows.find? device.owns

structure State where
  plane : ControlPlane
  /-- The reports of the device that were accepted, in order of arrival. -/
  accepted : List ReserveReportRequest

def initial (plane : ControlPlane) : State := ⟨plane, []⟩

/-- A transaction of the other services. -/
structure OtherTransaction where
  perform : ControlPlane → ControlPlane
  reserves : ∀ plane, (perform plane).work.reserves = plane.work.reserves

inductive Label
  | mutate (request : MutationRequest) (now : Time) (draw : CommandDraw)
      (recordId : UUID)
  | other (transaction : OtherTransaction)

def deviceOf (request : MutationRequest) : Option Device :=
  match request.command with
  | .updateReserveSettings payload =>
      some ⟨request.session.accountId, payload.deviceUuid⟩
  | .reportReserve payload =>
      some ⟨request.session.accountId, payload.deviceUuid⟩
  | _ => none

def reportOf (request : MutationRequest) : Option ReserveReportRequest :=
  match request.command with
  | .reportReserve payload => some payload
  | _ => none

def reportsFor (device : Device) (request : MutationRequest) :
    List ReserveReportRequest :=
  if deviceOf request = some device then (reportOf request).toList else []

/-- A request that is refused or replayed leaves the devices alone. -/
def next (device : Device) (state : State) : Label → Option State
  | .mutate request now draw recordId =>
      match idempotencyKey request.key with
      | .error _ => none
      | .ok key =>
          match idempotent state.plane request key now draw recordId with
          | .ok (plane, _, _, false) =>
              some ⟨plane, state.accepted ++ reportsFor device request⟩
          | _ => none
  | .other transaction =>
      some { state with plane := transaction.perform state.plane }

abbrev IsLatest : List ReserveReportRequest → ReserveReportRequest → Prop :=
  Latest (·.reportedAt)

structure Holds (device : Device) (before : State) (label : Label)
    (after : State) : Prop where
  /-- The count is that of the accepted report with the greatest time. -/
  latest : ∀ report, IsLatest after.accepted report →
    (rowOf after.plane.work.reserves device).map (·.localCompletedCount) =
      some report.localCompletedCount
  /-- Settings leave the reported count unchanged. -/
  settings : ∀ request now draw recordId,
    label = .mutate request now draw recordId →
    deviceOf request = some device → reportOf request = none →
    ∀ row, rowOf before.plane.work.reserves device = some row →
      (rowOf after.plane.work.reserves device).map (·.localCompletedCount) =
        some row.localCompletedCount
  /-- A report that is newer than every earlier one is stored. -/
  stored : ∀ request now draw recordId,
    label = .mutate request now draw recordId →
    deviceOf request = some device → ∀ report, reportOf request = some report →
    Newer (·.reportedAt) before.accepted report →
      (rowOf after.plane.work.reserves device).map
        (fun row => (row.reportedAt, row.localCompletedCount)) =
        some (report.reportedAt, report.localCompletedCount)

/-- Settings are stamped below the row or find no count to erase, and the row is
not stamped above a report that is newer than all accepted ones. -/
def Harmless (before : State) (request : MutationRequest) (draw : CommandDraw)
    (row : ManagementReserveDevice) : Prop :=
  (reportOf request = none →
      draw.now < row.reportedAt ∨ row.localCompletedCount = 0) ∧
    ∀ report ∈ reportOf request, Newer (·.reportedAt) before.accepted report →
      row.reportedAt ≤ report.reportedAt

instance (before : State) (request : MutationRequest) (draw : CommandDraw)
    (row : ManagementReserveDevice) :
    Decidable (Harmless before request draw row) :=
  inferInstanceAs (Decidable (_ ∧ _))

def Unharmed (device : Device) (before : State) : Label → Prop
  | .mutate request _ draw _ =>
      deviceOf request = some device →
      ∀ row ∈ rowOf before.plane.work.reserves device,
        Harmless before request draw row
  | .other _ => True

instance (device : Device) (before : State) :
    ∀ label, Decidable (Unharmed device before label)
  | .mutate request _ draw _ =>
      inferInstanceAs (Decidable (_ → ∀ row ∈ rowOf _ _,
        Harmless before request draw row))
  | .other _ => .isTrue trivial

def writtenReport (request : MutationRequest) (draw : CommandDraw) :
    Option ReserveReportRequest :=
  match request.command with
  | .updateReserveSettings payload => some (settingsReport payload draw.now)
  | .reportReserve payload => some payload
  | _ => none

/-- An older report is ignored. -/
def upserted (row : Option ManagementReserveDevice) (newId accountId : UUID)
    (payload : ReserveReportRequest) : ManagementReserveDevice :=
  match row with
  | none => reportedDevice newId accountId payload
  | some item =>
      if item.reportedAt ≤ payload.reportedAt then
        reportedDevice item.id accountId payload
      else item

section

variable {accountId : UUID} {payload : ReserveReportRequest}
  {reserves : Table ManagementReserveDevice UUID ManagementReserveDevice.id}

theorem owns_reportedDevice (device : Device) (rowId : UUID) :
    device.owns (reportedDevice rowId accountId payload) = true ↔
      device = ⟨accountId, payload.deviceUuid⟩ :=
  Device.owns_iff

theorem rowOf_insert? {newId : UUID} {after : Table ManagementReserveDevice UUID
      ManagementReserveDevice.id}
    (absent : rowOf reserves ⟨accountId, payload.deviceUuid⟩ = none)
    (inserted : reserves.insert? (reportedDevice newId accountId payload) =
      some after) (device : Device) :
    rowOf after device =
      if device = ⟨accountId, payload.deviceUuid⟩ then
        some (reportedDevice newId accountId payload)
      else rowOf reserves device := by
  have rows := (Table.insert?_eq_some inserted).2
  unfold rowOf at absent ⊢
  rw [rows, List.find?_append, List.find?_singleton]
  by_cases here : device = ⟨accountId, payload.deviceUuid⟩
  · rw [if_pos here, if_pos ((owns_reportedDevice device newId).mpr here), here,
      absent]
    rfl
  · rw [if_neg here,
      if_neg fun owns => here ((owns_reportedDevice device newId).mp owns)]
    exact Option.or_none

theorem rowOf_put {item : ManagementReserveDevice}
    (found : rowOf reserves ⟨accountId, payload.deviceUuid⟩ = some item)
    (device : Device) :
    rowOf (reserves.put (reportedDevice item.id accountId payload)) device =
      if device = ⟨accountId, payload.deviceUuid⟩ then
        some (reportedDevice item.id accountId payload)
      else rowOf reserves device := by
  have member : item ∈ reserves := List.mem_of_find?_eq_some found
  have owned : device.owns item = true ↔
      device = ⟨accountId, payload.deviceUuid⟩ := by
    have owns := Device.owns_iff.mp (List.find?_some found)
    rw [owns]
    exact Device.owns_iff
  have alike : ∀ row ∈ reserves,
      row.id = (reportedDevice item.id accountId payload).id →
      device.owns (reportedDevice item.id accountId payload) =
        device.owns row := by
    intro row present same
    rw [Table.eq_of_key_eq present member same, Bool.eq_iff_iff, owned]
    exact owns_reportedDevice device item.id
  have rewritten := Table.firstWhere_put alike
  unfold rowOf at found ⊢
  rw [rewritten]
  by_cases here : device = ⟨accountId, payload.deviceUuid⟩
  · rw [if_pos here, here, found]
    exact congrArg some (if_pos rfl)
  · rw [if_neg here]
    cases other : reserves.rows.find? device.owns with
    | none => rfl
    | some row =>
        have different : row.id ≠ item.id := by
          intro same
          have equal := Table.eq_of_key_eq
            (List.mem_of_find?_eq_some other) member same
          have mine := List.find?_some other
          rw [equal, owned] at mine
          exact here mine
        exact congrArg some (if_neg different)

end

theorem upsertReserveDevice_rowOf {newId accountId : UUID}
    {payload : ReserveReportRequest} {work after : Workspace}
    {response : Nat × ResponseBody}
    (succeeded : upsertReserveDevice newId accountId payload work =
      .ok (after, response)) (device : Device) :
    rowOf after.reserves device =
      if device = ⟨accountId, payload.deviceUuid⟩ then
        some (upserted (rowOf work.reserves device) newId accountId payload)
      else rowOf work.reserves device := by
  have lookup : (work.reserves.rows.find? fun item =>
      item.accountId = accountId && item.deviceUuid = payload.deviceUuid) =
        rowOf work.reserves ⟨accountId, payload.deviceUuid⟩ := rfl
  unfold upsertReserveDevice at succeeded
  split at succeeded
  · cases succeeded
  · rw [lookup] at succeeded
    cases found : rowOf work.reserves ⟨accountId, payload.deviceUuid⟩ with
    | none =>
        rw [found] at succeeded
        dsimp only at succeeded
        split at succeeded
        · cases succeeded
        · rename_i reserves inserted
          cases succeeded
          rw [rowOf_insert? found inserted device]
          by_cases here : device = ⟨accountId, payload.deviceUuid⟩
          · rw [if_pos here, if_pos here, here, found]
            rfl
          · rw [if_neg here, if_neg here]
    | some item =>
        rw [found] at succeeded
        dsimp only at succeeded
        by_cases fresh : item.reportedAt ≤ payload.reportedAt
        · rw [if_pos fresh] at succeeded
          cases succeeded
          rw [rowOf_put found device]
          by_cases here : device = ⟨accountId, payload.deviceUuid⟩
          · rw [if_pos here, if_pos here, here, found]
            exact congrArg some (if_pos fresh).symm
          · rw [if_neg here, if_neg here]
        · rw [if_neg fresh] at succeeded
          cases succeeded
          by_cases here : device = ⟨accountId, payload.deviceUuid⟩
          · rw [if_pos here, here, found]
            exact congrArg some (if_neg fresh).symm
          · rw [if_neg here]

/-- The row of a device after a command is the one before, or what the report
of the command makes of it. -/
theorem action_rowOf {request : MutationRequest} {draw : CommandDraw}
    {plane after : ControlPlane} {response : Nat × ResponseBody}
    (succeeded : request.command.action draw request.session plane =
      .ok (after, response)) (device : Device) :
    (deviceOf request ≠ some device ∧
        rowOf after.work.reserves device = rowOf plane.work.reserves device) ∨
      (deviceOf request = some device ∧
        ∃ report, writtenReport request draw = some report ∧
          rowOf after.work.reserves device =
            some (upserted (rowOf plane.work.reserves device) draw.id
              request.session.accountId report)) := by
  obtain ⟨session, key, command⟩ := request
  have untouched : after.work.reserves = plane.work.reserves →
      rowOf after.work.reserves device = rowOf plane.work.reserves device :=
    fun same => by rw [same]
  have upserts : ∀ report : ReserveReportRequest,
      inWorkspace (upsertReserveDevice draw.id session.accountId report)
        plane = .ok (after, response) →
      rowOf after.work.reserves device =
        if device = ⟨session.accountId, report.deviceUuid⟩ then
          some (upserted (rowOf plane.work.reserves device) draw.id
            session.accountId report)
        else rowOf plane.work.reserves device := by
    intro report performed
    obtain ⟨⟨work, status, body⟩, acted, shape⟩ := map_eq_ok performed
    cases shape
    exact upsertReserveDevice_rowOf acted device
  cases command with
  | revokeCurrentSession =>
      refine .inl ⟨(fun clash => by cases clash), untouched ?_⟩
      simp only [Command.action, revokeLocked] at succeeded
      split at succeeded
      · split at succeeded
        · cases succeeded
          rfl
        · cases succeeded
          rfl
      · cases succeeded
        rfl
  | createLoginSession =>
      refine .inl ⟨(fun clash => by cases clash), untouched ?_⟩
      obtain ⟨⟨work, status, body⟩, acted, shape⟩ := map_eq_ok succeeded
      cases shape
      unfold createLoginSession at acted
      split at acted
      · rename_i created
        cases acted
        exact LoginSessions.createInTransaction_reserves created
      · cases acted
      · split at acted
        · cases acted
        · cases acted
  | cancelLoginSession loginSessionId =>
      refine .inl ⟨(fun clash => by cases clash), untouched ?_⟩
      obtain ⟨⟨work, status, body⟩, acted, shape⟩ := map_eq_ok succeeded
      cases shape
      unfold cancelLoginSession at acted
      split at acted
      · cases acted
      · split at acted
        · cases acted
        · split at acted
          · cases acted
          · cases acted
          · rename_i cancelled
            cases acted
            exact LoginSessions.cancelInTransaction_reserves cancelled
  | createCollectionRun payload =>
      refine .inl ⟨(fun clash => by cases clash), untouched ?_⟩
      obtain ⟨_, acted, shape⟩ := map_eq_ok succeeded
      obtain ⟨_, _, inner⟩ := map_eq_ok acted
      cases inner
      cases shape
      rfl
  | cancelCollectionRun runId =>
      refine .inl ⟨(fun clash => by cases clash), untouched ?_⟩
      obtain ⟨_, acted, shape⟩ := map_eq_ok succeeded
      obtain ⟨_, _, inner⟩ := map_eq_ok acted
      cases inner
      cases shape
      rfl
  | syncViewedReels payload =>
      refine .inl ⟨(fun clash => by cases clash), untouched ?_⟩
      obtain ⟨_, acted, shape⟩ := map_eq_ok succeeded
      obtain ⟨_, _, inner⟩ := map_eq_ok acted
      cases inner
      cases shape
      rfl
  | updateCollectionSettings payload =>
      refine .inl ⟨(fun clash => by cases clash), untouched ?_⟩
      obtain ⟨⟨work, status, body⟩, acted, shape⟩ := map_eq_ok succeeded
      cases shape
      simp only [updateCollectionSettings] at acted
      split at acted
      · cases acted
        rfl
      · split at acted
        · cases acted
        · split at acted
          · cases acted
          · cases acted
            rfl
  | updateReserveSettings payload =>
      have rows := upserts (settingsReport payload draw.now) succeeded
      by_cases here : device = ⟨session.accountId, payload.deviceUuid⟩
      · exact .inr ⟨congrArg some here.symm, _, rfl, rows.trans (if_pos here)⟩
      · exact .inl ⟨fun same => here (Option.some.inj same).symm,
          rows.trans (if_neg here)⟩
  | reportReserve payload =>
      have rows := upserts payload succeeded
      by_cases here : device = ⟨session.accountId, payload.deviceUuid⟩
      · exact .inr ⟨congrArg some here.symm, _, rfl, rows.trans (if_pos here)⟩
      · exact .inl ⟨fun same => here (Option.some.inj same).symm,
          rows.trans (if_neg here)⟩

theorem next_mutate {device : Device} {state after : State}
    {request : MutationRequest} {now : Time} {draw : CommandDraw}
    {recordId : UUID}
    (stepped : next device state (.mutate request now draw recordId) =
      some after) :
    after.accepted = state.accepted ++ reportsFor device request ∧
      ((deviceOf request ≠ some device ∧
          rowOf after.plane.work.reserves device =
            rowOf state.plane.work.reserves device) ∨
        (deviceOf request = some device ∧
          ∃ report, writtenReport request draw = some report ∧
            rowOf after.plane.work.reserves device =
              some (upserted (rowOf state.plane.work.reserves device) draw.id
                request.session.accountId report))) := by
  unfold next at stepped
  dsimp only at stepped
  split at stepped
  · cases stepped
  · split at stepped
    · rename_i plane status body performed
      rcases idempotent_eq_ok performed with ⟨replayed, _⟩ |
        ⟨_, _, acted, records, ran, _, _, _, rfl⟩
      · cases replayed
      · cases stepped
        exact ⟨rfl, action_rowOf ran device⟩
    · cases stepped

/-- The row is stamped no earlier than any accepted report, and has the count of
the latest one. -/
structure Tracks (device : Device) (state : State) : Prop where
  absent : rowOf state.plane.work.reserves device = none → state.accepted = []
  bounded : ∀ row, rowOf state.plane.work.reserves device = some row →
    ∀ report ∈ state.accepted, report.reportedAt ≤ row.reportedAt
  counted : ∀ report, IsLatest state.accepted report →
    ∀ row, rowOf state.plane.work.reserves device = some row →
      row.localCompletedCount = report.localCompletedCount

section

variable {device : Device} {state after : State}

theorem Tracks.latest (tracks : Tracks device state)
    (report : ReserveReportRequest)
    (latest : IsLatest state.accepted report) :
    (rowOf state.plane.work.reserves device).map (·.localCompletedCount) =
      some report.localCompletedCount := by
  cases found : rowOf state.plane.work.reserves device with
  | none =>
      have member := latest.1
      rw [tracks.absent found] at member
      cases member
  | some row => exact congrArg some (tracks.counted report latest row found)

/-- A step that leaves the row and the reports alone. -/
theorem Tracks.keep (tracks : Tracks device state)
    (rows : rowOf after.plane.work.reserves device =
      rowOf state.plane.work.reserves device)
    (accepted : after.accepted = state.accepted) : Tracks device after where
  absent := by
    rw [rows, accepted]
    exact tracks.absent
  bounded := by
    rw [rows, accepted]
    exact tracks.bounded
  counted := by
    rw [rows, accepted]
    exact tracks.counted

structure Stores (device : Device) (report : ReserveReportRequest)
    (after : State) : Prop where
  row : ∃ row, rowOf after.plane.work.reserves device = some row ∧
    row.reportedAt = report.reportedAt ∧
    row.localCompletedCount = report.localCompletedCount

theorem Stores.map {report : ReserveReportRequest}
    (stores : Stores device report after) :
    (rowOf after.plane.work.reserves device).map
      (fun row => (row.reportedAt, row.localCompletedCount)) =
        some (report.reportedAt, report.localCompletedCount) := by
  obtain ⟨row, found, stamped, counted⟩ := stores.row
  rw [found]
  exact congrArg some (Prod.ext stamped counted)

theorem Tracks.settings (tracks : Tracks device state)
    {report : ReserveReportRequest} (stores : Stores device report after)
    (accepted : after.accepted = state.accepted)
    (zero : report.localCompletedCount = 0)
    (reset : ∀ row, rowOf state.plane.work.reserves device = some row →
      row.reportedAt ≤ report.reportedAt ∧ row.localCompletedCount = 0) :
    Tracks device after := by
  obtain ⟨written, here, stamped, counted⟩ := stores.row
  refine ⟨?_, ?_, ?_⟩
  · intro absent
    rw [here] at absent
    cases absent
  · intro row found earlier member
    rw [here] at found
    cases found
    rw [accepted] at member
    rw [stamped]
    cases before : rowOf state.plane.work.reserves device with
    | none =>
        rw [tracks.absent before] at member
        cases member
    | some row =>
        exact (tracks.bounded row before earlier member).trans
          (reset row before).1
  · intro newest latest row found
    rw [here] at found
    cases found
    rw [accepted] at latest
    have kept := tracks.latest newest latest
    cases before : rowOf state.plane.work.reserves device with
    | none =>
        rw [before] at kept
        cases kept
    | some row =>
        rw [before] at kept
        have same : row.localCompletedCount = newest.localCompletedCount :=
          Option.some.inj kept
        rw [counted, zero, ← same, (reset row before).2]

theorem Tracks.report (tracks : Tracks device state)
    {report : ReserveReportRequest} (stores : Stores device report after)
    (accepted : after.accepted = state.accepted ++ [report])
    (fresh : ∀ row, rowOf state.plane.work.reserves device = some row →
      row.reportedAt ≤ report.reportedAt) : Tracks device after := by
  obtain ⟨written, here, stamped, counted⟩ := stores.row
  have below : ∀ earlier ∈ state.accepted,
      earlier.reportedAt ≤ report.reportedAt := by
    intro earlier member
    cases before : rowOf state.plane.work.reserves device with
    | none =>
        rw [tracks.absent before] at member
        cases member
    | some row =>
        exact (tracks.bounded row before earlier member).trans
          (fresh row before)
  refine ⟨?_, ?_, ?_⟩
  · intro absent
    rw [here] at absent
    cases absent
  · intro row found earlier member
    rw [here] at found
    cases found
    rw [stamped]
    rw [accepted] at member
    rcases List.mem_append.mp member with present | final
    · exact below earlier present
    · rw [List.mem_singleton.mp final]
  · intro newest latest row found
    rw [here] at found
    cases found
    rw [accepted] at latest
    rw [counted]
    rcases latest.2 report (by simp) with rfl | above
    · rfl
    · rcases latest.of_concat with ⟨rfl, _⟩ | before
      · rfl
      · exact absurd above (below newest before.1).not_gt

theorem Tracks.ignored (tracks : Tracks device state)
    {report : ReserveReportRequest} {row : ManagementReserveDevice}
    (found : rowOf state.plane.work.reserves device = some row)
    (kept : rowOf after.plane.work.reserves device = some row)
    (accepted : after.accepted = state.accepted ++ [report])
    (stale : report.reportedAt < row.reportedAt)
    (older : ¬ Newer (·.reportedAt) state.accepted report) :
    Tracks device after := by
  refine ⟨?_, ?_, ?_⟩
  · intro absent
    rw [kept] at absent
    cases absent
  · intro other here earlier member
    rw [kept] at here
    cases here
    rw [accepted] at member
    rcases List.mem_append.mp member with present | final
    · exact tracks.bounded row found earlier present
    · rw [List.mem_singleton.mp final]
      exact stale.le
  · intro newest latest other here
    rw [kept] at here
    cases here
    rw [accepted] at latest
    rcases latest.of_concat with ⟨_, newer⟩ | before
    · exact absurd newer older
    · exact tracks.counted newest before row found

theorem stores_upserted {row : Option ManagementReserveDevice}
    {newId accountId : UUID} {report : ReserveReportRequest}
    (written : rowOf after.plane.work.reserves device =
      some (upserted row newId accountId report))
    (fresh : ∀ item, row = some item → item.reportedAt ≤ report.reportedAt) :
    Stores device report after := by
  refine ⟨_, written, ?_⟩
  cases row with
  | none => exact ⟨rfl, rfl⟩
  | some item =>
      simp only [upserted, if_pos (fresh item rfl)]
      exact ⟨rfl, rfl⟩

theorem upserted_of_stale {item : ManagementReserveDevice}
    {newId accountId : UUID} {report : ReserveReportRequest}
    (stale : report.reportedAt < item.reportedAt) :
    upserted (some item) newId accountId report = item :=
  if_neg stale.not_ge

theorem holds_elsewhere {label : Label} (tracks : Tracks device state)
    (rows : rowOf after.plane.work.reserves device =
      rowOf state.plane.work.reserves device)
    (accepted : after.accepted = state.accepted)
    (elsewhere : ∀ request now draw recordId,
      label = .mutate request now draw recordId →
      deviceOf request ≠ some device) : Holds device state label after where
  latest := (tracks.keep rows accepted).latest
  settings request now draw recordId same here :=
    absurd here (elsewhere request now draw recordId same)
  stored request now draw recordId same here :=
    absurd here (elsewhere request now draw recordId same)

theorem settings_exact {request : MutationRequest} {now : Time}
    {draw : CommandDraw} {recordId : UUID} {payload : ReserveSettingsRequest}
    (tracks : Tracks device state)
    (command : request.command = .updateReserveSettings payload)
    (here : deviceOf request = some device)
    (accepted : after.accepted = state.accepted)
    (written : rowOf after.plane.work.reserves device =
      some (upserted (rowOf state.plane.work.reserves device) draw.id
        request.session.accountId (settingsReport payload draw.now))) :
    (Holds device state (.mutate request now draw recordId) after ↔
        Unharmed device state (.mutate request now draw recordId)) ∧
      (Unharmed device state (.mutate request now draw recordId) →
        Tracks device after) := by
  have unreported : reportOf request = none := by
    rw [reportOf, command]
  have kept : Unharmed device state (.mutate request now draw recordId) →
      Tracks device after ∧ ∀ row,
        rowOf state.plane.work.reserves device = some row →
        (rowOf after.plane.work.reserves device).map
          (·.localCompletedCount) = some row.localCompletedCount := by
    intro unharmed
    have harmless : ∀ row, rowOf state.plane.work.reserves device = some row →
        draw.now < row.reportedAt ∨ row.localCompletedCount = 0 := by
      intro row found
      exact (unharmed here row found).1 unreported
    cases found : rowOf state.plane.work.reserves device with
    | none =>
        rw [found] at written
        have stores := stores_upserted written nofun
        refine ⟨tracks.settings stores accepted rfl ?_, nofun⟩
        intro row present
        rw [found] at present
        cases present
    | some row =>
        rw [found] at written
        by_cases stale : draw.now < row.reportedAt
        · rw [upserted_of_stale stale] at written
          refine ⟨tracks.keep (written.trans found.symm) accepted, ?_⟩
          intro other same
          cases same
          rw [written]
          rfl
        · have zero := (harmless row found).resolve_left stale
          have stores := stores_upserted written (by
            intro item same
            cases same
            exact not_lt.mp stale)
          obtain ⟨stored, present, _, counted⟩ := stores.row
          refine ⟨tracks.settings stores accepted rfl ?_, ?_⟩
          · intro other same
            rw [found] at same
            cases same
            exact ⟨not_lt.mp stale, zero⟩
          · intro other same
            cases same
            rw [present, zero]
            exact congrArg some counted
  refine ⟨⟨fun holds _ row found => ?_, fun unharmed => ?_⟩,
    fun unharmed => (kept unharmed).1⟩
  · refine ⟨fun _ => ?_, fun report carries => ?_⟩
    swap
    · rw [unreported] at carries
      cases carries
    have same := holds.settings request now draw recordId rfl here unreported
      row found
    by_cases stale : draw.now < row.reportedAt
    · exact .inl stale
    · right
      have present : rowOf state.plane.work.reserves device = some row := found
      rw [present] at written
      obtain ⟨stored, shown, _, counted⟩ :=
        (stores_upserted written (by
          intro item same
          cases same
          exact not_lt.mp stale)).row
      rw [shown] at same
      have equal : stored.localCompletedCount = row.localCompletedCount :=
        Option.some.inj same
      rw [← equal, counted]
      rfl
  · obtain ⟨tracked, unchanged⟩ := kept unharmed
    refine ⟨tracked.latest, ?_, ?_⟩
    · intro _ _ _ _ _ _ _
      exact unchanged
    · intro other _ _ _ same _ report reported
      cases same
      rw [unreported] at reported
      cases reported

theorem report_exact {request : MutationRequest} {now : Time}
    {draw : CommandDraw} {recordId : UUID} {report : ReserveReportRequest}
    (tracks : Tracks device state)
    (command : request.command = .reportReserve report)
    (here : deviceOf request = some device)
    (accepted : after.accepted = state.accepted ++ [report])
    (written : rowOf after.plane.work.reserves device =
      some (upserted (rowOf state.plane.work.reserves device) draw.id
        request.session.accountId report)) :
    (Holds device state (.mutate request now draw recordId) after ↔
        Unharmed device state (.mutate request now draw recordId)) ∧
      (Unharmed device state (.mutate request now draw recordId) →
        Tracks device after) := by
  have reported : reportOf request = some report := by
    rw [reportOf, command]
  have kept : Unharmed device state (.mutate request now draw recordId) →
      Tracks device after ∧
        (Newer (·.reportedAt) state.accepted report →
          Stores device report after) := by
    intro unharmed
    have ordered : ∀ row, rowOf state.plane.work.reserves device = some row →
        Newer (·.reportedAt) state.accepted report →
        row.reportedAt ≤ report.reportedAt := by
      intro row found
      exact (unharmed here row found).2 report reported
    by_cases fresh : ∀ row, rowOf state.plane.work.reserves device =
        some row → row.reportedAt ≤ report.reportedAt
    · have stores := stores_upserted written fresh
      exact ⟨tracks.report stores accepted fresh, fun _ => stores⟩
    · simp only [not_forall, not_le] at fresh
      obtain ⟨row, found, stale⟩ := fresh
      have older : ¬ Newer (·.reportedAt) state.accepted report :=
        fun newer => absurd stale (ordered row found newer).not_gt
      rw [found, upserted_of_stale stale] at written
      exact ⟨tracks.ignored found written accepted stale older,
        fun newer => absurd newer older⟩
  refine ⟨⟨fun holds _ row found => ?_, fun unharmed => ?_⟩,
    fun unharmed => (kept unharmed).1⟩
  · refine ⟨fun unreported => ?_, fun carried carries newer => ?_⟩
    · rw [reported] at unreported
      cases unreported
    rw [reported] at carries
    cases carries
    have stored := holds.stored request now draw recordId rfl here report
      reported newer
    by_contra stale
    have present : rowOf state.plane.work.reserves device = some row := found
    rw [written, present, upserted_of_stale (not_le.mp stale)] at stored
    have same : row.reportedAt = report.reportedAt :=
      congrArg Prod.fst (Option.some.inj stored)
    exact stale same.le
  · obtain ⟨tracked, stores⟩ := kept unharmed
    refine ⟨tracked.latest, ?_, ?_⟩
    · intro other _ _ _ same _ unreported
      cases same
      rw [reported] at unreported
      cases unreported
    · intro other _ _ _ same _ carried carries newer
      cases same
      rw [reported] at carries
      cases carries
      exact (stores newer).map

theorem step_exact {label : Label} (tracks : Tracks device state)
    (stepped : next device state label = some after) :
    (Holds device state label after ↔ Unharmed device state label) ∧
      (Unharmed device state label → Tracks device after) := by
  cases label with
  | other transaction =>
      cases stepped
      have rows : rowOf (transaction.perform state.plane).work.reserves device =
          rowOf state.plane.work.reserves device := by
        rw [transaction.reserves]
      exact ⟨⟨fun _ => trivial,
        fun _ => holds_elsewhere tracks rows rfl nofun⟩,
        fun _ => tracks.keep rows rfl⟩
  | mutate request now draw recordId =>
      obtain ⟨accepted, outcome⟩ := next_mutate stepped
      rcases outcome with ⟨elsewhere, rows⟩ | ⟨here, report, writes, written⟩
      · rw [reportsFor, if_neg elsewhere, List.append_nil] at accepted
        refine ⟨⟨fun _ here => absurd here elsewhere, fun _ => ?_⟩,
          fun _ => tracks.keep rows accepted⟩
        refine holds_elsewhere tracks rows accepted ?_
        intro other _ _ _ same
        cases same
        exact elsewhere
      · rw [reportsFor, if_pos here] at accepted
        obtain ⟨session, key, command⟩ := request
        cases command with
        | updateReserveSettings payload =>
            cases writes
            exact settings_exact tracks rfl here
              (accepted.trans (List.append_nil _)) written
        | reportReserve payload =>
            cases writes
            exact report_exact tracks rfl here accepted written
        | _ => cases here

end

theorem tracks_initial {device : Device} {plane : ControlPlane}
    (fresh : rowOf plane.work.reserves device = none) :
    Tracks device (initial plane) where
  absent _ := rfl
  bounded row found := by
    have none : rowOf plane.work.reserves device = some row := found
    rw [fresh] at none
    cases none
  counted report latest := absurd latest.1 List.not_mem_nil

/-- From the first request of a device on, each step orders the reports by their
time exactly if settings erase no count and are not stamped above a newer
report; two runs that accept the same reports in any order then end with the
same count. -/
theorem reports_settle (device : Device) (plane : ControlPlane)
    (fresh : rowOf plane.work.reserves device = none) :
    (∀ labels, Along (next device) (Holds device) (initial plane) labels ↔
      Meets (next device) (Unharmed device) (initial plane) labels) ∧
    ∀ first second firstFinal secondFinal,
      Meets (next device) (Unharmed device) (initial plane) first →
      Meets (next device) (Unharmed device) (initial plane) second →
      run (next device) (initial plane) first = some firstFinal →
      run (next device) (initial plane) second = some secondFinal →
      firstFinal.accepted.Perm secondFinal.accepted →
      (firstFinal.accepted.map (·.reportedAt)).Nodup →
      firstFinal.accepted ≠ [] →
      (rowOf firstFinal.plane.work.reserves device).map
          (·.localCompletedCount) =
        (rowOf secondFinal.plane.work.reserves device).map
          (·.localCompletedCount) := by
  have initially := tracks_initial fresh
  have exact : ∀ state label after, Tracks device state →
      next device state label = some after →
      (Holds device state label after ↔ Unharmed device state label) ∧
        (Unharmed device state label → Tracks device after) :=
    fun _ _ _ tracks stepped => step_exact tracks stepped
  have kept : ∀ state label after, Tracks device state →
      Unharmed device state label → next device state label = some after →
      Tracks device after :=
    fun state label after tracks unharmed stepped =>
      (exact state label after tracks stepped).2 unharmed
  refine ⟨fun labels => along_iff_meets exact initially, ?_⟩
  intro first second firstFinal secondFinal firstMeets secondMeets firstRan
    secondRan same distinct some
  have firstTracks := run_invariant kept initially firstMeets firstRan
  have secondTracks := run_invariant kept initially secondMeets secondRan
  obtain ⟨report, latest⟩ := exists_latest distinct some
  rw [firstTracks.latest report latest,
    secondTracks.latest report (latest.perm same)]

def phone : Device := ⟨1, 4⟩

def phoneSession : ManagementDeviceSession := ⟨1, 1, 1000, none⟩

def phonePlane : ControlPlane where
  work :=
    { database := { Database.empty with
        accounts := ⟨[⟨1, .connected, none, none, none⟩], by decide⟩ }
      logins := .empty
      settings := .empty
      reserves := .empty }
  sessions := ⟨[phoneSession], by decide⟩
  records := .empty
  challenges := .empty
  rateLimits := .empty

def phoneSettings : ReserveSettingsRequest where
  deviceUuid := 4
  autoRefillEnabled := true
  desiredCount := 20
  lowWatermark := 8
  quotaThreshold := 80
  desiredBounds := by decide
  lowBounds := by decide
  quotaBounds := by decide
  belowDesired := by decide

def drawAt (now : Time) (id : UUID) : CommandDraw :=
  ⟨now, id, "", fun _ => ⟨0, 0⟩⟩

def sendSettings (key : String) (now : Time) (id : UUID) : Label :=
  .mutate ⟨phoneSession, some key, .updateReserveSettings phoneSettings⟩ now
    (drawAt now id) id

def sendReport (key : String) (count : Nat) (reportedAt : Time)
    (bound : count ≤ 1000) (id : UUID) : Label :=
  .mutate ⟨phoneSession, some key, .reportReserve
    { phoneSettings with
      localCompletedCount := count
      reportedAt := reportedAt
      localBounds := bound }⟩ reportedAt (drawAt reportedAt id) id

/-- Settings sent at 200 erase the count of the report of 100, and the report of
150 is ignored then. -/
theorem settings_hide_reports :
    rowOf phonePlane.work.reserves phone = none ∧
      ¬ Along (next phone) (Holds phone) (initial phonePlane)
        [sendReport "report-one" 7 100 (by decide) 11,
          sendSettings "settings-one" 200 12] ∧
      ∃ final, run (next phone) (initial phonePlane)
          [sendReport "report-one" 7 100 (by decide) 11,
            sendSettings "settings-one" 200 12,
            sendReport "report-two" 9 150 (by decide) 13] = some final ∧
        final.accepted.map (·.reportedAt) = [100, 150] ∧
        (rowOf final.plane.work.reserves phone).map
          (·.localCompletedCount) = some 0 := by
  refine ⟨by decide, ?_, _, rfl, by decide, by decide⟩
  intro along
  obtain ⟨_, rest⟩ := along _ rfl
  obtain ⟨holds, _⟩ := rest _ rfl
  have erased := holds.settings _ _ _ _ rfl rfl rfl _ rfl
  revert erased
  decide

def reportsInOrder : List Label :=
  [sendSettings "settings-one" 50 11,
    sendReport "report-one" 7 100 (by decide) 12,
    sendReport "report-two" 9 150 (by decide) 13]

def reportsOutOfOrder : List Label :=
  [sendSettings "settings-one" 50 11,
    sendReport "report-two" 9 150 (by decide) 12,
    sendReport "report-one" 7 100 (by decide) 13]

/-- Settings that come first are harmless, in both orders of the reports. -/
theorem reports_settle_both_orders :
    ∃ first second,
      run (next phone) (initial phonePlane) reportsInOrder = some first ∧
        run (next phone) (initial phonePlane) reportsOutOfOrder = some second ∧
        (rowOf first.plane.work.reserves phone).map (·.localCompletedCount) =
          (rowOf second.plane.work.reserves phone).map
            (·.localCompletedCount) :=
  ⟨_, _, rfl, rfl, (reports_settle phone phonePlane (by decide)).2
    reportsInOrder reportsOutOfOrder _ _ (by decide) (by decide) rfl rfl
    (by decide) (by decide) (by decide)⟩

end OfflineReels.Management.ReserveReports
