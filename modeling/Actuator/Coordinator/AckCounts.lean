import Actuator.Coordinator.Verdict

/-!
# The counts of an acknowledgement

`onCoordinatorBatchAck` takes the flag of an acknowledgement for the result of
its satellite, unless the acknowledgement lists tasks, accepted or rejected, and
not as many as the satellite was given. An acknowledgement that lists none is
not counted (`ack_recorded`).
-/

namespace Actuator.Coordinator

open Actuator.Lib Actuator.Executor

variable {D : Type} [CxxDouble D]

namespace Tracking

/-- The number of the listed tasks, as an `int`. -/
def processedTaskCount (ack : BatchTaskAssignAck) : Int32 :=
  Int32.ofNat (ack.acceptedTaskIds.length + ack.rejectedTaskIds.length)

/-- The acknowledgement says accepted, and lists no task or as many as are expected. -/
structure Vouches (expectedTaskCount : Int32) (ack : BatchTaskAssignAck) : Prop where
  accepted : ack.accepted = true
  counted : 0 < expectedTaskCount → 0 < processedTaskCount ack → processedTaskCount ack = expectedTaskCount

theorem succeeds_iff (expectedTaskCount : Int32) (ack : BatchTaskAssignAck) :
    succeeds expectedTaskCount ack = true ↔ Vouches expectedTaskCount ack := by
  unfold succeeds
  change (if 0 < expectedTaskCount ∧ 0 < processedTaskCount ack ∧ processedTaskCount ack ≠ expectedTaskCount then false
    else ack.accepted) = true ↔ _
  by_cases wrong : 0 < expectedTaskCount ∧ 0 < processedTaskCount ack ∧ processedTaskCount ack ≠ expectedTaskCount
  · rw [if_pos wrong]
    exact iff_of_false Bool.false_ne_true fun vouches => wrong.2.2 (vouches.counted wrong.1 wrong.2.1)
  · rw [if_neg wrong]
    constructor
    · intro accepted
      exact ⟨accepted, fun expected processed => by_contra fun differ => wrong ⟨expected, processed, differ⟩⟩
    · exact Vouches.accepted

/-- Everything that is recorded about the other satellites, and every expected count, is as it was. -/
structure SameElsewhere (satId : Str) (tracking tracking' : Tracking) : Prop where
  results : ∀ other, other ≠ satId → tracking'.results.find? other = tracking.results.find? other
  finished : ∀ other, other ≠ satId → tracking'.finished.find? other = tracking.finished.find? other
  expectedCounts : tracking'.expectedCounts = tracking.expectedCounts

theorem recordAck_untracked {tracking : Tracking} {ack : BatchTaskAssignAck}
    (untracked : tracking.expectedCounts.find? ack.satelliteId = none) : tracking.recordAck ack = tracking := by
  unfold recordAck
  rw [untracked]

theorem recordAck_tracked {tracking : Tracking} {ack : BatchTaskAssignAck} {expectedTaskCount : Int32}
    (tracked : tracking.expectedCounts.find? ack.satelliteId = some expectedTaskCount) :
    (tracking.recordAck ack).results.find? ack.satelliteId = some (succeeds expectedTaskCount ack) ∧
      (tracking.recordAck ack).finished.find? ack.satelliteId = some true ∧
      SameElsewhere ack.satelliteId tracking (tracking.recordAck ack) := by
  unfold recordAck
  rw [tracked]
  exact ⟨OrdMap.find?_insert_self _ _ _, OrdMap.find?_insert_self _ _ _,
    fun _ different => OrdMap.find?_insert_of_ne _ _ different, fun _ different => OrdMap.find?_insert_of_ne _ _ different,
    rfl⟩

end Tracking

/-! ## The handler -/

variable {setting : Setting D}

/-- The run of the handler alone, to its end. -/
def HandlesAck (setting : Setting D) (message : Message) (s s' : Shared) : Prop :=
  (system setting).Reaches ⟨s, [onCoordinatorBatchAck setting.json message]⟩ ⟨s', [.done ()]⟩

theorem handlesAck_unparsed {message : Message} (broken : parseBatchTaskAssignAckPayload setting.json message.payload = none)
    (s s' : Shared) : HandlesAck setting message s s' ↔ s' = s := by
  unfold HandlesAck onCoordinatorBatchAck
  rw [broken]
  constructor
  · intro reaches
    rcases Relation.ReflTransGen.cases_head reaches with same | ⟨_, step, _⟩
    · cases same
      rfl
    · exact absurd step Machine.not_step_done
  · rintro rfl
    exact .refl

theorem handlesAck_parsed {message : Message} {ack : BatchTaskAssignAck}
    (parsed : parseBatchTaskAssignAckPayload setting.json message.payload = some ack) (s s' : Shared) :
    HandlesAck setting message s s' ↔
      s' = { s with tracking := s.tracking.recordAck ack, acks := s.acks ++ [(message, ack)] } := by
  unfold HandlesAck onCoordinatorBatchAck
  rw [parsed]
  have alone : ∀ r s₁ started, performs setting (.recordAck message ack) s r s₁ started → started = [] := by
    intro r s₁ started acts
    obtain ⟨_, none⟩ := acts
    exact none
  apply (Machine.reaches_last_iff (fun _ => rfl) alone).trans
  exact ⟨fun acted => acted.choose_spec.1, fun same => ⟨(), same, rfl⟩⟩

/-- From every state of the tracking the handler runs to its end. A payload that does not parse, or names an untracked
satellite, changes nothing. Any other one sets the result of the satellite it names, to true exactly if it says accepted
and lists no task or as many as are expected, and leaves the other satellites alone. -/
theorem ack_recorded (setting : Setting D) (message : Message) (s : Shared) :
    ∃ s', HandlesAck setting message s s' ∧ ∀ s', HandlesAck setting message s s' →
      (parseBatchTaskAssignAckPayload setting.json message.payload = none → s'.tracking = s.tracking) ∧
      ∀ ack, parseBatchTaskAssignAckPayload setting.json message.payload = some ack →
        (s.tracking.expectedCounts.find? ack.satelliteId = none → s'.tracking = s.tracking) ∧
        ∀ expectedTaskCount, s.tracking.expectedCounts.find? ack.satelliteId = some expectedTaskCount →
          (s'.tracking.results.find? ack.satelliteId = some true ↔ Tracking.Vouches expectedTaskCount ack) ∧
          s'.tracking.finished.find? ack.satelliteId = some true ∧
          Tracking.SameElsewhere ack.satelliteId s.tracking s'.tracking := by
  cases parsed : parseBatchTaskAssignAckPayload setting.json message.payload with
  | none =>
    refine ⟨s, (handlesAck_unparsed parsed s s).2 rfl, fun s' handled => ?_⟩
    rw [(handlesAck_unparsed parsed s s').1 handled]
    exact ⟨fun _ => rfl, fun _ same => by cases same⟩
  | some ack =>
    refine ⟨_, (handlesAck_parsed parsed s _).2 rfl, fun s' handled => ?_⟩
    rw [(handlesAck_parsed parsed s s').1 handled]
    refine ⟨fun broken => ?_, fun other same => ?_⟩
    · cases broken
    obtain rfl := Option.some.inj same
    refine ⟨Tracking.recordAck_untracked, fun expectedTaskCount tracked => ?_⟩
    obtain ⟨result, finished, elsewhere⟩ := Tracking.recordAck_tracked tracked
    refine ⟨?_, finished, elsewhere⟩
    rw [result, Option.some.injEq]
    exact Tracking.succeeds_iff expectedTaskCount ack

/-! ## An acknowledgement that lists nothing -/

def bareAck : Message where
  payload := JsonText.print (.object [(lit "accepted", .bool true), (lit "satellite_id", .string (lit "S1"))])

/-- S1 was given two tasks. -/
def bareShared : Shared where
  comm := sampleComm
  tracking := { expectedCounts := OrdMap.empty.insert (lit "S1") 2, results := OrdMap.empty.insert (lit "S1") false }

theorem bareAck_parsed :
    (parseBatchTaskAssignAckPayload sampleSetting.json bareAck.payload).map (fun ack =>
      ((bareShared.tracking.recordAck ack).results.find? (lit "S1"), ack.acceptedTaskIds)) = some (some true, []) := by
  decide +kernel

/-- The result becomes true with none of the two expected tasks accepted. -/
theorem bare_ack_recorded : ∃ s' ack, HandlesAck sampleSetting bareAck bareShared s' ∧
    s'.tracking.results.find? (lit "S1") = some true ∧
    parseBatchTaskAssignAckPayload sampleSetting.json bareAck.payload = some ack ∧
    bareShared.tracking.expectedCounts.find? (lit "S1") = some 2 ∧ ack.acceptedTaskIds = [] := by
  obtain ⟨ack, parsed, fields⟩ := Option.map_eq_some_iff.1 bareAck_parsed
  obtain ⟨result, accepted⟩ := Prod.mk.inj fields
  exact ⟨_, ack, (handlesAck_parsed parsed bareShared _).2 rfl, result, parsed, by decide +kernel, accepted⟩

end Actuator.Coordinator
