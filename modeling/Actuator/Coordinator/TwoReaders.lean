import Actuator.Coordinator.Program

/-!
# Two readers of one document

The schedule is read by the parser, for the coordinator, and once more by the
simulator of each satellite. What a simulator notes about its satellite is what
the coordinator says about it exactly when the document is written out as both
expect (`agree_iff`): the one fills in a missing node and skips what is no
object, the other does not.
-/

namespace Actuator.Coordinator

open Actuator.Lib Actuator.Core Actuator.Parser Actuator.Executor

variable {D : Type} [CxxDouble D]

/-! ## What the parser has read -/

/-- The description of an entry with an id. -/
def infoOf (satellite : Json D) : Option SatelliteInfo :=
  match satelliteIdOf satellite with
  | none => none
  | some satId =>
    match satellite.value Json.getString (lit "node_id") satId, satellite.value Json.getString (lit "name") satId with
    | .ok nodeId, .ok name => some { satelliteId := satId, nodeId, name }
    | _, _ => none

/-- The parser reads the entry without an exception. -/
structure Legible (satellite : Json D) : Prop where
  id : satellite.isObject = true → ∃ satId, satellite.value Json.getString (lit "satellite_id") [] = .ok satId
  info : ∀ satId, satelliteIdOf satellite = some satId → ∃ info, infoOf satellite = some info ∧
    satellite.value Json.getString (lit "node_id") satId = .ok info.nodeId
  tasks : ∀ satId, satelliteIdOf satellite = some satId → ∃ tasks, parseTasks satId (scheduledTasks satellite) = .ok tasks

omit [CxxDouble D] in
theorem satelliteIdOf_eq_some {satellite : Json D} {satId : Str} (id : satelliteIdOf satellite = some satId) :
    satellite.isObject = true ∧ satId ≠ [] := by
  unfold satelliteIdOf at id
  split at id
  · rename_i object
    split at id
    · split at id
      · cases id
      · rename_i nonempty
        cases id
        exact ⟨object, by simpa using nonempty⟩
    · cases id
  · cases id

omit [CxxDouble D] in
theorem satelliteIdOf_infoOf {satellite : Json D} {info : SatelliteInfo} (described : infoOf satellite = some info) :
    satelliteIdOf satellite = some info.satelliteId := by
  unfold infoOf at described
  split at described
  · cases described
  · rename_i satId id
    split at described
    · cases described
      exact id
    · cases described

/-- The entries with a description for the id are those that carry it. -/
theorem Legible.any_infoOf {satellite : Json D} (legible : Legible satellite) (satId : Str) :
    (infoOf satellite).any (fun info => info.satelliteId = satId) = carries satId satellite := by
  cases id : satelliteIdOf satellite with
  | none => simp [infoOf, carries, id]
  | some own =>
    obtain ⟨info, described, _⟩ := legible.info own id
    cases id.symm.trans (satelliteIdOf_infoOf described)
    simp [described, carries, id]

theorem parseSatellite_legible {satellite : Json D} {result result' : MultiSatSchedule}
    (run : parseSatellite satellite result = (.ok (), result')) :
    Legible satellite ∧ result'.satellites = result.satellites ++ (infoOf satellite).toList := by
  unfold parseSatellite at run
  split at run
  · rename_i object
    obtain ⟨satId, r₁, readId, run₁⟩ := Effect.bind_eq_ok run
    obtain ⟨idRead, rfl⟩ := parsing_eq_ok readId
    by_cases empty : satId.isEmpty
    · rw [if_pos empty] at run₁
      cases run₁
      have idless : satelliteIdOf satellite = none := by
        simp [satelliteIdOf, object, idRead, empty]
      have undescribed : infoOf satellite = none := by
        unfold infoOf
        rw [idless]
      rw [undescribed]
      exact ⟨⟨fun _ => ⟨satId, idRead⟩, fun _ id => (nomatch idless.symm.trans id),
        fun _ id => (nomatch idless.symm.trans id)⟩, (List.append_nil _).symm⟩
    · rw [if_neg empty] at run₁
      obtain ⟨_, r₂, pushed, run₂⟩ := Effect.bind_eq_ok run₁
      cases pushed
      obtain ⟨nodeId, r₃, readNode, run₃⟩ := Effect.bind_eq_ok run₂
      obtain ⟨nodeRead, rfl⟩ := parsing_eq_ok readNode
      obtain ⟨name, r₄, readName, run₄⟩ := Effect.bind_eq_ok run₃
      obtain ⟨nameRead, rfl⟩ := parsing_eq_ok readName
      obtain ⟨_, r₅, added, run₅⟩ := Effect.bind_eq_ok run₄
      cases added
      obtain ⟨tasks, r₆, readTasks, run₆⟩ := Effect.bind_eq_ok run₅
      obtain ⟨tasksRead, rfl⟩ := parsing_eq_ok readTasks
      cases run₆
      have id : satelliteIdOf satellite = some satId := by
        simp [satelliteIdOf, object, idRead, empty]
      have described : infoOf satellite = some { satelliteId := satId, nodeId, name } := by
        simp [infoOf, id, nodeRead, nameRead]
      rw [described]
      refine ⟨⟨fun _ => ⟨satId, idRead⟩, fun other same => ?_, fun other same => ?_⟩, rfl⟩
      · cases id.symm.trans same
        exact ⟨{ satelliteId := satId, nodeId, name }, described ▸ rfl, nodeRead⟩
      · cases id.symm.trans same
        exact ⟨tasks, tasksRead⟩
  · rename_i other
    cases run
    have idless : satelliteIdOf satellite = none := if_neg other
    have undescribed : infoOf satellite = none := by
      unfold infoOf
      rw [idless]
    rw [undescribed]
    exact ⟨⟨fun object => absurd object other, fun _ id => (nomatch idless.symm.trans id),
      fun _ id => (nomatch idless.symm.trans id)⟩, (List.append_nil _).symm⟩

theorem parseSatellites_legible {satellites : List (Json D)} {result result' : MultiSatSchedule}
    (run : parseSatellites satellites result = (.ok (), result')) :
    (∀ satellite ∈ satellites, Legible satellite) ∧
      result'.satellites = result.satellites ++ satellites.filterMap infoOf := by
  induction satellites generalizing result with
  | nil =>
    cases run
    exact ⟨fun _ none => (nomatch none), (List.append_nil _).symm⟩
  | cons satellite rest ih =>
    obtain ⟨_, r₁, first, later⟩ := Effect.bind_eq_ok run
    obtain ⟨legible, described⟩ := parseSatellite_legible first
    obtain ⟨all, others⟩ := ih later
    refine ⟨List.forall_mem_cons.2 ⟨legible, all⟩, ?_⟩
    rw [others, described, List.append_assoc]
    cases found : infoOf satellite with
    | none => rw [List.filterMap_cons_none found]; rfl
    | some info => rw [List.filterMap_cons_some found]; rfl

theorem legible_of_acceptedBy {json : JsonLibrary D} {text : Str} {document : Json D}
    (accepted : AcceptedBy json text document) : (∀ satellite ∈ satelliteEntries document, Legible satellite) ∧
      (parseAllSatellites json (some text)).satellites = (satelliteEntries document).filterMap infoOf := by
  obtain ⟨parsed, ran⟩ := accepted
  rcases run : parseSatellites (satelliteEntries document) {} with ⟨out, result⟩
  rw [run] at ran
  cases ran
  unfold parseAllSatellites
  simp only [parsed, run]
  exact parseSatellites_legible run

/-- The tasks of an entry are the objects among the elements. -/
theorem length_parseTasks {satId : Str} {items : List (Json D)} {tasks : List TaskSegment}
    (read : parseTasks satId items = .ok tasks) : tasks.length = items.countP Json.isObject := by
  induction items generalizing tasks with
  | nil =>
    cases read
    rfl
  | cons taskJson rest ih =>
    unfold parseTasks at read
    split at read
    · rename_i object
      obtain ⟨task, _, rest₁⟩ := except_bind_eq_ok read
      obtain ⟨tasks', restRead, rest₂⟩ := except_bind_eq_ok rest₁
      cases rest₂
      rw [List.countP_cons_of_pos object, ← ih restRead]
      rfl
    · rename_i other
      rw [List.countP_cons_of_neg other]
      exact ih read

/-! ## What the simulator has read -/

omit [CxxDouble D] in
theorem value_eq_of_find? {j : Json D} (object : j.isObject = true) {α : Type} (get : Json D → Except Str α) (key : Str)
    (default : α) : j.value get key default = match j.find? key with
      | some member => get member
      | none => .ok default := by
  cases j with
  | object members => rfl
  | _ => cases object

/-- An entry that comes first under the id is read, if no other before it is. -/
theorem loadSatellites_split (keyFirst : Bool) {satId : Str} (named : satId ≠ []) {before after : List (Json D)}
    {entry : Json D} (legible : ∀ satellite ∈ before ++ [entry], Legible satellite)
    (first : ∀ satellite ∈ before, carries satId satellite = false) (own : carries satId entry = true)
    (vm : VariableManager D) :
    (VariableManager.loadSatellites keyFirst satId (before ++ entry :: after) vm).2 =
      if before.all Json.isObject then (VariableManager.loadSatellite keyFirst satId entry vm).2 else vm := by
  induction before with
  | nil =>
    have object : entry.isObject = true := by
      by_contra other
      simp [carries, satelliteIdOf, other] at own
    obtain ⟨id, read⟩ := (legible entry (by simp)).id object
    have same : id = satId := by
      by_cases empty : id.isEmpty <;> simp [carries, satelliteIdOf, object, read, empty] at own
      exact own
    show (Effect.bind (Effect.readThrowing fun _ => entry.value Json.getString (lit "satellite_id") []) _ vm).2 = _
    unfold Effect.bind Effect.readThrowing
    simp only [read, same, if_true, List.all_nil]
  | cons satellite rest ih =>
    obtain ⟨here, later⟩ := List.forall_mem_cons.1 (show ∀ s ∈ satellite :: (rest ++ [entry]), Legible s from legible)
    obtain ⟨skipped, others⟩ := List.forall_mem_cons.1 first
    show (Effect.bind (Effect.readThrowing fun _ => satellite.value Json.getString (lit "satellite_id") []) _ vm).2 = _
    unfold Effect.bind Effect.readThrowing
    by_cases object : satellite.isObject = true
    · obtain ⟨id, read⟩ := here.id object
      have other : id ≠ satId := by
        intro same
        subst same
        simp [carries, satelliteIdOf, object, read, named] at skipped
      simp only [read, if_neg other, List.all_cons, object, Bool.true_and]
      exact ih later others
    · have refused : ∃ what, satellite.value Json.getString (lit "satellite_id") [] = .error what := by
        cases satellite with
        | object members => exact absurd rfl object
        | _ => exact ⟨_, rfl⟩
      obtain ⟨what, thrown⟩ := refused
      simp only [thrown, List.all_cons, object, Bool.false_and, Bool.false_eq_true, if_false]

/-- What the simulator notes about its satellite. -/
structure Notes (satId nodeId : Str) (count : Option Int32) (vm : VariableManager D) : Prop where
  satellite : vm.globalVars.find? (lit "satellite_id") = some (.string satId)
  node : vm.globalVars.find? (lit "node_id") = some (.string nodeId)
  count : vm.globalVars.find? (lit "my_scheduled_task_count") = count.map .int

omit [CxxDouble D] in
theorem loadSatellite_notes (keyFirst : Bool) (satId : Str) {nodeId : Str} {entry : Json D}
    (read : entry.value Json.getString (lit "node_id") [] = .ok nodeId) :
    Notes satId nodeId ((entry.find? (lit "scheduled_tasks")).map fun tasks => Int32.ofInt tasks.elements.length)
      (VariableManager.loadSatellite keyFirst satId entry {}).2 := by
  -- The key of the node may be entered before, and gets its value in any case.
  have ran : ∃ vm : VariableManager D, vm.globalVars.find? (lit "satellite_id") = some (.string satId) ∧
      vm.globalVars.find? (lit "my_scheduled_task_count") = none ∧
      (VariableManager.loadSatellite keyFirst satId entry {}).2 =
        match entry.find? (lit "scheduled_tasks") with
        | some tasks => (vm.set (lit "node_id") (.string nodeId) .global).set (lit "my_scheduled_task_count")
            (.int (Int32.ofInt tasks.elements.length)) .global
        | none => vm.set (lit "node_id") (.string nodeId) .global := by
    have absent : (({} : VariableManager D).set (lit "satellite_id") (.string satId) .global).globalVars.contains
        (lit "node_id") = false := rfl
    cases keyFirst with
    | false =>
      refine ⟨({} : VariableManager D).set (lit "satellite_id") (.string satId) .global, rfl, rfl, ?_⟩
      unfold VariableManager.loadSatellite
      cases entry.find? (lit "scheduled_tasks") <;>
        simp [bind, Effect.bind, Effect.modify, Effect.readThrowing, read, pure, Effect.pure]
    | true =>
      refine ⟨(({} : VariableManager D).set (lit "satellite_id") (.string satId) .global).set (lit "node_id") .unknown
        .global, rfl, rfl, ?_⟩
      unfold VariableManager.loadSatellite
      cases entry.find? (lit "scheduled_tasks") <;>
        simp [bind, Effect.bind, Effect.modify, Effect.readThrowing, read, pure, Effect.pure, absent]
  obtain ⟨vm, satellite, uncounted, same⟩ := ran
  rw [same]
  cases entry.find? (lit "scheduled_tasks") with
  | none =>
    exact ⟨(OrdMap.find?_insert_of_ne _ _ (by decide)).trans satellite, OrdMap.find?_insert_self _ _ _,
      (OrdMap.find?_insert_of_ne _ _ (by decide)).trans uncounted⟩
  | some tasks =>
    refine ⟨?_, ?_, OrdMap.find?_insert_self _ _ _⟩
    · exact (OrdMap.find?_insert_of_ne _ _ (by decide)).trans
        ((OrdMap.find?_insert_of_ne _ _ (by decide)).trans satellite)
    · exact (OrdMap.find?_insert_of_ne _ _ (by decide)).trans (OrdMap.find?_insert_self _ _ _)

/-! ## Both about one satellite -/

/-- The simulator of the satellite notes what the coordinator sends about it: its node and the number of its tasks. -/
structure Agree (build : Build D) (path text satId : Str) : Prop where
  node : ∃ info, (parseAllSatellites build.json (some text)).satellites.find? (fun info => info.satelliteId = satId) =
    some info ∧ (initializeSimulator build path (some text) satId).globalVars.find? (lit "node_id") =
      some (.string info.nodeId)
  count : (initializeSimulator build path (some text) satId).globalVars.find? (lit "my_scheduled_task_count") =
    some (.int (Int32.ofNat (tasksOf (parseAllSatellites build.json (some text)) satId).length))

/-- The first entry of the satellite names its node and lists its tasks, all of them objects as far as a counter of 32
bits can tell, and all entries before it are objects. -/
def WrittenOut (document : Json D) (satId : Str) : Prop :=
  ∃ entry tasks, (satelliteEntries document).find? (carries satId) = some entry ∧
    (∀ satellite ∈ (satelliteEntries document).takeWhile (fun satellite => !carries satId satellite),
      satellite.isObject = true) ∧
    entry.contains (lit "node_id") = true ∧ entry.find? (lit "scheduled_tasks") = some tasks ∧
    tasks.elements.length % 4294967296 = (scheduledTasks entry).countP Json.isObject % 4294967296

section Agreement

variable {build : Build D} {path text satId : Str} {document : Json D}

theorem int32_ofInt_eq_iff (a b : Nat) : Int32.ofInt a = Int32.ofNat b ↔ a % 4294967296 = b % 4294967296 := by
  rw [Int32.ofInt_eq_ofNat, ← Int32.toBitVec_inj, ← BitVec.toNat_inj]
  rfl

/-- The entry that both readers find, with what the parser makes of it. -/
theorem exists_entry (accepted : AcceptedBy build.json text document) (distinct : (documentIds document).Nodup)
    (listed : satId ∈ documentIds document) : ∃ before entry after info,
      satelliteEntries document = before ++ entry :: after ∧ carries satId entry = true ∧
      (∀ satellite ∈ before, carries satId satellite = false) ∧
      entry.value Json.getString (lit "node_id") satId = .ok info.nodeId ∧
      (parseAllSatellites build.json (some text)).satellites.find? (fun info => info.satelliteId = satId) = some info ∧
      (tasksOf (parseAllSatellites build.json (some text)) satId).length = (scheduledTasks entry).countP Json.isObject := by
  obtain ⟨satellite, mem, id⟩ := List.mem_filterMap.1 listed
  obtain ⟨entry, found⟩ := Option.isSome_iff_exists.1 ((List.find?_isSome (p := carries satId)).2
    ⟨satellite, mem, decide_eq_true id⟩)
  obtain ⟨own, before, after, split, others⟩ := List.find?_eq_some_iff_append.1 found
  have first : ∀ satellite ∈ before, carries satId satellite = false := fun satellite mem => by simpa using others _ mem
  obtain ⟨legible, described⟩ := legible_of_acceptedBy accepted
  have inside : entry ∈ satelliteEntries document := by simp [split]
  have ownId : satelliteIdOf entry = some satId := of_decide_eq_true own
  obtain ⟨info, read, node⟩ := (legible entry inside).info satId ownId
  refine ⟨before, entry, after, info, split, own, first, node, ?_, ?_⟩
  · have same : (satelliteEntries document).find? (fun satellite => (infoOf satellite).any
        fun info => info.satelliteId = satId) = some entry := by
      refine List.find?_eq_some_iff_append.2 ⟨((legible entry inside).any_infoOf satId).trans own, before, after, split, ?_⟩
      intro satellite mem
      rw [(legible satellite (by simp [split, mem])).any_infoOf satId, first satellite mem]
      rfl
    rw [described, List.find?_filterMap, same]
    exact read
  · -- No other entry carries the id.
    have once := List.nodup_iff_count_le_one.1 distinct satId
    rw [documentIds, count_ids, split, List.filter_append, List.filter_cons_of_pos own,
      List.filter_eq_nil_iff.2 fun satellite mem => by simp [first satellite mem]] at once
    have alone : after.filter (carries satId) = [] := List.eq_nil_of_length_eq_zero (by simpa using once)
    obtain ⟨tasks, tasksRead⟩ := (legible entry inside).tasks satId ownId
    have listedHere : listedUnder satId document = tasks := by
      unfold listedUnder
      rw [split, List.filter_append, List.filter_cons_of_pos own, alone,
        List.filter_eq_nil_iff.2 fun satellite mem => by simp [first satellite mem]]
      simp [listedIn, tasksRead]
    rw [tasksOf_eq_listedUnder accepted distinct, listedHere]
    exact length_parseTasks tasksRead

/-- What the simulator of a satellite starts with. -/
theorem initializeSimulator_eq (path : Str) (accepted : AcceptedBy build.json text document) (given : path ≠ []) (named : satId ≠ [])
    {before after : List (Json D)} {entry : Json D} (split : satelliteEntries document = before ++ entry :: after)
    (own : carries satId entry = true) (first : ∀ satellite ∈ before, carries satId satellite = false) :
    initializeSimulator build path (some text) satId = if before.all Json.isObject then
      (VariableManager.loadSatellite build.keyFirst satId entry {}).2 else {} := by
  obtain ⟨legible, _⟩ := legible_of_acceptedBy accepted
  have parsed : readScheduleConfig build.json path (some text) = .ok document := by
    simp [readScheduleConfig, accepted.1]
  have entries : ∃ satellites, document.find? (lit "satellites") = some satellites ∧
      satellites.elements = before ++ entry :: after := by
    rw [← split]
    unfold satelliteEntries at split ⊢
    split at split
    · rename_i items found
      exact ⟨_, found, by simp [Json.elements]⟩
    · simp at split
  obtain ⟨satellites, found, elements⟩ := entries
  rw [← loadSatellites_split build.keyFirst named (fun satellite mem => legible satellite (by
    rw [split]
    rcases List.mem_append.1 mem with front | last
    · exact List.mem_append_left _ front
    · rw [List.mem_singleton.1 last]
      simp)) first own]
  unfold initializeSimulator VariableManager.loadFromScheduleConfig
  rw [if_neg (by simpa using given), parsed]
  show (Effect.bind (Effect.readThrowing fun _ => .ok document) _ ({} : VariableManager D)).2 = _
  unfold Effect.bind Effect.readThrowing
  simp only [found, elements]
  rw [if_neg (by simpa using named)]

/-- A satellite's simulator and the coordinator agree about it if and only if the document is written out for both. -/
theorem agree_iff (build : Build D) {path text satId : Str} {document : Json D}
    (accepted : AcceptedBy build.json text document) (distinct : (documentIds document).Nodup)
    (given : path ≠ []) (listed : satId ∈ documentIds document) :
    Agree build path text satId ↔ WrittenOut document satId := by
  obtain ⟨before, entry, after, info, split, own, first, node, described, tasks⟩ :=
    exists_entry accepted distinct listed
  obtain ⟨object, named⟩ := satelliteIdOf_eq_some (of_decide_eq_true own)
  have found : (satelliteEntries document).find? (carries satId) = some entry :=
    List.find?_eq_some_iff_append.2 ⟨own, before, after, split, fun satellite mem => by simp [first satellite mem]⟩
  have front : (satelliteEntries document).takeWhile (fun satellite => !carries satId satellite) = before := by
    rw [split, List.takeWhile_append_of_pos fun satellite mem => by simp [first satellite mem],
      List.takeWhile_cons_of_neg (by simp [own]), List.append_nil]
  have started := initializeSimulator_eq path accepted given named split own first
  by_cases objects : ∀ satellite ∈ before, satellite.isObject = true
  · rw [if_pos (List.all_eq_true.2 objects)] at started
    have node' : entry.value Json.getString (lit "node_id") [] =
        .ok (if entry.contains (lit "node_id") then info.nodeId else []) := by
      rw [value_eq_of_find? object] at node ⊢
      unfold Json.contains
      cases member : entry.find? (lit "node_id") with
      | none => rfl
      | some nodeJson =>
        rw [member] at node
        exact node
    have notes := loadSatellite_notes build.keyFirst satId node'
    rw [← started] at notes
    have sameNode : (∃ info', (parseAllSatellites build.json (some text)).satellites.find?
        (fun info => info.satelliteId = satId) = some info' ∧
        (initializeSimulator build path (some text) satId).globalVars.find? (lit "node_id") =
          some (.string info'.nodeId)) ↔ entry.contains (lit "node_id") = true := by
      rw [notes.node, described]
      by_cases hasNode : entry.contains (lit "node_id") = true
      · rw [if_pos hasNode]
        exact iff_of_true ⟨info, rfl, rfl⟩ hasNode
      · rw [if_neg hasNode]
        refine iff_of_false (fun both => ?_) hasNode
        obtain ⟨info', again, same⟩ := both
        cases again
        have absent : entry.find? (lit "node_id") = none := by simpa [Json.contains] using hasNode
        rw [value_eq_of_find? object, absent] at node
        simp only [Option.some.injEq, VariableValue.string.injEq] at same
        exact named ((Except.ok.inj node).trans same.symm)
    have sameCount : ((initializeSimulator build path (some text) satId).globalVars.find? (lit "my_scheduled_task_count") =
        some (.int (Int32.ofNat (tasksOf (parseAllSatellites build.json (some text)) satId).length))) ↔
        ∃ tasks, entry.find? (lit "scheduled_tasks") = some tasks ∧
          tasks.elements.length % 4294967296 = (scheduledTasks entry).countP Json.isObject % 4294967296 := by
      rw [notes.count, tasks]
      cases entry.find? (lit "scheduled_tasks") with
      | none => simp
      | some tasks => simp [int32_ofInt_eq_iff]
    constructor
    · intro agree
      obtain ⟨tasks, listedTasks, same⟩ := sameCount.1 agree.count
      exact ⟨entry, tasks, found, front ▸ objects, sameNode.1 agree.node, listedTasks, same⟩
    · intro written
      obtain ⟨entry', tasks, found', _, hasNode, listedTasks, same⟩ := written
      cases found.symm.trans found'
      exact ⟨sameNode.2 hasNode, sameCount.2 ⟨tasks, listedTasks, same⟩⟩
  · rw [if_neg fun all => objects (List.all_eq_true.1 all)] at started
    refine iff_of_false (fun agree => ?_) fun written => ?_
    · obtain ⟨_, _, none⟩ := agree.node
      rw [started] at none
      cases none
    · obtain ⟨_, _, _, all, _⟩ := written
      exact objects (front ▸ all)

end Agreement

/-! ## An entry without a node -/

/-- The second entry leaves the node of its satellite to the reader. -/
def nodelessSchedule : Json FixedPoint := sampleSchedule [
  .object [
    (lit "node_id", .string (lit "N1")),
    (lit "satellite_id", .string (lit "S1")),
    (lit "scheduled_tasks", .array [.object [(lit "task_id", .string (lit "T1"))]])],
  sampleEntry (lit "S2") (lit "T2")]

theorem nodelessSchedule_accepted : AcceptedBy JsonText.library (JsonText.print nodelessSchedule) nodelessSchedule :=
  ⟨JsonText.library_parse_print (by decide), by decide +kernel⟩

theorem agree_iff_sample :
    Agree sampleBuild (lit "schedule.json") (JsonText.print nodelessSchedule) (lit "S1") ∧
      ¬ Agree sampleBuild (lit "schedule.json") (JsonText.print nodelessSchedule) (lit "S2") := by
  constructor
  · refine (agree_iff sampleBuild nodelessSchedule_accepted (by decide) (by decide) (by decide)).2 ?_
    exact ⟨_, _, rfl, by decide, by decide, rfl, rfl⟩
  · intro agree
    obtain ⟨entry, _, found, _, hasNode, _⟩ :=
      (agree_iff sampleBuild nodelessSchedule_accepted (by decide) (by decide) (by decide)).1 agree
    have second : (satelliteEntries nodelessSchedule).find? (carries (lit "S2")) =
        some (sampleEntry (lit "S2") (lit "T2")) := rfl
    cases second.symm.trans found
    exact absurd hasNode (by decide)

end Actuator.Coordinator
