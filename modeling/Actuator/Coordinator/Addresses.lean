import Actuator.Coordinator.Program

/-!
# The registry behind a start

An initialization registers every satellite of the schedule under its id and
that of its node. Each of them can be looked up under both of its names exactly
when no two satellites have a name in common (`registered_answers_iff`): a name
that comes twice leads to the node that was registered last, and takes the other
one out of the registry when it was a satellite's.
-/

namespace Actuator.Coordinator

open Actuator.Lib Actuator.Core Actuator.Parser Actuator.Executor

/-! ## Names -/

/-- The names under which the node of a satellite is registered. -/
def namesOf (info : SatelliteInfo) : List Str := [commNodeId info, info.satelliteId]

/-- The two entries are about one node, or have no name in common. -/
def Compatible (a b : SatelliteInfo) : Prop :=
  (commNodeId a = commNodeId b ∧ a.satelliteId = b.satelliteId) ∨ ∀ name ∈ namesOf a, name ∉ namesOf b

instance decidableCompatible (a b : SatelliteInfo) : Decidable (Compatible a b) :=
  inferInstanceAs (Decidable (_ ∨ ∀ name ∈ namesOf a, name ∉ namesOf b))

/-- Under its names the satellite's own node is found. -/
def AnswersTo (registry : NodeRegistry) (info : SatelliteInfo) : Prop :=
  ∀ name ∈ namesOf info, ∃ node, registry.getNodeInfo name = some node ∧ node.nodeId = commNodeId info ∧
    node.satelliteId = info.satelliteId

theorem Compatible.same_of_shared {a b : SatelliteInfo} (compatible : Compatible a b) {name : Str}
    (inA : name ∈ namesOf a) (inB : name ∈ namesOf b) :
    commNodeId a = commNodeId b ∧ a.satelliteId = b.satelliteId :=
  compatible.resolve_right fun apart => apart name inA inB

/-- A name that two satellites have leads to one node, which can be only one of theirs. -/
theorem compatible_of_answers {registry : NodeRegistry} {a b : SatelliteInfo} (answersA : AnswersTo registry a)
    (answersB : AnswersTo registry b) : Compatible a b := by
  by_cases shared : ∃ name, name ∈ namesOf a ∧ name ∈ namesOf b
  · obtain ⟨name, inA, inB⟩ := shared
    obtain ⟨node, found, idA, satelliteA⟩ := answersA name inA
    obtain ⟨node', found', idB, satelliteB⟩ := answersB name inB
    cases found.symm.trans found'
    exact .inl ⟨idA.symm.trans idB, satelliteA.symm.trans satelliteB⟩
  · exact .inr fun name inA inB => shared ⟨name, inA, inB⟩

/-! ## Registering compatible satellites -/

/-- The registry holds the nodes of these satellites and no others. -/
structure Registered (before : List SatelliteInfo) (registry : NodeRegistry) : Prop where
  ready : registry.initialized = true
  aliases : ∀ info ∈ before, ∀ name ∈ namesOf info, registry.aliasToNodeId.find? name = some (commNodeId info)
  nodes : ∀ info ∈ before, ∃ node, registry.nodes.find? (commNodeId info) = some node ∧
    node.nodeId = commNodeId info ∧ node.satelliteId = info.satelliteId
  owned : ∀ name nodeId, registry.aliasToNodeId.find? name = some nodeId →
    ∃ info ∈ before, name ∈ namesOf info ∧ nodeId = commNodeId info

theorem Registered.answers {before : List SatelliteInfo} {registry : NodeRegistry} (registered : Registered before registry)
    {info : SatelliteInfo} (mem : info ∈ before) : AnswersTo registry info := by
  intro name known
  obtain ⟨node, found, facts⟩ := registered.nodes info mem
  refine ⟨node, ?_, facts⟩
  unfold NodeRegistry.getNodeInfo NodeRegistry.resolveNodeIdLocked
  rw [registered.aliases info mem name known]
  exact found

/-- What `registerNode` makes of the aliases for a message of the coordinator. -/
theorem find?_aliases_registerMsg {info : SatelliteInfo} (named : info.satelliteId ≠ []) (registry : NodeRegistry)
    (now : UInt64) (name : Str) :
    (registry.enroll now (registerMsg info) (commNodeId info) info.satelliteId).aliasToNodeId.find? name =
      if name ∈ namesOf info then some (commNodeId info)
      else (registry.aliasToNodeId.find? name).filter fun nodeId => nodeId ≠ commNodeId info := by
  have msgId : (registerMsg info).nodeId = commNodeId info := rfl
  have given : (commNodeId info).isEmpty = false := by simpa using commNodeId_ne_nil named
  unfold NodeRegistry.enroll
  simp only [msgId, given, Bool.false_eq_true, if_false, OrdMap.find?_insert, NodeRegistry.find?_eraseAliasesLocked]
  by_cases node : name = commNodeId info
  · rw [if_pos node, if_pos (by simp [namesOf, node])]
  · by_cases satellite : name = info.satelliteId
    · rw [if_neg node, if_pos satellite, if_pos (by simp [namesOf, satellite])]
    · rw [if_neg node, if_neg satellite, if_neg node, if_neg (by simp [namesOf, node, satellite])]

/-- Nobody gives way to a satellite that is compatible with the others. -/
theorem Registered.evict {before : List SatelliteInfo} {registry : NodeRegistry} (registered : Registered before registry)
    {info : SatelliteInfo} (compatible : ∀ other ∈ before, Compatible other info) (dangling : Str → Bool) :
    registry.evict dangling (commNodeId info) info.satelliteId = registry := by
  unfold NodeRegistry.evict
  split
  · rename_i existing held
    obtain ⟨other, mem, known, rfl⟩ := registered.owned _ existing held
    have same := (compatible other mem).same_of_shared known (by simp [namesOf])
    rw [if_neg (by simpa using same.1)]
  · rfl

theorem Registered.next {before : List SatelliteInfo} {registry : NodeRegistry} (registered : Registered before registry)
    {info : SatelliteInfo} (named : info.satelliteId ≠ []) (compatible : ∀ other ∈ before, Compatible other info)
    (now : UInt64) (dangling : Str → Bool) :
    Registered (before ++ [info]) (registry.registerNode now dangling (registerMsg info)).2 := by
  rw [registerNode_registerMsg named registered.ready, registered.evict compatible]
  have own : info ∈ before ++ [info] := by simp
  -- An entry with the id of the node is about the same node.
  have sameNode : ∀ other ∈ before, commNodeId other = commNodeId info →
      other.satelliteId = info.satelliteId := fun other mem same =>
    ((compatible other mem).same_of_shared (same ▸ List.mem_cons_self) List.mem_cons_self).2
  refine ⟨registered.ready, fun other mem name known => ?_, fun other mem => ?_, fun name nodeId found => ?_⟩
  · rw [find?_aliases_registerMsg named]
    rcases List.mem_append.1 mem with old | new
    · by_cases shared : name ∈ namesOf info
      · rw [if_pos shared, ((compatible other old).same_of_shared known shared).1]
      · rw [if_neg shared, registered.aliases other old name known]
        refine Option.filter_eq_some_iff.2 ⟨rfl, ?_⟩
        have apart : commNodeId other ≠ commNodeId info := by
          intro same
          refine shared ?_
          unfold namesOf at known ⊢
          rwa [← same, ← sameNode other old same]
        simpa using apart
    · cases List.mem_singleton.1 new
      rw [if_pos known]
  · rcases List.mem_append.1 mem with old | new
    · by_cases same : commNodeId other = commNodeId info
      · rw [same]
        exact ⟨_, OrdMap.find?_insert_self _ _ _, rfl, (sameNode other old same).symm⟩
      · obtain ⟨node, found, facts⟩ := registered.nodes other old
        exact ⟨node, (OrdMap.find?_insert_of_ne _ _ same).trans found, facts⟩
    · cases List.mem_singleton.1 new
      exact ⟨_, OrdMap.find?_insert_self _ _ _, rfl, rfl⟩
  · rw [find?_aliases_registerMsg named] at found
    split at found
    · rename_i known
      cases found
      exact ⟨info, own, known, rfl⟩
    · obtain ⟨held, _⟩ := Option.filter_eq_some_iff.1 found
      obtain ⟨other, mem, known, same⟩ := registered.owned name nodeId held
      exact ⟨other, List.mem_append_left _ mem, known, same⟩

theorem registered_registerSatelliteNodes {infos before : List SatelliteInfo} {registry : NodeRegistry}
    (registered : Registered before registry) (named : ∀ info ∈ infos, info.satelliteId ≠ [])
    (compatible : ∀ a ∈ before ++ infos, ∀ b ∈ before ++ infos, Compatible a b)
    (registration : Nat → UInt64 × (Str → Bool)) :
    Registered (before ++ infos) (registerSatelliteNodes registration infos registry).2 := by
  induction infos generalizing before registry registration with
  | nil =>
    rw [List.append_nil]
    exact registered
  | cons info rest ih =>
    obtain ⟨own, later⟩ := List.forall_mem_cons.1 named
    have next := registered.next own (fun other mem => compatible other (by simp [mem]) info (by simp))
      (registration 0).1 (registration 0).2
    have all := ih next later (by simpa using compatible) fun n => registration (n + 1)
    rwa [List.append_assoc, List.singleton_append] at all

/-! ## Every start -/

variable {D : Type} [CxxDouble D]

/-- Whenever the coordinator is initialized, whatever came before, each satellite of its schedule is found under both of
its names if and only if no two of them share one. -/
theorem registered_answers_iff (build : Build D) (events : List (CoordinatorState.Event D))
    (up : (events.foldl (CoordinatorState.perform build) {}).initialized = true) :
    let s := events.foldl (CoordinatorState.perform build) {}
    ∃ registry, s.nodeRegistry = some registry ∧
      ((∀ info ∈ s.schedule.satellites, AnswersTo registry info) ↔
        ∀ a ∈ s.schedule.satellites, ∀ b ∈ s.schedule.satellites, Compatible a b) := by
  intro s
  have sound := (CoordinatorState.history_sound build events).up up
  obtain ⟨registration, held⟩ := sound.registry
  obtain ⟨text, read⟩ := sound.read
  refine ⟨_, held, fun answers a inA b inB => compatible_of_answers (answers a inA) (answers b inB), fun compatible => ?_⟩
  have named : ∀ info ∈ s.schedule.satellites, info.satelliteId ≠ [] := by
    rw [show s.schedule = parseAllSatellites build.json text from read]
    have all := parseAllSatellites_named build.json text
    exact fun info mem none => all.named (none ▸ all.listed info mem)
  have empty : Registered [] ({} : NodeRegistry).initializeRegistry :=
    ⟨rfl, fun _ none => (nomatch none), fun _ none => (nomatch none), fun _ _ none => (nomatch none)⟩
  have registered := registered_registerSatelliteNodes empty named compatible registration
  exact fun info mem => registered.answers mem

/-! ## A node under the name of a satellite -/

/-- The node of the second satellite has the first one's id. -/
def sharedNameSchedule : Json FixedPoint := sampleSchedule [
  sampleEntry (lit "S1") (lit "T1"),
  .object [(lit "node_id", .string (lit "S1")), (lit "satellite_id", .string (lit "S2"))]]

def sharedNameStart : List (CoordinatorState.Event FixedPoint) := [.initializeCoordinator (lit "schedule.json")
  { sampleGiven with scheduleText := some (JsonText.print sharedNameSchedule) }]

theorem registered_answers_iff_sample : ∃ registry,
    (sharedNameStart.foldl (CoordinatorState.perform sampleBuild) {}).nodeRegistry = some registry ∧
      ∃ info ∈ (sharedNameStart.foldl (CoordinatorState.perform sampleBuild) {}).schedule.satellites,
        ¬AnswersTo registry info := by
  obtain ⟨registry, held, answers⟩ := registered_answers_iff sampleBuild sharedNameStart (by decide +kernel)
  refine ⟨registry, held, ?_⟩
  by_contra all
  have found := fun info mem => by_contra fun missing => all ⟨info, mem, missing⟩
  exact absurd (answers.1 found) (by decide +kernel)

end Actuator.Coordinator
