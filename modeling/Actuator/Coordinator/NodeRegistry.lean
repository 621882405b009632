import Actuator.Lib.OrdMap
import Actuator.Lib.Text

/-!
# The registry of nodes

A node is registered under its own id, and its satellite id and the id of the
registration become aliases of it. All of these share one table, so a
registration can take an alias from another node. The nodes stay addressable in
every run whose registrations take none (`run_addressable`), and one that does
breaks it at once (`registerNode_consistent_iff`).
-/

namespace Actuator.Coordinator

open Actuator.Lib

inductive NodeStatus where
  | unknown
  | initializing
  | healthy
  | degraded
  | busy
  | offline
  | fault
  | maintenance
deriving DecidableEq, Repr

structure NodeInfo where
  nodeId : Str
  satelliteId : Str
  nodeName : Str
  nodeType : Str
  status : NodeStatus := .unknown
  registerTimeMs : UInt64 := 0
  lastHeartbeatMs : UInt64 := 0
  isOnline : Bool := false
deriving DecidableEq

/-- `NodeRegisterMessage`, as far as the registry reads it. -/
structure NodeRegisterMessage where
  nodeId : Str
  nodeName : Str
  nodeType : Str
  metadata : OrdMap Str Str

structure NodeRegistry where
  nodes : OrdMap Str NodeInfo := OrdMap.empty
  aliasToNodeId : OrdMap Str Str := OrdMap.empty
  initialized : Bool := false

/-! ## Registrations -/

namespace NodeRegisterMessage

/-- The member of the metadata, or the id of the message when the member is missing or empty. -/
def named (msg : NodeRegisterMessage) (key : Str) : Str :=
  let name := (msg.metadata.find? key).getD []
  if name.isEmpty then msg.nodeId else name

/-- The ids of the node and of the satellite, or `none` when there is neither. -/
def ids (msg : NodeRegisterMessage) : Option (Str × Str) :=
  let commNodeId := msg.named (lit "node_id")
  let satelliteId := msg.named (lit "satellite_id")
  if commNodeId.isEmpty && satelliteId.isEmpty then none
  else
    let commNodeId := if commNodeId.isEmpty then satelliteId else commNodeId
    some (commNodeId, if satelliteId.isEmpty then commNodeId else satelliteId)

end NodeRegisterMessage

namespace NodeRegistry

def resolveNodeIdLocked (registry : NodeRegistry) (nodeId : Str) : Str := (registry.aliasToNodeId.find? nodeId).getD nodeId

def eraseAliasesLocked (canonicalNodeId : Str) (aliases : OrdMap Str Str) : OrdMap Str Str :=
  aliases.filter fun _ nodeId => nodeId ≠ canonicalNodeId

/-- `eraseAliasesLocked(existing_sat->second)`: the argument refers into the entry under `satelliteId` of the map that
the loop erases from. The entry equals itself and is erased, and the comparisons behind it read freed memory: `dangling`
says of each alias there whether its comparison comes out equal. -/
def eraseAliasesOfEntry (dangling : Str → Bool) (satelliteId existing : Str) (aliases : OrdMap Str Str) : OrdMap Str Str :=
  aliases.filter fun name nodeId => if name ≤ satelliteId then nodeId ≠ existing else !dangling name

/-- The node that held the satellite id before gives way. -/
def evict (dangling : Str → Bool) (commNodeId satelliteId : Str) (registry : NodeRegistry) : NodeRegistry :=
  match registry.aliasToNodeId.find? satelliteId with
  | some existing =>
    if existing ≠ commNodeId then
      { registry with
        nodes := registry.nodes.erase existing
        aliasToNodeId := eraseAliasesOfEntry dangling satelliteId existing registry.aliasToNodeId }
    else registry
  | none => registry

def enroll (now : UInt64) (msg : NodeRegisterMessage) (commNodeId satelliteId : Str) (registry : NodeRegistry) :
    NodeRegistry :=
  let info : NodeInfo := {
    nodeId := commNodeId
    satelliteId
    nodeName := msg.nodeName
    nodeType := msg.nodeType
    status := .healthy
    registerTimeMs := now
    lastHeartbeatMs := now
    isOnline := true }
  let aliases := ((eraseAliasesLocked commNodeId registry.aliasToNodeId).insert commNodeId commNodeId).insert satelliteId
    commNodeId
  { registry with
    nodes := registry.nodes.insert commNodeId info
    aliasToNodeId := if msg.nodeId.isEmpty then aliases else aliases.insert msg.nodeId commNodeId }

def initializeRegistry (registry : NodeRegistry) : NodeRegistry := { registry with initialized := true }

def shutdown (registry : NodeRegistry) : NodeRegistry := if registry.initialized then {} else registry

/-- The assigned id, or `none` for `false`. -/
def registerNode (now : UInt64) (dangling : Str → Bool) (msg : NodeRegisterMessage) (registry : NodeRegistry) :
    Option Str × NodeRegistry :=
  if registry.initialized then
    match msg.ids with
    | some (commNodeId, satelliteId) =>
      (some commNodeId, (registry.evict dangling commNodeId satelliteId).enroll now msg commNodeId satelliteId)
    | none => (none, registry)
  else (none, registry)

def unregisterNode (nodeId : Str) (registry : NodeRegistry) : Bool × NodeRegistry :=
  let resolvedId := registry.resolveNodeIdLocked nodeId
  if registry.nodes.contains resolvedId then
    (true, { registry with
      nodes := registry.nodes.erase resolvedId
      aliasToNodeId := eraseAliasesLocked resolvedId registry.aliasToNodeId })
  else (false, registry)

def getNodeInfo (registry : NodeRegistry) (nodeId : Str) : Option NodeInfo :=
  registry.nodes.find? (registry.resolveNodeIdLocked nodeId)

def getAllNodeIds (registry : NodeRegistry) : List Str := registry.nodes.entries.map Prod.fst

/-- An operation on the registry, with what it reads besides its arguments. -/
inductive Operation where
  | initializeRegistry
  | shutdown
  | registerNode (now : UInt64) (dangling : Str → Bool) (msg : NodeRegisterMessage)
  | unregisterNode (nodeId : Str)

def perform (registry : NodeRegistry) : Operation → NodeRegistry
  | .initializeRegistry => registry.initializeRegistry
  | .shutdown => registry.shutdown
  | .registerNode now dangling msg => (registry.registerNode now dangling msg).2
  | .unregisterNode nodeId => (registry.unregisterNode nodeId).2

/-! ## Addressable nodes -/

/-- Every live node answers to its id and to its satellite id, and an unregistered one no longer to any. -/
structure Addressable (registry : NodeRegistry) : Prop where
  live : ∀ nodeId ∈ registry.getAllNodeIds, ∃ info, registry.getNodeInfo nodeId = some info ∧ info.nodeId = nodeId ∧
    registry.resolveNodeIdLocked info.satelliteId = nodeId
  gone : ∀ nodeId registry', registry.unregisterNode nodeId = (true, registry') → registry'.getNodeInfo nodeId = none

/-- Each node is stored under its id, and no alias leads from the node's ids elsewhere. -/
structure Consistent (registry : NodeRegistry) : Prop where
  own : ∀ nodeId info, registry.nodes.find? nodeId = some info → info.nodeId = nodeId
  node : ∀ nodeId info, registry.nodes.find? nodeId = some info → registry.resolveNodeIdLocked nodeId = nodeId
  satellite : ∀ nodeId info, registry.nodes.find? nodeId = some info →
    registry.resolveNodeIdLocked info.satelliteId = nodeId

/-! ### What can be read off the state -/

theorem mem_getAllNodeIds {registry : NodeRegistry} {nodeId : Str} :
    nodeId ∈ registry.getAllNodeIds ↔ ∃ info, registry.nodes.find? nodeId = some info := by
  constructor
  · intro mem
    obtain ⟨entry, inside, rfl⟩ := List.mem_map.1 mem
    exact ⟨entry.2, OrdMap.mem_entries.1 inside⟩
  · intro held
    obtain ⟨info, found⟩ := held
    exact List.mem_map.2 ⟨(nodeId, info), OrdMap.mem_entries.2 found, rfl⟩

theorem find?_eraseAliasesLocked (canonicalNodeId name : Str) (aliases : OrdMap Str Str) :
    (eraseAliasesLocked canonicalNodeId aliases).find? name =
      (aliases.find? name).filter fun nodeId => nodeId ≠ canonicalNodeId :=
  OrdMap.find?_filter _ aliases name

theorem unregisterNode_eq_true {registry registry' : NodeRegistry} {nodeId : Str}
    (removed : registry.unregisterNode nodeId = (true, registry')) :
    (∃ info, registry.nodes.find? (registry.resolveNodeIdLocked nodeId) = some info) ∧ registry' = { registry with
      nodes := registry.nodes.erase (registry.resolveNodeIdLocked nodeId)
      aliasToNodeId := eraseAliasesLocked (registry.resolveNodeIdLocked nodeId) registry.aliasToNodeId } := by
  simp only [unregisterNode] at removed
  split at removed
  · rename_i held
    cases removed
    exact ⟨OrdMap.contains_iff.1 held, rfl⟩
  · cases removed

theorem Consistent.gone {registry registry' : NodeRegistry} (consistent : registry.Consistent) {nodeId : Str}
    (removed : registry.unregisterNode nodeId = (true, registry')) : registry'.getNodeInfo nodeId = none := by
  obtain ⟨_, rfl⟩ := unregisterNode_eq_true removed
  have resolved : registry.resolveNodeIdLocked nodeId = (registry.aliasToNodeId.find? nodeId).getD nodeId := rfl
  generalize canonical : registry.resolveNodeIdLocked nodeId = resolvedId at resolved
  -- All aliases of the node are erased with it, so the id stands for itself from now on.
  have alone : ((eraseAliasesLocked resolvedId registry.aliasToNodeId).find? nodeId).getD nodeId = nodeId := by
    rw [find?_eraseAliasesLocked]
    cases found : registry.aliasToNodeId.find? nodeId with
    | none => rfl
    | some target => simp [resolved, found, Option.filter]
  unfold getNodeInfo resolveNodeIdLocked
  rw [alone, OrdMap.find?_erase]
  by_cases same : nodeId = resolvedId
  · rw [if_pos same]
  · rw [if_neg same]
    cases found : registry.nodes.find? nodeId with
    | none => rfl
    | some info => exact absurd (canonical.symm.trans (consistent.node nodeId info found)) (Ne.symm same)

/-- What the callers see is exactly the invariant. -/
theorem consistent_iff_addressable (registry : NodeRegistry) (own : ∀ nodeId info,
    registry.nodes.find? nodeId = some info → info.nodeId = nodeId) : registry.Consistent ↔ registry.Addressable := by
  constructor
  · intro consistent
    refine ⟨fun nodeId mem => ?_, fun nodeId registry' removed => consistent.gone removed⟩
    obtain ⟨info, found⟩ := mem_getAllNodeIds.1 mem
    refine ⟨info, ?_, own nodeId info found, consistent.satellite nodeId info found⟩
    rw [getNodeInfo, consistent.node nodeId info found, found]
  · intro addressable
    have resolves : ∀ nodeId info, registry.nodes.find? nodeId = some info →
        registry.resolveNodeIdLocked nodeId = nodeId ∧ registry.resolveNodeIdLocked info.satelliteId = nodeId := by
      intro nodeId info found
      obtain ⟨info', read, named, satellite⟩ := addressable.live nodeId (mem_getAllNodeIds.2 ⟨info, found⟩)
      have self : registry.resolveNodeIdLocked nodeId = nodeId := (own _ info' read).symm.trans named
      rw [getNodeInfo, self, found] at read
      cases read
      exact ⟨self, satellite⟩
    exact ⟨own, fun nodeId info found => (resolves nodeId info found).1,
      fun nodeId info found => (resolves nodeId info found).2⟩

/-! ## Registrations that take no name from another node -/

/-- The names that lead to the node after the registration. -/
def claimed (msg : NodeRegisterMessage) (commNodeId satelliteId : Str) : List Str :=
  [commNodeId, satelliteId] ++ if msg.nodeId.isEmpty then [] else [msg.nodeId]

/-- The alias lies behind the entry that the eviction erases, and its comparison comes out equal. -/
def Misread (dangling : Str → Bool) (commNodeId satelliteId name : Str) (registry : NodeRegistry) : Prop :=
  (∃ existing, registry.aliasToNodeId.find? satelliteId = some existing ∧ existing ≠ commNodeId) ∧
    satelliteId < name ∧ dangling name = true

/-- Of the nodes that stay, none has an id or a satellite id among the names of the registration, and the loop of the
eviction takes none of their aliases for one of the evicted node. -/
def Unchallenged (dangling : Str → Bool) (msg : NodeRegisterMessage) (registry : NodeRegistry) : Prop :=
  registry.initialized = true → ∀ commNodeId satelliteId, msg.ids = some (commNodeId, satelliteId) →
    ∀ nodeId info, registry.nodes.find? nodeId = some info → nodeId ≠ commNodeId →
      registry.aliasToNodeId.find? satelliteId ≠ some nodeId →
      nodeId ∉ claimed msg commNodeId satelliteId ∧ info.satelliteId ∉ claimed msg commNodeId satelliteId ∧
        (Misread dangling commNodeId satelliteId info.satelliteId registry → info.satelliteId = nodeId)

section Enrolment

variable {registry : NodeRegistry} {dangling : Str → Bool} {msg : NodeRegisterMessage} {commNodeId satelliteId : Str}
  (now : UInt64)

theorem resolve_enroll (name : Str) :
    (registry.enroll now msg commNodeId satelliteId).resolveNodeIdLocked name =
      if name ∈ claimed msg commNodeId satelliteId then commNodeId
      else ((registry.aliasToNodeId.find? name).filter fun nodeId => nodeId ≠ commNodeId).getD name := by
  unfold resolveNodeIdLocked enroll claimed
  by_cases anonymous : msg.nodeId.isEmpty = true
  · simp only [if_pos anonymous, List.append_nil, List.mem_cons, List.not_mem_nil, or_false, OrdMap.find?_insert,
      find?_eraseAliasesLocked]
    by_cases satellite : name = satelliteId
    · rw [if_pos satellite, if_pos (.inr satellite)]
      rfl
    · by_cases node : name = commNodeId
      · rw [if_neg satellite, if_pos node, if_pos (.inl node)]
        rfl
      · rw [if_neg satellite, if_neg node, if_neg (by tauto)]
  · simp only [if_neg anonymous, List.cons_append, List.nil_append, List.mem_cons, List.not_mem_nil, or_false,
      OrdMap.find?_insert, find?_eraseAliasesLocked]
    by_cases registration : name = msg.nodeId
    · rw [if_pos registration, if_pos (by tauto)]
      rfl
    · by_cases satellite : name = satelliteId
      · rw [if_neg registration, if_pos satellite, if_pos (by tauto)]
        rfl
      · by_cases node : name = commNodeId
        · rw [if_neg registration, if_neg satellite, if_pos node, if_pos (by tauto)]
          rfl
        · rw [if_neg registration, if_neg satellite, if_neg node, if_neg (by tauto)]

theorem find?_nodes_evict {nodeId : Str} (other : nodeId ≠ commNodeId) :
    (registry.evict dangling commNodeId satelliteId).nodes.find? nodeId =
      if registry.aliasToNodeId.find? satelliteId = some nodeId then none else registry.nodes.find? nodeId := by
  unfold evict
  cases held : registry.aliasToNodeId.find? satelliteId with
  | none => rfl
  | some existing =>
    by_cases same : existing = commNodeId
    · subst same
      simp [Ne.symm other]
    · simp [same, OrdMap.find?_erase, eq_comm]

/-- A name that resolved to a node that stays does so after the eviction, unless its alias was taken for one of the
evicted node. -/
theorem resolve_evict {nodeId name : Str} (resolves : registry.resolveNodeIdLocked name = nodeId)
    (other : nodeId ≠ commNodeId) (stays : registry.aliasToNodeId.find? satelliteId ≠ some nodeId) :
    (((registry.evict dangling commNodeId satelliteId).aliasToNodeId.find? name).filter fun nodeId =>
        nodeId ≠ commNodeId).getD name = nodeId ↔
      (Misread dangling commNodeId satelliteId name registry → name = nodeId) := by
  cases held : registry.aliasToNodeId.find? name with
  | none =>
    have itself : name = nodeId := by simpa [resolveNodeIdLocked, held] using resolves
    refine iff_of_true ?_ fun _ => itself
    have unheld : (registry.evict dangling commNodeId satelliteId).aliasToNodeId.find? name = none := by
      unfold evict
      split
      · split
        · exact (OrdMap.find?_filter _ _ name).trans (by rw [held]; rfl)
        · exact held
      · exact held
    rw [unheld]
    exact itself
  | some target =>
    have leads : target = nodeId := by simpa [resolveNodeIdLocked, held] using resolves
    subst leads
    by_cases misread : Misread dangling commNodeId satelliteId name registry
    · obtain ⟨⟨existing, before, different⟩, behind, equal⟩ := misread
      have erased : (registry.evict dangling commNodeId satelliteId).aliasToNodeId.find? name = none := by
        simp [evict, before, different, eraseAliasesOfEntry, OrdMap.find?_filter, held, not_le.2 behind, equal]
      rw [erased]
      exact ⟨fun itself _ => itself, fun itself => itself ⟨⟨existing, before, different⟩, behind, equal⟩⟩
    · refine iff_of_true ?_ fun read => absurd read misread
      have kept : (registry.evict dangling commNodeId satelliteId).aliasToNodeId.find? name = some target := by
        unfold evict
        split
        · rename_i existing before
          split
          · rename_i different
            have apart : target ≠ existing := fun same => stays (same ▸ before)
            by_cases front : name ≤ satelliteId
            · simp [eraseAliasesOfEntry, OrdMap.find?_filter, held, front, apart, Option.filter]
            · have unequal : dangling name = false := by
                by_contra equal
                exact misread ⟨⟨existing, before, different⟩, not_le.1 front, by simpa using equal⟩
              simp [eraseAliasesOfEntry, OrdMap.find?_filter, held, front, unequal, Option.filter]
          · exact held
        · exact held
      rw [kept]
      simp [Option.filter, other]

/-- Where a name of a node that stays leads after the whole registration. -/
theorem resolve_registered {nodeId name : Str} (resolves : registry.resolveNodeIdLocked name = nodeId)
    (other : nodeId ≠ commNodeId) (stays : registry.aliasToNodeId.find? satelliteId ≠ some nodeId) :
    ((registry.evict dangling commNodeId satelliteId).enroll now msg commNodeId satelliteId).resolveNodeIdLocked name =
        nodeId ↔
      name ∉ claimed msg commNodeId satelliteId ∧
        (Misread dangling commNodeId satelliteId name registry → name = nodeId) := by
  rw [resolve_enroll]
  by_cases taken : name ∈ claimed msg commNodeId satelliteId
  · rw [if_pos taken]
    exact iff_of_false (Ne.symm other) fun both => both.1 taken
  · rw [if_neg taken, resolve_evict resolves other stays, and_iff_right taken]

theorem find?_nodes_enroll (nodeId : Str) :
    (registry.enroll now msg commNodeId satelliteId).nodes.find? nodeId =
      if nodeId = commNodeId then (registry.enroll now msg commNodeId satelliteId).nodes.find? commNodeId
      else registry.nodes.find? nodeId := by
  by_cases same : nodeId = commNodeId
  · rw [if_pos same, same]
  · rw [if_neg same]
    exact OrdMap.find?_insert_of_ne _ _ same

theorem find?_enrolled {info : NodeInfo}
    (found : (registry.enroll now msg commNodeId satelliteId).nodes.find? commNodeId = some info) :
    info.nodeId = commNodeId ∧ info.satelliteId = satelliteId := by
  unfold enroll at found
  rw [OrdMap.find?_insert_self] at found
  cases found
  exact ⟨rfl, rfl⟩

/-- After the registration there are the new node and the nodes that stay. -/
theorem find?_registered {nodeId : Str} {info : NodeInfo} :
    ((registry.evict dangling commNodeId satelliteId).enroll now msg commNodeId satelliteId).nodes.find? nodeId = some info ∧
        nodeId ≠ commNodeId ↔
      registry.nodes.find? nodeId = some info ∧ nodeId ≠ commNodeId ∧
        registry.aliasToNodeId.find? satelliteId ≠ some nodeId := by
  rw [find?_nodes_enroll]
  constructor
  · intro both
    obtain ⟨found, other⟩ := both
    rw [if_neg other, find?_nodes_evict other] at found
    split at found
    · cases found
    · rename_i stays
      exact ⟨found, other, stays⟩
  · intro all
    obtain ⟨found, other, stays⟩ := all
    rw [if_neg other, find?_nodes_evict other, if_neg stays]
    exact ⟨found, other⟩

theorem registered_consistent_iff (consistent : registry.Consistent) :
    ((registry.evict dangling commNodeId satelliteId).enroll now msg commNodeId satelliteId).Consistent ↔
      ∀ nodeId info, registry.nodes.find? nodeId = some info → nodeId ≠ commNodeId →
        registry.aliasToNodeId.find? satelliteId ≠ some nodeId →
        nodeId ∉ claimed msg commNodeId satelliteId ∧ info.satelliteId ∉ claimed msg commNodeId satelliteId ∧
          (Misread dangling commNodeId satelliteId info.satelliteId registry → info.satelliteId = nodeId) := by
  constructor
  · intro after nodeId info found other stays
    obtain ⟨held, _⟩ := (find?_registered now).2 ⟨found, other, stays⟩
    have node := (resolve_registered now (consistent.node nodeId info found) other stays).1 (after.node nodeId info held)
    have satellite := (resolve_registered now (consistent.satellite nodeId info found) other stays).1
      (after.satellite nodeId info held)
    exact ⟨node.1, satellite⟩
  · intro unchallenged
    have names : ∀ name, name ∈ claimed msg commNodeId satelliteId →
        ((registry.evict dangling commNodeId satelliteId).enroll now msg commNodeId satelliteId).resolveNodeIdLocked name =
          commNodeId := fun name taken => (resolve_enroll now name).trans (if_pos taken)
    refine ⟨fun nodeId info held => ?_, fun nodeId info held => ?_, fun nodeId info held => ?_⟩
    · by_cases same : nodeId = commNodeId
      · subst same
        exact (find?_enrolled now held).1
      · obtain ⟨found, _, _⟩ := (find?_registered now).1 ⟨held, same⟩
        exact consistent.own nodeId info found
    · by_cases same : nodeId = commNodeId
      · subst same
        exact names nodeId (by simp [claimed])
      · obtain ⟨found, other, stays⟩ := (find?_registered now).1 ⟨held, same⟩
        have free := unchallenged nodeId info found other stays
        exact (resolve_registered now (consistent.node nodeId info found) other stays).2 ⟨free.1, fun _ => rfl⟩
    · by_cases same : nodeId = commNodeId
      · subst same
        rw [(find?_enrolled now held).2]
        exact names satelliteId (by simp [claimed])
      · obtain ⟨found, other, stays⟩ := (find?_registered now).1 ⟨held, same⟩
        have free := unchallenged nodeId info found other stays
        exact (resolve_registered now (consistent.satellite nodeId info found) other stays).2 free.2

/-- A registration keeps the nodes addressable if and only if it takes no name from one that stays. -/
theorem registerNode_consistent_iff (consistent : registry.Consistent) :
    (registry.registerNode now dangling msg).2.Consistent ↔ Unchallenged dangling msg registry := by
  unfold registerNode Unchallenged
  by_cases ready : registry.initialized = true
  · rw [if_pos ready]
    cases named : msg.ids with
    | none => exact iff_of_true consistent fun _ _ _ none => nomatch none
    | some ids =>
      constructor
      · intro after _ commNodeId satelliteId same
        cases same
        exact (registered_consistent_iff now consistent).1 after
      · intro unchallenged
        exact (registered_consistent_iff now consistent).2 (unchallenged ready ids.1 ids.2 rfl)
  · rw [if_neg ready]
    exact iff_of_true consistent fun started => absurd started ready

end Enrolment

/-! ## Runs -/

theorem consistent_empty (initialized : Bool) : Consistent { initialized } :=
  ⟨fun _ _ found => (nomatch found), fun _ _ found => (nomatch found), fun _ _ found => (nomatch found)⟩

theorem unregisterNode_consistent {registry : NodeRegistry} (consistent : registry.Consistent) (nodeId : Str) :
    (registry.unregisterNode nodeId).2.Consistent := by
  rcases removed : registry.unregisterNode nodeId with ⟨out, registry'⟩
  cases out with
  | false =>
    simp only [unregisterNode] at removed
    split at removed
    · cases removed
    · cases removed
      exact consistent
  | true =>
    obtain ⟨_, rfl⟩ := unregisterNode_eq_true removed
    generalize registry.resolveNodeIdLocked nodeId = resolvedId
    -- An alias is only erased with the node that it leads to.
    have keeps : ∀ name target, target ≠ resolvedId → registry.resolveNodeIdLocked name = target →
        ((eraseAliasesLocked resolvedId registry.aliasToNodeId).find? name).getD name = target := by
      intro name target stays resolves
      rw [find?_eraseAliasesLocked]
      unfold resolveNodeIdLocked at resolves
      cases held : registry.aliasToNodeId.find? name with
      | none => rwa [held] at resolves
      | some before =>
        have leads : before = target := by simpa [held] using resolves
        simp [Option.filter, leads, stays]
    have remaining : ∀ name info, (registry.nodes.erase resolvedId).find? name = some info →
        name ≠ resolvedId ∧ registry.nodes.find? name = some info := by
      intro name info found
      rw [OrdMap.find?_erase] at found
      split at found
      · cases found
      · rename_i other
        exact ⟨other, found⟩
    refine ⟨fun name info held => ?_, fun name info held => ?_, fun name info held => ?_⟩
    · exact consistent.own name info (remaining name info held).2
    · obtain ⟨other, found⟩ := remaining name info held
      exact keeps name name other (consistent.node name info found)
    · obtain ⟨other, found⟩ := remaining name info held
      exact keeps info.satelliteId name other (consistent.satellite name info found)

/-- Every registration of the run is unchallenged in the state in which it is made. -/
def AllUnchallenged : NodeRegistry → List Operation → Prop
  | _, [] => True
  | registry, operation :: rest =>
    (∀ now dangling msg, operation = .registerNode now dangling msg → Unchallenged dangling msg registry) ∧
      AllUnchallenged (registry.perform operation) rest

theorem perform_consistent {registry : NodeRegistry} (consistent : registry.Consistent) {operation : Operation}
    (unchallenged : ∀ now dangling msg, operation = .registerNode now dangling msg → Unchallenged dangling msg registry) :
    (registry.perform operation).Consistent := by
  cases operation with
  | initializeRegistry => exact ⟨consistent.own, consistent.node, consistent.satellite⟩
  | shutdown =>
    show (if registry.initialized then ({} : NodeRegistry) else registry).Consistent
    split
    · exact consistent_empty false
    · exact consistent
  | registerNode now dangling msg =>
    exact (registerNode_consistent_iff now consistent).2 (unchallenged now dangling msg rfl)
  | unregisterNode nodeId => exact unregisterNode_consistent consistent nodeId

theorem foldl_perform_consistent {registry : NodeRegistry} (consistent : registry.Consistent) {operations : List Operation}
    (unchallenged : AllUnchallenged registry operations) : (operations.foldl perform registry).Consistent := by
  induction operations generalizing registry with
  | nil => exact consistent
  | cons operation rest ih => exact ih (perform_consistent consistent unchallenged.1) unchallenged.2

/-- In every state that a run of unchallenged registrations reaches, the nodes are addressable. -/
theorem run_addressable {operations : List Operation} (unchallenged : AllUnchallenged {} operations) :
    (operations.foldl perform {}).Addressable := by
  have consistent := foldl_perform_consistent (consistent_empty false) unchallenged
  exact (consistent_iff_addressable _ consistent.own).1 consistent

/-! ## Two nodes and one name -/

/-- A registration as the coordinator makes it. -/
def sampleRegistration (nodeId satelliteId : Str) : Operation :=
  .registerNode 1000 (fun _ => true) {
    nodeId
    nodeName := satelliteId
    nodeType := lit "SATELLITE"
    metadata := OrdMap.ofList [(lit "node_id", nodeId), (lit "satellite_id", satelliteId)] }

/-- The satellite moves to another node, and the first node gives way. -/
def movedSatellite : List Operation :=
  [.initializeRegistry, sampleRegistration (lit "N1") (lit "S1"), sampleRegistration (lit "N2") (lit "S1")]

theorem movedSatellite_unchallenged : AllUnchallenged {} movedSatellite := by
  refine ⟨fun _ _ _ none => (nomatch none), fun _ _ _ _ _ _ _ _ nodeId info found => (nomatch found), ?_, trivial⟩
  intro now dangling msg same _ commNodeId satelliteId named nodeId info found other stays
  cases same
  cases named
  have live : (((({} : NodeRegistry).perform .initializeRegistry).perform
      (sampleRegistration (lit "N1") (lit "S1"))).getAllNodeIds) = [lit "N1"] := by decide
  have listed := mem_getAllNodeIds.2 ⟨info, found⟩
  rw [live] at listed
  cases List.mem_singleton.1 listed
  exact absurd rfl stays

theorem run_addressable_sample : (movedSatellite.foldl perform {}).Addressable :=
  run_addressable movedSatellite_unchallenged

/-- The second node has the id that is the first one's satellite id. -/
def sharedName : List Operation :=
  [.initializeRegistry, sampleRegistration (lit "N1") (lit "S1"), sampleRegistration (lit "S1") (lit "S2")]

/-- Both nodes are live, and the satellite id of the first leads to the second. -/
theorem sharedName_not_addressable :
    (sharedName.foldl perform {}).getAllNodeIds = [lit "N1", lit "S1"] ∧
      ((sharedName.foldl perform {}).getNodeInfo (lit "N1")).map (·.satelliteId) = some (lit "S1") ∧
      (sharedName.foldl perform {}).resolveNodeIdLocked (lit "S1") = lit "S1" ∧
      ¬ (sharedName.foldl perform {}).Addressable := by
  refine ⟨by decide, by decide, by decide, fun addressable => ?_⟩
  obtain ⟨info, read, _, satellite⟩ := addressable.live (lit "N1") (by decide)
  have recorded : ((sharedName.foldl perform {}).getNodeInfo (lit "N1")).map (·.satelliteId) = some (lit "S1") := by decide
  rw [read] at recorded
  have name : info.satelliteId = lit "S1" := Option.some.inj recorded
  rw [name] at satellite
  exact absurd satellite (by decide)

end NodeRegistry

end Actuator.Coordinator
