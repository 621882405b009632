import Actuator.Coordinator.NodeRegistry

/-!
# Where the aliases lead

The alias table and the table of the nodes are kept in step: whatever is
registered and unregistered, an alias leads to a node (`run_closed`). This
takes the argument of `eraseAliasesLocked` for a value. The eviction passes a
reference into the table that the loop erases from, and reads it while the entry
is there only when that entry is the last of the table
(`registerNodeThrough_reads_iff`).
-/

namespace Actuator.Coordinator.NodeRegistry

open Actuator.Lib

/-! ## The argument taken by value -/

/-- `evict` with a copy of the id that is evicted. -/
def evictByValue (commNodeId satelliteId : Str) (registry : NodeRegistry) : NodeRegistry :=
  match registry.aliasToNodeId.find? satelliteId with
  | some existing =>
    if existing ≠ commNodeId then
      { registry with
        nodes := registry.nodes.erase existing
        aliasToNodeId := eraseAliasesLocked existing registry.aliasToNodeId }
    else registry
  | none => registry

def registerNodeByValue (now : UInt64) (msg : NodeRegisterMessage) (registry : NodeRegistry) :
    Option Str × NodeRegistry :=
  if registry.initialized then
    match msg.ids with
    | some (commNodeId, satelliteId) =>
      (some commNodeId, (registry.evictByValue commNodeId satelliteId).enroll now msg commNodeId satelliteId)
    | none => (none, registry)
  else (none, registry)

def performByValue (registry : NodeRegistry) : Operation → NodeRegistry
  | .registerNode now _ msg => (registry.registerNodeByValue now msg).2
  | operation => registry.perform operation

/-- Every alias leads to a registered node. -/
def Closed (registry : NodeRegistry) : Prop :=
  ∀ name nodeId, registry.aliasToNodeId.find? name = some nodeId → ∃ info, registry.nodes.find? nodeId = some info

theorem closed_empty (initialized : Bool) : Closed { initialized } := fun _ _ found => nomatch found

/-- A node may go when all of its aliases go with it. -/
theorem Closed.remove {registry : NodeRegistry} (closed : registry.Closed) (nodeId : Str) :
    Closed { registry with
      nodes := registry.nodes.erase nodeId
      aliasToNodeId := eraseAliasesLocked nodeId registry.aliasToNodeId } := by
  intro name target found
  rw [find?_eraseAliasesLocked, Option.filter_eq_some_iff] at found
  obtain ⟨held, other⟩ := found
  obtain ⟨info, stored⟩ := closed name target held
  refine ⟨info, ?_⟩
  rw [OrdMap.find?_erase, if_neg (by simpa using other)]
  exact stored

theorem Closed.evictByValue {registry : NodeRegistry} (closed : registry.Closed) (commNodeId satelliteId : Str) :
    (registry.evictByValue commNodeId satelliteId).Closed := by
  unfold NodeRegistry.evictByValue
  split
  · split
    · exact closed.remove _
    · exact closed
  · exact closed

/-- An alias in the table after the registration leads to the new node, or was there and does not. -/
theorem find?_aliases_enroll {registry : NodeRegistry} {msg : NodeRegisterMessage} {commNodeId satelliteId : Str}
    (now : UInt64) {name nodeId : Str}
    (found : (registry.enroll now msg commNodeId satelliteId).aliasToNodeId.find? name = some nodeId) :
    nodeId = commNodeId ∨ nodeId ≠ commNodeId ∧ registry.aliasToNodeId.find? name = some nodeId := by
  by_cases node : nodeId = commNodeId
  · exact .inl node
  · have inserted : ∀ {aliases : OrdMap Str Str} {key : Str}, (aliases.insert key commNodeId).find? name = some nodeId →
        aliases.find? name = some nodeId := by
      intro aliases key read
      rw [OrdMap.find?_insert] at read
      split at read
      · exact absurd (Option.some.inj read).symm node
      · exact read
    have erased : (eraseAliasesLocked commNodeId registry.aliasToNodeId).find? name = some nodeId := by
      unfold enroll at found
      dsimp only at found
      split at found
      · exact inserted (inserted found)
      · exact inserted (inserted (inserted found))
    rw [find?_eraseAliasesLocked, Option.filter_eq_some_iff] at erased
    exact .inr ⟨node, erased.1⟩

theorem Closed.enroll {registry : NodeRegistry} (closed : registry.Closed) (now : UInt64) (msg : NodeRegisterMessage)
    (commNodeId satelliteId : Str) : (registry.enroll now msg commNodeId satelliteId).Closed := by
  intro name nodeId found
  rcases find?_aliases_enroll now found with new | old
  · subst new
    exact ⟨_, OrdMap.find?_insert_self _ _ _⟩
  · obtain ⟨other, held⟩ := old
    obtain ⟨info, stored⟩ := closed name nodeId held
    refine ⟨info, ?_⟩
    rw [find?_nodes_enroll, if_neg other]
    exact stored

theorem Closed.performByValue {registry : NodeRegistry} (closed : registry.Closed) (operation : Operation) :
    (registry.performByValue operation).Closed := by
  cases operation with
  | initializeRegistry => exact closed
  | shutdown =>
    show (if registry.initialized then ({} : NodeRegistry) else registry).Closed
    split
    · exact closed_empty false
    · exact closed
  | registerNode now dangling msg =>
    show (registry.registerNodeByValue now msg).2.Closed
    unfold registerNodeByValue
    split
    · split
      · exact (closed.evictByValue _ _).enroll now msg _ _
      · exact closed
    · exact closed
  | unregisterNode nodeId =>
    show (registry.unregisterNode nodeId).2.Closed
    unfold unregisterNode
    dsimp only
    split
    · exact closed.remove _
    · exact closed

theorem foldl_performByValue_closed {registry : NodeRegistry} (closed : registry.Closed) (operations : List Operation) :
    (operations.foldl performByValue registry).Closed := by
  induction operations generalizing registry with
  | nil => exact closed
  | cons operation rest ih => exact ih (closed.performByValue operation)

/-- The names under which a registration makes its node known are answered with that node. -/
theorem registerNodeByValue_answers {registry registry' : NodeRegistry} {now : UInt64} {msg : NodeRegisterMessage}
    {nodeId : Str} (registered : registry.registerNodeByValue now msg = (some nodeId, registry')) :
    ∃ satelliteId, msg.ids = some (nodeId, satelliteId) ∧ ∀ name ∈ claimed msg nodeId satelliteId,
      ∃ info, registry'.getNodeInfo name = some info ∧ info.nodeId = nodeId := by
  unfold registerNodeByValue at registered
  split at registered
  · split at registered
    · rename_i commNodeId satelliteId named
      cases registered
      refine ⟨satelliteId, named, fun name known => ?_⟩
      rw [getNodeInfo, resolve_enroll now, if_pos known]
      exact ⟨_, OrdMap.find?_insert_self _ _ _, rfl⟩
    · cases registered
  · cases registered

/-- In every state of every run the aliases lead to registered nodes, and a registration can be looked up under each of
the names that it used. -/
theorem run_closed (operations : List Operation) :
    ((operations.foldl performByValue {}).Closed ∧
      ∀ name nodeId, (operations.foldl performByValue {}).aliasToNodeId.find? name = some nodeId →
        ∃ info, (operations.foldl performByValue {}).getNodeInfo name = some info) ∧
    ∀ now msg nodeId registry',
      (operations.foldl performByValue {}).registerNodeByValue now msg = (some nodeId, registry') →
        ∃ satelliteId, msg.ids = some (nodeId, satelliteId) ∧
          (∃ info, registry'.getNodeInfo nodeId = some info ∧ info.nodeId = nodeId) ∧
          (∃ info, registry'.getNodeInfo satelliteId = some info ∧ info.nodeId = nodeId) ∧
          (msg.nodeId ≠ [] → ∃ info, registry'.getNodeInfo msg.nodeId = some info ∧ info.nodeId = nodeId) := by
  have closed := foldl_performByValue_closed (closed_empty false) operations
  refine ⟨⟨closed, fun name nodeId found => ?_⟩, fun now msg nodeId registry' registered => ?_⟩
  · obtain ⟨info, stored⟩ := closed name nodeId found
    refine ⟨info, ?_⟩
    rw [getNodeInfo, resolveNodeIdLocked, found]
    exact stored
  · obtain ⟨satelliteId, named, answers⟩ := registerNodeByValue_answers registered
    refine ⟨satelliteId, named, answers nodeId (by simp [claimed]), answers satelliteId (by simp [claimed]), fun given => ?_⟩
    exact answers msg.nodeId (by simp [claimed, given])

/-- A registration as the coordinator makes it, for the satellite on the node. -/
def coordinatorMessage (nodeId satelliteId : Str) : NodeRegisterMessage where
  nodeId := nodeId
  nodeName := satelliteId
  nodeType := lit "SATELLITE"
  metadata := OrdMap.ofList [(lit "satellite_id", satelliteId), (lit "node_id", nodeId)]

/-- After a run in which the satellite moved, a third node takes it over. -/
theorem run_closed_sample :
    ∃ registry', (movedSatellite.foldl performByValue {}).registerNodeByValue 2000
        (coordinatorMessage (lit "N3") (lit "S1")) = (some (lit "N3"), registry') ∧
      ∃ info, registry'.getNodeInfo (lit "S1") = some info ∧ info.nodeId = lit "N3" := by
  have registered : (movedSatellite.foldl performByValue {}).registerNodeByValue 2000
      (coordinatorMessage (lit "N3") (lit "S1")) = (some (lit "N3"), ((movedSatellite.foldl performByValue
        {}).registerNodeByValue 2000 (coordinatorMessage (lit "N3") (lit "S1"))).2) := rfl
  refine ⟨_, registered, ?_⟩
  obtain ⟨satelliteId, named, _, satellite, _⟩ := (run_closed movedSatellite).2 2000 _ _ _ registered
  have own : (coordinatorMessage (lit "N3") (lit "S1")).ids = some (lit "N3", lit "S1") := by decide
  cases named.symm.trans own
  exact satellite

/-! ## The argument read through its entry -/

/-- The loop of `eraseAliasesLocked` over the entries that are left, with an argument that lives in the entry
`reference`: a comparison reads it there, and there is no result when the entry is gone. -/
def eraseAliasesThrough (reference : Str) : List (Str × Str) → OrdMap Str Str → Option (OrdMap Str Str)
  | [], aliases => some aliases
  | (name, nodeId) :: rest, aliases =>
    match aliases.find? reference with
    | some canonicalNodeId =>
      eraseAliasesThrough reference rest (if nodeId = canonicalNodeId then aliases.erase name else aliases)
    | none => none

/-- `evict` as it is written: `existing_sat->second` is read at every comparison. -/
def evictThrough (commNodeId satelliteId : Str) (registry : NodeRegistry) : Option NodeRegistry :=
  match registry.aliasToNodeId.find? satelliteId with
  | some existing =>
    if existing ≠ commNodeId then
      (eraseAliasesThrough satelliteId registry.aliasToNodeId.entries registry.aliasToNodeId).map fun aliases =>
        { registry with nodes := registry.nodes.erase existing, aliasToNodeId := aliases }
    else some registry
  | none => some registry

/-- `registerNode`, without a result when it reads a freed entry. -/
def registerNodeThrough (now : UInt64) (msg : NodeRegisterMessage) (registry : NodeRegistry) :
    Option (Option Str × NodeRegistry) :=
  if registry.initialized then
    match msg.ids with
    | some (commNodeId, satelliteId) =>
      (registry.evictThrough commNodeId satelliteId).map fun evicted =>
        (some commNodeId, evicted.enroll now msg commNodeId satelliteId)
    | none => some (none, registry)
  else some (none, registry)

section Loop

variable {reference existing : Str}

/-- Up to the end of the table the entry is read while it is there, if no other comes behind it. -/
theorem eraseAliasesThrough_of_last {l : List (Str × Str)} (sorted : l.Pairwise fun a b => a.1 < b.1)
    (last : ∀ e ∈ l, e.1 ≤ reference) {aliases : OrdMap Str Str} (held : aliases.find? reference = some existing) :
    ∃ remaining, eraseAliasesThrough reference l aliases = some remaining ∧
      ∀ name, remaining.find? name = if (name, existing) ∈ l then none else aliases.find? name := by
  induction l generalizing aliases with
  | nil => exact ⟨aliases, rfl, fun name => by simp⟩
  | cons e rest ih =>
    obtain ⟨name, nodeId⟩ := e
    obtain ⟨first, later⟩ := List.pairwise_cons.1 sorted
    have lastRest : ∀ e ∈ rest, e.1 ≤ reference := fun e mem => last e (List.mem_cons_of_mem _ mem)
    simp only [eraseAliasesThrough, held]
    by_cases equal : nodeId = existing
    · subst equal
      rw [if_pos rfl]
      have absent : ∀ other, (other, nodeId) ∈ (name, nodeId) :: rest ↔ other = name ∨ (other, nodeId) ∈ rest := by
        simp
      by_cases own : name = reference
      · -- The entry itself: nothing is compared after it.
        have done : rest = [] := by
          refine List.eq_nil_iff_forall_not_mem.2 fun e mem => ?_
          exact absurd (first e mem) (not_lt.2 (own ▸ lastRest e mem))
        subst done
        refine ⟨_, rfl, fun other => ?_⟩
        rw [OrdMap.find?_erase]
        simp
      · have kept : (aliases.erase name).find? reference = some nodeId := by
          rw [OrdMap.find?_erase, if_neg (Ne.symm own)]
          exact held
        obtain ⟨remaining, ran, left⟩ := ih later lastRest kept
        refine ⟨remaining, ran, fun other => ?_⟩
        rw [left other, OrdMap.find?_erase]
        by_cases inRest : (other, nodeId) ∈ rest
        · rw [if_pos inRest, if_pos ((absent other).2 (.inr inRest))]
        · rw [if_neg inRest]
          by_cases same : other = name
          · rw [if_pos same, if_pos ((absent other).2 (.inl same))]
          · rw [if_neg same, if_neg fun mem => ((absent other).1 mem).elim same inRest]
    · rw [if_neg equal]
      obtain ⟨remaining, ran, left⟩ := ih later lastRest held
      refine ⟨remaining, ran, fun other => ?_⟩
      have skip : (other, existing) ∈ (name, nodeId) :: rest ↔ (other, existing) ∈ rest := by
        simp [Ne.symm equal]
      rw [left other]
      simp only [skip]

/-- The comparison with the first entry behind finds the referenced one erased. -/
theorem eraseAliasesThrough_of_behind {l : List (Str × Str)} (sorted : l.Pairwise fun a b => a.1 < b.1)
    (listed : (reference, existing) ∈ l) (behind : ∃ e ∈ l, reference < e.1) {aliases : OrdMap Str Str}
    (held : aliases.find? reference = some existing) : eraseAliasesThrough reference l aliases = none := by
  induction l generalizing aliases with
  | nil => cases listed
  | cons e rest ih =>
    obtain ⟨name, nodeId⟩ := e
    obtain ⟨first, later⟩ := List.pairwise_cons.1 sorted
    obtain ⟨e, mem, less⟩ := behind
    simp only [eraseAliasesThrough, held]
    rcases List.mem_cons.1 listed with own | inRest
    · cases own
      rw [if_pos rfl]
      have gone : (aliases.erase reference).find? reference = none := by
        rw [OrdMap.find?_erase, if_pos rfl]
      cases rest with
      | nil =>
        rw [List.mem_singleton.1 mem] at less
        exact absurd less (lt_irrefl _)
      | cons e rest =>
        simp only [eraseAliasesThrough, gone]
    · have before : name < reference := first _ inRest
      have lessRest : e ∈ rest := by
        rcases List.mem_cons.1 mem with rfl | inside
        · exact absurd less (not_lt.2 (le_of_lt before))
        · exact inside
      refine ih later inRest ⟨e, lessRest, less⟩ ?_
      split
      · rw [OrdMap.find?_erase, if_neg (ne_of_gt before)]
        exact held
      · exact held

end Loop

section Reads

variable {registry : NodeRegistry} {commNodeId satelliteId existing : Str}

/-- No alias sorts behind the entry. -/
def LastAlias (registry : NodeRegistry) (satelliteId : Str) : Prop :=
  ∀ name, registry.aliasToNodeId.contains name = true → name ≤ satelliteId

theorem lastAlias_iff : registry.LastAlias satelliteId ↔ ∀ e ∈ registry.aliasToNodeId.entries, e.1 ≤ satelliteId := by
  constructor
  · intro last e mem
    exact last e.1 (OrdMap.contains_iff.2 ⟨e.2, OrdMap.mem_entries.1 mem⟩)
  · intro last name held
    obtain ⟨nodeId, found⟩ := OrdMap.contains_iff.1 held
    exact last _ (OrdMap.mem_entries.2 found)

/-- Where the argument is read while it is there, it is as good as a copy. -/
theorem evictThrough_of_last (last : registry.LastAlias satelliteId) :
    registry.evictThrough commNodeId satelliteId = some (registry.evictByValue commNodeId satelliteId) := by
  unfold evictThrough evictByValue
  split
  · rename_i existing held
    split
    · obtain ⟨remaining, ran, left⟩ :=
        eraseAliasesThrough_of_last registry.aliasToNodeId.sorted (lastAlias_iff.1 last) held
      have same : remaining = eraseAliasesLocked existing registry.aliasToNodeId := by
        refine OrdMap.ext_find? fun name => ?_
        rw [left name, find?_eraseAliasesLocked]
        cases found : registry.aliasToNodeId.find? name with
        | none => simp [OrdMap.mem_entries, found]
        | some nodeId =>
          by_cases equal : nodeId = existing
          · rw [if_pos (OrdMap.mem_entries.2 (equal ▸ found))]
            simp [Option.filter, equal]
          · rw [if_neg fun mem => equal (Option.some.inj (found.symm.trans (OrdMap.mem_entries.1 mem)))]
            simp [Option.filter, equal]
      rw [ran, same]
      rfl
    · rfl
  · rfl

theorem evictThrough_of_behind (held : registry.aliasToNodeId.find? satelliteId = some existing)
    (moves : existing ≠ commNodeId) (behind : ¬ registry.LastAlias satelliteId) :
    registry.evictThrough commNodeId satelliteId = none := by
  have later : ∃ e ∈ registry.aliasToNodeId.entries, satelliteId < e.1 := by
    rw [lastAlias_iff] at behind
    push Not at behind
    exact behind
  simp only [evictThrough, held]
  rw [if_pos moves,
    eraseAliasesThrough_of_behind registry.aliasToNodeId.sorted (OrdMap.mem_entries.2 held) later held]
  rfl

/-- What the freed memory holds does not matter when nothing is read from it. -/
theorem evict_of_last (dangling : Str → Bool) (last : registry.LastAlias satelliteId) :
    registry.evict dangling commNodeId satelliteId = registry.evictByValue commNodeId satelliteId := by
  unfold evict evictByValue
  cases held : registry.aliasToNodeId.find? satelliteId with
  | none => rfl
  | some existing =>
    by_cases moves : existing ≠ commNodeId
    · have same : eraseAliasesOfEntry dangling satelliteId existing registry.aliasToNodeId =
          eraseAliasesLocked existing registry.aliasToNodeId := by
        refine OrdMap.ext_find? fun name => ?_
        unfold eraseAliasesOfEntry eraseAliasesLocked
        rw [OrdMap.find?_filter, OrdMap.find?_filter]
        cases found : registry.aliasToNodeId.find? name with
        | none => rfl
        | some nodeId =>
          have front : name ≤ satelliteId := last name (OrdMap.contains_iff.2 ⟨nodeId, found⟩)
          simp [front]
      simp only [if_pos moves, same]
    · simp only [if_neg moves]

/-- A satellite that moves to another node: the loop reads its argument while it is there, and leaves no alias of the old
node, if and only if the satellite's own alias is the last in the table. -/
theorem registerNodeThrough_reads_iff {msg : NodeRegisterMessage} (now : UInt64) (ready : registry.initialized = true)
    (named : msg.ids = some (commNodeId, satelliteId))
    (held : registry.aliasToNodeId.find? satelliteId = some existing) (moves : existing ≠ commNodeId) :
    (∃ registry', registry.registerNodeThrough now msg = some (some commNodeId, registry') ∧
      ∀ name, registry'.aliasToNodeId.find? name ≠ some existing) ↔ registry.LastAlias satelliteId := by
  simp only [registerNodeThrough, ready, if_true, named]
  constructor
  · intro reads
    obtain ⟨registry', ran, _⟩ := reads
    by_contra behind
    rw [evictThrough_of_behind held moves behind] at ran
    cases ran
  · intro last
    rw [evictThrough_of_last last]
    refine ⟨_, rfl, fun name found => ?_⟩
    rcases find?_aliases_enroll now found with new | old
    · exact moves new
    · simp only [evictByValue, held, if_pos moves, find?_eraseAliasesLocked, Option.filter_eq_some_iff] at old
      exact absurd old.2.2 (by simp)

end Reads

/-! ## One satellite moves, with another behind it -/

def registrations (satellites : List (Str × Str)) : NodeRegistry :=
  (satellites.map fun satellite => Operation.registerNode 1000 (fun _ => false)
    (coordinatorMessage satellite.1 satellite.2)).foldl perform (({} : NodeRegistry).perform .initializeRegistry)

theorem registerNodeThrough_reads_sample :
    ∃ registry', (registrations [(lit "N1", lit "S1")]).registerNodeThrough 2000
        (coordinatorMessage (lit "N2") (lit "S1")) = some (some (lit "N2"), registry') ∧
      ∀ name, registry'.aliasToNodeId.find? name ≠ some (lit "N1") := by
  have last : (registrations [(lit "N1", lit "S1")]).LastAlias (lit "S1") := lastAlias_iff.2 (by decide)
  exact (registerNodeThrough_reads_iff 2000 (by decide) (by decide) (by decide) (by decide)).2 last

/-- The alias of the second satellite is compared after the first one's is erased. -/
theorem registerNodeThrough_reads_freed :
    (registrations [(lit "N1", lit "S1"), (lit "N2", lit "S2")]).aliasToNodeId.find? (lit "S1") = some (lit "N1") ∧
      (registrations [(lit "N1", lit "S1"), (lit "N2", lit "S2")]).registerNodeThrough 2000
        (coordinatorMessage (lit "N3") (lit "S1")) = none := by
  decide

end Actuator.Coordinator.NodeRegistry
