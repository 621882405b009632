import Actuator.Parser.NumberTexts
import Actuator.Parser.ScheduleFailure

/-!
# Behaviour libraries

`BehaviorLibraryParser::parseBehaviorDefinition`: a behaviour is looked up by
its name in the document of the library, and its object is read with all the
objects below it. It is accepted exactly when the texts of every one of these
objects are texts (`parseBehaviorDefinition_accepts_iff`), and what is written
into a library is read back from it (`parseBehaviorDefinition_roundTrip`).
-/

namespace Actuator.Parser

open Actuator.Lib Actuator.Core

variable {D : Type}

def stringToNodeType (typeStr : Str) : NodeType :=
  if typeStr = lit "Sequence" then .sequence
  else if typeStr = lit "Selector" then .selector
  else if typeStr = lit "Parallel" then .parallel
  else if typeStr = lit "Action" then .action
  else if typeStr = lit "Condition" then .condition
  else if typeStr = lit "SubTree" then .subtree
  else .action

section Parsing

variable [CxxDouble D]

/-- A sensor is named by a text. -/
def sensorName : Json D → Option Str
  | .string s => some s
  | _ => none

/-- The texts of `observation`. -/
def parseObservation : Json D → StrMap
  | .object members => collected sensorName members
  | _ => OrdMap.empty

/-- A map that is read from the member with this key, if there is one. -/
def readMember (read : Json D → StrMap) (nodeJson : Json D) (key : Str) : StrMap :=
  match nodeJson.find? key with
  | some member => read member
  | none => OrdMap.empty

/-- `parseNodeFromJson`, on the members other than the children. The description is read but not kept. -/
def parseNodeData (nodeJson : Json D) : Except Str NodeData := do
  let name ← nodeJson.value Json.getString (lit "name") []
  let typeStr ← nodeJson.value Json.getString (lit "type") (lit "Action")
  let _description ← nodeJson.value Json.getString (lit "description") []
  let command ← nodeJson.value Json.getString (lit "command") []
  let expression ← nodeJson.value Json.getString (lit "expression") []
  return {
    name
    type := stringToNodeType typeStr
    command
    expression
    params := readMember parseScalarObjectToMap nodeJson (lit "params")
    variableInits := readMember parseVariables nodeJson (lit "variables")
    constants := readMember parseConstants nodeJson (lit "constants")
    observation := readMember parseObservation nodeJson (lit "observation") }

mutual

def parseNodeFromJson : Json D → Except Str BehaviorNode
  | .object members => do
    let data ← parseNodeData (.object members)
    let children ← parseChildrenOf members
    return .mk data children
  | j => do
    let data ← parseNodeData j
    return .mk data []

/-- The children of a node, if its members have an array of that name. -/
def parseChildrenOf : List (Str × Json D) → Except Str (List BehaviorNode)
  | [] => .ok []
  | (key, member) :: members =>
    if key = lit "children" then
      match member with
      | .array items => parseChildren items
      | _ => .ok []
    else parseChildrenOf members

/-- The loop over `children`, which skips what is no object. -/
def parseChildren : List (Json D) → Except Str (List BehaviorNode)
  | [] => .ok []
  | item :: items =>
    if item.isObject then do
      let child ← parseNodeFromJson item
      return child :: (← parseChildren items)
    else parseChildren items

end

/-- A node with a name, or with this one. -/
def named (behaviorName : Str) : BehaviorNode → BehaviorNode
  | .mk data children => .mk { data with name := if data.name.isEmpty then behaviorName else data.name } children

/-- `parseBehaviorDefinition`, on the text of the file or on `none` when it cannot be opened. -/
def parseBehaviorDefinition (json : JsonLibrary D) (libraryFile : Str) (content : Option Str) (behaviorName : Str) :
    Except Str BehaviorNode :=
  match content with
  | none => .error (lit "无法打开行为库文件: " ++ libraryFile)
  | some text => do
    let libraryJson ← json.parse text
    match libraryJson.find? (lit "behavior_definitions") with
    | some (.object behaviors) =>
      match OrdMap.lookupEntry behaviorName behaviors with
      | some (.object definition) => do
        let rootNode ← parseNodeFromJson (.object definition)
        return named behaviorName rootNode
      | _ => .error (lit "未找到行为定义: " ++ behaviorName)
    | _ => .error (lit "行为库文件缺少 behavior_definitions 对象")

end Parsing

/-! ## Accepted objects -/

mutual

/-- The objects that are read as nodes, each before its children. -/
def nodeObjects : Json D → List (Json D)
  | .object members => .object members :: childObjectsOf members
  | j => [j]

/-- The objects read as nodes below an object with these members. -/
def childObjectsOf : List (Str × Json D) → List (Json D)
  | [] => []
  | (key, member) :: members =>
    if key = lit "children" then
      match member with
      | .array items => childObjects items
      | _ => []
    else childObjectsOf members

def childObjects : List (Json D) → List (Json D)
  | [] => []
  | item :: items => if item.isObject then nodeObjects item ++ childObjects items else childObjects items

end

/-- The keys of the texts of a node. -/
def nodeTexts : List Str := [lit "name", lit "type", lit "description", lit "command", lit "expression"]

/-- The object can be read as a node: its texts are texts. -/
def readableNode (nodeJson : Json D) : Bool := nodeJson.isObject && nodeTexts.all (textOrAbsent nodeJson)

section Acceptance

variable [CxxDouble D]

theorem parseNodeData_ok {nodeJson : Json D} (fields : readableNode nodeJson = true) :
    ∃ data, parseNodeData nodeJson = .ok data := by
  unfold readableNode nodeTexts at fields
  simp only [List.all_cons, List.all_nil, Bool.and_true, Bool.and_eq_true] at fields
  obtain ⟨object, name, type, description, command, expression⟩ := fields
  obtain ⟨_, nameRead⟩ := value_ok_of_text object name []
  obtain ⟨_, typeRead⟩ := value_ok_of_text object type (lit "Action")
  obtain ⟨_, descriptionRead⟩ := value_ok_of_text object description []
  obtain ⟨_, commandRead⟩ := value_ok_of_text object command []
  obtain ⟨_, expressionRead⟩ := value_ok_of_text object expression []
  unfold parseNodeData
  rw [nameRead, typeRead, descriptionRead, commandRead, expressionRead]
  exact ⟨_, rfl⟩

omit [CxxDouble D] in
theorem textOrAbsent_of_value {nodeJson : Json D} {key default s : Str}
    (read : nodeJson.value Json.getString key default = .ok s) : textOrAbsent nodeJson key = true := by
  by_contra other
  obtain ⟨what, failed⟩ := value_error_of_not_text (Bool.eq_false_of_not_eq_true other) default
  cases read.symm.trans failed

theorem readableNode_of_ok {nodeJson : Json D} {data : NodeData} (read : parseNodeData nodeJson = .ok data) :
    readableNode nodeJson = true := by
  unfold parseNodeData at read
  obtain ⟨_, name, read⟩ := except_bind_eq_ok read
  obtain ⟨_, type, read⟩ := except_bind_eq_ok read
  obtain ⟨_, description, read⟩ := except_bind_eq_ok read
  obtain ⟨_, command, read⟩ := except_bind_eq_ok read
  obtain ⟨_, expression, _⟩ := except_bind_eq_ok read
  have object : nodeJson.isObject = true := by
    cases nodeJson with
    | object members => rfl
    | _ => cases name
  simp only [readableNode, nodeTexts, object, List.all_cons, List.all_nil, textOrAbsent_of_value name,
    textOrAbsent_of_value type, textOrAbsent_of_value description, textOrAbsent_of_value command,
    textOrAbsent_of_value expression, Bool.and_self]

/-- The node was read from the object. -/
def ReadFrom (nodeJson : Json D) (node : BehaviorNode) : Prop := parseNodeData nodeJson = .ok node.data

theorem readable_of_readFrom {objects : List (Json D)} {nodes : List BehaviorNode}
    (each : List.Forall₂ ReadFrom objects nodes) : ∀ nodeJson ∈ objects, readableNode nodeJson = true := by
  induction each with
  | nil => simp
  | cons first _ ih => exact List.forall_mem_cons.2 ⟨readableNode_of_ok first, ih⟩

/-- What reading these objects leads to: a node for each of them, or an exception for one that cannot be read. -/
inductive Reads {α : Type} (objects : List (Json D)) (nodes : α → List BehaviorNode) : Except Str α → Prop
  | all {a : α} (each : List.Forall₂ ReadFrom objects (nodes a)) : Reads objects nodes (.ok a)
  | broken {what : Str} {nodeJson : Json D} (among : nodeJson ∈ objects) (unreadable : readableNode nodeJson = false) :
    Reads objects nodes (.error what)

theorem Reads.of_data_error {α : Type} {objects : List (Json D)} {nodes : α → List BehaviorNode} {nodeJson : Json D}
    {what : Str} (among : nodeJson ∈ objects) (failed : parseNodeData nodeJson = .error what) :
    Reads objects nodes (.error what) := by
  refine .broken among (Bool.eq_false_of_not_eq_true fun fields => ?_)
  obtain ⟨data, read⟩ := parseNodeData_ok fields
  cases read.symm.trans failed

mutual

/-- By induction on the document. -/
theorem reads_parseNodeFromJson : ∀ j : Json D, Reads (nodeObjects j) BehaviorNode.subnodes (parseNodeFromJson j)
  | .object members => by
    unfold nodeObjects parseNodeFromJson
    cases own : parseNodeData (.object members) with
    | error what => exact .of_data_error List.mem_cons_self own
    | ok data =>
      have below := reads_parseChildrenOf members
      cases inside : parseChildrenOf members with
      | error what =>
        rw [inside] at below
        cases below with
        | broken among unreadable => exact .broken (List.mem_cons_of_mem _ among) unreadable
      | ok children =>
        rw [inside] at below
        cases below with
        | all each =>
          refine .all ?_
          unfold BehaviorNode.subnodes
          exact .cons own each
  | .null | .bool _ | .int _ | .float _ | .string _ | .array _ => .of_data_error List.mem_cons_self rfl

theorem reads_parseChildrenOf : ∀ members : List (Str × Json D),
    Reads (childObjectsOf members) BehaviorNode.subnodesOf (parseChildrenOf members)
  | [] => by
    unfold childObjectsOf parseChildrenOf
    exact .all .nil
  | (key, member) :: members => by
    unfold childObjectsOf parseChildrenOf
    split
    · cases member with
      | array items => exact reads_parseChildren items
      | _ => exact .all .nil
    · exact reads_parseChildrenOf members

theorem reads_parseChildren : ∀ items : List (Json D),
    Reads (childObjects items) BehaviorNode.subnodesOf (parseChildren items)
  | [] => by
    unfold childObjects parseChildren
    exact .all .nil
  | item :: items => by
    unfold childObjects parseChildren
    split
    · have first := reads_parseNodeFromJson item
      cases read : parseNodeFromJson item with
      | error what =>
        rw [read] at first
        cases first with
        | broken among unreadable => exact .broken (List.mem_append_left _ among) unreadable
      | ok child =>
        rw [read] at first
        cases first with
        | all each =>
          have later := reads_parseChildren items
          cases rest : parseChildren items with
          | error what =>
            rw [rest] at later
            cases later with
            | broken among unreadable => exact .broken (List.mem_append_right _ among) unreadable
          | ok children =>
            rw [rest] at later
            cases later with
            | all others =>
              refine .all ?_
              unfold BehaviorNode.subnodesOf
              exact List.rel_append each others
    · exact reads_parseChildren items

end

/-- The library holds the definition, an object, under the name. -/
inductive Defines (json : JsonLibrary D) : Option Str → Str → Json D → Prop
  | entry {text behaviorName : Str} {document : Json D} {behaviors members : List (Str × Json D)}
    (parsed : json.parse text = .ok document)
    (library : document.find? (lit "behavior_definitions") = some (.object behaviors))
    (listed : OrdMap.lookupEntry behaviorName behaviors = some (.object members)) :
    Defines json (some text) behaviorName (.object members)

theorem parseBehaviorDefinition_defined {json : JsonLibrary D} {content : Option Str} {behaviorName : Str}
    {definition : Json D} (defined : Defines json content behaviorName definition) (libraryFile : Str) :
    parseBehaviorDefinition json libraryFile content behaviorName =
      (parseNodeFromJson definition >>= fun root => .ok (named behaviorName root)) := by
  cases defined with
  | entry parsed library listed =>
    unfold parseBehaviorDefinition
    simp only [parsed, except_ok_bind, library, listed]
    rfl

theorem defines_of_ok {json : JsonLibrary D} {libraryFile behaviorName : Str} {content : Option Str}
    {node : BehaviorNode} (ok : parseBehaviorDefinition json libraryFile content behaviorName = .ok node) :
    ∃ definition, Defines json content behaviorName definition := by
  unfold parseBehaviorDefinition at ok
  cases content with
  | none => cases ok
  | some text =>
    obtain ⟨document, parsed, ok⟩ := except_bind_eq_ok ok
    split at ok
    · rename_i behaviors library
      split at ok
      · rename_i definition listed
        exact ⟨_, .entry parsed library listed⟩
      · cases ok
    · cases ok

/-- A behaviour is accepted exactly when the library holds it and all texts of its nodes are texts. Then each object is
one node, in the order of the document. -/
theorem parseBehaviorDefinition_accepts_iff (json : JsonLibrary D) (libraryFile : Str) (content : Option Str)
    (behaviorName : Str) :
    ((∃ node, parseBehaviorDefinition json libraryFile content behaviorName = .ok node) ↔
      ∃ definition, Defines json content behaviorName definition ∧
        ∀ nodeJson ∈ nodeObjects definition, readableNode nodeJson = true) ∧
    ∀ node, parseBehaviorDefinition json libraryFile content behaviorName = .ok node →
      ∃ definition root, Defines json content behaviorName definition ∧ node = named behaviorName root ∧
        List.Forall₂ ReadFrom (nodeObjects definition) root.subnodes := by
  have each : ∀ node, parseBehaviorDefinition json libraryFile content behaviorName = .ok node →
      ∃ definition root, Defines json content behaviorName definition ∧ node = named behaviorName root ∧
        List.Forall₂ ReadFrom (nodeObjects definition) root.subnodes := by
    intro node ok
    obtain ⟨definition, defined⟩ := defines_of_ok ok
    rw [parseBehaviorDefinition_defined defined] at ok
    obtain ⟨root, read, same⟩ := except_bind_eq_ok ok
    cases same
    have reads := reads_parseNodeFromJson definition
    rw [read] at reads
    cases reads with
    | all each => exact ⟨definition, root, defined, rfl, each⟩
  refine ⟨⟨fun accepted => ?_, fun readable => ?_⟩, each⟩
  · obtain ⟨node, ok⟩ := accepted
    obtain ⟨definition, root, defined, _, nodes⟩ := each node ok
    refine ⟨definition, defined, fun nodeJson among => ?_⟩
    exact readable_of_readFrom nodes nodeJson among
  · obtain ⟨definition, defined, fields⟩ := readable
    rw [parseBehaviorDefinition_defined defined]
    have reads := reads_parseNodeFromJson definition
    cases read : parseNodeFromJson definition with
    | ok root => exact ⟨_, rfl⟩
    | error what =>
      rw [read] at reads
      cases reads with
      | broken among unreadable =>
        rw [fields _ among] at unreadable
        cases unreadable

end Acceptance

/-! ## Written libraries -/

/-- How a type is written. -/
def typeText : NodeType → Str
  | .sequence => lit "Sequence"
  | .selector => lit "Selector"
  | .parallel => lit "Parallel"
  | .action => lit "Action"
  | .condition => lit "Condition"
  | .subtree => lit "SubTree"

/-- A variable is written with its initial value. -/
def initToJson (init : Str) : Json D := .ofMembers [(lit "init", .string init)]

def nodeMembers (data : NodeData) (children : List (Json D)) : List (Str × Json D) :=
  [(lit "name", .string data.name), (lit "type", .string (typeText data.type)), (lit "command", .string data.command),
    (lit "expression", .string data.expression), (lit "params", .ofStrMap data.params),
    (lit "variables", .ofMap (data.variableInits.mapValues initToJson)), (lit "constants", .ofStrMap data.constants),
    (lit "observation", .ofStrMap data.observation), (lit "children", .array children)]

mutual

def nodeToJson : BehaviorNode → Json D
  | .mk data children => .ofMembers (nodeMembers data (nodesToJson children))

def nodesToJson : List BehaviorNode → List (Json D)
  | [] => []
  | node :: nodes => nodeToJson node :: nodesToJson nodes

end

def libraryToJson (behaviors : OrdMap Str BehaviorNode) : Json D :=
  .ofMembers [(lit "behavior_definitions", .ofMap (behaviors.mapValues nodeToJson))]

theorem stringToNodeType_typeText (type : NodeType) : stringToNodeType (typeText type) = type := by
  cases type <;> decide

theorem nodeMembers_distinct (data : NodeData) (children : List (Json D)) :
    ((nodeMembers data children).map Prod.fst).Nodup := by
  show ([lit "name", lit "type", lit "command", lit "expression", lit "params", lit "variables", lit "constants",
    lit "observation", lit "children"] : List Str).Nodup
  decide

section RoundTrip

variable [CxxDouble D] {finite : D → Bool}

omit [CxxDouble D] in
/-- A map of texts is collected from the members that are written for it. -/
theorem collected_written (text : Json D → Option Str) (write : Str → Json D)
    (reads : ∀ s, text (.reread finite (write s)) = some s) (m : StrMap) :
    collected text (Json.rereadMembers finite (m.mapValues write).entries) = m := by
  have members : (Json.rereadMembers finite (m.mapValues write).entries).filterMap (fun member =>
      (text member.2).map (member.1, ·)) = m.entries := by
    rw [Json.rereadMembers_eq_map]
    show ((m.entries.map fun e => (e.1, write e.2)).map _).filterMap _ = _
    rw [List.map_map, List.filterMap_map]
    refine (List.filterMap_congr fun e _ => ?_).trans List.filterMap_some
    simp [reads]
  unfold collected
  rw [members]
  exact OrdMap.ofList_entries m

omit [CxxDouble D] in
/-- What is read from a member of a written node. -/
theorem readMember_written {data : NodeData} {children : List (Json D)} {read : Json D → StrMap} {key : Str} {j : Json D}
    (mem : (key, j) ∈ nodeMembers data children) :
    readMember read (.reread finite (.ofMembers (nodeMembers data children))) key = read (.reread finite j) := by
  unfold readMember
  rw [Json.reread_ofMembers_find? finite (nodeMembers_distinct data children) mem]

theorem parseNodeData_written (data : NodeData) (children : List (Json D)) :
    parseNodeData (.reread finite (.ofMembers (nodeMembers data children))) = .ok data := by
  have distinct := nodeMembers_distinct data children
  have member : ∀ n entry, (nodeMembers data children)[n]? = some entry → entry ∈ nodeMembers data children :=
    fun _ _ => List.mem_of_getElem?
  have text := fun key s mem default => Json.reread_getString finite distinct key s mem default
  have description : (Json.reread finite (.ofMembers (nodeMembers data children))).value Json.getString
      (lit "description") [] = .ok [] := by
    refine Json.reread_ofMembers_absent finite ?_ _ _
    show lit "description" ∉ [lit "name", lit "type", lit "command", lit "expression", lit "params", lit "variables",
      lit "constants", lit "observation", lit "children"]
    decide
  have params : readMember parseScalarObjectToMap (.reread finite (.ofMembers (nodeMembers data children)))
      (lit "params") = data.params :=
    (readMember_written (member 4 _ rfl)).trans (collected_written _ _ (fun _ => rfl) data.params)
  have inits : readMember parseVariables (.reread finite (.ofMembers (nodeMembers data children))) (lit "variables") =
      data.variableInits :=
    (readMember_written (member 5 _ rfl)).trans
      (collected_written (fun declaration => declaration.find? (lit "init") >>= jsonScalarToString) initToJson
        (fun _ => rfl) data.variableInits)
  have constants : readMember parseConstants (.reread finite (.ofMembers (nodeMembers data children)))
      (lit "constants") = data.constants :=
    (readMember_written (member 6 _ rfl)).trans
      (collected_written (fun constantDef : Json D =>
        match constantDef.find? (lit "value") with
        | some value => jsonScalarToString value
        | none => jsonScalarToString constantDef) .string (fun _ => rfl) data.constants)
  have observation : readMember parseObservation (.reread finite (.ofMembers (nodeMembers data children)))
      (lit "observation") = data.observation :=
    (readMember_written (member 7 _ rfl)).trans (collected_written sensorName .string (fun _ => rfl) data.observation)
  unfold parseNodeData
  rw [text _ _ (member 0 _ rfl), text _ _ (member 1 _ rfl), description, text _ _ (member 2 _ rfl),
    text _ _ (member 3 _ rfl), params, inits, constants, observation]
  simp only [except_ok_bind, stringToNodeType_typeText]
  rfl

theorem parseChildrenOf_eq (members : List (Str × Json D)) :
    parseChildrenOf members =
      match OrdMap.lookupEntry (lit "children") members with
      | some (.array items) => parseChildren items
      | _ => .ok [] := by
  induction members with
  | nil => rfl
  | cons member members ih =>
    obtain ⟨key, item⟩ := member
    unfold parseChildrenOf OrdMap.lookupEntry
    rw [OrdMap.lookup_cons_if]
    by_cases own : key = lit "children"
    · rw [if_pos own, if_pos own.symm]
      cases item <;> rfl
    · rw [if_neg own, if_neg (Ne.symm own)]
      exact ih

omit [CxxDouble D] in
theorem isObject_written (node : BehaviorNode) : (Json.reread finite (nodeToJson node : Json D)).isObject = true := by
  cases node with
  | mk data children =>
    unfold nodeToJson Json.ofMembers
    rw [Json.reread_ofMap]
    rfl

mutual

theorem parseNodeFromJson_written : ∀ node, parseNodeFromJson (.reread finite (nodeToJson node : Json D)) = .ok node
  | .mk data children => by
    have own : parseNodeData (.reread finite (.ofMembers (nodeMembers data (nodesToJson children)))) = .ok data :=
      parseNodeData_written data (nodesToJson children)
    have below := Json.reread_ofMembers_find? finite (nodeMembers_distinct data (nodesToJson children))
      (List.mem_of_getElem? (i := 8) rfl : (lit "children", .array (nodesToJson children)) ∈ _)
    unfold nodeToJson
    unfold Json.ofMembers at own below ⊢
    rw [Json.reread_ofMap] at own below ⊢
    unfold Json.ofMap at own below ⊢
    unfold parseNodeFromJson
    change OrdMap.lookupEntry _ _ = _ at below
    rw [own, except_ok_bind, parseChildrenOf_eq, below]
    unfold Json.reread
    simp only [parseChildren_written children, except_ok_bind]
    rfl

theorem parseChildren_written : ∀ nodes,
    parseChildren (Json.rereadItems finite (nodesToJson nodes : List (Json D))) = .ok nodes
  | [] => rfl
  | node :: nodes => by
    unfold nodesToJson Json.rereadItems parseChildren
    rw [if_pos (isObject_written node), parseNodeFromJson_written node, parseChildren_written nodes]
    rfl

end

end RoundTrip

/-! ## The text of a library -/

/-- All texts of the node are valid UTF-8. -/
structure DataUtf8 (data : NodeData) : Prop where
  name : ValidUtf8 data.name
  command : ValidUtf8 data.command
  expression : ValidUtf8 data.expression
  params : Json.Utf8Map data.params
  variableInits : Json.Utf8Map data.variableInits
  constants : Json.Utf8Map data.constants
  observation : Json.Utf8Map data.observation

theorem printable_nodeMembers {data : NodeData} (utf8 : DataUtf8 data) {children : List (Json D)}
    (below : ∀ child ∈ children, child.Printable) : (Json.ofMembers (nodeMembers data children)).Printable := by
  have inits : (Json.ofMap (data.variableInits.mapValues initToJson) : Json D).Printable := by
    apply Json.printable_ofMap
    intro key item found
    rw [OrdMap.find?_mapValues] at found
    obtain ⟨init, held, rfl⟩ := Option.map_eq_some_iff.1 found
    obtain ⟨validKey, validInit⟩ := utf8.variableInits key init held
    exact ⟨validKey, Json.printable_ofMembers (List.forall_mem_singleton.2 ⟨validUtf8_lit _, validInit⟩)⟩
  have params : (Json.ofStrMap data.params : Json D).Printable := Json.printable_ofStrMap utf8.params
  have constants : (Json.ofStrMap data.constants : Json D).Printable := Json.printable_ofStrMap utf8.constants
  have observation : (Json.ofStrMap data.observation : Json D).Printable := Json.printable_ofStrMap utf8.observation
  have type : ValidUtf8 (typeText data.type) := by
    cases data.type <;> exact validUtf8_lit _
  apply Json.printable_ofMembers
  simp [nodeMembers, utf8.name, type, utf8.command, utf8.expression, params, inits, constants, observation,
    Json.printable_array below]

mutual

theorem printable_nodeToJson : ∀ node, (∀ sub ∈ node.subnodes, DataUtf8 sub.data) → (nodeToJson node : Json D).Printable
  | .mk data children, utf8 => by
    unfold nodeToJson
    unfold BehaviorNode.subnodes at utf8
    obtain ⟨own, below⟩ := List.forall_mem_cons.1 utf8
    exact printable_nodeMembers own (printable_nodesToJson children below)

theorem printable_nodesToJson : ∀ nodes, (∀ sub ∈ BehaviorNode.subnodesOf nodes, DataUtf8 sub.data) →
    ∀ child ∈ (nodesToJson nodes : List (Json D)), child.Printable
  | [], _ => by simp [nodesToJson]
  | node :: nodes, utf8 => by
    unfold BehaviorNode.subnodesOf at utf8
    obtain ⟨first, later⟩ := List.forall_mem_append.1 utf8
    unfold nodesToJson
    exact List.forall_mem_cons.2 ⟨printable_nodeToJson node first, printable_nodesToJson nodes later⟩

end

/-- All texts of the library are valid UTF-8. -/
def LibraryUtf8 (behaviors : OrdMap Str BehaviorNode) : Prop :=
  ∀ behaviorName definition, behaviors.find? behaviorName = some definition →
    ValidUtf8 behaviorName ∧ ∀ sub ∈ definition.subnodes, DataUtf8 sub.data

theorem printable_libraryToJson {behaviors : OrdMap Str BehaviorNode} (utf8 : LibraryUtf8 behaviors) :
    (libraryToJson behaviors : Json D).Printable := by
  refine Json.printable_ofMembers (List.forall_mem_singleton.2 ⟨validUtf8_lit _, Json.printable_ofMap ?_⟩)
  intro key item found
  rw [OrdMap.find?_mapValues] at found
  obtain ⟨definition, held, rfl⟩ := Option.map_eq_some_iff.1 found
  obtain ⟨validKey, texts⟩ := utf8 key definition held
  exact ⟨validKey, printable_nodeToJson definition texts⟩

/-- A library of behaviours has a text from which each of them is read back, and no others. -/
theorem parseBehaviorDefinition_roundTrip [CxxDouble D] (json : JsonLibrary D) {behaviors : OrdMap Str BehaviorNode}
    (utf8 : LibraryUtf8 behaviors) :
    ∃ text, json.dump (libraryToJson behaviors) = .ok text ∧ ∀ libraryFile behaviorName,
      parseBehaviorDefinition json libraryFile (some text) behaviorName =
        match behaviors.find? behaviorName with
        | some definition => .ok (named behaviorName definition)
        | none => .error (lit "未找到行为定义: " ++ behaviorName) := by
  obtain ⟨text, dumped, parsed⟩ := json.parse_dump _ (printable_libraryToJson (D := D) utf8)
  refine ⟨text, dumped, fun libraryFile behaviorName => ?_⟩
  have library : (Json.reread json.finite (libraryToJson behaviors)).find? (lit "behavior_definitions") =
      some (.object ((behaviors.mapValues nodeToJson).mapValues (Json.reread json.finite)).entries) := by
    have once : (([(lit "behavior_definitions", .ofMap (behaviors.mapValues nodeToJson))] : List (Str × Json D)).map
        Prod.fst).Nodup := List.nodup_singleton _
    unfold libraryToJson
    rw [Json.reread_ofMembers_find? json.finite once (List.mem_singleton_self _), Json.reread_ofMap]
    rfl
  have listed : OrdMap.lookupEntry behaviorName
      ((behaviors.mapValues nodeToJson).mapValues (Json.reread json.finite)).entries =
      (behaviors.find? behaviorName).map fun definition => Json.reread json.finite (nodeToJson definition) := by
    show OrdMap.find? _ _ = _
    rw [OrdMap.find?_mapValues, OrdMap.find?_mapValues, Option.map_map]
    rfl
  unfold parseBehaviorDefinition
  simp only [parsed, except_ok_bind, library, listed]
  cases behaviors.find? behaviorName with
  | none => rfl
  | some definition =>
    have object : (Json.reread json.finite (nodeToJson definition : Json D)).isObject = true := isObject_written definition
    have read : parseNodeFromJson (Json.reread json.finite (nodeToJson definition : Json D)) = .ok definition :=
      parseNodeFromJson_written definition
    rw [Option.map_some]
    generalize Json.reread json.finite (nodeToJson definition) = written at object read ⊢
    cases written with
    | object members =>
      simp only [read, except_ok_bind]
      rfl
    | _ => cases object

/-- A library with one behaviour, whose root has no name. -/
def waitBehaviors : OrdMap Str BehaviorNode :=
  OrdMap.empty.insert (lit "Wait") (.mk { type := .sequence, variableInits := OrdMap.empty.insert (lit "limit") (lit "3") }
    [.mk { name := lit "Idle", type := .action, command := lit "NO_OP" } [],
      .mk { name := lit "Done", type := .condition, expression := lit "limit > 2" } []])

theorem parseBehaviorDefinition_roundTrip_sample : ∃ text, ∃ definition, waitBehaviors.find? (lit "Wait") = some definition ∧
    parseBehaviorDefinition JsonText.library (lit "library.json") (some text) (lit "Wait") =
      .ok (named (lit "Wait") definition) := by
  have empty : Json.Utf8Map OrdMap.empty := fun _ _ found => by cases found
  have limit := empty.insert (validUtf8_lit "limit") (validUtf8_lit "3")
  have utf8 : LibraryUtf8 waitBehaviors := by
    intro behaviorName definition found
    unfold waitBehaviors at found
    rw [OrdMap.find?_insert] at found
    split at found
    · rename_i same
      cases found
      refine ⟨same ▸ validUtf8_lit _, ?_⟩
      refine List.forall_mem_cons.2 ⟨⟨validUtf8_nil, validUtf8_nil, validUtf8_nil, empty, limit, empty, empty⟩, ?_⟩
      refine List.forall_mem_cons.2 ⟨⟨validUtf8_lit _, validUtf8_lit _, validUtf8_nil, empty, empty, empty, empty⟩, ?_⟩
      exact List.forall_mem_singleton.2
        ⟨validUtf8_lit _, validUtf8_nil, validUtf8_lit _, empty, empty, empty, empty⟩
    · cases found
  obtain ⟨text, _, reads⟩ := parseBehaviorDefinition_roundTrip JsonText.library utf8
  exact ⟨text, _, rfl, reads _ (lit "Wait")⟩

end Actuator.Parser
