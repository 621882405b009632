import Actuator.Core.Types

/-!
# Template expansion

`BehaviorTreeParser::instantiate`: before a task runs, every placeholder in the
parameters, commands and expressions of its behaviour tree is replaced by text.
The texts come from the initial values, the constants and the task's
parameters, the later ones winning.
-/

namespace Actuator.Parser

open Actuator.Lib Actuator.Core

/-- The loop of `replaceVariables`. The text edited so far is `done` up to `pos` and `rest` from there on. -/
def replaceLoop (params : StrMap) : Nat → Str → Str → Str
  | 0, done, rest => done ++ rest
  | fuel + 1, done, rest =>
    match find? (lit "$\x7b") rest with
    | none => done ++ rest
    | some pos =>
      let inside := rest.drop (pos + 2)
      match find? (lit "\x7d") inside with
      | none => done ++ rest
      | some length =>
        let varName := inside.take length
        let replacement := match params.find? varName with
          | some value => value
          | none => lit "$\x7b" ++ varName ++ lit "\x7d"
        replaceLoop params fuel (done ++ rest.take pos ++ replacement) (inside.drop (length + 1))

/-- `replaceVariables`. Each round moves `pos` over at least one character, so the length is fuel enough. -/
def replaceVariables (text : Str) (params : StrMap) : Str := replaceLoop params text.length [] text

def buildTemplateParams (definition : BehaviorNode) (runtimeParams : StrMap) : StrMap :=
  ((definition.data.variableInits.insertAll definition.data.constants.entries).insertAll runtimeParams.entries)

/-- `expandNode`, on the members other than the children. -/
def expandData (params : StrMap) (data : NodeData) : NodeData :=
  let expression := replaceVariables data.expression params
  { data with
    params := data.params.mapValues fun text => replaceVariables text params
    command := replaceVariables data.command params
    expression :=
      if data.type = .condition ∧ expression.isEmpty ∧ ¬data.observation.isEmpty then lit "true" else expression }

mutual

def expandNode (params : StrMap) : BehaviorNode → BehaviorNode
  | .mk data children => .mk (expandData params data) (expandNodes params children)

def expandNodes (params : StrMap) : List BehaviorNode → List BehaviorNode
  | [] => []
  | node :: nodes => expandNode params node :: expandNodes params nodes

end

def instantiate (definition : BehaviorNode) (params : StrMap) : List BehaviorNode :=
  [expandNode (buildTemplateParams definition params) definition]

/-! ## Placeholders -/

/-- The placeholder of a name. -/
def placeholder (varName : Str) : Str := lit "$\x7b" ++ varName ++ lit "\x7d"

theorem replaceLoop_nil (params : StrMap) (fuel : Nat) (done : Str) : replaceLoop params fuel done [] = done := by
  cases fuel with
  | zero => exact List.append_nil done
  | succ fuel => exact List.append_nil done

/-- A placeholder at the end of a text is found behind what has no dollar sign in it. -/
theorem find?_placeholder {front : Str} (plain : ch '$' ∉ front) (varName : Str) :
    find? (lit "$\x7b") (front ++ placeholder varName) = some front.length := by
  induction front with
  | nil => rfl
  | cons c front ih =>
    obtain ⟨other, later⟩ := not_or.1 (List.mem_cons.not.1 plain)
    have elsewhere : (lit "$\x7b").isPrefixOf (c :: (front ++ placeholder varName)) = false := by
      show (ch '$' == c && _) = false
      rw [beq_false_of_ne other, Bool.false_and]
    rw [List.cons_append, find?, elsewhere, ih later]
    rfl

/-- A placeholder at the end of a text becomes the text of its name, or stays if there is none. -/
theorem replaceVariables_behind {front varName : Str} (plain : ch '$' ∉ front) (closed : ch '}' ∉ varName)
    (params : StrMap) : replaceVariables (front ++ placeholder varName) params =
      front ++ (params.find? varName).getD (placeholder varName) := by
  have inside : (front ++ placeholder varName).drop (front.length + 2) = varName ++ [ch '}'] := by
    rw [← List.drop_drop, List.drop_left]
    rfl
  have closes : find? (lit "\x7d") (varName ++ [ch '}']) = some varName.length := find?_byte closed []
  obtain ⟨fuel, eq⟩ : ∃ fuel, (front ++ placeholder varName).length = fuel + 1 := by
    have some : (placeholder varName).length = (varName ++ [ch '}']).length + 1 + 1 := rfl
    exact ⟨front.length + ((varName ++ [ch '}']).length + 1), by rw [List.length_append, some]; rfl⟩
  unfold replaceVariables
  rw [eq, replaceLoop, find?_placeholder plain]
  simp only [inside, closes, List.take_left', List.nil_append]
  rw [show (varName ++ [ch '}']).drop (varName.length + 1) = [] by simp, replaceLoop_nil]
  cases params.find? varName with
  | none => rfl
  | some value => rfl

/-- A text that is one placeholder. -/
theorem replaceVariables_placeholder {varName : Str} (closed : ch '}' ∉ varName) (params : StrMap) :
    replaceVariables (placeholder varName) params = (params.find? varName).getD (placeholder varName) :=
  replaceVariables_behind (List.not_mem_nil) closed params

theorem find?_buildTemplateParams (definition : BehaviorNode) (params : StrMap) (v : Str) :
    (buildTemplateParams definition params).find? v =
      (params.find? v).or ((definition.data.constants.find? v).or (definition.data.variableInits.find? v)) := by
  unfold buildTemplateParams
  rw [OrdMap.find?_insertAll, OrdMap.find?_insertAll]

/-! ## The expanded tree -/

theorem expandNodes_eq_map (params : StrMap) (nodes : List BehaviorNode) :
    expandNodes params nodes = nodes.map (expandNode params) := by
  induction nodes with
  | nil => rfl
  | cons node nodes ih =>
    unfold expandNodes
    rw [ih, List.map_cons]

mutual

theorem subnodes_expandNode (params : StrMap) :
    ∀ node, (expandNode params node).subnodes = node.subnodes.map (expandNode params)
  | .mk data children => by
    unfold expandNode
    rw [BehaviorNode.subnodes, BehaviorNode.subnodes, List.map_cons, subnodesOf_expandNodes params children]
    unfold expandNode
    rfl

theorem subnodesOf_expandNodes (params : StrMap) :
    ∀ nodes, BehaviorNode.subnodesOf (expandNodes params nodes) =
      (BehaviorNode.subnodesOf nodes).map (expandNode params)
  | [] => by
    unfold expandNodes
    rfl
  | node :: nodes => by
    unfold expandNodes
    rw [BehaviorNode.subnodesOf, BehaviorNode.subnodesOf, List.map_append, subnodes_expandNode params node,
      subnodesOf_expandNodes params nodes]

end

/-- What becomes of a node of a behaviour in a task with the given parameters. -/
def instantiated (definition : BehaviorNode) (params : StrMap) (node : BehaviorNode) : BehaviorNode :=
  expandNode (buildTemplateParams definition params) node

/-- The nodes of an instantiated behaviour are those of its definition, expanded. -/
theorem subnodesOf_instantiate (definition : BehaviorNode) (params : StrMap) :
    BehaviorNode.subnodesOf (instantiate definition params) =
      definition.subnodes.map (instantiated definition params) := by
  show (expandNode _ definition).subnodes ++ [] = _
  rw [List.append_nil, subnodes_expandNode]
  rfl

/-- Every parameter of an instantiated node is the filled text of the definition. -/
theorem find?_instantiated_params (definition : BehaviorNode) (params : StrMap) (node : BehaviorNode) (k : Str) :
    (instantiated definition params node).data.params.find? k =
      (node.data.params.find? k).map fun text => replaceVariables text (buildTemplateParams definition params) := by
  obtain ⟨data, children⟩ := node
  exact OrdMap.find?_mapValues data.params _ k

end Actuator.Parser
