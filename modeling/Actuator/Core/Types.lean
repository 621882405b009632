import Actuator.Lib.OrdMap
import Actuator.Lib.Text

/-!
# Behaviour trees and tasks

The types shared by the parsers and the executor. A node is its own members
together with its children, so that functions over trees recurse on the pair.
-/

namespace Actuator.Core

open Actuator.Lib

inductive NodeType where
  | sequence
  | selector
  | parallel
  | action
  | condition
  | subtree
deriving DecidableEq, Repr

abbrev StrMap := OrdMap Str Str

/-- The members of a `BehaviorNode` that are read, other than its children. Nothing reads its `description` and the names
in its `variables`. -/
structure NodeData where
  name : Str := []
  type : NodeType
  params : StrMap := OrdMap.empty
  expression : Str := []
  command : Str := []
  /-- Constants by name. -/
  constants : StrMap := OrdMap.empty
  /-- Initial values by variable. -/
  variableInits : StrMap := OrdMap.empty
  /-- Sensors by variable. -/
  observation : StrMap := OrdMap.empty
deriving DecidableEq

inductive BehaviorNode where
  | mk (data : NodeData) (children : List BehaviorNode)

namespace BehaviorNode

def data : BehaviorNode → NodeData
  | mk data _ => data

def children : BehaviorNode → List BehaviorNode
  | mk _ children => children

mutual

/-- The node and everything below it. -/
def subnodes : BehaviorNode → List BehaviorNode
  | mk data children => mk data children :: subnodesOf children

/-- The nodes of a list and everything below them. -/
def subnodesOf : List BehaviorNode → List BehaviorNode
  | [] => []
  | node :: nodes => subnodes node ++ subnodesOf nodes

end

end BehaviorNode

structure TaskSegment where
  segmentId : Str
  taskId : Str
  satelliteId : Str
  behaviorRef : Str
  behaviorParams : StrMap

end Actuator.Core
