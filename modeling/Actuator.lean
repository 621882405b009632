import Actuator.Constraint.Coherence
import Actuator.Constraint.Disjunction
import Actuator.Constraint.Negation
import Actuator.Coordinator.AckCounts
import Actuator.Coordinator.Addresses
import Actuator.Coordinator.BatchFields
import Actuator.Coordinator.BatchReports
import Actuator.Coordinator.Completion
import Actuator.Coordinator.Fleet
import Actuator.Coordinator.FrameBounds
import Actuator.Coordinator.FrameDelivery
import Actuator.Coordinator.LateAcks
import Actuator.Coordinator.LinkDelivery
import Actuator.Coordinator.NodeAliases
import Actuator.Coordinator.NodeRemoval
import Actuator.Coordinator.NodeTimeouts
import Actuator.Coordinator.QueueOrder
import Actuator.Coordinator.Restarts
import Actuator.Coordinator.SendPath
import Actuator.Coordinator.Shutdown
import Actuator.Coordinator.TwoReaders
import Actuator.Executor.ActiveContexts
import Actuator.Executor.BranchWrites
import Actuator.Executor.CallByValue
import Actuator.Executor.Cancellation
import Actuator.Executor.DecisionTrees
import Actuator.Executor.Declarations
import Actuator.Executor.ExecutedNodes
import Actuator.Executor.FailedTasks
import Actuator.Executor.Flattening
import Actuator.Executor.GlobalFrame
import Actuator.Executor.NumericWalk
import Actuator.Executor.ObservedValues
import Actuator.Executor.ParamTexts
import Actuator.Executor.Recomposition
import Actuator.Executor.Snapshots
import Actuator.Executor.TrimmedCommands
import Actuator.Executor.WorkBounds
import Actuator.Parser.ScalarTexts
import Actuator.Parser.ScheduleDocument
import Actuator.Parser.ScheduleFailure
import Actuator.Parser.Substitution
import Actuator.Parser.TemplateNumbers
