import Actuator.Lib.Text

/-!
# Messages between nodes

The header and payload exchanged by the coordinator and the satellites. The two
enumerations have fixed underlying types, and the receiver casts raw integers
into them, so each is its raw value together with named constants.
-/

namespace Actuator.Coordinator

open Actuator.Lib

/-- `enum class MessageType : uint16_t`. -/
structure MessageType where
  raw : UInt16
deriving DecidableEq, Repr

namespace MessageType

def heartbeat : MessageType := ⟨0x0001⟩
def nodeRegister : MessageType := ⟨0x0003⟩
def batchTaskAssign : MessageType := ⟨0x0108⟩
def batchTaskAssignAck : MessageType := ⟨0x0109⟩
def taskProgress : MessageType := ⟨0x0104⟩
def taskComplete : MessageType := ⟨0x0105⟩

end MessageType

/-- `enum class Priority : uint8_t`. -/
structure Priority where
  raw : UInt8
deriving DecidableEq, Repr

namespace Priority

def low : Priority := ⟨4⟩
def normal : Priority := ⟨3⟩
def urgent : Priority := ⟨2⟩
def emergency : Priority := ⟨1⟩

/-- One of the four enumerators. -/
def Named (p : Priority) : Prop := p = low ∨ p = normal ∨ p = urgent ∨ p = emergency

instance decidableNamed (p : Priority) : Decidable p.Named := by unfold Named; infer_instance

theorem named_iff (p : Priority) : p.Named ↔ 1 ≤ p.raw.toNat ∧ p.raw.toNat ≤ 4 := by
  obtain ⟨raw⟩ := p
  simp only [Named, low, normal, urgent, emergency, mk.injEq, ← UInt8.toNat_inj]
  simp
  omega

end Priority

/-- `MessageHeader`. -/
structure MessageHeader where
  magic : UInt32 := 0
  version : UInt16 := 0
  msgType : MessageType := ⟨0⟩
  sequenceId : UInt32 := 0
  timestampMs : UInt64 := 0
  sourceNodeId : Str := []
  destNodeId : Str := []
  priority : Priority := ⟨0⟩
  payloadSize : UInt32 := 0
  checksum : UInt32 := 0
deriving DecidableEq, Repr

namespace MessageHeader

def magicNumber : UInt32 := 0x53415443

def protocolVersion : UInt16 := 0x0100

end MessageHeader

/-- `Message`. -/
structure Message where
  header : MessageHeader := {}
  payload : Str := []
deriving DecidableEq, Repr

namespace Message

def isValid (m : Message) : Bool := m.header.magic == MessageHeader.magicNumber

def isBroadcast (m : Message) : Bool := m.header.destNodeId.isEmpty

end Message

end Actuator.Coordinator
