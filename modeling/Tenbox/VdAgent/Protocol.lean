import Tenbox.Bytes

/-!
The SPICE agent wire format of core/vdagent/vdagent_protocol.h and the state of the
handler of core/vdagent/vdagent_handler.cpp. The packed headers are copied with `memcpy`,
so a header is its fields' little-endian bytes in order, and a header read out of a
buffer is `none` when the buffer is too short for it.

The handler's fields split in two: `Reassembly` holds what `OnDataReceived` uses to
cut the byte stream into messages (`recv_buffer_`, `has_pending_msg_`, `pending_msg_`,
`pending_data_`), `Session` what the message handlers read and write. The last three
reassembly fields are missing from vdagent_handler.h and are modelled from their uses in
`OnDataReceived`. `ClipboardEvent` is declared in common/ports.h, which the source tree
lacks: it is modelled from its uses in the handlers, and the fields a handler leaves
unset keep zero and empty defaults.
-/

namespace Tenbox.VdAgent

def vdAgentClipboard : BitVec 32 := 4
def vdAgentAnnounceCapabilities : BitVec 32 := 6
def vdAgentClipboardGrab : BitVec 32 := 7
def vdAgentClipboardRequest : BitVec 32 := 8
def vdAgentClipboardRelease : BitVec 32 := 9

def vdAgentClipboardSelectionClipboard : BitVec 8 := 0

def vdAgentCapClipboard : Nat := 3
def vdAgentCapClipboardByDemand : Nat := 5
def vdAgentCapClipboardSelection : Nat := 6
def vdAgentCapGuestLineendCrlf : Nat := 9

def vdAgentProtocol : BitVec 32 := 1
def vdAgentMaxChunkSize : Nat := 2048

structure VDAgentChunkHeader where
  port : BitVec 32
  size : BitVec 32
  deriving DecidableEq, Repr

-- `opaque` is a keyword, so the 64-bit client word is `opaqueData`.
structure VDAgentMessage where
  protocol : BitVec 32
  type : BitVec 32
  opaqueData : BitVec 64
  size : BitVec 32
  deriving DecidableEq, Repr

def VDAgentChunkHeader.toBytes (chunk : VDAgentChunkHeader) : Bytes :=
  u32Bytes chunk.port ++ u32Bytes chunk.size

def VDAgentMessage.toBytes (msg : VDAgentMessage) : Bytes :=
  u32Bytes msg.protocol ++ u32Bytes msg.type ++ u64Bytes msg.opaqueData ++ u32Bytes msg.size

-- The `memcpy` of a chunk header from the front of `recv_buffer_`.
def readChunkHeader (buffer : Bytes) : Option VDAgentChunkHeader := do
  let port ← readU32 buffer 0
  let size ← readU32 buffer 4
  pure ⟨port, size⟩

-- The `memcpy` of a message header from `offset`.
def readMessage (buffer : Bytes) (offset : Nat) : Option VDAgentMessage := do
  let protocol ← readU32 buffer offset
  let type ← readU32 buffer (offset + 4)
  let opaqueData ← readU64 buffer (offset + 8)
  let size ← readU32 buffer (offset + 16)
  pure ⟨protocol, type, opaqueData, size⟩

inductive ClipboardEventType where
  | grab
  | data
  | request
  | release
  deriving DecidableEq, Repr

structure ClipboardEvent where
  type : ClipboardEventType
  selection : BitVec 8 := 0
  availableTypes : List (BitVec 32) := []
  dataType : BitVec 32 := 0
  data : Bytes := []
  deriving DecidableEq, Repr

-- One `VirtioSerialDevice::SendData(port, buffer, size)`.
structure SerialWrite where
  port : BitVec 32
  buffer : Bytes
  deriving DecidableEq, Repr

-- What the handler does that can be seen: a clipboard callback, an update of the guest's
-- capabilities, a write to the serial port.
inductive Event where
  | clipboard (event : ClipboardEvent)
  | guestCaps (caps : List (BitVec 32))
  | serial (write : SerialWrite)
  deriving DecidableEq, Repr

def Event.isSerial : Event → Bool
  | .serial _ => true
  | _ => false

structure Session where
  serialDevice : Bool
  portId : BitVec 32
  clipboardCallback : Bool
  guestCaps : List (BitVec 32)
  guestCapsReceived : Bool
  deriving DecidableEq, Repr

structure Reassembly where
  recvBuffer : Bytes
  hasPendingMsg : Bool
  pendingMsg : VDAgentMessage
  pendingData : Bytes
  deriving DecidableEq, Repr

structure VDAgentHandler where
  session : Session
  reassembly : Reassembly
  deriving DecidableEq, Repr

def hasCapability (guestCaps : List (BitVec 32)) (cap : Nat) : Bool :=
  if cap / 32 ≥ guestCaps.length then false
  else (guestCaps.getD (cap / 32) 0 &&& (1 : BitVec 32) <<< (cap % 32)) ≠ 0

def setCapability (caps : List (BitVec 32)) (cap : Nat) : List (BitVec 32) :=
  caps.set (cap / 32) (caps.getD (cap / 32) 0 ||| (1 : BitVec 32) <<< (cap % 32))

-- `host_caps_` as the constructor leaves it; nothing writes it afterwards.
def hostCaps : List (BitVec 32) :=
  [vdAgentCapClipboard, vdAgentCapClipboardByDemand, vdAgentCapClipboardSelection,
    vdAgentCapGuestLineendCrlf].foldl setCapability [0]

example : hostCaps = [0x268] := by decide

-- `if (clipboard_callback_) clipboard_callback_(event);`
def Session.deliver (session : Session) (event : ClipboardEvent) : List Event :=
  if session.clipboardCallback then [.clipboard event] else []

def Reassembly.append (reassembly : Reassembly) (data : Bytes) : Reassembly :=
  { reassembly with recvBuffer := reassembly.recvBuffer ++ data }

section Headers
variable {buffer rest : Bytes} {offset : Nat}

@[simp] theorem length_chunkHeader_toBytes (chunk : VDAgentChunkHeader) : chunk.toBytes.length = 8 := by
  simp [VDAgentChunkHeader.toBytes]

@[simp] theorem length_message_toBytes (msg : VDAgentMessage) : msg.toBytes.length = 20 := by
  simp [VDAgentMessage.toBytes]

theorem readChunkHeader_isSome (fits : 8 ≤ buffer.length) : (readChunkHeader buffer).isSome := by
  obtain ⟨port, hport⟩ := Option.isSome_iff_exists.mp (readU32_isSome (show 0 + 4 ≤ buffer.length by omega))
  obtain ⟨size, hsize⟩ := Option.isSome_iff_exists.mp (readU32_isSome (show 4 + 4 ≤ buffer.length by omega))
  simp [readChunkHeader, hport, hsize]

theorem readMessage_isSome (fits : offset + 20 ≤ buffer.length) : (readMessage buffer offset).isSome := by
  obtain ⟨protocol, h0⟩ := Option.isSome_iff_exists.mp (readU32_isSome (show offset + 4 ≤ buffer.length by omega))
  obtain ⟨type, h4⟩ :=
    Option.isSome_iff_exists.mp (readU32_isSome (show offset + 4 + 4 ≤ buffer.length by omega))
  obtain ⟨opaqueData, h8⟩ :=
    Option.isSome_iff_exists.mp (readU64_isSome (show offset + 8 + 8 ≤ buffer.length by omega))
  obtain ⟨size, h16⟩ :=
    Option.isSome_iff_exists.mp (readU32_isSome (show offset + 16 + 4 ≤ buffer.length by omega))
  simp [readMessage, h0, h4, h8, h16]

theorem readChunkHeader_append (fits : 8 ≤ buffer.length) :
    readChunkHeader (buffer ++ rest) = readChunkHeader buffer := by
  rw [readChunkHeader, readChunkHeader, readU32_append (by omega), readU32_append (by omega)]

theorem readMessage_append (fits : offset + 20 ≤ buffer.length) :
    readMessage (buffer ++ rest) offset = readMessage buffer offset := by
  rw [readMessage, readMessage, readU32_append (by omega), readU32_append (by omega),
    readU64_append (by omega), readU32_append (by omega)]

theorem readChunkHeader_toBytes (chunk : VDAgentChunkHeader) (rest : Bytes) :
    readChunkHeader (chunk.toBytes ++ rest) = some chunk := by
  have port := readU32_u32Bytes [] (u32Bytes chunk.size ++ rest) chunk.port
  have size := readU32_u32Bytes (u32Bytes chunk.port) rest chunk.size
  simp only [List.nil_append, List.length_nil, length_u32Bytes, List.append_assoc] at port size
  simp [readChunkHeader, VDAgentChunkHeader.toBytes, port, size]

theorem readMessage_toBytes (buffer : Bytes) (msg : VDAgentMessage) (rest : Bytes) :
    readMessage (buffer ++ msg.toBytes ++ rest) buffer.length = some msg := by
  have protocol := readU32_u32Bytes buffer
    (u32Bytes msg.type ++ u64Bytes msg.opaqueData ++ u32Bytes msg.size ++ rest) msg.protocol
  have type := readU32_u32Bytes (buffer ++ u32Bytes msg.protocol)
    (u64Bytes msg.opaqueData ++ u32Bytes msg.size ++ rest) msg.type
  have opaqueData := readU64_u64Bytes (buffer ++ u32Bytes msg.protocol ++ u32Bytes msg.type)
    (u32Bytes msg.size ++ rest) msg.opaqueData
  have size := readU32_u32Bytes
    (buffer ++ u32Bytes msg.protocol ++ u32Bytes msg.type ++ u64Bytes msg.opaqueData) rest msg.size
  simp only [List.length_append, length_u32Bytes, length_u64Bytes, List.append_assoc]
    at protocol type opaqueData size
  simp [readMessage, VDAgentMessage.toBytes, protocol, type, opaqueData, size]

end Headers

end Tenbox.VdAgent
