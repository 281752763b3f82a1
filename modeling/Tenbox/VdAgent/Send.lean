import Tenbox.VdAgent.Protocol

/-!
`VDAgentHandler::SendMessage` and the senders built on it. A message goes out as one
chunk holding the `VDAgentMessage` header and the first `2048 - 20` payload bytes, then
chunks of at most 2048 payload bytes. Lengths are `size_t` and are narrowed to
`uint32_t` before each `std::min`, which the model writes as `% 2 ^ 32`.

When the narrowed remainder is `0` while `offset < len`, the `while` loop sends an empty
chunk and leaves `offset` where it was, so it repeats that pass forever: `sendRest` is
`none` there and only there. `sendLoop` runs the loop itself for a budget of passes, empty
chunks included: whatever it returns `sendRest` returns, and from `2 ^ 32` payload bytes on
no budget is enough. The payloads the clipboard senders hand to `SendMessage` are
definitions of their own, so that the receiving side can be checked against them.
-/

namespace Tenbox.VdAgent

def messageHeader (type : BitVec 32) (len : Nat) : VDAgentMessage :=
  ⟨vdAgentProtocol, type, 0, BitVec.ofNat 32 len⟩

-- One chunk on port 1 of the agent protocol, handed to `SendData` on `port_id_`.
def chunkWrite (portId : BitVec 32) (size : Nat) (body : Bytes) : SerialWrite :=
  ⟨portId, (VDAgentChunkHeader.mk 1 (BitVec.ofNat 32 size)).toBytes ++ body⟩

-- The `while (offset < len)` loop of `SendMessage`.
def sendRest (portId : BitVec 32) (data : Bytes) (offset : Nat) : Option (List SerialWrite) :=
  if offset < data.length then
    let chunkDataLen := min ((data.length - offset) % 2 ^ 32) vdAgentMaxChunkSize
    if chunkDataLen = 0 then none
    else (sendRest portId data (offset + chunkDataLen)).map
      (chunkWrite portId chunkDataLen ((data.drop offset).take chunkDataLen) :: ·)
  else some []
termination_by data.length - offset

-- The same loop cut off after `fuel` passes, each pass as the source makes it, an empty chunk included.
def sendLoop (portId : BitVec 32) (data : Bytes) : Nat → Nat → Option (List SerialWrite)
  | 0, _ => none
  | fuel + 1, offset =>
    if offset < data.length then
      let chunkDataLen := min ((data.length - offset) % 2 ^ 32) vdAgentMaxChunkSize
      (sendLoop portId data fuel (offset + chunkDataLen)).map
        (chunkWrite portId chunkDataLen ((data.drop offset).take chunkDataLen) :: ·)
    else some []

def sendMessage (session : Session) (type : BitVec 32) (data : Bytes) : Option (List SerialWrite) :=
  if !session.serialDevice then some []
  else
    let msg := messageHeader type data.length
    let firstDataLen := min (data.length % 2 ^ 32) (vdAgentMaxChunkSize - 20)
    (sendRest session.portId data firstDataLen).map
      (chunkWrite session.portId (20 + firstDataLen) (msg.toBytes ++ data.take firstDataLen) :: ·)

-- `SendMessage` with its `while` loop cut off after `fuel` passes.
def sendMessageWithin (fuel : Nat) (session : Session) (type : BitVec 32) (data : Bytes) :
    Option (List SerialWrite) :=
  if !session.serialDevice then some []
  else
    let msg := messageHeader type data.length
    let firstDataLen := min (data.length % 2 ^ 32) (vdAgentMaxChunkSize - 20)
    (sendLoop session.portId data fuel firstDataLen).map
      (chunkWrite session.portId (20 + firstDataLen) (msg.toBytes ++ data.take firstDataLen) :: ·)

def sendAnnounceCapabilities (session : Session) : Option (List SerialWrite) :=
  sendMessage session vdAgentAnnounceCapabilities (u32Bytes 0 ++ wordBytes hostCaps)

-- The `guest_caps_received_` guard the four clipboard senders share.
def sendIfCapsReceived (session : Session) (type : BitVec 32) (payload : Bytes) :
    Option (List SerialWrite) :=
  if !session.guestCapsReceived then some [] else sendMessage session type payload

def clipboardGrabPayload (guestCaps : List (BitVec 32)) (selection : BitVec 8)
    (types : List (BitVec 32)) : Bytes :=
  if hasCapability guestCaps vdAgentCapClipboardSelection then [selection, 0, 0, 0] ++ wordBytes types
  else wordBytes types

def clipboardDataPayload (guestCaps : List (BitVec 32)) (selection : BitVec 8) (type : BitVec 32)
    (data : Bytes) : Bytes :=
  if hasCapability guestCaps vdAgentCapClipboardSelection then [selection, 0, 0, 0] ++ u32Bytes type ++ data
  else u32Bytes type ++ data

def clipboardRequestPayload (guestCaps : List (BitVec 32)) (selection : BitVec 8) (type : BitVec 32) :
    Bytes :=
  if hasCapability guestCaps vdAgentCapClipboardSelection then [selection, 0, 0, 0] ++ u32Bytes type
  else u32Bytes type

def clipboardReleasePayload (guestCaps : List (BitVec 32)) (selection : BitVec 8) : Bytes :=
  if hasCapability guestCaps vdAgentCapClipboardSelection then [selection, 0, 0, 0] else []

def sendClipboardGrab (session : Session) (selection : BitVec 8) (types : List (BitVec 32)) :
    Option (List SerialWrite) :=
  sendIfCapsReceived session vdAgentClipboardGrab (clipboardGrabPayload session.guestCaps selection types)

def sendClipboardData (session : Session) (selection : BitVec 8) (type : BitVec 32) (data : Bytes) :
    Option (List SerialWrite) :=
  sendIfCapsReceived session vdAgentClipboard (clipboardDataPayload session.guestCaps selection type data)

def sendClipboardRequest (session : Session) (selection : BitVec 8) (type : BitVec 32) :
    Option (List SerialWrite) :=
  sendIfCapsReceived session vdAgentClipboardRequest
    (clipboardRequestPayload session.guestCaps selection type)

def sendClipboardRelease (session : Session) (selection : BitVec 8) : Option (List SerialWrite) :=
  sendIfCapsReceived session vdAgentClipboardRelease (clipboardReleasePayload session.guestCaps selection)

theorem toNat_size_messageHeader {len : Nat} (type : BitVec 32) (small : len < 2 ^ 32) :
    (messageHeader type len).size.toNat = len := by
  show (BitVec.ofNat 32 len).toNat = len
  rw [BitVec.toNat_ofNat, Nat.mod_eq_of_lt small]

section Chunks
variable {portId : BitVec 32} {data : Bytes} {offset : Nat}

theorem sendRest_of_le (done : data.length ≤ offset) : sendRest portId data offset = some [] := by
  rw [sendRest, if_neg (by omega)]

-- What one pass of the loop does on the way to a result.
theorem sendRest_eq_some {offset : Nat} {writes : List SerialWrite} :
    sendRest portId data offset = some writes ↔
      data.length ≤ offset ∧ writes = [] ∨
      ∃ chunkDataLen tail, offset < data.length ∧
        chunkDataLen = min ((data.length - offset) % 2 ^ 32) vdAgentMaxChunkSize ∧ 0 < chunkDataLen ∧
        sendRest portId data (offset + chunkDataLen) = some tail ∧
        writes = chunkWrite portId chunkDataLen ((data.drop offset).take chunkDataLen) :: tail := by
  rw [sendRest]
  dsimp only
  split_ifs with more stuck
  · refine iff_of_false nofun ?_
    rintro (⟨done, -⟩ | ⟨_, _, -, rfl, moving, -⟩) <;> omega
  · rw [Option.map_eq_some']
    constructor
    · rintro ⟨tail, rest, rfl⟩
      exact .inr ⟨_, tail, more, rfl, Nat.pos_of_ne_zero stuck, rest, rfl⟩
    · rintro (⟨done, -⟩ | ⟨_, tail, -, rfl, -, rest, rfl⟩)
      · omega
      · exact ⟨tail, rest, rfl⟩
  · constructor
    · rintro ⟨⟩
      exact .inl ⟨Nat.le_of_not_lt more, rfl⟩
    · rintro (⟨-, rfl⟩ | ⟨_, _, below, -⟩)
      · rfl
      · exact absurd below more

-- Below `2 ^ 32` bytes every pass moves `offset` by a whole chunk or up to `len`.
theorem sendRest_of_lt (small : data.length < 2 ^ 32) (more : offset < data.length) :
    sendRest portId data offset =
      (sendRest portId data (offset + min (data.length - offset) vdAgentMaxChunkSize)).map
        (chunkWrite portId (min (data.length - offset) vdAgentMaxChunkSize)
          ((data.drop offset).take (min (data.length - offset) vdAgentMaxChunkSize)) :: ·) := by
  rw [sendRest, if_pos more, Nat.mod_eq_of_lt (by omega), if_neg (by simp [vdAgentMaxChunkSize]; omega)]

theorem sendRest_isSome (small : data.length < 2 ^ 32) (offset : Nat) :
    (sendRest portId data offset).isSome := by
  by_cases more : offset < data.length
  · rw [sendRest_of_lt small more, Option.isSome_map']
    exact sendRest_isSome small _
  · rw [sendRest_of_le (by omega)]
    rfl
termination_by data.length - offset
decreasing_by simp only [vdAgentMaxChunkSize]; omega

theorem readChunkHeader_chunkWrite (size : Nat) (body : Bytes) :
    readChunkHeader (chunkWrite portId size body).buffer = some ⟨1, BitVec.ofNat 32 size⟩ :=
  readChunkHeader_toBytes _ body

-- Every chunk of the continuation loop announces at most `VD_AGENT_MAX_CHUNK_SIZE` bytes.
theorem sendRest_bounded {offset : Nat} {writes : List SerialWrite}
    (sent : sendRest portId data offset = some writes) :
    ∀ write ∈ writes, write.port = portId ∧
      ∃ chunk, readChunkHeader write.buffer = some chunk ∧ chunk.size.toNat ≤ vdAgentMaxChunkSize := by
  obtain ⟨-, rfl⟩ | ⟨_, tail, more, rfl, moving, rest, rfl⟩ := sendRest_eq_some.mp sent
  · simp
  · intro write mem
    rcases List.mem_cons.mp mem with rfl | mem
    · refine ⟨rfl, _, readChunkHeader_chunkWrite _ _, ?_⟩
      simp only [BitVec.toNat_ofNat, vdAgentMaxChunkSize]
      omega
    · exact sendRest_bounded rest write mem
termination_by data.length - offset
decreasing_by omega

variable {session : Session} {type : BitVec 32}

theorem sendMessage_isSome (small : data.length < 2 ^ 32) : (sendMessage session type data).isSome := by
  unfold sendMessage
  split
  · rfl
  · rw [Option.isSome_map']
    exact sendRest_isSome small _

theorem sendMessage_bounded {writes : List SerialWrite} (sent : sendMessage session type data = some writes) :
    ∀ write ∈ writes, write.port = session.portId ∧
      ∃ chunk, readChunkHeader write.buffer = some chunk ∧ chunk.size.toNat ≤ vdAgentMaxChunkSize := by
  unfold sendMessage at sent
  split at sent
  · cases sent
    simp
  · obtain ⟨tail, rest, rfl⟩ := Option.map_eq_some'.mp sent
    intro write mem
    rcases List.mem_cons.mp mem with rfl | mem
    · refine ⟨rfl, _, readChunkHeader_chunkWrite _ _, ?_⟩
      simp only [BitVec.toNat_ofNat, vdAgentMaxChunkSize]
      omega
    · exact sendRest_bounded rest write mem

theorem sendAnnounceCapabilities_isSome : (sendAnnounceCapabilities session).isSome :=
  sendMessage_isSome (by decide)

end Chunks

section Termination
variable {portId : BitVec 32} {data : Bytes} {writes : List SerialWrite}

-- A result of the loop within any budget is the result of the loop.
theorem sendRest_of_sendLoop {fuel offset : Nat} (ran : sendLoop portId data fuel offset = some writes) :
    sendRest portId data offset = some writes := by
  induction fuel generalizing offset writes with
  | zero => cases ran
  | succ fuel ih =>
    rw [sendLoop] at ran
    dsimp only at ran
    split_ifs at ran with more
    · obtain ⟨tail, rest, rfl⟩ := Option.map_eq_some'.mp ran
      have after := ih rest
      have moves : 0 < min ((data.length - offset) % 2 ^ 32) vdAgentMaxChunkSize := by
        refine Nat.pos_of_ne_zero fun stuck => ?_
        rw [stuck, Nat.add_zero] at after
        obtain ⟨done, -⟩ | ⟨_, _, _, rfl, moving, -⟩ := sendRest_eq_some.mp after <;> omega
      exact sendRest_eq_some.mpr (.inr ⟨_, tail, more, rfl, moves, after, rfl⟩)
    · cases ran
      exact sendRest_of_le (by omega)

-- The loop reaches its result once the budget exceeds the chunks it sends.
theorem sendLoop_of_sendRest {fuel offset : Nat} (sent : sendRest portId data offset = some writes)
    (enough : writes.length < fuel) : sendLoop portId data fuel offset = some writes := by
  induction fuel generalizing offset writes with
  | zero => omega
  | succ fuel ih =>
    obtain ⟨done, rfl⟩ | ⟨_, tail, more, rfl, -, rest, rfl⟩ := sendRest_eq_some.mp sent
    · rw [sendLoop, if_neg (by omega)]
    · rw [sendLoop, if_pos more]
      simp only [ih rest (by simp only [List.length_cons] at enough; omega), Option.map_some']

-- A remainder of `2 ^ 32` bytes or more keeps its quotient by `2 ^ 32` while each pass lowers the
-- rest, until a pass sends an empty chunk and repeats.
theorem sendRest_of_large {offset : Nat} (large : 2 ^ 32 ≤ data.length - offset) :
    sendRest portId data offset = none := by
  rw [sendRest, if_pos (by omega)]
  dsimp only
  split
  · rfl
  · rw [sendRest_of_large (by simp only [vdAgentMaxChunkSize]; omega), Option.map_none']
termination_by (data.length - offset) % 2 ^ 32
decreasing_by simp only [vdAgentMaxChunkSize]; omega

theorem chunkWrite_body (size : Nat) (body : Bytes) : (chunkWrite portId size body).buffer.drop 8 = body :=
  List.drop_left' (length_chunkHeader_toBytes _)

-- The bodies of the continuation chunks are the payload from `offset` on.
theorem sendRest_bodies {offset : Nat} {writes : List SerialWrite} (sent : sendRest portId data offset = some writes) :
    (writes.map fun write => write.buffer.drop 8).flatten = data.drop offset := by
  obtain ⟨done, rfl⟩ | ⟨_, tail, more, -, moving, rest, rfl⟩ := sendRest_eq_some.mp sent
  · simp [List.drop_eq_nil_of_le done]
  · rw [List.map_cons, List.flatten_cons, chunkWrite_body, sendRest_bodies rest, ← List.drop_drop,
      List.take_append_drop]
termination_by data.length - offset
decreasing_by omega

variable {session : Session} {type : BitVec 32}

theorem sendMessage_of_sendMessageWithin {fuel : Nat} (ran : sendMessageWithin fuel session type data = some writes) :
    sendMessage session type data = some writes := by
  rw [sendMessageWithin] at ran
  rw [sendMessage]
  split at ran
  · rwa [if_pos ‹_›]
  · rw [if_neg ‹_›]
    dsimp only at ran ⊢
    obtain ⟨tail, rest, rfl⟩ := Option.map_eq_some'.mp ran
    rw [sendRest_of_sendLoop rest, Option.map_some']

theorem sendMessageWithin_of_sendMessage {fuel : Nat} (sent : sendMessage session type data = some writes)
    (enough : writes.length ≤ fuel) : sendMessageWithin fuel session type data = some writes := by
  rw [sendMessage] at sent
  rw [sendMessageWithin]
  split at sent
  · rwa [if_pos ‹_›]
  · rw [if_neg ‹_›]
    dsimp only at sent ⊢
    obtain ⟨tail, rest, rfl⟩ := Option.map_eq_some'.mp sent
    rw [sendLoop_of_sendRest rest (by simp only [List.length_cons] at enough; omega), Option.map_some']

theorem sendMessage_of_large (serial : session.serialDevice = true) (large : 2 ^ 32 ≤ data.length) :
    sendMessage session type data = none := by
  rw [sendMessage, if_neg (by simp [serial])]
  dsimp only
  rw [sendRest_of_large (by simp only [vdAgentMaxChunkSize]; omega), Option.map_none']

-- From `2 ^ 32` payload bytes on, `SendMessage` runs out of every budget of passes.
theorem sendMessageWithin_of_large (serial : session.serialDevice = true) (large : 2 ^ 32 ≤ data.length)
    (fuel : Nat) : sendMessageWithin fuel session type data = none := by
  cases ran : sendMessageWithin fuel session type data with
  | none => rfl
  | some writes =>
    have := sendMessage_of_sendMessageWithin ran
    rw [sendMessage_of_large serial large] at this
    cases this

-- A serial port is open; the other fields play no part in sending.
def serialSession : Session := ⟨true, 1, false, [], true⟩

-- A 4 GiB clipboard payload: the header announces `0` bytes and the loop never returns.
theorem sendMessage_never_returns_at_four_gib :
    (∀ fuel, sendMessageWithin fuel serialSession vdAgentClipboard (List.replicate (2 ^ 32) 0) = none) ∧
      (messageHeader vdAgentClipboard (2 ^ 32)).size.toNat = 0 :=
  ⟨sendMessageWithin_of_large rfl (List.length_replicate _ _).ge, rfl⟩

/-- Below `2 ^ 32` payload bytes `SendMessage` returns within as many loop passes as it
sends chunks, every chunk announces at most `VD_AGENT_MAX_CHUNK_SIZE` bytes, and with a
serial device the first chunk carries the `VDAgentMessage` header with `size = len`,
after which the chunk bodies spell out exactly the payload. -/
theorem sendMessage_terminates_in_chunks (small : data.length < 2 ^ 32) :
    ∃ writes, (∀ fuel, writes.length ≤ fuel → sendMessageWithin fuel session type data = some writes) ∧
      (∀ write ∈ writes, write.port = session.portId ∧
        ∃ chunk, readChunkHeader write.buffer = some chunk ∧ chunk.size.toNat ≤ vdAgentMaxChunkSize) ∧
      (session.serialDevice = false → writes = []) ∧
      (session.serialDevice = true → (messageHeader type data.length).size.toNat = data.length ∧
        ∃ first later payload, writes = first :: later ∧
          first.buffer.drop 8 = (messageHeader type data.length).toBytes ++ payload ∧
          payload ++ (later.map fun write => write.buffer.drop 8).flatten = data) := by
  have returns : (sendMessage session type data).isSome := sendMessage_isSome small
  obtain ⟨writes, sent⟩ := Option.isSome_iff_exists.mp returns
  refine ⟨writes, fun _ => sendMessageWithin_of_sendMessage sent, sendMessage_bounded sent, fun absent => ?_,
    fun serial => ⟨toNat_size_messageHeader type small, ?_⟩⟩
  · rw [sendMessage, if_pos (by simp [absent])] at sent
    exact (Option.some.inj sent).symm
  · rw [sendMessage, if_neg (by simp [serial])] at sent
    dsimp only at sent
    obtain ⟨tail, rest, rfl⟩ := Option.map_eq_some'.mp sent
    exact ⟨_, tail, _, rfl, chunkWrite_body _ _, by rw [sendRest_bodies rest, List.take_append_drop]⟩

-- A 3000-byte clipboard payload, sent as a first chunk and one continuation chunk.
theorem sendMessage_terminates_in_chunks_of_clipboard :
    let data : Bytes := List.replicate 3000 0x41
    data.length < 2 ^ 32 ∧
      ∃ writes, (∀ fuel, writes.length ≤ fuel →
          sendMessageWithin fuel serialSession vdAgentClipboard data = some writes) ∧
        (∀ write ∈ writes, write.port = serialSession.portId ∧
          ∃ chunk, readChunkHeader write.buffer = some chunk ∧ chunk.size.toNat ≤ vdAgentMaxChunkSize) ∧
        (serialSession.serialDevice = false → writes = []) ∧
        (serialSession.serialDevice = true →
          (messageHeader vdAgentClipboard data.length).size.toNat = data.length ∧
          ∃ first later payload, writes = first :: later ∧
            first.buffer.drop 8 = (messageHeader vdAgentClipboard data.length).toBytes ++ payload ∧
            payload ++ (later.map fun write => write.buffer.drop 8).flatten = data) :=
  have small : (List.replicate 3000 (0x41 : BitVec 8)).length < 2 ^ 32 :=
    (List.length_replicate _ _).trans_lt (by decide)
  ⟨small, sendMessage_terminates_in_chunks small⟩

end Termination

end Tenbox.VdAgent
