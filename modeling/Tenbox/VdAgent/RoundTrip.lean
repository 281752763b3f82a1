import Tenbox.VdAgent.Stream

/-!
What `SendMessage` writes, `OnDataReceived` reads back. The first chunk of a message
carries its header and up to `2048 - 20` payload bytes, which `OnDataReceived` takes as
the start of a pending message; each further chunk carries the next at most 2048 bytes,
which it appends, and the message completes with the chunk that brings `pending_data_` to
`size` bytes. Below `2 ^ 32` payload bytes nothing is narrowed on either side. An
announce of capabilities read this way is stored word for word and answered only when
its `request` is set, and the answer's own `request` is 0.
-/

namespace Tenbox.VdAgent

-- Successive `SendMessage` calls of one handler.
def sendAll (session : Session) : List (BitVec 32 × Bytes) → Option (List SerialWrite)
  | [] => some []
  | (type, data) :: rest => do
      let first ← sendMessage session type data
      let more ← sendAll session rest
      pure (first ++ more)

-- The bytes a list of serial writes puts on the wire, in order.
def wire (writes : List SerialWrite) : Bytes := (writes.map SerialWrite.buffer).flatten

section Chunks
variable {portId : BitVec 32} {rest : Bytes}

theorem chunkWrite_buffer (size : Nat) (body : Bytes) :
    (chunkWrite portId size body).buffer = (VDAgentChunkHeader.mk 1 (BitVec.ofNat 32 size)).toBytes ++ body := rfl

theorem takeChunk_chunkWrite (reassembly : Reassembly) {size : Nat} (body : Bytes) (fits : body.length = size)
    (small : size < 2 ^ 32) (front : reassembly.recvBuffer = (chunkWrite portId size body).buffer ++ rest) :
    takeChunk reassembly = (absorbChunk reassembly ⟨1, BitVec.ofNat 32 size⟩).map
      fun absorbed => .consumed absorbed.1 absorbed.2 := by
  subst fits
  have header : readChunkHeader reassembly.recvBuffer = some ⟨1, BitVec.ofNat 32 body.length⟩ := by
    rw [front, chunkWrite_buffer, List.append_assoc, readChunkHeader_toBytes]
  have length : reassembly.recvBuffer.length = 8 + body.length + rest.length := by
    simp [front, chunkWrite_buffer]
    omega
  rw [takeChunk, if_neg (by omega), header, Option.some_bind, BitVec.toNat_ofNat, Nat.mod_eq_of_lt small,
    if_neg (by omega)]

-- The first chunk of a message starts it with its header and the payload bytes it holds.
theorem absorbChunk_first (msg : VDAgentMessage) (payload : Bytes) (pendingMsg : VDAgentMessage)
    (pendingData : Bytes) {size : Nat} (fits : 20 + payload.length = size) (small : size < 2 ^ 32) :
    absorbChunk ⟨(chunkWrite portId size (msg.toBytes ++ payload)).buffer ++ rest, false,
        pendingMsg, pendingData⟩ ⟨1, BitVec.ofNat 32 size⟩ =
      some (settle ⟨rest, true, msg, payload⟩) := by
  subst fits
  let header : VDAgentChunkHeader := ⟨1, BitVec.ofNat 32 (20 + payload.length)⟩
  have message := readMessage_toBytes header.toBytes msg (payload ++ rest)
  have bytes := readBytes_prefix (header.toBytes ++ msg.toBytes) payload rest
  have drop : (header.toBytes ++ (msg.toBytes ++ (payload ++ rest))).drop (8 + (20 + payload.length)) = rest := by
    have := List.drop_left (header.toBytes ++ msg.toBytes ++ payload) rest
    simp only [List.length_append, length_chunkHeader_toBytes, length_message_toBytes, List.append_assoc,
      Nat.add_assoc] at this
    exact this
  simp only [length_chunkHeader_toBytes, List.length_append, length_message_toBytes, List.append_assoc] at message bytes
  simp only [absorbChunk, chunkWrite_buffer, List.append_assoc, BitVec.toNat_ofNat, Nat.mod_eq_of_lt small,
    Bool.not_false, if_true, if_neg (show ¬20 + payload.length < 20 by omega), Nat.add_sub_cancel_left, message,
    bytes, drop]
  rfl

-- A continuation chunk adds its bytes to the pending message.
theorem absorbChunk_continue (body : Bytes) (pendingMsg : VDAgentMessage) (pendingData : Bytes)
    (small : body.length < 2 ^ 32) :
    absorbChunk ⟨(chunkWrite portId body.length body).buffer ++ rest, true, pendingMsg, pendingData⟩
        ⟨1, BitVec.ofNat 32 body.length⟩ =
      some (settle ⟨rest, true, pendingMsg, pendingData ++ body⟩) := by
  let header : VDAgentChunkHeader := ⟨1, BitVec.ofNat 32 body.length⟩
  have bytes := readBytes_prefix header.toBytes body rest
  have drop : (header.toBytes ++ (body ++ rest)).drop (8 + body.length) = rest := by
    have := List.drop_left (header.toBytes ++ body) rest
    simp only [List.length_append, length_chunkHeader_toBytes, List.append_assoc] at this
    exact this
  simp only [length_chunkHeader_toBytes, List.append_assoc] at bytes
  simp only [absorbChunk, chunkWrite_buffer, List.append_assoc, BitVec.toNat_ofNat, Nat.mod_eq_of_lt small,
    Bool.not_true, bytes, drop]
  rfl

@[simp] theorem wire_nil : wire [] = [] := rfl

@[simp] theorem wire_cons (write : SerialWrite) (writes : List SerialWrite) :
    wire (write :: writes) = write.buffer ++ wire writes := rfl

theorem wire_append (front back : List SerialWrite) : wire (front ++ back) = wire front ++ wire back := by
  simp [wire]

-- The continuation chunks of a message complete it, whatever follows them.
theorem reassemble_sendRest (msg : VDAgentMessage) {data : Bytes} (small : data.length < 2 ^ 32)
    (size : msg.size.toNat = data.length) {offset : Nat} (more : offset < data.length) {writes : List SerialWrite}
    (sent : sendRest portId data offset = some writes) (rest : Bytes) :
    reassemble ⟨wire writes ++ rest, true, msg, data.take offset⟩ =
      (reassemble ⟨rest, false, msg, []⟩).map fun done => (done.1, (msg, data) :: done.2) := by
  rw [sendRest_of_lt small more] at sent
  obtain ⟨tail, sentTail, rfl⟩ := Option.map_eq_some'.mp sent
  set count := min (data.length - offset) vdAgentMaxChunkSize with counted
  set body := (data.drop offset).take count
  have length : body.length = count := by simp [body]; omega
  have step : takeChunk ⟨(chunkWrite portId body.length body).buffer ++ (wire tail ++ rest), true, msg,
      data.take offset⟩ = some (.consumed (settle ⟨wire tail ++ rest, true, msg, data.take offset ++ body⟩).1
        (settle ⟨wire tail ++ rest, true, msg, data.take offset ++ body⟩).2) := by
    rw [takeChunk_chunkWrite _ body rfl (by omega) rfl, absorbChunk_continue body msg _ (by omega)]
    rfl
  rw [wire_cons, List.append_assoc, ← length, reassemble_of_consumed step, ← List.take_add]
  by_cases complete : data.length ≤ offset + count
  · rw [sendRest_of_le complete, Option.some.injEq] at sentTail
    subst sentTail
    have whole : (data.take (offset + count)).length = data.length := by simp; omega
    rw [settle, if_pos (by rw [whole, size]), List.take_of_length_le complete]
    rfl
  · have partway : ¬msg.size.toNat ≤ (data.take (offset + count)).length := by simp; omega
    rw [settle, if_neg partway, reassemble_sendRest msg small size (by omega) sentTail rest]
    rcases reassemble ⟨rest, false, msg, []⟩ with _ | ⟨final, messages⟩ <;> rfl
termination_by data.length - offset
decreasing_by simp only [vdAgentMaxChunkSize] at counted; omega

-- All the chunks of one message complete it, whatever follows them.
theorem reassemble_sendMessage {session : Session} (serial : session.serialDevice = true) (type : BitVec 32)
    {data : Bytes} (small : data.length < 2 ^ 32) {writes : List SerialWrite}
    (sent : sendMessage session type data = some writes) (rest : Bytes) (pendingMsg : VDAgentMessage)
    (pendingData : Bytes) :
    reassemble ⟨wire writes ++ rest, false, pendingMsg, pendingData⟩ =
      (reassemble ⟨rest, false, messageHeader type data.length, []⟩).map
        fun done => (done.1, (messageHeader type data.length, data) :: done.2) := by
  rw [sendMessage, if_neg (by simp [serial])] at sent
  dsimp only at sent
  obtain ⟨tail, sentTail, rfl⟩ := Option.map_eq_some'.mp sent
  set first := min (data.length % 2 ^ 32) (vdAgentMaxChunkSize - 20) with firstEq
  rw [Nat.mod_eq_of_lt small] at firstEq
  have length : (data.take first).length = first := by simp [firstEq]
  have step : takeChunk ⟨(chunkWrite session.portId (20 + first) ((messageHeader type data.length).toBytes ++
      data.take first)).buffer ++ (wire tail ++ rest), false, pendingMsg, pendingData⟩ =
      some (.consumed (settle ⟨wire tail ++ rest, true, messageHeader type data.length, data.take first⟩).1
        (settle ⟨wire tail ++ rest, true, messageHeader type data.length, data.take first⟩).2) := by
    rw [takeChunk_chunkWrite _ _ (by simp [length]) (by simp only [vdAgentMaxChunkSize] at firstEq; omega) rfl,
      absorbChunk_first _ _ _ _ (by rw [length]) (by simp only [vdAgentMaxChunkSize] at firstEq; omega)]
    rfl
  have size := toNat_size_messageHeader type small
  rw [wire_cons, List.append_assoc, reassemble_of_consumed step]
  by_cases complete : data.length ≤ first
  · rw [sendRest_of_le complete, Option.some.injEq] at sentTail
    subst sentTail
    rw [settle, if_pos (by rw [size]; simp; omega), List.take_of_length_le complete]
    rfl
  · rw [settle, if_neg (by rw [size]; simp; omega),
      reassemble_sendRest _ small size (by omega) sentTail rest]
    rcases reassemble ⟨rest, false, messageHeader type data.length, []⟩ with _ | ⟨final, messages⟩ <;> rfl

end Chunks

section Messages
variable {session : Session} {messages : List (BitVec 32 × Bytes)}

theorem sendAll_spec (small : ∀ message ∈ messages, message.2.length < 2 ^ 32) :
    ∃ writes, sendAll session messages = some writes ∧ ∀ write ∈ writes,
      ∃ chunk, readChunkHeader write.buffer = some chunk ∧ chunk.size.toNat ≤ vdAgentMaxChunkSize := by
  induction messages with
  | nil => exact ⟨[], rfl, by simp⟩
  | cons message messages ih =>
      obtain ⟨type, data⟩ := message
      obtain ⟨first, sent⟩ := Option.isSome_iff_exists.mp
        (sendMessage_isSome (small _ (List.mem_cons_self _ _)) : (sendMessage session type data).isSome)
      obtain ⟨more, sentMore, bounded⟩ := ih fun message mem => small message (List.mem_cons_of_mem _ mem)
      refine ⟨first ++ more, by rw [sendAll, sent, Option.bind_eq_bind, Option.some_bind, sentMore]; rfl, ?_⟩
      intro write mem
      rcases List.mem_append.mp mem with mem | mem
      · exact ((sendMessage_bounded sent) write mem).2
      · exact bounded write mem

theorem reassemble_sendAll (serial : session.serialDevice = true)
    (small : ∀ message ∈ messages, message.2.length < 2 ^ 32) {writes : List SerialWrite}
    (sent : sendAll session messages = some writes) (pendingMsg : VDAgentMessage) (pendingData : Bytes) :
    ∃ final : Reassembly, final.recvBuffer = [] ∧ final.hasPendingMsg = false ∧
      reassemble ⟨wire writes, false, pendingMsg, pendingData⟩ =
        some (final, messages.map fun message => (messageHeader message.1 message.2.length, message.2)) := by
  induction messages generalizing writes pendingMsg pendingData with
  | nil =>
      cases sent
      have wait : takeChunk ⟨wire [], false, pendingMsg, pendingData⟩ = some .wait := by simp [takeChunk]
      exact ⟨_, rfl, rfl, reassemble_of_wait wait⟩
  | cons message messages ih =>
      obtain ⟨type, data⟩ := message
      obtain ⟨first, sentFirst, sent⟩ := Option.bind_eq_some.mp sent
      obtain ⟨more, sentMore, sent⟩ := Option.bind_eq_some.mp sent
      cases sent
      obtain ⟨final, empty, idle, reassembled⟩ :=
        ih (fun message mem => small message (List.mem_cons_of_mem _ mem)) sentMore (messageHeader type data.length) []
      refine ⟨final, empty, idle, ?_⟩
      rw [wire_append, reassemble_sendMessage serial type (small _ (List.mem_cons_self _ _)) sentFirst,
        reassembled]
      rfl

end Messages

/-- Below `2 ^ 32` payload bytes, what successive `SendMessage` calls write is chunks that
announce at most `VD_AGENT_MAX_CHUNK_SIZE` bytes each, and the loop of one
`OnDataReceived` call on all of them, from an empty buffer and no pending message,
completes exactly the messages sent, in order, each with its type, its size and exactly its
data, hands them to the handlers in that order, and ends with an empty buffer and no
pending message. -/
theorem send_then_receive (sender receiver : Session) (serial : sender.serialDevice = true)
    (messages : List (BitVec 32 × Bytes)) (small : ∀ message ∈ messages, message.2.length < 2 ^ 32)
    (reassembly : Reassembly) (idle : reassembly.recvBuffer = [] ∧ reassembly.hasPendingMsg = false) :
    ∃ writes, sendAll sender messages = some writes ∧
      (∀ write ∈ writes,
        ∃ chunk, readChunkHeader write.buffer = some chunk ∧ chunk.size.toNat ≤ vdAgentMaxChunkSize) ∧
      ∃ final : Reassembly, final.recvBuffer = [] ∧ final.hasPendingMsg = false ∧
        reassemble (reassembly.append (wire writes)) =
          some (final, messages.map fun message => (messageHeader message.1 message.2.length, message.2)) ∧
        drain receiver (reassembly.append (wire writes)) =
          (dispatchAll receiver
              (messages.map fun message => (messageHeader message.1 message.2.length, message.2))).map
            fun handled => (handled.1, final, handled.2.1, handled.2.2) := by
  obtain ⟨writes, sent, bounded⟩ := @sendAll_spec sender messages small
  obtain ⟨final, empty, done, reassembled⟩ :=
    reassemble_sendAll serial small sent reassembly.pendingMsg reassembly.pendingData
  have start : reassembly.append (wire writes) =
      ⟨wire writes, false, reassembly.pendingMsg, reassembly.pendingData⟩ := by
    obtain ⟨recvBuffer, hasPendingMsg, pendingMsg, pendingData⟩ := reassembly
    obtain ⟨rfl, rfl⟩ := idle
    rfl
  rw [← start] at reassembled
  exact ⟨writes, sent, bounded, final, empty, done, reassembled,
    by rw [drain_eq, reassembled, Option.some_bind]⟩

-- A clipboard release and a 3000-byte data message, the second split over two chunks.
theorem send_then_receive_two_messages :
    let sender : Session := ⟨true, 1, false, [], true⟩
    let receiver : Session := ⟨false, 0, true, [], false⟩
    let messages : List (BitVec 32 × Bytes) :=
      [(vdAgentClipboardRelease, []), (vdAgentClipboard, List.replicate 3000 0x41)]
    let reassembly : Reassembly := ⟨[], false, messageHeader 0 0, [7]⟩
    sender.serialDevice = true ∧ (∀ message ∈ messages, message.2.length < 2 ^ 32) ∧
      (reassembly.recvBuffer = [] ∧ reassembly.hasPendingMsg = false) ∧
      ∃ writes, sendAll sender messages = some writes ∧
        (∀ write ∈ writes,
          ∃ chunk, readChunkHeader write.buffer = some chunk ∧ chunk.size.toNat ≤ vdAgentMaxChunkSize) ∧
        ∃ final : Reassembly, final.recvBuffer = [] ∧ final.hasPendingMsg = false ∧
          reassemble (reassembly.append (wire writes)) =
            some (final, messages.map fun message => (messageHeader message.1 message.2.length, message.2)) ∧
          drain receiver (reassembly.append (wire writes)) =
            (dispatchAll receiver
                (messages.map fun message => (messageHeader message.1 message.2.length, message.2))).map
              fun handled => (handled.1, final, handled.2.1, handled.2.2) :=
  have small : ∀ message ∈ [(vdAgentClipboardRelease, []), (vdAgentClipboard, List.replicate 3000 0x41)],
      (message : BitVec 32 × Bytes).2.length < 2 ^ 32 := by
    intro message mem
    rcases List.mem_cons.mp mem with rfl | mem
    · decide
    · rw [List.mem_singleton.mp mem, List.length_replicate]
      decide
  ⟨rfl, small, ⟨rfl, rfl⟩, send_then_receive _ _ rfl _ small _ ⟨rfl, rfl⟩⟩

section Capabilities

-- A whole announce of `request` and `caps` words, dispatched once its data is complete.
theorem dispatchMessage_announce (session : Session) (request : BitVec 32) (caps : List (BitVec 32))
    (small : 4 + 4 * caps.length < 2 ^ 32) :
    dispatchMessage session (messageHeader vdAgentAnnounceCapabilities (4 + 4 * caps.length))
        (u32Bytes request ++ wordBytes caps) =
      some ({ session with guestCaps := caps, guestCapsReceived := true }, [Event.guestCaps caps],
        decide (request ≠ 0)) := by
  have head := readU32_u32Bytes [] (wordBytes caps) request
  have words := readU32s_wordBytes (u32Bytes request) [] caps
  have span : readBytes (u32Bytes request ++ wordBytes caps) 0 (4 + 4 * caps.length) =
      some (u32Bytes request ++ wordBytes caps) := by
    rw [readBytes_of_le (by simp)]
    simp
  simp only [List.nil_append, List.append_nil, List.length_nil, length_u32Bytes] at head words
  have typed : (messageHeader vdAgentAnnounceCapabilities (4 + 4 * caps.length)).type =
      vdAgentAnnounceCapabilities := rfl
  simp only [dispatchMessage, typed, if_true, toNat_size_messageHeader _ small,
    if_pos (show 4 ≤ 4 + 4 * caps.length by omega), head, span, Option.bind_eq_bind, Option.some_bind,
    handleAnnounceCapabilitiesLocked, if_neg (show ¬4 + 4 * caps.length < 4 by omega), Nat.add_sub_cancel_left,
    Nat.mul_div_cancel_left _ (show 0 < 4 by norm_num), words]
  rfl

/-- An announce carrying `request` and the capability words `caps`, as `SendMessage` chunks
it, read by one `OnDataReceived` call of a handler with an empty buffer and no pending
message: the handler keeps exactly `caps` as the guest's capabilities, marks them received,
and answers with its own announce (request 0, `host_caps_`) exactly when `request` is not 0. -/
theorem announce_stores_caps_and_answers_request (sender : Session) (serial : sender.serialDevice = true)
    (request : BitVec 32) (caps : List (BitVec 32)) (small : 4 + 4 * caps.length < 2 ^ 32)
    (receiver : VDAgentHandler)
    (idle : receiver.reassembly.recvBuffer = [] ∧ receiver.reassembly.hasPendingMsg = false) :
    ∃ writes, sendMessage sender vdAgentAnnounceCapabilities (u32Bytes request ++ wordBytes caps) = some writes ∧
      ∃ final : Reassembly, final.recvBuffer = [] ∧ final.hasPendingMsg = false ∧
        onDataReceived receiver (wire writes) =
          (if request ≠ 0 then
              sendAnnounceCapabilities { receiver.session with guestCaps := caps, guestCapsReceived := true }
            else some []).map fun replies =>
            (⟨{ receiver.session with guestCaps := caps, guestCapsReceived := true }, final⟩,
              .guestCaps caps :: replies.map .serial) := by
  have length : (u32Bytes request ++ wordBytes caps).length = 4 + 4 * caps.length := by simp
  obtain ⟨writes, sent⟩ := Option.isSome_iff_exists.mp
    (sendMessage_isSome (length ▸ small) : (sendMessage sender vdAgentAnnounceCapabilities _).isSome)
  refine ⟨writes, sent, ⟨[], false, messageHeader vdAgentAnnounceCapabilities (4 + 4 * caps.length), []⟩, rfl, rfl, ?_⟩
  have wait : takeChunk ⟨[], false, messageHeader vdAgentAnnounceCapabilities (4 + 4 * caps.length), []⟩ =
      some .wait := by simp [takeChunk]
  have reassembled := reassemble_sendMessage serial _ (length ▸ small) sent [] receiver.reassembly.pendingMsg
    receiver.reassembly.pendingData
  rw [List.append_nil, length, reassemble_of_wait wait] at reassembled
  have start : receiver.reassembly.append (wire writes) =
      ⟨wire writes, false, receiver.reassembly.pendingMsg, receiver.reassembly.pendingData⟩ := by
    show (⟨receiver.reassembly.recvBuffer ++ wire writes, receiver.reassembly.hasPendingMsg, _, _⟩ : Reassembly) = _
    rw [idle.1, idle.2, List.nil_append]
  rw [onDataReceived, start, drain_eq, reassembled]
  simp only [Option.map_some', Option.some_bind, dispatchAll, dispatchMessage_announce _ _ _ small]
  by_cases asked : request = 0 <;> simp [asked, Option.map_eq_bind, Function.comp_def]

-- A guest's request announcing one capability word, answered with `host_caps_`.
theorem announce_stores_caps_and_answers_request_of_guest :
    let sender : Session := ⟨true, 1, false, [], true⟩
    let receiver : VDAgentHandler := ⟨⟨true, 1, true, [], false⟩, ⟨[], false, messageHeader 0 0, [7]⟩⟩
    let caps : List (BitVec 32) := [0x2B]
    sender.serialDevice = true ∧ 4 + 4 * caps.length < 2 ^ 32 ∧
      (receiver.reassembly.recvBuffer = [] ∧ receiver.reassembly.hasPendingMsg = false) ∧
      ∃ writes, sendMessage sender vdAgentAnnounceCapabilities (u32Bytes 1 ++ wordBytes caps) = some writes ∧
        ∃ final : Reassembly, final.recvBuffer = [] ∧ final.hasPendingMsg = false ∧
          onDataReceived receiver (wire writes) =
            (if (1 : BitVec 32) ≠ 0 then
                sendAnnounceCapabilities { receiver.session with guestCaps := caps, guestCapsReceived := true }
              else some []).map fun replies =>
              (⟨{ receiver.session with guestCaps := caps, guestCapsReceived := true }, final⟩,
                .guestCaps caps :: replies.map .serial) :=
  ⟨rfl, by decide, ⟨rfl, rfl⟩, announce_stores_caps_and_answers_request _ rfl 1 [0x2B] (by decide) _ ⟨rfl, rfl⟩⟩

end Capabilities

end Tenbox.VdAgent
