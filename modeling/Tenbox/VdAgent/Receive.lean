import Tenbox.VdAgent.Handlers

/-!
`VDAgentHandler::OnDataReceived`: the bytes are appended to `recv_buffer_` and the
`while (true)` loop takes whole chunks off its front until too few bytes are left, each
pass either dropping a short first chunk, starting a message from a first chunk or adding
a continuation chunk to it, and handing a message to the handlers as soon as
`pending_data_` holds `pending_msg_.size` bytes.

`takeChunk` is one pass over the reassembly state, `drain` the loop as the source runs it,
dispatching each message in the pass that completes it. Every pass consumes at least the
8 header bytes, so the loop ends: `drain` recurses on the length of `recv_buffer_`.
`reassemble` runs the passes alone and `dispatchAll` the handlers alone; `drain_eq` says
the loop is the one followed by the other, since neither half touches the other's state.
-/

namespace Tenbox.VdAgent

-- One pass: `wait` is the `break`, `consumed` a chunk taken off the buffer, with the
-- message it completed, if any.
inductive ChunkStep where
  | wait
  | consumed (reassembly : Reassembly) (completed : Option (VDAgentMessage × Bytes))

-- The `pending_data_.size() >= pending_msg_.size` check that ends a pass: a complete
-- message leaves with its data and the pending state is cleared.
def settle (reassembly : Reassembly) : Reassembly × Option (VDAgentMessage × Bytes) :=
  if reassembly.pendingMsg.size.toNat ≤ reassembly.pendingData.length then
    ({ reassembly with hasPendingMsg := false, pendingData := [] },
      some (reassembly.pendingMsg, reassembly.pendingData))
  else (reassembly, none)

-- The rest of a pass once the whole chunk `chunk` is at the front of `recv_buffer_`.
def absorbChunk (reassembly : Reassembly) (chunk : VDAgentChunkHeader) :
    Option (Reassembly × Option (VDAgentMessage × Bytes)) :=
  let buffer := reassembly.recvBuffer
  let rest := buffer.drop (8 + chunk.size.toNat)
  if !reassembly.hasPendingMsg then
    if chunk.size.toNat < 20 then some ({ reassembly with recvBuffer := rest }, none)
    else do
      let msg ← readMessage buffer 8
      let payload ← readBytes buffer 28 (chunk.size.toNat - 20)
      pure (settle ⟨rest, true, msg, payload⟩)
  else
    (readBytes buffer 8 chunk.size.toNat).map fun payload =>
      settle { reassembly with recvBuffer := rest, pendingData := reassembly.pendingData ++ payload }

def takeChunk (reassembly : Reassembly) : Option ChunkStep :=
  if reassembly.recvBuffer.length < 8 then some .wait
  else (readChunkHeader reassembly.recvBuffer).bind fun chunk =>
    if reassembly.recvBuffer.length < 8 + chunk.size.toNat then some .wait
    else (absorbChunk reassembly chunk).map fun absorbed => .consumed absorbed.1 absorbed.2

-- The body of `if (pending_data_.size() >= pending_msg_.size)`: the handlers get the first
-- `pending_msg_.size` bytes of `pending_data_`; the `bool` is `need_send_caps`.
def dispatchMessage (session : Session) (msg : VDAgentMessage) (pendingData : Bytes) :
    Option (Session × List Event × Bool) :=
  if msg.type = vdAgentAnnounceCapabilities then do
    let request ← (if 4 ≤ msg.size.toNat then readU32 pendingData 0 else some 0)
    let span ← readBytes pendingData 0 msg.size.toNat
    let handled ← handleAnnounceCapabilitiesLocked session span msg.size.toNat
    pure (handled.1, handled.2, request ≠ 0)
  else do
    let span ← readBytes pendingData 0 msg.size.toNat
    let handled ← processMessage session msg span
    pure (handled.1, handled.2, false)

def dispatchAll (session : Session) : List (VDAgentMessage × Bytes) → Option (Session × List Event × Bool)
  | [] => some (session, [], false)
  | (msg, data) :: rest => do
      let first ← dispatchMessage session msg data
      let more ← dispatchAll first.1 rest
      pure (more.1, first.2.1 ++ more.2.1, first.2.2 || more.2.2)

section Pass
variable {reassembly reassembly' : Reassembly} {chunk : VDAgentChunkHeader}
  {completed : Option (VDAgentMessage × Bytes)}

theorem settle_recvBuffer (reassembly : Reassembly) : (settle reassembly).1.recvBuffer = reassembly.recvBuffer := by
  unfold settle
  split <;> rfl

theorem fits_of_settle {msg : VDAgentMessage} {data : Bytes}
    (settled : (settle reassembly).2 = some (msg, data)) : msg.size.toNat ≤ data.length := by
  unfold settle at settled
  split at settled
  · cases settled
    assumption
  · cases settled

theorem absorbChunk_isSome (whole : 8 + chunk.size.toNat ≤ reassembly.recvBuffer.length) :
    (absorbChunk reassembly chunk).isSome := by
  unfold absorbChunk
  split
  · split
    · rfl
    · exact isSome_bind_of (readMessage_isSome (by omega)) fun _ _ =>
        isSome_bind_of (readBytes_isSome.mpr (by omega)) fun _ _ => rfl
  · rw [Option.isSome_map']
    exact readBytes_isSome.mpr (by omega)

theorem absorbChunk_spec (absorbed : absorbChunk reassembly chunk = some (reassembly', completed)) :
    reassembly'.recvBuffer = reassembly.recvBuffer.drop (8 + chunk.size.toNat) ∧
      ∀ msg data, completed = some (msg, data) → msg.size.toNat ≤ data.length := by
  unfold absorbChunk at absorbed
  split at absorbed
  · split at absorbed
    · cases absorbed
      exact ⟨rfl, by simp⟩
    · obtain ⟨msg, -, absorbed⟩ := Option.bind_eq_some.mp absorbed
      obtain ⟨payload, -, absorbed⟩ := Option.bind_eq_some.mp absorbed
      obtain ⟨rfl, rfl⟩ := Prod.ext_iff.mp (Option.some.inj absorbed).symm
      exact ⟨settle_recvBuffer _, fun _ _ => fits_of_settle⟩
  · obtain ⟨payload, -, absorbed⟩ := Option.map_eq_some'.mp absorbed
    obtain ⟨rfl, rfl⟩ := Prod.ext_iff.mp absorbed.symm
    exact ⟨settle_recvBuffer _, fun _ _ => fits_of_settle⟩

theorem settle_append (reassembly : Reassembly) (data : Bytes) :
    settle (reassembly.append data) = ((settle reassembly).1.append data, (settle reassembly).2) := by
  by_cases complete : reassembly.pendingMsg.size.toNat ≤ reassembly.pendingData.length <;>
    simp [settle, Reassembly.append, complete]

@[simp] theorem Reassembly.recvBuffer_append (reassembly : Reassembly) (data : Bytes) :
    (reassembly.append data).recvBuffer = reassembly.recvBuffer ++ data := rfl

@[simp] theorem Reassembly.hasPendingMsg_append (reassembly : Reassembly) (data : Bytes) :
    (reassembly.append data).hasPendingMsg = reassembly.hasPendingMsg := rfl

-- A pass over a whole chunk reads nothing past it, so bytes arriving later change nothing
-- but what is left in the buffer.
theorem absorbChunk_append (data : Bytes) (whole : 8 + chunk.size.toNat ≤ reassembly.recvBuffer.length) :
    absorbChunk (reassembly.append data) chunk =
      (absorbChunk reassembly chunk).map fun absorbed => (absorbed.1.append data, absorbed.2) := by
  have drop : (reassembly.recvBuffer ++ data).drop (8 + chunk.size.toNat) =
      reassembly.recvBuffer.drop (8 + chunk.size.toNat) ++ data := List.drop_append_of_le_length whole
  simp only [absorbChunk, Reassembly.recvBuffer_append, Reassembly.hasPendingMsg_append, drop]
  split
  · split
    · rfl
    · rw [readMessage_append (by omega), readBytes_append (by omega)]
      rcases readMessage reassembly.recvBuffer 8 with _ | msg
      · rfl
      · rcases readBytes reassembly.recvBuffer 28 (chunk.size.toNat - 20) with _ | payload
        · rfl
        · exact congrArg some (settle_append ⟨reassembly.recvBuffer.drop (8 + chunk.size.toNat), true, msg, payload⟩ data)
  · rw [readBytes_append (by omega)]
    rcases readBytes reassembly.recvBuffer 8 chunk.size.toNat with _ | payload
    · rfl
    · exact congrArg some (settle_append
        { reassembly with
          recvBuffer := reassembly.recvBuffer.drop (8 + chunk.size.toNat)
          pendingData := reassembly.pendingData ++ payload } data)

theorem takeChunk_consumed (step : takeChunk reassembly = some (.consumed reassembly' completed)) :
    ∃ chunk, readChunkHeader reassembly.recvBuffer = some chunk ∧
      8 + chunk.size.toNat ≤ reassembly.recvBuffer.length ∧
      absorbChunk reassembly chunk = some (reassembly', completed) := by
  unfold takeChunk at step
  split at step
  · cases step
  · obtain ⟨chunk, header, step⟩ := Option.bind_eq_some.mp step
    split at step
    · cases step
    · obtain ⟨absorbed, absorbedEq, step⟩ := Option.map_eq_some'.mp step
      cases step
      exact ⟨chunk, header, by omega, absorbedEq⟩

theorem shorter_of_takeChunk (step : takeChunk reassembly = some (.consumed reassembly' completed)) :
    reassembly'.recvBuffer.length < reassembly.recvBuffer.length := by
  obtain ⟨chunk, -, whole, absorbed⟩ := takeChunk_consumed step
  rw [(absorbChunk_spec absorbed).1, List.length_drop]
  omega

-- No pass ever reads outside `recv_buffer_`.
theorem takeChunk_isSome (reassembly : Reassembly) : (takeChunk reassembly).isSome := by
  unfold takeChunk
  split
  · rfl
  · refine isSome_bind_of (readChunkHeader_isSome (by omega)) fun chunk _ => ?_
    split
    · rfl
    · rw [Option.isSome_map']
      exact absorbChunk_isSome (by omega)

def ChunkStep.append (data : Bytes) : ChunkStep → ChunkStep
  | .wait => .wait
  | .consumed reassembly completed => .consumed (reassembly.append data) completed

theorem takeChunk_append (reassembly : Reassembly) (data : Bytes) :
    takeChunk reassembly = some .wait ∨
      takeChunk (reassembly.append data) = (takeChunk reassembly).map (ChunkStep.append data) := by
  by_cases short : reassembly.recvBuffer.length < 8
  · exact .inl (by rw [takeChunk, if_pos short])
  obtain ⟨chunk, header⟩ := Option.isSome_iff_exists.mp (readChunkHeader_isSome (by omega : 8 ≤ reassembly.recvBuffer.length))
  by_cases incomplete : reassembly.recvBuffer.length < 8 + chunk.size.toNat
  · exact .inl (by rw [takeChunk, if_neg short, header, Option.some_bind, if_pos incomplete])
  · have longer : ¬(reassembly.append data).recvBuffer.length < 8 := by simp [Reassembly.append]; omega
    have appended : readChunkHeader (reassembly.append data).recvBuffer = some chunk := by
      rw [Reassembly.append, readChunkHeader_append (by omega), header]
    refine .inr ?_
    rw [takeChunk, takeChunk, if_neg short, if_neg longer, header, appended, Option.some_bind, Option.some_bind,
      if_neg incomplete, if_neg (by simp [Reassembly.append]; omega), absorbChunk_append data (by omega)]
    cases absorbChunk reassembly chunk <;> rfl

end Pass

-- The passes alone, collecting each message with the data it completed with.
def reassemble (reassembly : Reassembly) : Option (Reassembly × List (VDAgentMessage × Bytes)) :=
  match _step : takeChunk reassembly with
  | none => none
  | some .wait => some (reassembly, [])
  | some (.consumed next completed) =>
      (reassemble next).map fun done => (done.1, completed.toList ++ done.2)
termination_by reassembly.recvBuffer.length
decreasing_by exact shorter_of_takeChunk _step

-- The `if (pending_data_.size() >= pending_msg_.size)` that ends a pass.
def dispatchCompleted (session : Session) : Option (VDAgentMessage × Bytes) → Option (Session × List Event × Bool)
  | none => some (session, [], false)
  | some (msg, data) => dispatchMessage session msg data

-- The `while (true)` loop of `OnDataReceived`; the `bool` is `need_send_caps`.
def drain (session : Session) (reassembly : Reassembly) : Option (Session × Reassembly × List Event × Bool) :=
  match _step : takeChunk reassembly with
  | none => none
  | some .wait => some (session, reassembly, [], false)
  | some (.consumed next completed) => do
      let first ← dispatchCompleted session completed
      let more ← drain first.1 next
      pure (more.1, more.2.1, first.2.1 ++ more.2.2.1, first.2.2 || more.2.2.2)
termination_by reassembly.recvBuffer.length
decreasing_by exact shorter_of_takeChunk _step

def onDataReceived (handler : VDAgentHandler) (data : Bytes) : Option (VDAgentHandler × List Event) := do
  let (session, reassembly, events, needSendCaps) ← drain handler.session (handler.reassembly.append data)
  let replies ← (if needSendCaps then sendAnnounceCapabilities session else some [])
  pure (⟨session, reassembly⟩, events ++ replies.map .serial)

section Loop
variable {session : Session} {reassembly next : Reassembly} {completed : Option (VDAgentMessage × Bytes)}

theorem reassemble_of_none (step : takeChunk reassembly = none) : reassemble reassembly = none := by
  rw [reassemble]
  split <;> simp_all

theorem reassemble_of_wait (step : takeChunk reassembly = some .wait) :
    reassemble reassembly = some (reassembly, []) := by
  rw [reassemble]
  split <;> simp_all

theorem reassemble_of_consumed (step : takeChunk reassembly = some (.consumed next completed)) :
    reassemble reassembly = (reassemble next).map fun done => (done.1, completed.toList ++ done.2) := by
  rw [reassemble]
  split <;> simp_all

theorem drain_of_none (step : takeChunk reassembly = none) : drain session reassembly = none := by
  rw [drain]
  split <;> simp_all

theorem drain_of_wait (step : takeChunk reassembly = some .wait) :
    drain session reassembly = some (session, reassembly, [], false) := by
  rw [drain]
  split <;> simp_all

theorem drain_of_consumed (step : takeChunk reassembly = some (.consumed next completed)) :
    drain session reassembly = (dispatchCompleted session completed).bind fun first =>
      (drain first.1 next).bind fun more =>
        some (more.1, more.2.1, first.2.1 ++ more.2.2.1, first.2.2 || more.2.2.2) := by
  rw [drain]
  split <;> simp_all

theorem dispatchAll_append (session : Session) (front back : List (VDAgentMessage × Bytes)) :
    dispatchAll session (front ++ back) = (dispatchAll session front).bind fun first =>
      (dispatchAll first.1 back).map fun more => (more.1, first.2.1 ++ more.2.1, first.2.2 || more.2.2) := by
  induction front generalizing session with
  | nil => simp [dispatchAll]
  | cons head front ih =>
      obtain ⟨msg, data⟩ := head
      rw [List.cons_append, dispatchAll, dispatchAll]
      simp only [ih]
      rcases dispatchMessage session msg data with _ | ⟨session1, events1, need1⟩
      · rfl
      · simp only [Option.bind_eq_bind, Option.some_bind]
        rcases dispatchAll session1 front with _ | ⟨session2, events2, need2⟩
        · rfl
        · simp only [Option.some_bind, pure, Option.map_eq_bind]
          rcases dispatchAll session2 back with _ | ⟨session3, events3, need3⟩
          · rfl
          · simp [Bool.or_assoc]

theorem dispatchCompleted_eq (completed : Option (VDAgentMessage × Bytes)) :
    dispatchCompleted session completed = dispatchAll session completed.toList := by
  rcases completed with _ | ⟨msg, data⟩
  · rfl
  · simp only [dispatchCompleted, Option.toList, dispatchAll, dispatchAll]
    rcases dispatchMessage session msg data with _ | ⟨session1, events1, need1⟩ <;> simp

-- The loop dispatches, in order, exactly the messages the passes alone complete.
theorem drain_eq (session : Session) (reassembly : Reassembly) :
    drain session reassembly = (reassemble reassembly).bind fun done =>
      (dispatchAll session done.2).map fun handled => (handled.1, done.1, handled.2.1, handled.2.2) := by
  rcases step : takeChunk reassembly with _ | _ | ⟨next, completed⟩
  · rw [drain_of_none step, reassemble_of_none step]
    rfl
  · rw [drain_of_wait step, reassemble_of_wait step]
    rfl
  · have ih := fun session => drain_eq session next
    rw [drain_of_consumed step, reassemble_of_consumed step, dispatchCompleted_eq]
    simp only [ih]
    rcases reassemble next with _ | ⟨final, messages⟩
    · rcases dispatchAll session completed.toList with _ | first <;> rfl
    · simp only [Option.map_some', Option.some_bind, dispatchAll_append]
      rcases dispatchAll session completed.toList with _ | ⟨session1, events1, need1⟩
      · rfl
      · simp only [Option.some_bind]
        rcases dispatchAll session1 messages with _ | ⟨session2, events2, need2⟩ <;> rfl
termination_by reassembly.recvBuffer.length
decreasing_by exact shorter_of_takeChunk step

-- The passes never fail, and every message they complete holds all of its data.
theorem reassemble_spec (reassembly : Reassembly) :
    ∃ final messages, reassemble reassembly = some (final, messages) ∧
      ∀ done ∈ messages, done.1.size.toNat ≤ done.2.length := by
  rcases step : takeChunk reassembly with _ | _ | ⟨next, completed⟩
  · simpa [step] using takeChunk_isSome reassembly
  · exact ⟨reassembly, [], reassemble_of_wait step, by simp⟩
  · obtain ⟨final, messages, eq, fits⟩ := reassemble_spec next
    obtain ⟨chunk, -, -, absorbed⟩ := takeChunk_consumed step
    refine ⟨final, completed.toList ++ messages, by rw [reassemble_of_consumed step, eq]; rfl, ?_⟩
    intro done mem
    rcases List.mem_append.mp mem with mem | mem
    · exact (absorbChunk_spec absorbed).2 done.1 done.2 (by simpa using mem)
    · exact fits done mem
termination_by reassembly.recvBuffer.length
decreasing_by exact shorter_of_takeChunk step

theorem dispatchMessage_isSome {msg : VDAgentMessage} {pendingData : Bytes}
    (fits : msg.size.toNat ≤ pendingData.length) : (dispatchMessage session msg pendingData).isSome := by
  unfold dispatchMessage
  split
  · refine isSome_bind_of ?_ fun _ _ => ?_
    · split
      · exact readU32_isSome (by omega)
      · rfl
    · exact isSome_bind_of (readBytes_isSome.mpr (by omega)) fun _ read =>
        isSome_bind_of (handleAnnounceCapabilitiesLocked_isSome (length_of_readBytes read).ge) fun _ _ => rfl
  · exact isSome_bind_of (readBytes_isSome.mpr (by omega)) fun _ read =>
      isSome_bind_of (processMessage_isSome msg (length_of_readBytes read).ge) fun _ _ => rfl

theorem dispatchAll_isSome {messages : List (VDAgentMessage × Bytes)}
    (fits : ∀ done ∈ messages, done.1.size.toNat ≤ done.2.length) (session : Session) :
    (dispatchAll session messages).isSome := by
  induction messages generalizing session with
  | nil => rfl
  | cons head messages ih =>
      obtain ⟨msg, data⟩ := head
      exact isSome_bind_of (dispatchMessage_isSome (fits _ (List.mem_cons_self _ _))) fun _ _ =>
        isSome_bind_of (ih (fun done mem => fits done (List.mem_cons_of_mem _ mem)) _) fun _ _ => rfl

end Loop

/-- `OnDataReceived` ends on every input from every state, and neither its loop nor the
handlers it calls read a byte they do not hold: chunk and message headers and chunk
payloads lie in `recv_buffer_`, and a message's handler gets the first `pending_msg_.size`
bytes of `pending_data_`, which holds that many. -/
theorem onDataReceived_reads_in_bounds (handler : VDAgentHandler) (data : Bytes) :
    (onDataReceived handler data).isSome := by
  obtain ⟨final, messages, reassembled, fits⟩ := reassemble_spec (handler.reassembly.append data)
  have looped : (drain handler.session (handler.reassembly.append data)).isSome := by
    rw [drain_eq, reassembled, Option.some_bind, Option.isSome_map']
    exact dispatchAll_isSome fits _
  refine isSome_bind_of looped fun ⟨session, reassembly, events, needSendCaps⟩ _ => ?_
  refine isSome_bind_of ?_ fun _ _ => ?_
  · split
    · exact sendAnnounceCapabilities_isSome
    · rfl
  · rfl

section Announce
variable (session : Session)

-- The announce handler reads no byte past `size`.
theorem handleAnnounceCapabilitiesLocked_take (data : Bytes) {size : Nat} (fits : size ≤ data.length) :
    handleAnnounceCapabilitiesLocked session (data.take size) size =
      handleAnnounceCapabilitiesLocked session data size := by
  unfold handleAnnounceCapabilitiesLocked
  split_ifs with short
  · rfl
  · conv_rhs => rw [← List.take_append_drop size data]
    rw [readU32s_append _ (by simp; omega)]

/-- The announce branch that `OnDataReceived` runs inline, `HandleAnnounceCapabilitiesLocked`
under the lock and `SendAnnounceCapabilities` once the request word was set, agrees with
`ProcessMessage`'s own announce branch, `HandleAnnounceCapabilities`, on every message whose
data is complete: the same session, the same events and the same reply. -/
theorem inline_announce_agrees_with_processMessage (msg : VDAgentMessage) (data : Bytes)
    (announce : msg.type = vdAgentAnnounceCapabilities) (fits : msg.size.toNat ≤ data.length) :
    ((dispatchMessage session msg data).bind fun handled =>
      (if handled.2.2 then sendAnnounceCapabilities handled.1 else some []).map
        fun replies => (handled.1, handled.2.1 ++ replies.map .serial)) =
      processMessage session msg data := by
  have span : readBytes data 0 msg.size.toNat = some (data.take msg.size.toNat) := by
    rw [readBytes_of_le (by omega)]
    simp
  rw [dispatchMessage, if_pos announce, processMessage, if_pos announce, handleAnnounceCapabilities]
  by_cases short : msg.size.toNat < 4
  · simp [short, span, handleAnnounceCapabilitiesLocked, if_neg (show ¬4 ≤ msg.size.toNat by omega)]
  · obtain ⟨request, read⟩ := Option.isSome_iff_exists.mp (readU32_isSome (show 0 + 4 ≤ data.length by omega))
    simp only [if_neg short, if_pos (show 4 ≤ msg.size.toNat by omega), read, span, Option.bind_eq_bind,
      Option.some_bind, handleAnnounceCapabilitiesLocked_take session data fits]
    rcases handleAnnounceCapabilitiesLocked session data msg.size.toNat with _ | ⟨session', events⟩
    · rfl
    · by_cases asked : request = 0
      · subst asked
        simp
      · simp only [BitVec.ofNat_eq_ofNat] at asked
        simp [asked, Option.map_eq_bind, Function.comp_def]

end Announce

-- A request for capabilities announcing one word, as the guest sends it at start-up.
theorem inline_announce_agrees_with_processMessage_on_request :
    let session : Session := ⟨true, 1, true, [], false⟩
    let msg : VDAgentMessage := ⟨1, vdAgentAnnounceCapabilities, 0, 8⟩
    let data : Bytes := [1, 0, 0, 0, 0x2B, 0, 0, 0]
    msg.type = vdAgentAnnounceCapabilities ∧ msg.size.toNat ≤ data.length ∧
      ((dispatchMessage session msg data).bind fun handled =>
        (if handled.2.2 then sendAnnounceCapabilities handled.1 else some []).map
          fun replies => (handled.1, handled.2.1 ++ replies.map .serial)) =
        processMessage session msg data :=
  ⟨rfl, by decide, inline_announce_agrees_with_processMessage _ _ _ rfl (by decide)⟩

end Tenbox.VdAgent
