import Tenbox.VdAgent.Receive

/-!
How the guest's byte stream is cut into `OnDataReceived` calls does not matter. A pass
over a whole chunk reads nothing past it (`takeChunk_append`), so the passes over a
stream are the passes over its first part followed by those over the rest
(`reassemble_append`); the handlers run message after message (`dispatchAll_append`).
Only the capability replies can differ: one call sends at most one, after its loop.
-/

namespace Tenbox.VdAgent

-- Successive `OnDataReceived` calls, one per buffer the serial port hands over.
def deliver (handler : VDAgentHandler) : List Bytes → Option (VDAgentHandler × List Event)
  | [] => some (handler, [])
  | piece :: rest => do
      let first ← onDataReceived handler piece
      let more ← deliver first.1 rest
      pure (more.1, first.2 ++ more.2)

-- A run's final state and its events without the serial writes.
def withoutSerial (result : VDAgentHandler × List Event) : VDAgentHandler × List Event :=
  (result.1, result.2.filter fun event => !event.isSerial)

theorem reassemble_append (reassembly : Reassembly) (data : Bytes) :
    reassemble (reassembly.append data) = (reassemble reassembly).bind fun first =>
      (reassemble (first.1.append data)).map fun more => (more.1, first.2 ++ more.2) := by
  rcases takeChunk_append reassembly data with wait | appended
  · rw [reassemble_of_wait wait, Option.some_bind]
    rcases reassemble (reassembly.append data) with _ | ⟨final, messages⟩ <;> rfl
  · rcases step : takeChunk reassembly with _ | _ | ⟨next, completed⟩ <;> rw [step] at appended
    · rw [reassemble_of_none appended, reassemble_of_none step]
      rfl
    · rw [reassemble_of_wait appended, reassemble_of_wait step, Option.some_bind, reassemble_of_wait appended]
      rfl
    · rw [reassemble_of_consumed appended, reassemble_of_consumed step, reassemble_append next data]
      rcases reassemble next with _ | ⟨final, messages⟩
      · rfl
      · simp only [Option.some_bind, Option.map_some']
        rcases reassemble (final.append data) with _ | ⟨final', messages'⟩ <;> simp
termination_by reassembly.recvBuffer.length
decreasing_by exact shorter_of_takeChunk step

theorem onDataReceived_of (handler : VDAgentHandler) (data : Bytes) {final : Reassembly}
    {messages : List (VDAgentMessage × Bytes)} {session : Session} {events : List Event} {needSendCaps : Bool}
    (reassembled : reassemble (handler.reassembly.append data) = some (final, messages))
    (dispatched : dispatchAll handler.session messages = some (session, events, needSendCaps)) :
    ∃ replies : List SerialWrite,
      onDataReceived handler data = some (⟨session, final⟩, events ++ replies.map .serial) := by
  obtain ⟨replies, sent⟩ : ∃ replies,
      (if needSendCaps then sendAnnounceCapabilities session else some []) = some replies := by
    apply Option.isSome_iff_exists.mp
    split
    · exact sendAnnounceCapabilities_isSome
    · rfl
  refine ⟨replies, ?_⟩
  rw [onDataReceived, drain_eq, reassembled, Option.some_bind, dispatched, Option.map_some', Option.bind_eq_bind,
    Option.some_bind]
  simp only [sent]
  rfl

theorem onDataReceived_spec (handler : VDAgentHandler) (data : Bytes) :
    ∃ final messages session events needSendCaps, ∃ replies : List SerialWrite,
      reassemble (handler.reassembly.append data) = some (final, messages) ∧
      dispatchAll handler.session messages = some (session, events, needSendCaps) ∧
      onDataReceived handler data = some (⟨session, final⟩, events ++ replies.map .serial) := by
  obtain ⟨final, messages, reassembled, fits⟩ := reassemble_spec (handler.reassembly.append data)
  obtain ⟨⟨session, events, needSendCaps⟩, dispatched⟩ :=
    Option.isSome_iff_exists.mp (dispatchAll_isSome fits handler.session)
  obtain ⟨replies, received⟩ := onDataReceived_of handler data reassembled dispatched
  exact ⟨final, messages, session, events, needSendCaps, replies, reassembled, dispatched, received⟩

@[simp] theorem withoutSerial_replies (handler : VDAgentHandler) (events : List Event)
    (replies : List SerialWrite) :
    withoutSerial (handler, events ++ replies.map .serial) = withoutSerial (handler, events) := by
  simp [withoutSerial, List.filter_append, List.filter_map, Function.comp_def, Event.isSerial]

-- Two calls see what one call on the joined bytes sees, capability replies apart.
theorem onDataReceived_append (handler : VDAgentHandler) (front back : Bytes) :
    ∃ first second whole, onDataReceived handler front = some first ∧
      onDataReceived first.1 back = some second ∧ onDataReceived handler (front ++ back) = some whole ∧
      withoutSerial (second.1, first.2 ++ second.2) = withoutSerial whole := by
  obtain ⟨final, messages, session, events, need, replies, reassembled, dispatched, received⟩ :=
    onDataReceived_spec handler front
  obtain ⟨final', messages', session', events', need', replies', reassembled', dispatched', received'⟩ :=
    onDataReceived_spec ⟨session, final⟩ back
  have joined : reassemble (handler.reassembly.append (front ++ back)) = some (final', messages ++ messages') := by
    rw [show handler.reassembly.append (front ++ back) = (handler.reassembly.append front).append back by
      simp [Reassembly.append], reassemble_append, reassembled, Option.some_bind]
    rw [show (⟨session, final⟩ : VDAgentHandler).reassembly = final from rfl] at reassembled'
    rw [reassembled']
    rfl
  have handled : dispatchAll handler.session (messages ++ messages') =
      some (session', events ++ events', need || need') := by
    rw [dispatchAll_append, dispatched, Option.some_bind]
    rw [show (⟨session, final⟩ : VDAgentHandler).session = session from rfl] at dispatched'
    rw [dispatched']
    rfl
  obtain ⟨replies'', whole⟩ := onDataReceived_of handler (front ++ back) joined handled
  refine ⟨_, _, _, received, received', whole, ?_⟩
  simp [withoutSerial, List.filter_append, List.filter_map, Function.comp_def, Event.isSerial]

theorem withoutSerial_prepend {split whole : VDAgentHandler × List Event} (events : List Event)
    (same : withoutSerial split = withoutSerial whole) :
    withoutSerial (split.1, events ++ split.2) = withoutSerial (whole.1, events ++ whole.2) := by
  simp only [withoutSerial, Prod.mk.injEq, List.filter_append] at same ⊢
  rw [same.1, same.2]
  exact ⟨rfl, rfl⟩

-- Any number of calls see what one call on all their bytes sees, capability replies apart.
theorem deliver_eq (handler : VDAgentHandler) (piece : Bytes) (pieces : List Bytes) :
    ∃ split whole, deliver handler (piece :: pieces) = some split ∧
      onDataReceived handler (piece :: pieces).flatten = some whole ∧ withoutSerial split = withoutSerial whole := by
  induction pieces generalizing handler piece with
  | nil =>
      obtain ⟨first, received⟩ := Option.isSome_iff_exists.mp (onDataReceived_reads_in_bounds handler piece)
      refine ⟨(first.1, first.2 ++ []), first, ?_, by simpa using received, by simp⟩
      rw [deliver, received]
      rfl
  | cons next pieces ih =>
      obtain ⟨first, second, whole, received, received', joined, same⟩ :=
        onDataReceived_append handler piece (next :: pieces).flatten
      obtain ⟨split, whole', delivered, received'', same'⟩ := ih first.1 next
      rw [received'', Option.some.injEq] at received'
      subst received'
      refine ⟨(split.1, first.2 ++ split.2), whole, ?_, by rw [List.flatten_cons]; exact joined, ?_⟩
      · rw [deliver, received, Option.bind_eq_bind, Option.some_bind, delivered]
        rfl
      · rw [← same]
        exact withoutSerial_prepend first.2 same'

/-- However the guest's bytes are cut into successive `OnDataReceived` calls, the handler
ends in the same state (reassembly buffers and pending message, guest capabilities) after
the same clipboard callbacks and capability updates in the same order. -/
theorem onDataReceived_cut_invariant (handler : VDAgentHandler) (pieces₁ pieces₂ : List Bytes)
    (cut₁ : pieces₁ ≠ []) (cut₂ : pieces₂ ≠ []) (same : pieces₁.flatten = pieces₂.flatten) :
    (deliver handler pieces₁).isSome ∧
      (deliver handler pieces₁).map withoutSerial = (deliver handler pieces₂).map withoutSerial := by
  obtain ⟨piece₁, rest₁, rfl⟩ := List.exists_cons_of_ne_nil cut₁
  obtain ⟨piece₂, rest₂, rfl⟩ := List.exists_cons_of_ne_nil cut₂
  obtain ⟨split₁, whole₁, delivered₁, received₁, same₁⟩ := deliver_eq handler piece₁ rest₁
  obtain ⟨split₂, whole₂, delivered₂, received₂, same₂⟩ := deliver_eq handler piece₂ rest₂
  rw [same, received₂, Option.some.injEq] at received₁
  rw [delivered₁, delivered₂, Option.map_some', Option.map_some', same₁, same₂, received₁]
  exact ⟨rfl, rfl⟩

-- A clipboard release as `SendMessage` writes it, in one call and one byte per call, from
-- a fresh handler: the callback gets the release either way.
theorem onDataReceived_cut_invariant_bytewise :
    let handler : VDAgentHandler := ⟨⟨true, 0, true, [], false⟩, ⟨[], false, ⟨0, 0, 0, 0⟩, []⟩⟩
    let stream : Bytes := (chunkWrite 1 20 (messageHeader vdAgentClipboardRelease 0).toBytes).buffer
    let bytewise : List Bytes := stream.map fun byte => [byte]
    [stream] ≠ [] ∧ bytewise ≠ [] ∧ [stream].flatten = bytewise.flatten ∧
      (deliver handler [stream]).map withoutSerial =
        some (⟨handler.session, ⟨[], false, messageHeader vdAgentClipboardRelease 0, []⟩⟩,
          [.clipboard ⟨.release, 0, [], 0, []⟩]) ∧
      (deliver handler [stream]).isSome ∧
      (deliver handler [stream]).map withoutSerial = (deliver handler bytewise).map withoutSerial := by
  have taken : takeChunk ⟨(chunkWrite 1 20 (messageHeader vdAgentClipboardRelease 0).toBytes).buffer, false,
      ⟨0, 0, 0, 0⟩, []⟩ = some (.consumed ⟨[], false, messageHeader vdAgentClipboardRelease 0, []⟩
        (some (messageHeader vdAgentClipboardRelease 0, []))) := rfl
  have waiting : takeChunk ⟨[], false, messageHeader vdAgentClipboardRelease 0, []⟩ = some .wait := rfl
  refine ⟨by simp, by decide, rfl, ?_, onDataReceived_cut_invariant _ _ _ (by simp) (by decide) rfl⟩
  simp only [deliver, onDataReceived, Reassembly.append, List.nil_append, drain_of_consumed taken,
    drain_of_wait waiting]
  rfl

end Tenbox.VdAgent
