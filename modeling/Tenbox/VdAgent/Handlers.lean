import Tenbox.VdAgent.Send

/-!
`ProcessMessage` and the message handlers of vdagent_handler.cpp. A handler is called
with a pointer and a size; the model passes the `size` bytes the pointer starts, so a
handler whose reads never return `none` reads only inside the message. Sizes are the
`uint32_t` `msg.size`, taken as a `Nat`: every subtraction of the handlers sits behind a
`size >= ...` guard and cannot wrap.

The selection-aware and legacy layouts of a data and of a request message begin with the
same fields, read once by `typedHeader`.
-/

namespace Tenbox.VdAgent

def handleAnnounceCapabilitiesLocked (session : Session) (data : Bytes) (size : Nat) :
    Option (Session × List Event) :=
  if size < 4 then some (session, [])
  else
    (readU32s data 4 ((size - 4) / 4)).map fun caps =>
      ({ session with guestCaps := caps, guestCapsReceived := true }, [.guestCaps caps])

def handleAnnounceCapabilities (session : Session) (data : Bytes) (size : Nat) :
    Option (Session × List Event) :=
  if size < 4 then some (session, [])
  else do
    let request ← readU32 data 0
    let (session, events) ← handleAnnounceCapabilitiesLocked session data size
    let replies ← if request ≠ 0 then sendAnnounceCapabilities session else some []
    pure (session, events ++ replies.map .serial)

def handleClipboardGrab (session : Session) (data : Bytes) (size : Nat) : Option (List Event) :=
  let event : Option ClipboardEvent :=
    if hasCapability session.guestCaps vdAgentCapClipboardSelection && 4 ≤ size then do
      let selection ← readU8 data 0
      let types ← readU32s data 4 ((size - 4) / 4)
      pure { type := .grab, selection, availableTypes := types }
    else
      (readU32s data 0 (size / 4)).map fun types =>
        { type := .grab, selection := vdAgentClipboardSelectionClipboard, availableTypes := types }
  event.map session.deliver

-- The selection and type that open a data or a request message, and the offset of what
-- follows them; `some none` when the message is too short for either layout.
def typedHeader (guestCaps : List (BitVec 32)) (data : Bytes) (size : Nat) :
    Option (Option (BitVec 8 × BitVec 32 × Nat)) :=
  if hasCapability guestCaps vdAgentCapClipboardSelection && 8 ≤ size then do
    let selection ← readU8 data 0
    let dataType ← readU32 data 4
    pure (some (selection, dataType, 8))
  else if 4 ≤ size then
    (readU32 data 0).map fun dataType => some (vdAgentClipboardSelectionClipboard, dataType, 4)
  else some none

def handleClipboardData (session : Session) (data : Bytes) (size : Nat) : Option (List Event) := do
  match ← typedHeader session.guestCaps data size with
  | none => pure []
  | some (selection, dataType, start) =>
      let bytes ← readBytes data start (size - start)
      pure (session.deliver { type := .data, selection, dataType, data := bytes })

def handleClipboardRequest (session : Session) (data : Bytes) (size : Nat) : Option (List Event) := do
  match ← typedHeader session.guestCaps data size with
  | none => pure []
  | some (selection, dataType, _) => pure (session.deliver { type := .request, selection, dataType })

def handleClipboardRelease (session : Session) (data : Bytes) (size : Nat) : Option (List Event) :=
  let selection : Option (BitVec 8) :=
    if hasCapability session.guestCaps vdAgentCapClipboardSelection && 1 ≤ size then readU8 data 0
    else some vdAgentClipboardSelectionClipboard
  selection.map fun selection => session.deliver { type := .release, selection }

def processMessage (session : Session) (msg : VDAgentMessage) (data : Bytes) :
    Option (Session × List Event) :=
  let size := msg.size.toNat
  if msg.type = vdAgentAnnounceCapabilities then handleAnnounceCapabilities session data size
  else if msg.type = vdAgentClipboardGrab then (handleClipboardGrab session data size).map (session, ·)
  else if msg.type = vdAgentClipboard then (handleClipboardData session data size).map (session, ·)
  else if msg.type = vdAgentClipboardRequest then
    (handleClipboardRequest session data size).map (session, ·)
  else if msg.type = vdAgentClipboardRelease then
    (handleClipboardRelease session data size).map (session, ·)
  else some (session, [])

section Bounds
variable {session : Session} {data : Bytes} {size : Nat}

theorem handleAnnounceCapabilitiesLocked_isSome (fits : size ≤ data.length) :
    (handleAnnounceCapabilitiesLocked session data size).isSome := by
  unfold handleAnnounceCapabilitiesLocked
  split
  · rfl
  · rw [Option.isSome_map']
    exact readU32s_isSome _ (by omega)

theorem handleAnnounceCapabilities_isSome (fits : size ≤ data.length) :
    (handleAnnounceCapabilities session data size).isSome := by
  unfold handleAnnounceCapabilities
  split
  · rfl
  · obtain ⟨request, hrequest⟩ := Option.isSome_iff_exists.mp (readU32_isSome (show 0 + 4 ≤ data.length by omega))
    obtain ⟨⟨locked, events⟩, hlocked⟩ :=
      Option.isSome_iff_exists.mp (@handleAnnounceCapabilitiesLocked_isSome session data size fits)
    obtain ⟨replies, hreplies⟩ := Option.isSome_iff_exists.mp (@sendAnnounceCapabilities_isSome locked)
    simp only [hrequest, hlocked, hreplies, Option.bind_eq_bind, Option.some_bind]
    split <;> rfl

theorem handleClipboardGrab_isSome (fits : size ≤ data.length) :
    (handleClipboardGrab session data size).isSome := by
  rw [handleClipboardGrab, Option.isSome_map']
  split
  · next aware =>
    simp only [Bool.and_eq_true, decide_eq_true_eq] at aware
    exact isSome_bind_of (readU8_isSome (by omega)) fun _ _ =>
      isSome_bind_of (readU32s_isSome _ (by omega)) fun _ _ => rfl
  · rw [Option.isSome_map']
    exact readU32s_isSome _ (by omega)

theorem typedHeader_isSome (guestCaps : List (BitVec 32)) (fits : size ≤ data.length) :
    (typedHeader guestCaps data size).isSome := by
  unfold typedHeader
  split
  · next aware =>
    simp only [Bool.and_eq_true, decide_eq_true_eq] at aware
    exact isSome_bind_of (readU8_isSome (by omega)) fun _ _ =>
      isSome_bind_of (readU32_isSome (by omega)) fun _ _ => rfl
  · split
    · rw [Option.isSome_map']
      exact readU32_isSome (by omega)
    · rfl

-- The data that follows the typed header lies inside the message.
theorem start_le_of_typedHeader {guestCaps : List (BitVec 32)} {selection : BitVec 8} {dataType : BitVec 32}
    {start : Nat} (header : typedHeader guestCaps data size = some (some (selection, dataType, start))) :
    start ≤ size := by
  unfold typedHeader at header
  split at header
  · next aware =>
    simp only [Bool.and_eq_true, decide_eq_true_eq] at aware
    obtain ⟨_, -, header⟩ := Option.bind_eq_some.mp header
    obtain ⟨_, -, header⟩ := Option.bind_eq_some.mp header
    cases header
    exact aware.2
  · split at header
    · obtain ⟨_, -, header⟩ := Option.map_eq_some'.mp header
      cases header
      assumption
    · cases header

theorem handleClipboardData_isSome (fits : size ≤ data.length) :
    (handleClipboardData session data size).isSome := by
  unfold handleClipboardData
  refine isSome_bind_of (typedHeader_isSome _ fits) fun header read => ?_
  match header, read with
  | none, _ => rfl
  | some (selection, dataType, start), read =>
      exact isSome_bind_of (readBytes_isSome.mpr (by have := start_le_of_typedHeader read; omega))
        fun _ _ => rfl

theorem handleClipboardRequest_isSome (fits : size ≤ data.length) :
    (handleClipboardRequest session data size).isSome := by
  unfold handleClipboardRequest
  refine isSome_bind_of (typedHeader_isSome _ fits) fun header _ => ?_
  match header with
  | none => rfl
  | some _ => rfl

theorem handleClipboardRelease_isSome (fits : size ≤ data.length) :
    (handleClipboardRelease session data size).isSome := by
  rw [handleClipboardRelease, Option.isSome_map']
  split
  · next aware =>
    simp only [Bool.and_eq_true, decide_eq_true_eq] at aware
    exact readU8_isSome (by omega)
  · rfl

-- Whatever its type, a message whose data is all there is handled without a stray read.
theorem processMessage_isSome (msg : VDAgentMessage) (fits : msg.size.toNat ≤ data.length) :
    (processMessage session msg data).isSome := by
  unfold processMessage
  split_ifs
  · exact handleAnnounceCapabilities_isSome fits
  · rw [Option.isSome_map']
    exact handleClipboardGrab_isSome fits
  · rw [Option.isSome_map']
    exact handleClipboardData_isSome fits
  · rw [Option.isSome_map']
    exact handleClipboardRequest_isSome fits
  · rw [Option.isSome_map']
    exact handleClipboardRelease_isSome fits
  · rfl

end Bounds

section Dispatch
variable {session : Session} {msg : VDAgentMessage} {data : Bytes}

theorem processMessage_of_grab (grab : msg.type = vdAgentClipboardGrab) :
    processMessage session msg data = (handleClipboardGrab session data msg.size.toNat).map (session, ·) := by
  rw [processMessage, if_neg (by rw [grab]; decide), if_pos grab]

theorem processMessage_of_data (clipboard : msg.type = vdAgentClipboard) :
    processMessage session msg data = (handleClipboardData session data msg.size.toNat).map (session, ·) := by
  rw [processMessage, if_neg (by rw [clipboard]; decide), if_neg (by rw [clipboard]; decide), if_pos clipboard]

theorem processMessage_of_request (request : msg.type = vdAgentClipboardRequest) :
    processMessage session msg data = (handleClipboardRequest session data msg.size.toNat).map (session, ·) := by
  rw [processMessage, if_neg (by rw [request]; decide), if_neg (by rw [request]; decide),
    if_neg (by rw [request]; decide), if_pos request]

theorem processMessage_of_release (release : msg.type = vdAgentClipboardRelease) :
    processMessage session msg data = (handleClipboardRelease session data msg.size.toNat).map (session, ·) := by
  rw [processMessage, if_neg (by rw [release]; decide), if_neg (by rw [release]; decide),
    if_neg (by rw [release]; decide), if_neg (by rw [release]; decide), if_pos release]

end Dispatch

section Payloads
variable (session : Session) (selection : BitVec 8)

-- The selection a clipboard message of `session`'s sender carries to `session`'s handler.
def selectedFor (selection : BitVec 8) : BitVec 8 :=
  if hasCapability session.guestCaps vdAgentCapClipboardSelection then selection
  else vdAgentClipboardSelectionClipboard

theorem handleClipboardGrab_payload (types : List (BitVec 32)) :
    let payload := clipboardGrabPayload session.guestCaps selection types
    handleClipboardGrab session payload payload.length =
      some (session.deliver { type := .grab, selection := selectedFor session selection, availableTypes := types }) := by
  by_cases aware : hasCapability session.guestCaps vdAgentCapClipboardSelection
  · have words := readU32s_wordBytes [selection, 0, 0, 0] [] types
    simp at words
    simp [clipboardGrabPayload, handleClipboardGrab, selectedFor, aware, readU8_cons, words]
  · have words := readU32s_wordBytes [] [] types
    simp only [List.append_nil, List.nil_append, List.length_nil] at words
    simp [clipboardGrabPayload, handleClipboardGrab, selectedFor, aware, words]

theorem handleClipboardData_payload (type : BitVec 32) (data : Bytes) :
    let payload := clipboardDataPayload session.guestCaps selection type data
    handleClipboardData session payload payload.length =
      some (session.deliver
        { type := .data, selection := selectedFor session selection, dataType := type, data := data }) := by
  by_cases aware : hasCapability session.guestCaps vdAgentCapClipboardSelection
  · have word := readU32_u32Bytes [selection, 0, 0, 0] data type
    have bytes := readBytes_prefix ([selection, 0, 0, 0] ++ u32Bytes type) data []
    simp at word bytes
    simp [clipboardDataPayload, handleClipboardData, typedHeader, selectedFor, aware, readU8_cons, word, bytes]
  · have word := readU32_u32Bytes [] data type
    have bytes := readBytes_prefix (u32Bytes type) data []
    simp at word bytes
    simp [clipboardDataPayload, handleClipboardData, typedHeader, selectedFor, aware, word, bytes]

theorem handleClipboardRequest_payload (type : BitVec 32) :
    let payload := clipboardRequestPayload session.guestCaps selection type
    handleClipboardRequest session payload payload.length =
      some (session.deliver { type := .request, selection := selectedFor session selection, dataType := type }) := by
  by_cases aware : hasCapability session.guestCaps vdAgentCapClipboardSelection
  · have word := readU32_u32Bytes [selection, 0, 0, 0] [] type
    simp at word
    simp [clipboardRequestPayload, handleClipboardRequest, typedHeader, selectedFor, aware, readU8_cons, word]
  · have word := readU32_u32Bytes [] [] type
    simp at word
    simp [clipboardRequestPayload, handleClipboardRequest, typedHeader, selectedFor, aware, word]

theorem handleClipboardRelease_payload :
    let payload := clipboardReleasePayload session.guestCaps selection
    handleClipboardRelease session payload payload.length =
      some (session.deliver { type := .release, selection := selectedFor session selection }) := by
  by_cases aware : hasCapability session.guestCaps vdAgentCapClipboardSelection
  · simp [clipboardReleasePayload, handleClipboardRelease, selectedFor, aware, readU8_cons]
  · simp [clipboardReleasePayload, handleClipboardRelease, selectedFor, aware]

theorem length_clipboardRequestPayload (type : BitVec 32) :
    (clipboardRequestPayload session.guestCaps selection type).length ≤ 8 := by
  unfold clipboardRequestPayload
  split <;> simp

theorem length_clipboardReleasePayload : (clipboardReleasePayload session.guestCaps selection).length ≤ 4 := by
  unfold clipboardReleasePayload
  split <;> simp

end Payloads

/-- What a clipboard sender hands to `SendMessage`, given with its type to `ProcessMessage`
under the same guest capabilities, comes back as one clipboard event of the same kind and
contents, in the layout both sides chose from `VD_AGENT_CAP_CLIPBOARD_SELECTION`. -/
theorem clipboard_messages_round_trip (session : Session) (received : session.guestCapsReceived = true)
    (callback : session.clipboardCallback = true) (selection : BitVec 8) (types : List (BitVec 32))
    (type : BitVec 32) (data : Bytes)
    (grabFits : (clipboardGrabPayload session.guestCaps selection types).length < 2 ^ 32)
    (dataFits : (clipboardDataPayload session.guestCaps selection type data).length < 2 ^ 32) :
    let selected := if hasCapability session.guestCaps vdAgentCapClipboardSelection then selection
      else vdAgentClipboardSelectionClipboard
    let handled := fun (msgType : BitVec 32) (payload : Bytes) (expected : ClipboardEvent → Prop) =>
      ∃ event, processMessage session (messageHeader msgType payload.length) payload =
        some (session, [.clipboard event]) ∧ expected event
    (sendClipboardGrab session selection types =
        sendMessage session vdAgentClipboardGrab (clipboardGrabPayload session.guestCaps selection types) ∧
      handled vdAgentClipboardGrab (clipboardGrabPayload session.guestCaps selection types) fun event =>
        event.type = .grab ∧ event.selection = selected ∧ event.availableTypes = types) ∧
    (sendClipboardData session selection type data =
        sendMessage session vdAgentClipboard (clipboardDataPayload session.guestCaps selection type data) ∧
      handled vdAgentClipboard (clipboardDataPayload session.guestCaps selection type data) fun event =>
        event.type = .data ∧ event.selection = selected ∧ event.dataType = type ∧ event.data = data) ∧
    (sendClipboardRequest session selection type =
        sendMessage session vdAgentClipboardRequest (clipboardRequestPayload session.guestCaps selection type) ∧
      handled vdAgentClipboardRequest (clipboardRequestPayload session.guestCaps selection type) fun event =>
        event.type = .request ∧ event.selection = selected ∧ event.dataType = type) ∧
    (sendClipboardRelease session selection =
        sendMessage session vdAgentClipboardRelease (clipboardReleasePayload session.guestCaps selection) ∧
      handled vdAgentClipboardRelease (clipboardReleasePayload session.guestCaps selection) fun event =>
        event.type = .release ∧ event.selection = selected) := by
  have sent : ∀ type payload, sendIfCapsReceived session type payload = sendMessage session type payload := by
    simp [sendIfCapsReceived, received]
  have deliver : ∀ event, session.deliver event = [.clipboard event] := by
    simp [Session.deliver, callback]
  refine ⟨⟨sent _ _, ⟨{ type := .grab, selection := selectedFor session selection, availableTypes := types },
      ?_, rfl, rfl, rfl⟩⟩,
    ⟨sent _ _, ⟨{ type := .data, selection := selectedFor session selection, dataType := type, data := data },
      ?_, rfl, rfl, rfl, rfl⟩⟩,
    ⟨sent _ _, ⟨{ type := .request, selection := selectedFor session selection, dataType := type },
      ?_, rfl, rfl, rfl⟩⟩,
    ⟨sent _ _, ⟨{ type := .release, selection := selectedFor session selection }, ?_, rfl, rfl⟩⟩⟩
  · rw [processMessage_of_grab rfl, toNat_size_messageHeader _ grabFits, handleClipboardGrab_payload, deliver]
    rfl
  · rw [processMessage_of_data rfl, toNat_size_messageHeader _ dataFits, handleClipboardData_payload, deliver]
    rfl
  · rw [processMessage_of_request rfl,
      toNat_size_messageHeader _ (by have := length_clipboardRequestPayload session selection type; omega),
      handleClipboardRequest_payload, deliver]
    rfl
  · rw [processMessage_of_release rfl,
      toNat_size_messageHeader _ (by have := length_clipboardReleasePayload session selection; omega),
      handleClipboardRelease_payload, deliver]
    rfl

-- A selection-aware guest and a one-byte text payload.
theorem clipboard_messages_round_trip_selection_aware :
    let session : Session := ⟨true, 3, true, [0x40], true⟩
    let payload := clipboardDataPayload session.guestCaps 1 1 [0x41]
    session.guestCapsReceived = true ∧ session.clipboardCallback = true ∧
      (clipboardGrabPayload session.guestCaps 1 [1]).length < 2 ^ 32 ∧ payload.length < 2 ^ 32 ∧
      ∃ event, processMessage session (messageHeader vdAgentClipboard payload.length) payload =
          some (session, [.clipboard event]) ∧ event.type = .data ∧
        event.selection = (if hasCapability session.guestCaps vdAgentCapClipboardSelection then 1
          else vdAgentClipboardSelectionClipboard) ∧
        event.dataType = 1 ∧ event.data = [0x41] :=
  ⟨rfl, rfl, by decide, by decide,
    (clipboard_messages_round_trip _ rfl rfl 1 [1] 1 [0x41] (by decide) (by decide)).2.1.2⟩

end Tenbox.VdAgent
