import Tenbox.Runtime.Message

/-!
The framing loop of `RuntimeControlService::RunLoop`. The bytes of each `ReadFile` are
appended to `pending`, and the inner `while (!pending.empty())` loop alternates between a
header line, read up to `'\n'` and decoded, and the payload its `payload_size` field
declares, read as exactly that many bytes. `ipc::Decode` is missing from the source tree
and is the parameter `decode`, any function from header lines to optional messages.

The model records the messages handed to `HandleMessage`, in order. The console flush
timer and the pipe polling neither read nor write `pending`, `payload_needed` or
`pending_msg`, and the errors that end the loop are left out: a run is the sequence of
non-failing `ReadFile` results. Every pass of the inner loop consumes at least one byte,
so `frame` recurses on the length of `pending`.
-/

namespace Tenbox.Runtime

def newline : BitVec 8 := 10

-- `std::string::find('\n')`.
def findNewline : Bytes → Option Nat
  | [] => none
  | byte :: rest => if byte = newline then some 0 else (findNewline rest).map (· + 1)

structure Framer where
  pending : Bytes
  payloadNeeded : Nat
  pendingMsg : Message

def Framer.append (framer : Framer) (data : Bytes) : Framer :=
  { framer with pending := framer.pending ++ data }

-- One pass of the inner loop: `stop` leaves it, `next` goes on, with the message handed
-- to `HandleMessage` in the pass, if any.
inductive FrameStep where
  | stop
  | next (framer : Framer) (handled : Option Message)

section Loop
variable (decode : Bytes → Option Message)

def frameStep (framer : Framer) : FrameStep :=
  if framer.pending.isEmpty then .stop
  else if 0 < framer.payloadNeeded then
    if framer.pending.length < framer.payloadNeeded then .stop
    else
      let completed := { framer.pendingMsg with payload := framer.pending.take framer.payloadNeeded }
      .next ⟨framer.pending.drop framer.payloadNeeded, 0, completed⟩ (some completed)
  else
    match findNewline framer.pending with
    | none => .stop
    | some nl =>
        let line := framer.pending.take (nl + 1)
        let rest := framer.pending.drop (nl + 1)
        match decode line with
        | none => .next { framer with pending := rest } none
        | some decoded =>
            match decoded.fields.lookup "payload_size" with
            | none => .next { framer with pending := rest } (some decoded)
            | some size =>
                let needed := strtoull size
                let decoded := { decoded with fields := decoded.fields.erase "payload_size" }
                if 0 < needed then .next ⟨rest, needed, decoded⟩ none
                else .next ⟨rest, needed, framer.pendingMsg⟩ (some decoded)

theorem findNewline_lt {bytes : Bytes} {nl : Nat} (found : findNewline bytes = some nl) : nl < bytes.length := by
  induction bytes generalizing nl with
  | nil => cases found
  | cons byte rest ih =>
      rw [findNewline] at found
      split at found
      · cases found
        simp
      · obtain ⟨index, inRest, rfl⟩ := Option.map_eq_some'.mp found
        simpa using ih inRest

theorem findNewline_append {bytes : Bytes} {nl : Nat} (found : findNewline bytes = some nl) (data : Bytes) :
    findNewline (bytes ++ data) = some nl := by
  induction bytes generalizing nl with
  | nil => cases found
  | cons byte rest ih =>
      rw [findNewline] at found
      rw [List.cons_append, findNewline]
      split at found
      · next isNewline => rw [if_pos isNewline, found]
      · next other =>
        obtain ⟨index, inRest, rfl⟩ := Option.map_eq_some'.mp found
        rw [if_neg other, ih inRest]
        rfl

theorem findNewline_header {header : Bytes} (headerLine : newline ∉ header) (rest : Bytes) :
    findNewline (header ++ newline :: rest) = some header.length := by
  induction header with
  | nil => simp [findNewline]
  | cons byte header ih =>
      rw [List.mem_cons, not_or] at headerLine
      rw [List.cons_append, findNewline, if_neg (Ne.symm headerLine.1), ih headerLine.2]
      rfl

@[simp] theorem Framer.append_nil (framer : Framer) : framer.append [] = framer := by
  simp [Framer.append]

@[simp] theorem Framer.append_append (framer : Framer) (first second : Bytes) :
    (framer.append first).append second = framer.append (first ++ second) := by
  simp [Framer.append]

theorem erase_payloadSize_of_none {fields : Fields} (absent : fields.lookup "payload_size" = none) :
    fields.erase "payload_size" = fields :=
  AList.ext (List.kerase_of_not_mem_keys (AList.lookup_eq_none.mp absent))

-- Everything a pass of the inner loop can do: it consumes a nonempty prefix of `pending`
-- and reads nothing after it, so bytes appended later change only what is left.
theorem frameStep_next {framer next : Framer} {handled : Option Message} (data : Bytes)
    (step : frameStep decode framer = .next next handled) :
    next.pending.length < framer.pending.length ∧
      frameStep decode (framer.append data) = .next (next.append data) handled := by
  have nonempty : framer.pending.isEmpty = false := by
    cases h : framer.pending.isEmpty <;> simp_all [frameStep]
  have appended : (framer.pending ++ data).isEmpty = false := by
    cases h : framer.pending <;> simp_all
  unfold frameStep at step
  simp only [frameStep, Framer.append, appended, nonempty, Bool.false_eq_true, ↓reduceIte] at step ⊢
  split at step
  · next needed =>
    split at step
    · cases step
    · next enough =>
      cases step
      have within : framer.payloadNeeded ≤ framer.pending.length := by omega
      refine ⟨by simp only [List.length_drop]; omega, ?_⟩
      simp only [needed, List.length_append, List.take_append_of_le_length within,
        List.drop_append_of_le_length within, ↓reduceIte,
        if_neg (by omega : ¬framer.pending.length + data.length < framer.payloadNeeded)]
  · next idle =>
    split at step
    · cases step
    · next nl found =>
      have within : nl + 1 ≤ framer.pending.length := findNewline_lt found
      simp only [idle, findNewline_append found, List.take_append_of_le_length within,
        List.drop_append_of_le_length within, ↓reduceIte]
      have shorter : (framer.pending.drop (nl + 1)).length < framer.pending.length := by
        simp only [List.length_drop]; omega
      generalize decode (framer.pending.take (nl + 1)) = decoded at step ⊢
      generalize framer.pending.drop (nl + 1) = rest at step shorter ⊢
      rcases decoded with _ | decoded
      · cases step; exact ⟨shorter, rfl⟩
      · dsimp only at step ⊢
        generalize decoded.fields.lookup "payload_size" = size at step ⊢
        rcases size with _ | size
        · cases step; exact ⟨shorter, rfl⟩
        · by_cases positive : 0 < strtoull size <;> simp only [positive, ↓reduceIte] at step ⊢ <;>
            cases step <;> exact ⟨shorter, rfl⟩

-- The inner `while (!pending.empty())` loop.
def frame (framer : Framer) : Framer × List Message :=
  match _step : frameStep decode framer with
  | .stop => (framer, [])
  | .next next handled =>
      let rest := frame next
      (rest.1, handled.toList ++ rest.2)
termination_by framer.pending.length
decreasing_by exact (frameStep_next decode [] _step).1

-- One successful `ReadFile` that returned `data`; a read of no bytes goes round again.
def onRead (framer : Framer) (data : Bytes) : Framer × List Message :=
  if data.isEmpty then (framer, []) else frame decode (framer.append data)

def runReads (framer : Framer) : List Bytes → Framer × List Message
  | [] => (framer, [])
  | data :: rest =>
      let first := onRead decode framer data
      let more := runReads first.1 rest
      (more.1, first.2 ++ more.2)

variable {decode}

theorem frame_of_stop {framer : Framer} (step : frameStep decode framer = .stop) :
    frame decode framer = (framer, []) := by
  rw [frame]
  split <;> simp_all

theorem frame_of_next {framer next : Framer} {handled : Option Message}
    (step : frameStep decode framer = .next next handled) :
    frame decode framer = ((frame decode next).1, handled.toList ++ (frame decode next).2) := by
  rw [frame]
  split <;> simp_all

-- The inner loop leaves only when a pass can make no progress.
theorem frameStep_frame (framer : Framer) : frameStep decode (frame decode framer).1 = .stop := by
  cases step : frameStep decode framer with
  | stop => rw [frame_of_stop step]; exact step
  | next next handled =>
      have := (frameStep_next decode [] step).1
      rw [frame_of_next step]
      exact frameStep_frame next
termination_by framer.pending.length

-- Bytes that arrive later are framed from the state the earlier ones left.
theorem frame_append (framer : Framer) (data : Bytes) :
    frame decode (framer.append data) =
      ((frame decode ((frame decode framer).1.append data)).1,
        (frame decode framer).2 ++ (frame decode ((frame decode framer).1.append data)).2) := by
  cases step : frameStep decode framer with
  | stop => simp [frame_of_stop step]
  | next next handled =>
      obtain ⟨shorter, appended⟩ := frameStep_next decode data step
      rw [frame_of_next appended, frame_append next data, frame_of_next step, List.append_assoc]
termination_by framer.pending.length

theorem onRead_of_stop {framer : Framer} (stopped : frameStep decode framer = .stop) (data : Bytes) :
    onRead decode framer data = frame decode (framer.append data) := by
  unfold onRead
  split
  · next empty => rw [List.isEmpty_iff.mp empty, Framer.append_nil, frame_of_stop stopped]
  · rfl

-- From a state where the inner loop has stopped, a run of reads frames their concatenation.
theorem runReads_eq_frame {framer : Framer} (stopped : frameStep decode framer = .stop) (reads : List Bytes) :
    runReads decode framer reads = frame decode (framer.append reads.flatten) := by
  induction reads generalizing framer with
  | nil => simp [runReads, frame_of_stop stopped]
  | cons data rest ih =>
      rw [runReads, onRead_of_stop stopped, ih (frameStep_frame _), List.flatten_cons, ← Framer.append_append,
        frame_append (framer.append data)]

end Loop

/-- A header line and the payload its `payload_size` field declares, as a client writes them
to the pipe. An empty payload is declared as `0` or not at all. -/
structure Frame (decode : Bytes → Option Message) where
  header : Bytes
  payload : Bytes
  message : Message
  headerLine : newline ∉ header
  decoded : decode (header ++ [newline]) = some message
  declared : message.fields.lookup "payload_size" = some (toString payload.length) ∨
    payload = [] ∧ message.fields.lookup "payload_size" = none
  -- a `std::string` holds fewer than `2 ^ 64` bytes
  fits : payload.length < 2 ^ 64

section Frames
variable {decode : Bytes → Option Message}

def Frame.bytes (written : Frame decode) : Bytes := written.header ++ newline :: written.payload

-- What `HandleMessage` is to be given for a frame: its message without the `payload_size`
-- field, carrying the payload when there is one.
def Frame.handled (written : Frame decode) : Message :=
  let stripped := { written.message with fields := written.message.fields.erase "payload_size" }
  if written.payload.isEmpty then stripped else { stripped with payload := written.payload }

theorem take_header_line (header rest : Bytes) :
    (header ++ newline :: rest).take (header.length + 1) = header ++ [newline] := by
  rw [List.take_append_eq_append_take, List.take_of_length_le (by omega), Nat.add_sub_cancel_left]
  rfl

-- One frame, whatever follows it, makes `HandleMessage` see its message once and leaves
-- the loop reading a header again.
theorem frame_frameBytes (written : Frame decode) (more : Bytes) (pendingMsg : Message) :
    ∃ pendingMsg', frame decode ⟨written.bytes ++ more, 0, pendingMsg⟩ =
      ((frame decode ⟨more, 0, pendingMsg'⟩).1, written.handled :: (frame decode ⟨more, 0, pendingMsg'⟩).2) := by
  obtain ⟨header, payload, message, headerLine, decoded, declared, fits⟩ := written
  have line := findNewline_header headerLine (payload ++ more)
  have taken := take_header_line header (payload ++ more)
  simp only [Frame.bytes, Frame.handled, List.append_assoc, List.cons_append]
  rcases declared with declared | ⟨rfl, absent⟩
  · have size := strtoull_toString _ fits
    cases payload with
    | nil =>
        have step : frameStep decode ⟨header ++ newline :: more, 0, pendingMsg⟩ = .next ⟨more, 0, pendingMsg⟩
            (some { message with fields := message.fields.erase "payload_size" }) := by
          simp_all [frameStep]
        refine ⟨pendingMsg, ?_⟩
        simp only [List.nil_append, frame_of_next step, List.isEmpty_nil, ↓reduceIte]
        rfl
    | cons byte rest =>
        let stripped := { message with fields := message.fields.erase "payload_size" }
        let completed := { stripped with payload := byte :: rest }
        have header : frameStep decode ⟨header ++ newline :: (byte :: rest ++ more), 0, pendingMsg⟩ =
            .next ⟨byte :: rest ++ more, (byte :: rest).length, stripped⟩ none := by
          simp_all [frameStep]
        have payload : frameStep decode ⟨byte :: rest ++ more, (byte :: rest).length, stripped⟩ =
            .next ⟨more, 0, completed⟩ (some completed) := by
          simp [frameStep, stripped, completed]
        refine ⟨completed, ?_⟩
        simp only [frame_of_next header, frame_of_next payload, List.isEmpty_cons, Bool.false_eq_true, ↓reduceIte]
        rfl
  · have step : frameStep decode ⟨header ++ newline :: more, 0, pendingMsg⟩ = .next ⟨more, 0, pendingMsg⟩
        (some message) := by
      simp_all [frameStep]
    refine ⟨pendingMsg, ?_⟩
    simp only [List.nil_append, frame_of_next step, erase_payloadSize_of_none absent, List.isEmpty_nil, ↓reduceIte]
    rfl

-- Frames written back to back are framed one after the other.
theorem frame_frames (frames : List (Frame decode)) (pendingMsg : Message) :
    let result := frame decode ⟨(frames.map Frame.bytes).flatten, 0, pendingMsg⟩
    result.2 = frames.map Frame.handled ∧ result.1.pending = [] ∧ result.1.payloadNeeded = 0 := by
  induction frames generalizing pendingMsg with
  | nil => simp [frame_of_stop (by simp [frameStep] : frameStep decode ⟨[], 0, pendingMsg⟩ = .stop)]
  | cons written rest ih =>
      obtain ⟨pendingMsg', first⟩ := frame_frameBytes written (rest.map Frame.bytes).flatten pendingMsg
      obtain ⟨handled, pending, needed⟩ := ih pendingMsg'
      simp only [List.map_cons, List.flatten_cons, first]
      exact ⟨by rw [handled], pending, needed⟩

theorem runReads_handles_each_frame (frames : List (Frame decode)) (reads : List Bytes)
    (cut : reads.flatten = (frames.map Frame.bytes).flatten) (pendingMsg : Message) :
    let result := runReads decode ⟨[], 0, pendingMsg⟩ reads
    result.2 = frames.map Frame.handled ∧ result.1.pending = [] ∧ result.1.payloadNeeded = 0 := by
  have idle : frameStep decode ⟨[], 0, pendingMsg⟩ = .stop := by simp [frameStep]
  have start : Framer.append ⟨[], 0, pendingMsg⟩ reads.flatten = ⟨(frames.map Frame.bytes).flatten, 0, pendingMsg⟩ := by
    simp [Framer.append, cut]
  simp only [runReads_eq_frame idle, start]
  exact frame_frames frames pendingMsg

def pingRequest : Message := ⟨.request, .control, "runtime.ping", "vm", 1, ∅, []⟩

def consoleInput : Message :=
  ⟨.request, .console, "console.input", "vm", 2, (∅ : Fields).insert "payload_size" "2", []⟩

-- A decoder that knows two header lines, `a` and `b`.
def exampleDecode (line : Bytes) : Option Message :=
  if line = [0x61, 10] then some consoleInput else if line = [0x62, 10] then some pingRequest else none

-- Its payload `b\n` is the other frame's header line.
def inputFrame : Frame exampleDecode :=
  ⟨[0x61], [0x62, 10], consoleInput, by decide, rfl, .inl rfl, by decide⟩

def pingFrame : Frame exampleDecode :=
  ⟨[0x62], [], pingRequest, by decide, rfl, .inr ⟨rfl, rfl⟩, by decide⟩

theorem runReads_handles_each_frame_across_reads :
    [[0x61], [10, 0x62], [10, 0x62, 10]].flatten = ([inputFrame, pingFrame].map Frame.bytes).flatten ∧
      let result := runReads exampleDecode ⟨[], 0, pingRequest⟩ [[0x61], [10, 0x62], [10, 0x62, 10]]
      result.2 = [inputFrame, pingFrame].map Frame.handled ∧ result.1.pending = [] ∧
        result.1.payloadNeeded = 0 :=
  ⟨rfl, runReads_handles_each_frame [inputFrame, pingFrame] [[0x61], [10, 0x62], [10, 0x62, 10]] rfl pingRequest⟩

end Frames

end Tenbox.Runtime
