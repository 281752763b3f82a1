import Tenbox.Runtime.Hex
import Tenbox.Runtime.Message

/-!
`RuntimeControlService::HandleMessage` of runtime/runtime_service.cpp. The handler is a
chain of `if`s on channel, kind and type, each branch ending in `return`; the model
returns the calls a branch makes, in order: `Send` of a reply, and the calls on `vm_`,
`console_port_` and `input_port_`. `vm_` may be null and is checked; the ports are not
checked and are taken as present.

Numbers in the fields are read by the C library: `std::from_chars` for `forward_count`,
`sscanf("%u:%u")` for a forward, `strtoul` and `atoi` for input events. The runtime is a
Win32 program, so `long` and `unsigned long` are 32 bits wide; `atoi` is read as
`(int)strtol`, which clamps where the C standard leaves overflow undefined.

Modelled from the spec: `KeyboardEvent` and `PointerEvent` are declared in a header the
source tree lacks. The spec gives `input.key_event {key_code, pressed}` and
`input.pointer_event {x, y, buttons}`, the handler's casts give their types, and members
the handler leaves unset are taken as zero.
-/

namespace Tenbox.Runtime

structure PortForward where
  hostPort : BitVec 16
  guestPort : BitVec 16
  deriving DecidableEq, Repr

structure KeyboardEvent where
  keyCode : BitVec 32
  pressed : Bool
  deriving DecidableEq, Repr

structure PointerEvent where
  x : Int
  y : Int
  buttons : BitVec 32
  deriving DecidableEq, Repr

-- A call `HandleMessage` makes, in the order it makes them.
inductive Effect where
  | send (message : Message)
  | requestStop
  | triggerPowerButton
  | injectConsoleBytes (data : Bytes)
  | setNetLinkUp (up : Bool)
  | updatePortForwards (forwards : List PortForward)
  | pushInput (data : Bytes)
  | pushKeyEvent (event : KeyboardEvent)
  | pushPointerEvent (event : PointerEvent)
  deriving DecidableEq

structure RuntimeControlService where
  vmId : String
  vmAttached : Bool
  deriving DecidableEq, Repr

section Numbers

-- The subject sequence of a base-10 conversion: white space, an optional sign, then the
-- longest run of digits, and what follows it.
def subjectSequence (chars : List Char) : Bool × List Char × List Char :=
  let signed := readSign (chars.dropWhile isSpace)
  (signed.1, signed.2.takeWhile Char.isDigit, signed.2.dropWhile Char.isDigit)

-- `ULONG_MAX` above the range, negated modulo `2 ^ 32` after a minus.
def toUnsignedLong (negative : Bool) (parsed : Nat) : BitVec 32 :=
  if 2 ^ 32 ≤ parsed then BitVec.allOnes 32
  else if negative then -BitVec.ofNat 32 parsed
  else BitVec.ofNat 32 parsed

-- `LONG_MIN` and `LONG_MAX` outside the range.
def toLong (negative : Bool) (parsed : Nat) : Int :=
  if negative then max (-(parsed : Int)) (-2 ^ 31) else min (parsed : Int) (2 ^ 31 - 1)

def strtoul (value : String) : BitVec 32 :=
  let subject := subjectSequence value.toList
  toUnsignedLong subject.1 (decimalValue subject.2.1)

def atoi (value : String) : Int :=
  let subject := subjectSequence value.toList
  toLong subject.1 (decimalValue subject.2.1)

-- One `%u` conversion of `sscanf`: no digits is a matching failure.
def scanUnsigned (chars : List Char) : Option (BitVec 32 × List Char) :=
  let subject := subjectSequence chars
  if subject.2.1 = [] then none else some (toUnsignedLong subject.1 (decimalValue subject.2.1), subject.2.2)

-- `sscanf(s, "%u:%u", &hp, &gp) == 2`.
def scanPorts (value : String) : Option (BitVec 32 × BitVec 32) := do
  let (hp, rest) ← scanUnsigned value.toList
  match rest with
  | ':' :: rest =>
    let (gp, _) ← scanUnsigned rest
    pure (hp, gp)
  | _ => none

-- `std::from_chars` into an `int`: an optional minus and at least one digit, or
-- `invalid_argument`; a value outside `int` is `result_out_of_range`.
def fromChars (value : String) : Option Int :=
  let signed : Bool × List Char := match value.toList with
    | '-' :: rest => (true, rest)
    | chars => (false, chars)
  let digits := signed.2.takeWhile Char.isDigit
  let parsed : Int := if signed.1 then -(decimalValue digits : Int) else decimalValue digits
  if digits = [] ∨ parsed < -2 ^ 31 ∨ 2 ^ 31 ≤ parsed then none else some parsed

example : scanPorts " 8080: 80x" = some (8080, 80) ∧ scanPorts "8080 :80" = none ∧
    fromChars "12abc" = some 12 ∧ fromChars "+1" = none ∧ fromChars "2147483648" = none := by
  decide

end Numbers

section Handlers

-- The reply a branch builds in `resp`.
def reply (service : RuntimeControlService) (message : Message) (type : String) (fields : Fields) :
    Message :=
  ⟨.response, .control, type, service.vmId, message.requestId, fields, []⟩

def kPoweroff : Bytes := "\npoweroff\n".toList.map fun ch => BitVec.ofNat 8 ch.toNat

-- The `if`/`else` chain on `cmd`: the calls on `vm_`, and the reply's fields from `ok = "true"` on.
def runCommand (vmAttached : Bool) (fields : Fields) (cmd : String) : List Effect × Fields :=
  if cmd = "stop" then (if vmAttached then [.requestStop] else [], fields)
  else if cmd = "shutdown" then
    (if vmAttached then [.triggerPowerButton, .injectConsoleBytes kPoweroff] else [], fields)
  else if cmd = "reboot" then
    (if vmAttached then [.requestStop] else [], fields.insert "note" "reboot not implemented, performed stop")
  else if cmd = "start" then ([], fields.insert "note" "runtime already started by process launch")
  else ([], (fields.insert "ok" "false").insert "error" "unknown command")

def handleCommand (service : RuntimeControlService) (message : Message) : List Effect :=
  let fields : Fields := (∅ : Fields).insert "ok" "true"
  match message.fields.lookup "command" with
  | none =>
    [.send (reply service message "runtime.command.result"
      ((fields.insert "ok" "false").insert "error" "missing command"))]
  | some cmd =>
    let ran := runCommand service.vmAttached fields cmd
    ran.1 ++ [.send (reply service message "runtime.command.result" ran.2)]

def forwardKey (i : Nat) : String := "forward_" ++ toString i

-- One pass of `for (int i = 0; i < count; ++i)`: the entry `forward_i` adds, if any.
def portForward (fields : Fields) (i : Nat) : Option PortForward := do
  let value ← fields.lookup (forwardKey i)
  let (hp, gp) ← scanPorts value
  if hp ≠ 0 ∧ gp ≠ 0 then some ⟨hp.setWidth 16, gp.setWidth 16⟩ else none

def portForwards (fields : Fields) (count : Nat) : List PortForward :=
  (List.range count).filterMap (portForward fields)

-- `SetNetLinkUp` when `link_up` is present.
def setLinkUp (message : Message) : List Effect :=
  match message.fields.lookup "link_up" with
  | some value => [.setNetLinkUp (value == "true")]
  | none => []

-- `UpdatePortForwards` when `forward_count` parses as an `int` that is not negative.
def updateForwards (message : Message) : List Effect :=
  match (message.fields.lookup "forward_count").bind fromChars with
  | some count => if 0 ≤ count then [.updatePortForwards (portForwards message.fields count.toNat)] else []
  | none => []

def handleUpdateNetwork (service : RuntimeControlService) (message : Message) : List Effect :=
  let respond := fun fields => Effect.send (reply service message "runtime.update_network.result" fields)
  if !service.vmAttached then
    [respond (((∅ : Fields).insert "ok" "false").insert "error" "vm not attached")]
  else setLinkUp message ++ updateForwards message ++ [respond ((∅ : Fields).insert "ok" "true")]

def handleConsoleInput (message : Message) : List Effect :=
  match message.fields.lookup "data_hex" with
  | some value => [.pushInput (decodeHex value)]
  | none => []

def handleKeyEvent (message : Message) : List Effect :=
  match message.fields.lookup "key_code", message.fields.lookup "pressed" with
  | some code, some pressed => [.pushKeyEvent ⟨strtoul code, pressed == "1" || pressed == "true"⟩]
  | _, _ => []

def handlePointerEvent (message : Message) : List Effect :=
  [.pushPointerEvent ⟨((message.fields.lookup "x").map atoi).getD 0, ((message.fields.lookup "y").map atoi).getD 0,
    ((message.fields.lookup "buttons").map strtoul).getD 0⟩]

def Message.isRequest (message : Message) (channel : Channel) (type : String) : Bool :=
  message.channel == channel && message.kind == .request && message.type == type

def handleMessage (service : RuntimeControlService) (message : Message) : List Effect :=
  if message.isRequest .control "runtime.command" then handleCommand service message
  else if message.isRequest .control "runtime.update_network" then handleUpdateNetwork service message
  else if message.isRequest .console "console.input" then handleConsoleInput message
  else if message.isRequest .input "input.key_event" then handleKeyEvent message
  else if message.isRequest .input "input.pointer_event" then handlePointerEvent message
  else if message.isRequest .control "runtime.ping" then [.send (reply service message "runtime.pong" ∅)]
  else []

end Handlers

section Forwards

theorem isRequest_iff {message : Message} {channel : Channel} {type : String} :
    message.isRequest channel type ↔ message.channel = channel ∧ message.kind = .request ∧ message.type = type := by
  simp [Message.isRequest, Bool.and_eq_true, and_assoc]

def attachedService : RuntimeControlService := ⟨"vm-1", true⟩

-- One forward, `"65536:80"`: `sscanf` reads `65536`, which passes `hp && gp`.
def wideForwardRequest : Message :=
  ⟨.request, .control, "runtime.update_network", "vm-1", 7,
    ((∅ : Fields).insert "forward_count" "1").insert "forward_0" "65536:80", []⟩

theorem updateNetwork_installs_port_zero :
    scanPorts "65536:80" = some (65536, 80) ∧
      handleMessage attachedService wideForwardRequest =
        [.updatePortForwards [⟨0, 80⟩],
          .send (reply attachedService wideForwardRequest "runtime.update_network.result"
            ((∅ : Fields).insert "ok" "true"))] :=
  ⟨rfl, rfl⟩

end Forwards

section Replies

def Effect.sent : Effect → Option Message
  | .send message => some message
  | _ => none

-- The messages a run of calls hands to `Send`, in order.
def sends (effects : List Effect) : List Message := effects.filterMap Effect.sent

@[simp] theorem sends_append (front back : List Effect) : sends (front ++ back) = sends front ++ sends back :=
  List.filterMap_append front back _

-- The control requests that are answered, and the type of each answer.
def answerTypes : List (String × String) :=
  [("runtime.command", "runtime.command.result"), ("runtime.update_network", "runtime.update_network.result"),
    ("runtime.ping", "runtime.pong")]

def answerType (message : Message) : Option String :=
  if message.channel = .control ∧ message.kind = .request then answerTypes.lookup message.type else none

theorem sends_runCommand (vmAttached : Bool) (fields : Fields) (cmd : String) :
    sends (runCommand vmAttached fields cmd).1 = [] := by
  unfold runCommand
  split_ifs <;> rfl

-- Only an unknown command sets `ok` to `"false"`; the known ones keep what stood before.
theorem lookup_ok_runCommand (vmAttached : Bool) (fields : Fields) (cmd : String) :
    (runCommand vmAttached fields cmd).2.lookup "ok" =
      if cmd ∈ ["stop", "shutdown", "reboot", "start"] then fields.lookup "ok" else some "false" := by
  unfold runCommand
  split_ifs <;> simp_all [AList.lookup_insert_ne]

theorem sends_handleCommand (service : RuntimeControlService) (message : Message) :
    ∃ fields, sends (handleCommand service message) = [reply service message "runtime.command.result" fields] ∧
      (fields.lookup "ok" = some "false" ↔ message.fields.lookup "command" = none ∨
        ∃ cmd, message.fields.lookup "command" = some cmd ∧ cmd ∉ ["stop", "shutdown", "reboot", "start"]) := by
  unfold handleCommand
  cases command : message.fields.lookup "command" with
  | none => exact ⟨_, rfl, iff_of_true rfl (.inl rfl)⟩
  | some cmd =>
    refine ⟨_, by simp [sends_runCommand]; rfl, ?_⟩
    rw [lookup_ok_runCommand]
    simp only [reduceCtorEq, false_or, Option.some.injEq, exists_eq_left']
    split_ifs with known
    · exact iff_of_false (by decide) (· known)
    · exact iff_of_true rfl known

theorem sends_handleUpdateNetwork (service : RuntimeControlService) (message : Message) :
    ∃ fields, sends (handleUpdateNetwork service message) =
      [reply service message "runtime.update_network.result" fields] := by
  unfold handleUpdateNetwork
  split
  · exact ⟨_, rfl⟩
  · have link : sends (setLinkUp message) = [] := by unfold setLinkUp; split <;> rfl
    have forwards : sends (updateForwards message) = [] := by
      unfold updateForwards
      split
      · split_ifs <;> rfl
      · rfl
    exact ⟨_, by rw [sends_append, sends_append, link, forwards]; rfl⟩

theorem sends_handleConsoleInput (message : Message) : sends (handleConsoleInput message) = [] := by
  unfold handleConsoleInput
  split <;> rfl

theorem sends_handleKeyEvent (message : Message) : sends (handleKeyEvent message) = [] := by
  unfold handleKeyEvent
  split <;> rfl

-- Only the three control requests reach `Send`.
theorem sends_handleMessage (service : RuntimeControlService) (message : Message) :
    sends (handleMessage service message) =
      if message.isRequest .control "runtime.command" then sends (handleCommand service message)
      else if message.isRequest .control "runtime.update_network" then sends (handleUpdateNetwork service message)
      else if message.isRequest .control "runtime.ping" then [reply service message "runtime.pong" ∅]
      else [] := by
  unfold handleMessage
  by_cases command : message.isRequest .control "runtime.command"
  · rw [if_pos command, if_pos command]
  rw [if_neg command, if_neg command]
  by_cases network : message.isRequest .control "runtime.update_network"
  · rw [if_pos network, if_pos network]
  rw [if_neg network, if_neg network]
  by_cases ping : message.isRequest .control "runtime.ping"
  · have other : ∀ channel type, channel ≠ .control → ¬message.isRequest channel type :=
      fun _ _ differ request => differ ((isRequest_iff.mp request).1.symm.trans (isRequest_iff.mp ping).1)
    rw [if_neg (other .console "console.input" nofun), if_neg (other .input "input.key_event" nofun),
      if_neg (other .input "input.pointer_event" nofun), if_pos ping, if_pos ping]
    rfl
  · simp only [if_neg ping]
    split_ifs
    · exact sends_handleConsoleInput message
    · exact sends_handleKeyEvent message
    · rfl
    · rfl

theorem answerType_of_isRequest {message : Message} {type : String} (request : message.isRequest .control type) :
    answerType message = answerTypes.lookup type := by
  obtain ⟨channel, kind, rfl⟩ := isRequest_iff.mp request
  exact if_pos ⟨channel, kind⟩

theorem answerType_of_unanswered {message : Message} (command : ¬message.isRequest .control "runtime.command")
    (network : ¬message.isRequest .control "runtime.update_network") (ping : ¬message.isRequest .control "runtime.ping") :
    answerType message = none := by
  unfold answerType
  split_ifs with control
  · simp only [isRequest_iff, control, true_and] at command network ping
    simp [answerTypes, command, network, ping]
  · rfl

/-- `HandleMessage` calls `Send` once for a control request of type `runtime.command`,
`runtime.update_network` or `runtime.ping`, and never for any other message. The reply
answers the request from this service's VM with the matching type, and a
`runtime.command` reply says `ok = "false"` exactly when the command is missing or
unknown. -/
theorem handleMessage_replies_once (service : RuntimeControlService) (message : Message) :
    (answerType message = none → sends (handleMessage service message) = []) ∧
    ∀ type, answerType message = some type →
      ∃ resp, sends (handleMessage service message) = [resp] ∧
        resp.kind = .response ∧ resp.channel = .control ∧ resp.type = type ∧
        resp.requestId = message.requestId ∧ resp.vmId = service.vmId ∧
        (message.type = "runtime.command" →
          (resp.fields.lookup "ok" = some "false" ↔ message.fields.lookup "command" = none ∨
            ∃ cmd, message.fields.lookup "command" = some cmd ∧ cmd ∉ ["stop", "shutdown", "reboot", "start"])) := by
  rw [sends_handleMessage]
  split_ifs with command network ping
  · obtain ⟨fields, sent, ok⟩ := sends_handleCommand service message
    rw [answerType_of_isRequest command, sent]
    exact ⟨nofun, fun type answer => ⟨_, rfl, rfl, rfl, Option.some.inj answer, rfl, rfl, fun _ => ok⟩⟩
  · obtain ⟨fields, sent⟩ := sends_handleUpdateNetwork service message
    obtain ⟨-, -, networkType⟩ := isRequest_iff.mp network
    rw [answerType_of_isRequest network, sent]
    exact ⟨nofun, fun type answer => ⟨_, rfl, rfl, rfl, Option.some.inj answer, rfl, rfl,
      fun same => absurd (networkType.symm.trans same) (by decide)⟩⟩
  · obtain ⟨-, -, pingType⟩ := isRequest_iff.mp ping
    rw [answerType_of_isRequest ping]
    exact ⟨nofun, fun type answer => ⟨_, rfl, rfl, rfl, Option.some.inj answer, rfl, rfl,
      fun same => absurd (pingType.symm.trans same) (by decide)⟩⟩
  · rw [answerType_of_unanswered command network ping]
    exact ⟨fun _ => rfl, nofun⟩

end Replies

end Tenbox.Runtime
