import Tenbox.Runtime.Framing
import Tenbox.Runtime.Service

/-!
The threads of runtime/runtime_service.cpp and what they share. `RunLoop` reads the pipe,
frames what it read (`frame`) and hands each framed message to `HandleMessage`.
`ManagedConsolePort` keeps console input in `queue_` until the guest's console device
`Read`s it, `ManagedInputPort` keeps key and pointer events in two queues until the input
devices poll them, and the guest's console output collects in `console_buf_` until
`RunLoop` flushes it as a `console.data` event.

Every operation runs under its object's mutex, so an interleaving of the threads is a list
of whole operations. One call of `HandleMessage` makes at most one call on each port and
none on `console_buf_`, so the model makes its calls in a row. `RunLoop` frames the bytes
of a `ReadFile` as it handles them, but framing touches only its own locals, so the model
frames the whole read at once and keeps the framed messages in `inbox` until it handles
them, one step each; it reads and flushes again only once `inbox` is empty. A `Read` that
waits on the condition variable gives up the lock while it waits and copies after it takes
it back: it is one step where it copies. `FlushConsoleBuf` takes `console_buf_` under the
lock and sends after releasing it; only `RunLoop` flushes, so a write that lands in between
meets the emptied buffer, as it would after the send.

What `Send` hands to the pipe and the calls on `vm_` are kept in order. What a `ReadFile`,
a `Read` or a poll returns, and the message handled, go back to the thread that made the
step; a step of a thread that cannot move (`RunLoop` reading while messages wait, or
handling when none does) changes nothing. `ipc::Decode` is the parameter `decode`.
-/

namespace Tenbox.Runtime

structure ManagedConsolePort where
  queue : Bytes
  deriving DecidableEq

def ManagedConsolePort.pushInput (port : ManagedConsolePort) (data : Bytes) : ManagedConsolePort :=
  if data = [] then port else ⟨port.queue ++ data⟩

-- `Read(out, size)`: what it copies out from the front of the queue.
def ManagedConsolePort.read (port : ManagedConsolePort) (size : Nat) : Bytes × ManagedConsolePort :=
  if size = 0 then ([], port) else (port.queue.take size, ⟨port.queue.drop size⟩)

structure ManagedInputPort where
  keyQueue : List KeyboardEvent
  pointerQueue : List PointerEvent
  deriving DecidableEq

-- `PollKeyboard` and `PollPointer`: the front of a `std::deque`, or `false` when it is empty.
def pollFront {α : Type} : List α → Option α × List α
  | [] => (none, [])
  | event :: rest => (some event, rest)

def ManagedInputPort.pollKeyboard (port : ManagedInputPort) : Option KeyboardEvent × ManagedInputPort :=
  ((pollFront port.keyQueue).1, { port with keyQueue := (pollFront port.keyQueue).2 })

def ManagedInputPort.pollPointer (port : ManagedInputPort) : Option PointerEvent × ManagedInputPort :=
  ((pollFront port.pointerQueue).1, { port with pointerQueue := (pollFront port.pointerQueue).2 })

def ManagedInputPort.pushKeyEvent (port : ManagedInputPort) (event : KeyboardEvent) : ManagedInputPort :=
  { port with keyQueue := port.keyQueue ++ [event] }

def ManagedInputPort.pushPointerEvent (port : ManagedInputPort) (event : PointerEvent) : ManagedInputPort :=
  { port with pointerQueue := port.pointerQueue ++ [event] }

-- What the threads of `RuntimeControlService` share.
structure ServiceState where
  service : RuntimeControlService
  framer : Framer
  inbox : List Message
  consolePort : ManagedConsolePort
  inputPort : ManagedInputPort
  consoleBuf : Bytes
  nextEventId : BitVec 64
  sent : List Message
  vmCalls : List Effect

-- One call of `HandleMessage`, on the object it names.
def ServiceState.perform (state : ServiceState) : Effect → ServiceState
  | .send message => { state with sent := state.sent ++ [message] }
  | .pushInput data => { state with consolePort := state.consolePort.pushInput data }
  | .pushKeyEvent event => { state with inputPort := state.inputPort.pushKeyEvent event }
  | .pushPointerEvent event => { state with inputPort := state.inputPort.pushPointerEvent event }
  | call => { state with vmCalls := state.vmCalls ++ [call] }

-- `ManagedConsolePort::Write` with the handler the constructor installs: `console_buf_.append`.
def ServiceState.write (state : ServiceState) (data : Bytes) : ServiceState :=
  if data = [] then state else { state with consoleBuf := state.consoleBuf ++ data }

def consoleDataEvent (service : RuntimeControlService) (requestId : BitVec 64) (data : Bytes) : Message :=
  ⟨.event, .console, "console.data", service.vmId, requestId, (∅ : Fields).insert "data_hex" (encodeHex data), []⟩

def ServiceState.flushConsoleBuf (state : ServiceState) : ServiceState :=
  if state.consoleBuf = [] then state
  else
    { state with
      consoleBuf := []
      nextEventId := state.nextEventId + 1
      sent := state.sent ++ [consoleDataEvent state.service state.nextEventId state.consoleBuf] }

-- An operation of one of the threads: `RunLoop` receiving the bytes of a `ReadFile`,
-- handling the next framed message or flushing; the devices reading and polling; the
-- guest writing.
inductive Step where
  | receive (data : Bytes)
  | handleMessage
  | read (size : Nat)
  | pollKeyboard
  | pollPointer
  | write (data : Bytes)
  | flush
  deriving DecidableEq

-- What an operation returns to the thread that made it.
inductive Output where
  | none
  | received (data : Bytes)
  | handled (message : Message)
  | read (data : Bytes)
  | key (event : Option KeyboardEvent)
  | pointer (event : Option PointerEvent)
  deriving DecidableEq

section Threads
variable (decode : Bytes → Option Message)

def ServiceState.step (state : ServiceState) : Step → ServiceState × Output
  | .receive data =>
    if state.inbox = [] then
      ({ state with framer := (onRead decode state.framer data).1, inbox := (onRead decode state.framer data).2 },
        .received data)
    else (state, .none)
  | .handleMessage =>
    match state.inbox with
    | [] => (state, .none)
    | message :: rest =>
      ((handleMessage state.service message).foldl ServiceState.perform { state with inbox := rest }, .handled message)
  | .read size =>
    ({ state with consolePort := (state.consolePort.read size).2 }, .read (state.consolePort.read size).1)
  | .pollKeyboard => ({ state with inputPort := state.inputPort.pollKeyboard.2 }, .key state.inputPort.pollKeyboard.1)
  | .pollPointer =>
    ({ state with inputPort := state.inputPort.pollPointer.2 }, .pointer state.inputPort.pollPointer.1)
  | .write data => (state.write data, .none)
  | .flush => (if state.inbox = [] then state.flushConsoleBuf else state, .none)

def ServiceState.run (state : ServiceState) : List Step → ServiceState × List Output
  | [] => (state, [])
  | step :: rest =>
    let after := (state.step decode step).1.run rest
    (after.1, (state.step decode step).2 :: after.2)

end Threads

section Views

-- The calls of `HandleMessage` on a port; a `Send` or a call on `vm_` reaches neither.
def Effect.onPort : Effect → Bool
  | .pushInput _ | .pushKeyEvent _ | .pushPointerEvent _ => true
  | _ => false

-- What a call of `HandleMessage` puts into each port.
def Effect.inputBytes : Effect → Bytes
  | .pushInput data => data
  | _ => []

def Effect.keyEvents : Effect → List KeyboardEvent
  | .pushKeyEvent event => [event]
  | _ => []

def Effect.pointerEvents : Effect → List PointerEvent
  | .pushPointerEvent event => [event]
  | _ => []

-- What a `Read` or a poll hands to the device.
def Output.readBytes : Output → Bytes
  | .read data => data
  | _ => []

def Output.keyEvents : Output → List KeyboardEvent
  | .key event => event.toList
  | _ => []

def Output.pointerEvents : Output → List PointerEvent
  | .pointer event => event.toList
  | _ => []

def Output.receivedBytes : Output → List Bytes
  | .received data => [data]
  | _ => []

def Output.messages : Output → List Message
  | .handled message => [message]
  | _ => []

def Step.written : Step → Bytes
  | .write data => data
  | _ => []

-- The bytes a `console.input` request asks the runtime to type: its decoded `data_hex`.
def consoleInputOf (message : Message) : Bytes :=
  if message.isRequest .console "console.input" then ((message.fields.lookup "data_hex").map decodeHex).getD []
  else []

-- The key event an `input.key_event` request carries when it names `key_code` and `pressed`.
def keyEventOf (message : Message) : Option KeyboardEvent :=
  if message.isRequest .input "input.key_event" then
    (message.fields.lookup "key_code").bind fun code =>
      (message.fields.lookup "pressed").map fun pressed => ⟨strtoul code, pressed == "1" || pressed == "true"⟩
  else none

-- The pointer event an `input.pointer_event` request carries, a missing field read as zero.
def pointerEventOf (message : Message) : Option PointerEvent :=
  if message.isRequest .input "input.pointer_event" then
    some ⟨((message.fields.lookup "x").map atoi).getD 0, ((message.fields.lookup "y").map atoi).getD 0,
      ((message.fields.lookup "buttons").map strtoul).getD 0⟩
  else none

-- The console output a stream of sent messages carries: the decoded `data_hex` of each
-- `console.data` event, in order.
def consoleOutput (sent : List Message) : Bytes :=
  sent.flatMap fun message =>
    if message.kind = .event ∧ message.channel = .console ∧ message.type = "console.data" then
      ((message.fields.lookup "data_hex").map decodeHex).getD []
    else []

-- The request id and type of each response among sent messages, in order.
def responsesOf (sent : List Message) : List (BitVec 64 × String) :=
  (sent.filter fun message => message.kind = .response).map fun message => (message.requestId, message.type)

-- The id of each handled request that gets an answer, with the answer's type, in order.
def answersOf (handled : List Message) : List (BitVec 64 × String) :=
  handled.filterMap fun message => (answerType message).map (message.requestId, ·)

@[simp] theorem responsesOf_append (front back : List Message) :
    responsesOf (front ++ back) = responsesOf front ++ responsesOf back := by
  simp [responsesOf]

end Views

section Dispatch

theorem not_isRequest_of_channel {message : Message} {channel : Channel} {type : String}
    (request : message.isRequest channel type) (other : Channel) (differ : channel ≠ other) (another : String) :
    ¬message.isRequest other another :=
  fun elsewhere => differ ((isRequest_iff.mp request).1.symm.trans (isRequest_iff.mp elsewhere).1)

theorem not_isRequest_of_type {message : Message} {channel : Channel} {type : String}
    (request : message.isRequest channel type) (another : String) (differ : type ≠ another) (other : Channel) :
    ¬message.isRequest other another :=
  fun elsewhere => differ ((isRequest_iff.mp request).2.2.symm.trans (isRequest_iff.mp elsewhere).2.2)

theorem onPort_handleCommand (service : RuntimeControlService) (message : Message) :
    ∀ effect ∈ handleCommand service message, effect.onPort = false := by
  unfold handleCommand
  split
  · simp [Effect.onPort]
  · unfold runCommand
    split_ifs <;> simp [Effect.onPort]

theorem onPort_handleUpdateNetwork (service : RuntimeControlService) (message : Message) :
    ∀ effect ∈ handleUpdateNetwork service message, effect.onPort = false := by
  unfold handleUpdateNetwork setLinkUp updateForwards
  split_ifs <;> (repeat' split) <;> simp [Effect.onPort]

-- A view of the ports sees only the three branches that call on them.
theorem flatMap_handleMessage {α : Type} (part : Effect → List α)
    (vanishes : ∀ effect, effect.onPort = false → part effect = []) (service : RuntimeControlService)
    (message : Message) :
    (handleMessage service message).flatMap part =
      if message.isRequest .console "console.input" then (handleConsoleInput message).flatMap part
      else if message.isRequest .input "input.key_event" then (handleKeyEvent message).flatMap part
      else if message.isRequest .input "input.pointer_event" then (handlePointerEvent message).flatMap part
      else [] := by
  have control : ∀ effects : List Effect, (∀ effect ∈ effects, effect.onPort = false) →
      effects.flatMap part = [] :=
    fun _ off => List.flatMap_eq_nil_iff.mpr fun effect mem => vanishes effect (off effect mem)
  unfold handleMessage
  by_cases command : message.isRequest .control "runtime.command"
  · rw [if_pos command, control _ (onPort_handleCommand service message),
      if_neg (not_isRequest_of_channel command .console nofun _),
      if_neg (not_isRequest_of_channel command .input nofun _),
      if_neg (not_isRequest_of_channel command .input nofun _)]
  rw [if_neg command]
  by_cases network : message.isRequest .control "runtime.update_network"
  · rw [if_pos network, control _ (onPort_handleUpdateNetwork service message),
      if_neg (not_isRequest_of_channel network .console nofun _),
      if_neg (not_isRequest_of_channel network .input nofun _),
      if_neg (not_isRequest_of_channel network .input nofun _)]
  rw [if_neg network]
  split_ifs
  all_goals first | rfl | exact control _ (by simp [Effect.onPort])

theorem inputBytes_handleMessage (service : RuntimeControlService) (message : Message) :
    (handleMessage service message).flatMap Effect.inputBytes = consoleInputOf message := by
  rw [flatMap_handleMessage _ (fun effect off => by cases effect <;> simp_all [Effect.onPort, Effect.inputBytes]),
    consoleInputOf]
  split_ifs
  · unfold handleConsoleInput; split <;> simp_all [Effect.inputBytes]
  · unfold handleKeyEvent; split <;> rfl
  all_goals rfl

theorem keyEvents_handleMessage (service : RuntimeControlService) (message : Message) :
    (handleMessage service message).flatMap Effect.keyEvents = (keyEventOf message).toList := by
  rw [flatMap_handleMessage _ (fun effect off => by cases effect <;> simp_all [Effect.onPort, Effect.keyEvents]),
    keyEventOf]
  by_cases console : message.isRequest .console "console.input"
  · rw [if_pos console, if_neg (not_isRequest_of_channel console .input nofun _)]
    unfold handleConsoleInput; split <;> rfl
  rw [if_neg console]
  split_ifs
  · cases code : message.fields.lookup "key_code" <;> cases pressed : message.fields.lookup "pressed" <;>
      simp [handleKeyEvent, code, pressed, Effect.keyEvents]
  all_goals rfl

theorem pointerEvents_handleMessage (service : RuntimeControlService) (message : Message) :
    (handleMessage service message).flatMap Effect.pointerEvents = (pointerEventOf message).toList := by
  rw [flatMap_handleMessage _ (fun effect off => by cases effect <;> simp_all [Effect.onPort, Effect.pointerEvents]),
    pointerEventOf]
  by_cases console : message.isRequest .console "console.input"
  · rw [if_pos console, if_neg (not_isRequest_of_channel console .input nofun _)]
    unfold handleConsoleInput; split <;> rfl
  rw [if_neg console]
  by_cases key : message.isRequest .input "input.key_event"
  · rw [if_pos key, if_neg (not_isRequest_of_type key "input.pointer_event" (by decide) _)]
    unfold handleKeyEvent; split <;> rfl
  rw [if_neg key]
  split_ifs <;> rfl

-- `HandleMessage` answers an answered request once, with its id and the answer's type.
theorem responsesOf_handleMessage (service : RuntimeControlService) (message : Message) :
    responsesOf (sends (handleMessage service message)) = answersOf [message] := by
  rw [sends_handleMessage]
  simp only [answersOf, List.filterMap_cons, List.filterMap_nil]
  split_ifs with command network ping
  · obtain ⟨fields, sent, -⟩ := sends_handleCommand service message
    rw [sent, answerType_of_isRequest command]
    rfl
  · obtain ⟨fields, sent⟩ := sends_handleUpdateNetwork service message
    rw [sent, answerType_of_isRequest network]
    rfl
  · rw [answerType_of_isRequest ping]
    rfl
  · rw [answerType_of_unanswered command network ping]
    rfl

end Dispatch

section Operations
variable (state : ServiceState)

-- A view that no call of `HandleMessage` changes.
theorem foldl_perform_eq {α : Type} (view : ServiceState → α)
    (keeps : ∀ state effect, view (state.perform effect) = view state)
    (effects : List Effect) : view (effects.foldl ServiceState.perform state) = view state := by
  induction effects generalizing state with
  | nil => rfl
  | cons effect rest ih => rw [List.foldl_cons, ih, keeps]

-- A view that each call of `HandleMessage` extends at the back is extended by all of them in order.
theorem foldl_perform {α : Type} (view : ServiceState → List α) (part : Effect → List α)
    (grows : ∀ state effect, view (state.perform effect) = view state ++ part effect) (effects : List Effect) :
    view (effects.foldl ServiceState.perform state) = view state ++ effects.flatMap part := by
  induction effects generalizing state with
  | nil => simp
  | cons effect rest ih => rw [List.foldl_cons, ih, grows, List.flatMap_cons, List.append_assoc]

theorem service_foldl_perform (effects : List Effect) :
    (effects.foldl ServiceState.perform state).service = state.service :=
  foldl_perform_eq state _ (fun _ effect => by cases effect <;> rfl) effects

theorem framer_foldl_perform (effects : List Effect) :
    (effects.foldl ServiceState.perform state).framer = state.framer :=
  foldl_perform_eq state _ (fun _ effect => by cases effect <;> rfl) effects

theorem inbox_foldl_perform (effects : List Effect) :
    (effects.foldl ServiceState.perform state).inbox = state.inbox :=
  foldl_perform_eq state _ (fun _ effect => by cases effect <;> rfl) effects

theorem consoleBuf_foldl_perform (effects : List Effect) :
    (effects.foldl ServiceState.perform state).consoleBuf = state.consoleBuf :=
  foldl_perform_eq state _ (fun _ effect => by cases effect <;> rfl) effects

theorem queue_perform (effect : Effect) :
    (state.perform effect).consolePort.queue = state.consolePort.queue ++ effect.inputBytes := by
  cases effect
  case pushInput data =>
    show (state.consolePort.pushInput data).queue = _
    unfold ManagedConsolePort.pushInput
    split <;> simp_all [Effect.inputBytes]
  all_goals simp [ServiceState.perform, Effect.inputBytes]

theorem keyQueue_perform (effect : Effect) :
    (state.perform effect).inputPort.keyQueue = state.inputPort.keyQueue ++ effect.keyEvents := by
  cases effect <;> simp [ServiceState.perform, Effect.keyEvents, ManagedInputPort.pushKeyEvent,
    ManagedInputPort.pushPointerEvent]

theorem pointerQueue_perform (effect : Effect) :
    (state.perform effect).inputPort.pointerQueue = state.inputPort.pointerQueue ++ effect.pointerEvents := by
  cases effect <;> simp [ServiceState.perform, Effect.pointerEvents, ManagedInputPort.pushKeyEvent,
    ManagedInputPort.pushPointerEvent]

theorem sent_foldl_perform (effects : List Effect) :
    (effects.foldl ServiceState.perform state).sent = state.sent ++ sends effects := by
  rw [foldl_perform state (·.sent) (fun effect => effect.sent.toList)
    (fun state effect => by cases effect <;> simp [ServiceState.perform, Effect.sent]),
    sends, List.filterMap_eq_flatMap_toList]

@[simp] theorem service_write (data : Bytes) : (state.write data).service = state.service := by
  unfold ServiceState.write; split <;> rfl

@[simp] theorem framer_write (data : Bytes) : (state.write data).framer = state.framer := by
  unfold ServiceState.write; split <;> rfl

@[simp] theorem inbox_write (data : Bytes) : (state.write data).inbox = state.inbox := by
  unfold ServiceState.write; split <;> rfl

@[simp] theorem consolePort_write (data : Bytes) : (state.write data).consolePort = state.consolePort := by
  unfold ServiceState.write; split <;> rfl

@[simp] theorem inputPort_write (data : Bytes) : (state.write data).inputPort = state.inputPort := by
  unfold ServiceState.write; split <;> rfl

@[simp] theorem sent_write (data : Bytes) : (state.write data).sent = state.sent := by
  unfold ServiceState.write; split <;> rfl

theorem consoleBuf_write (data : Bytes) : (state.write data).consoleBuf = state.consoleBuf ++ data := by
  unfold ServiceState.write; split <;> simp_all

@[simp] theorem service_flushConsoleBuf : state.flushConsoleBuf.service = state.service := by
  unfold ServiceState.flushConsoleBuf; split <;> rfl

@[simp] theorem framer_flushConsoleBuf : state.flushConsoleBuf.framer = state.framer := by
  unfold ServiceState.flushConsoleBuf; split <;> rfl

@[simp] theorem inbox_flushConsoleBuf : state.flushConsoleBuf.inbox = state.inbox := by
  unfold ServiceState.flushConsoleBuf; split <;> rfl

@[simp] theorem consolePort_flushConsoleBuf : state.flushConsoleBuf.consolePort = state.consolePort := by
  unfold ServiceState.flushConsoleBuf; split <;> rfl

@[simp] theorem inputPort_flushConsoleBuf : state.flushConsoleBuf.inputPort = state.inputPort := by
  unfold ServiceState.flushConsoleBuf; split <;> rfl

@[simp] theorem consoleBuf_flushConsoleBuf : state.flushConsoleBuf.consoleBuf = [] := by
  unfold ServiceState.flushConsoleBuf; split <;> simp_all

theorem responsesOf_flushConsoleBuf : responsesOf state.flushConsoleBuf.sent = responsesOf state.sent := by
  unfold ServiceState.flushConsoleBuf
  split
  · rfl
  · simp [responsesOf, consoleDataEvent]

end Operations

section Runs
variable (decode : Bytes → Option Message)

@[simp] theorem service_step (state : ServiceState) (step : Step) :
    (state.step decode step).1.service = state.service := by
  cases step <;> simp only [ServiceState.step] <;> (repeat' split) <;> simp [service_foldl_perform]

-- A queue that a run's steps fill at the back and drain at the front: whatever the order of
-- the steps, what was taken out followed by what is left is what was there followed by what
-- was put in.
theorem run_fifo {α : Type} (queue : ServiceState → List α) (taken added : Output → List α)
    (stepped : ∀ state step, taken (state.step decode step).2 ++ queue (state.step decode step).1 =
      queue state ++ added (state.step decode step).2)
    (steps : List Step) (state : ServiceState) :
    (state.run decode steps).2.flatMap taken ++ queue (state.run decode steps).1 =
      queue state ++ (state.run decode steps).2.flatMap added := by
  induction steps generalizing state with
  | nil => simp [ServiceState.run]
  | cons step rest ih =>
    simp only [ServiceState.run, List.flatMap_cons, List.append_assoc, ih]
    rw [← List.append_assoc, stepped, List.append_assoc]

-- A log that each step extends at the back by what the step names.
theorem run_log {α : Type} (log : ServiceState → List α) (added : Step → List α)
    (grows : ∀ state step, log (state.step decode step).1 = log state ++ added step)
    (steps : List Step) (state : ServiceState) :
    log (state.run decode steps).1 = log state ++ steps.flatMap added := by
  induction steps generalizing state with
  | nil => simp [ServiceState.run]
  | cons step rest ih => simp only [ServiceState.run, ih, grows, List.flatMap_cons, List.append_assoc]

end Runs

theorem toList_pollFront {α : Type} (queue : List α) : (pollFront queue).1.toList ++ (pollFront queue).2 = queue := by
  cases queue <;> rfl

section Delivery
variable (decode : Bytes → Option Message) (state : ServiceState)

-- `RunLoop` hands `HandleMessage` what it framed, in order: a step either receives the
-- bytes of a `ReadFile` into an empty inbox, or leaves the framer as it was and takes
-- at most the first message out of the inbox.
theorem framing_step (step : Step) :
    ((state.step decode step).2.receivedBytes = [] ∧ (state.step decode step).1.framer = state.framer ∧
        (state.step decode step).2.messages ++ (state.step decode step).1.inbox = state.inbox) ∨
      ∃ data, (state.step decode step).2.receivedBytes = [data] ∧ (state.step decode step).2.messages = [] ∧
        state.inbox = [] ∧ (state.step decode step).1.framer = (onRead decode state.framer data).1 ∧
        (state.step decode step).1.inbox = (onRead decode state.framer data).2 := by
  cases step with
  | receive data =>
    by_cases empty : state.inbox = []
    · exact .inr ⟨data, by simp [ServiceState.step, empty, Output.receivedBytes, Output.messages]⟩
    · exact .inl (by simp [ServiceState.step, empty, Output.receivedBytes, Output.messages])
  | handleMessage =>
    left
    cases inbox : state.inbox with
    | nil => simp [ServiceState.step, inbox, Output.receivedBytes, Output.messages]
    | cons message rest =>
      simp [ServiceState.step, inbox, Output.receivedBytes, Output.messages, framer_foldl_perform,
        inbox_foldl_perform]
  | flush =>
    left
    by_cases empty : state.inbox = [] <;> simp [ServiceState.step, empty, Output.receivedBytes, Output.messages]
  | _ => left; simp [ServiceState.step, Output.receivedBytes, Output.messages]

theorem queue_step (step : Step) :
    (state.step decode step).2.readBytes ++ (state.step decode step).1.consolePort.queue =
      state.consolePort.queue ++ (state.step decode step).2.messages.flatMap consoleInputOf := by
  cases step with
  | handleMessage =>
    cases inbox : state.inbox with
    | nil => simp [ServiceState.step, inbox, Output.readBytes, Output.messages]
    | cons message rest =>
      simp only [ServiceState.step, inbox]
      rw [foldl_perform _ (·.consolePort.queue) _ queue_perform, inputBytes_handleMessage]
      simp [Output.readBytes, Output.messages]
  | read size =>
    simp only [ServiceState.step, ManagedConsolePort.read]
    split <;> simp [Output.readBytes, Output.messages]
  | receive data =>
    by_cases empty : state.inbox = [] <;> simp [ServiceState.step, empty, Output.readBytes, Output.messages]
  | flush =>
    by_cases empty : state.inbox = [] <;> simp [ServiceState.step, empty, Output.readBytes, Output.messages]
  | _ => simp [ServiceState.step, Output.readBytes, Output.messages]

theorem keyQueue_step (step : Step) :
    (state.step decode step).2.keyEvents ++ (state.step decode step).1.inputPort.keyQueue =
      state.inputPort.keyQueue ++ (state.step decode step).2.messages.filterMap keyEventOf := by
  cases step with
  | handleMessage =>
    cases inbox : state.inbox with
    | nil => simp [ServiceState.step, inbox, Output.keyEvents, Output.messages]
    | cons message rest =>
      simp only [ServiceState.step, inbox]
      rw [foldl_perform _ (·.inputPort.keyQueue) _ keyQueue_perform, keyEvents_handleMessage]
      cases event : keyEventOf message <;> simp [Output.keyEvents, Output.messages, event]
  | pollKeyboard =>
    simpa [ServiceState.step, ManagedInputPort.pollKeyboard, Output.keyEvents, Output.messages] using
      toList_pollFront state.inputPort.keyQueue
  | pollPointer => simp [ServiceState.step, ManagedInputPort.pollPointer, Output.keyEvents, Output.messages]
  | receive data =>
    by_cases empty : state.inbox = [] <;> simp [ServiceState.step, empty, Output.keyEvents, Output.messages]
  | flush =>
    by_cases empty : state.inbox = [] <;> simp [ServiceState.step, empty, Output.keyEvents, Output.messages]
  | _ => simp [ServiceState.step, Output.keyEvents, Output.messages]

theorem pointerQueue_step (step : Step) :
    (state.step decode step).2.pointerEvents ++ (state.step decode step).1.inputPort.pointerQueue =
      state.inputPort.pointerQueue ++ (state.step decode step).2.messages.filterMap pointerEventOf := by
  cases step with
  | handleMessage =>
    cases inbox : state.inbox with
    | nil => simp [ServiceState.step, inbox, Output.pointerEvents, Output.messages]
    | cons message rest =>
      simp only [ServiceState.step, inbox]
      rw [foldl_perform _ (·.inputPort.pointerQueue) _ pointerQueue_perform, pointerEvents_handleMessage]
      cases event : pointerEventOf message <;> simp [Output.pointerEvents, Output.messages, event]
  | pollPointer =>
    simpa [ServiceState.step, ManagedInputPort.pollPointer, Output.pointerEvents, Output.messages] using
      toList_pollFront state.inputPort.pointerQueue
  | pollKeyboard => simp [ServiceState.step, ManagedInputPort.pollKeyboard, Output.pointerEvents, Output.messages]
  | receive data =>
    by_cases empty : state.inbox = [] <;> simp [ServiceState.step, empty, Output.pointerEvents, Output.messages]
  | flush =>
    by_cases empty : state.inbox = [] <;> simp [ServiceState.step, empty, Output.pointerEvents, Output.messages]
  | _ => simp [ServiceState.step, Output.pointerEvents, Output.messages]

theorem consoleOutput_append (front back : List Message) :
    consoleOutput (front ++ back) = consoleOutput front ++ consoleOutput back :=
  List.flatMap_append front back _

theorem consoleOutput_consoleDataEvent (service : RuntimeControlService) (requestId : BitVec 64) (data : Bytes) :
    consoleOutput [consoleDataEvent service requestId data] = data := by
  simp [consoleOutput, consoleDataEvent, decodeHex_encodeHex, -AList.insert_empty]

-- The replies of `HandleMessage` are responses, so they carry no console output.
theorem consoleOutput_sends_handleMessage (service : RuntimeControlService) (message : Message) :
    consoleOutput (sends (handleMessage service message)) = [] := by
  rw [sends_handleMessage]
  split_ifs
  · obtain ⟨fields, sent, -⟩ := sends_handleCommand service message
    rw [sent]; rfl
  · obtain ⟨fields, sent⟩ := sends_handleUpdateNetwork service message
    rw [sent]; rfl
  all_goals rfl

theorem consoleOutput_flushConsoleBuf :
    consoleOutput state.flushConsoleBuf.sent = consoleOutput state.sent ++ state.consoleBuf := by
  unfold ServiceState.flushConsoleBuf
  split
  · simp_all
  · rw [consoleOutput_append, consoleOutput_consoleDataEvent]

theorem consoleOutput_step (step : Step) :
    consoleOutput (state.step decode step).1.sent ++ (state.step decode step).1.consoleBuf =
      consoleOutput state.sent ++ state.consoleBuf ++ step.written := by
  cases step with
  | handleMessage =>
    cases inbox : state.inbox with
    | nil => simp [ServiceState.step, inbox, Step.written]
    | cons message rest =>
      simp only [ServiceState.step, inbox]
      rw [sent_foldl_perform, consoleBuf_foldl_perform, consoleOutput_append, consoleOutput_sends_handleMessage]
      simp [Step.written]
  | write data => simp [ServiceState.step, consoleBuf_write, Step.written]
  | flush =>
    by_cases empty : state.inbox = [] <;>
      simp [ServiceState.step, empty, consoleOutput_flushConsoleBuf, Step.written]
  | receive data => by_cases empty : state.inbox = [] <;> simp [ServiceState.step, empty, Step.written]
  | _ => simp [ServiceState.step, Step.written]

-- A step sends a response for each answered request it handled, and no other.
theorem responsesOf_step (step : Step) :
    responsesOf (state.step decode step).1.sent =
      responsesOf state.sent ++ answersOf (state.step decode step).2.messages := by
  cases step with
  | receive data =>
    simp only [ServiceState.step]
    split <;> simp [Output.messages, answersOf]
  | handleMessage =>
    simp only [ServiceState.step]
    split
    · simp [Output.messages, answersOf]
    · rw [sent_foldl_perform, responsesOf_append, responsesOf_handleMessage]
      rfl
  | flush =>
    simp only [ServiceState.step]
    split
    · rw [responsesOf_flushConsoleBuf]
      simp [Output.messages, answersOf]
    · simp [Output.messages, answersOf]
  | write data => simp [ServiceState.step, Output.messages, answersOf]
  | _ => simp [ServiceState.step, Output.messages, answersOf]

end Delivery

section Pipeline
variable (decode : Bytes → Option Message)

-- What `RunLoop` handled, followed by what still waits in its inbox, is what it had waiting
-- followed by what the framing loop makes of the bytes its `ReadFile` calls returned.
theorem framing_run (steps : List Step) (state : ServiceState) :
    (state.run decode steps).1.framer =
        (runReads decode state.framer ((state.run decode steps).2.flatMap Output.receivedBytes)).1 ∧
      (state.run decode steps).2.flatMap Output.messages ++ (state.run decode steps).1.inbox =
        state.inbox ++ (runReads decode state.framer ((state.run decode steps).2.flatMap Output.receivedBytes)).2 := by
  induction steps generalizing state with
  | nil => simp [ServiceState.run, runReads]
  | cons step rest ih =>
    obtain ⟨framer, inbox⟩ := ih (state.step decode step).1
    simp only [ServiceState.run, List.flatMap_cons] at framer inbox ⊢
    rcases framing_step decode state step with ⟨none, kept, taken⟩ | ⟨data, got, none, empty, framed, queued⟩
    · rw [none, List.nil_append, ← kept]
      exact ⟨framer, by rw [List.append_assoc, inbox, ← List.append_assoc, taken]⟩
    · rw [got, none, List.singleton_append, List.nil_append, runReads, empty, List.nil_append, ← framed, ← queued]
      exact ⟨framer, inbox⟩

theorem consoleInputOf_handled (written : Frame decode) :
    consoleInputOf written.handled = consoleInputOf written.message := by
  unfold Frame.handled consoleInputOf Message.isRequest
  split <;> simp [AList.lookup_erase_ne]

end Pipeline

/-- Whatever the order in which `RunLoop` hands messages to `HandleMessage` and the guest's
console device calls `Read`, the console port loses, duplicates and reorders no input: the
bytes the `Read`s returned, followed by what is still queued, are the bytes queued at the
start followed by the decoded `data_hex` of each `console.input` request handled, in order. -/
theorem consoleInput_delivered_in_order (decode : Bytes → Option Message) (state : ServiceState) (steps : List Step) :
    (state.run decode steps).2.flatMap Output.readBytes ++ (state.run decode steps).1.consolePort.queue =
      state.consolePort.queue ++ ((state.run decode steps).2.flatMap Output.messages).flatMap consoleInputOf := by
  rw [List.flatMap_assoc]
  exact run_fifo decode (·.consolePort.queue) Output.readBytes (fun output => output.messages.flatMap consoleInputOf)
    (queue_step decode) steps state

/-- The same for the input port, queue by queue: the key events the polls returned, followed
by those still queued, are the queued ones followed by the event of each `input.key_event`
request handled that names `key_code` and `pressed`; and the pointer events likewise, one
for each `input.pointer_event` request handled. -/
theorem inputEvents_delivered_in_order (decode : Bytes → Option Message) (state : ServiceState) (steps : List Step) :
    (state.run decode steps).2.flatMap Output.keyEvents ++ (state.run decode steps).1.inputPort.keyQueue =
        state.inputPort.keyQueue ++ ((state.run decode steps).2.flatMap Output.messages).filterMap keyEventOf ∧
      (state.run decode steps).2.flatMap Output.pointerEvents ++ (state.run decode steps).1.inputPort.pointerQueue =
        state.inputPort.pointerQueue ++ ((state.run decode steps).2.flatMap Output.messages).filterMap pointerEventOf := by
  rw [List.filterMap_flatMap, List.filterMap_flatMap]
  exact ⟨run_fifo decode (·.inputPort.keyQueue) Output.keyEvents (fun output => output.messages.filterMap keyEventOf)
      (keyQueue_step decode) steps state,
    run_fifo decode (·.inputPort.pointerQueue) Output.pointerEvents
      (fun output => output.messages.filterMap pointerEventOf) (pointerQueue_step decode) steps state⟩

/-- When `RunLoop` makes its last `FlushConsoleBuf`, after any interleaving of the guest's
writes with the other threads' operations, the `console.data` events sent carry the output
buffered at the start followed by every byte the guest wrote, each once and in the order
written. -/
theorem consoleOutput_flushed_in_order (decode : Bytes → Option Message) (state : ServiceState) (steps : List Step) :
    consoleOutput (state.run decode steps).1.flushConsoleBuf.sent =
      consoleOutput state.sent ++ state.consoleBuf ++ steps.flatMap Step.written := by
  rw [consoleOutput_flushConsoleBuf]
  exact run_log decode (fun state => consoleOutput state.sent ++ state.consoleBuf) Step.written
    (consoleOutput_step decode) steps state

/-- Over any interleaving of the service's threads, the responses sent carry, in order, the
id of each handled request that gets an answer (`runtime.command`, `runtime.update_network`
or `runtime.ping`) with the matching answer type: no such request goes unanswered or is
answered twice, responses leave in the order the requests were handled, and nothing else
the service sends, such as its `console.data` events, is a response. -/
theorem responses_answer_requests_in_order (decode : Bytes → Option Message) (state : ServiceState)
    (steps : List Step) :
    responsesOf (state.run decode steps).1.sent =
      responsesOf state.sent ++ answersOf ((state.run decode steps).2.flatMap Output.messages) := by
  induction steps generalizing state with
  | nil => simp [ServiceState.run, answersOf]
  | cons step rest ih =>
    simp only [ServiceState.run, List.flatMap_cons, ih, responsesOf_step, answersOf, List.filterMap_append,
      List.append_assoc]

/-- From the pipe to the guest: when `RunLoop` starts between frames with nothing waiting and
the bytes its `ReadFile` calls return are a sequence of frames, however the pipe cuts them
and however the guest's `Read`s interleave, the bytes the guest read, followed by those
still queued and those of messages framed but not yet handled, are the bytes queued at the
start followed by the decoded `data_hex` of each `console.input` frame, in the order
written. -/
theorem console_frames_reach_guest_in_order {decode : Bytes → Option Message} (frames : List (Frame decode))
    (state : ServiceState) (steps : List Step) (idle : state.framer.pending = [])
    (reading : state.framer.payloadNeeded = 0) (waiting : state.inbox = [])
    (cut : ((state.run decode steps).2.flatMap Output.receivedBytes).flatten = (frames.map Frame.bytes).flatten) :
    (state.run decode steps).2.flatMap Output.readBytes ++ (state.run decode steps).1.consolePort.queue ++
        (state.run decode steps).1.inbox.flatMap consoleInputOf =
      state.consolePort.queue ++ frames.flatMap fun written => consoleInputOf written.message := by
  have start : state.framer = ⟨[], 0, state.framer.pendingMsg⟩ := by rw [← idle, ← reading]
  have framed : (runReads decode state.framer ((state.run decode steps).2.flatMap Output.receivedBytes)).2 =
      frames.map Frame.handled := by
    rw [start, runReads_eq_frame (by simp [frameStep])]
    simpa [Framer.append, cut] using (frame_frames frames state.framer.pendingMsg).1
  rw [run_fifo decode (·.consolePort.queue) Output.readBytes (fun output => output.messages.flatMap consoleInputOf)
      (queue_step decode) steps state, List.append_assoc, ← List.flatMap_assoc, ← List.flatMap_append,
    (framing_run decode steps state).2, waiting, List.nil_append, framed, List.flatMap_map]
  simp only [consoleInputOf_handled]

-- A `console.input` request typing `hi`, behind the header line `h`.
def typeHi : Message :=
  ⟨.request, .console, "console.input", "vm-1", 1, (∅ : Fields).insert "data_hex" "6869", []⟩

def hiDecode (line : Bytes) : Option Message := if line = [0x68, 10] then some typeHi else none

def hiFrame : Frame hiDecode := ⟨[0x68], [], typeHi, by decide, if_pos rfl, .inr ⟨rfl, rfl⟩, by decide⟩

def startState : ServiceState :=
  ⟨attachedService, ⟨[], 0, typeHi⟩, [], ⟨[]⟩, ⟨[], []⟩, [], 0, [], []⟩

theorem console_frames_reach_guest_in_one_read :
    let steps := [Step.receive hiFrame.bytes]
    startState.framer.pending = [] ∧ startState.framer.payloadNeeded = 0 ∧ startState.inbox = [] ∧
      ((startState.run hiDecode steps).2.flatMap Output.receivedBytes).flatten = ([hiFrame].map Frame.bytes).flatten ∧
      (startState.run hiDecode steps).2.flatMap Output.readBytes ++ (startState.run hiDecode steps).1.consolePort.queue ++
          (startState.run hiDecode steps).1.inbox.flatMap consoleInputOf =
        startState.consolePort.queue ++ [hiFrame].flatMap fun written => consoleInputOf written.message :=
  ⟨rfl, rfl, rfl, rfl, console_frames_reach_guest_in_order [hiFrame] startState _ rfl rfl rfl rfl⟩

end Tenbox.Runtime
