import Connect3Dp.Builder.Faulting
import Connect3Dp.Collections.Dictionary
import Connect3Dp.Runtime.Json
import Connect3Dp.Runtime.Strings
import Connect3Dp.Runtime.Utf8

/-!
# The WebSocket server

A client sends requests, and `ReceiveLoopAsync` serves them one after another. `processText` is what
the loop does with one text: of its many ends, two send a reply.

The handlers of the actions are given with the server. They run on a `World` that holds everything
they see and change, among it whether the client's socket is open.
-/

namespace Connect3Dp

/-! ### Messages -/

/-- `MessageToClient<T>`. -/
structure MessageToClient (T : Type) where
  messageID : NetString
  time : DateTimeOffset
  topic : String
  data : T

structure WebSocketClientActionResult where
  isSuccess : Bool
  failureReason : NetString
  deriving DecidableEq

namespace WebSocketClientActionResult

def success : WebSocketClientActionResult := ⟨true, none⟩

def failure (failureReason : String) : WebSocketClientActionResult := ⟨false, some failureReason⟩

end WebSocketClientActionResult

/-- An `IWebSocketClientActionResult`: the plain one, or one that an action has of its own. -/
inductive ActionResult (R : Type)
  | plain (result : WebSocketClientActionResult)
  | own (result : R)

inductive WebSocketMessageType
  | text
  | binary
  | close

/-- `WebSocketReceiveResult`, with the `Count` bytes that were written into the buffer. -/
structure WebSocketReceiveResult where
  messageType : WebSocketMessageType
  endOfMessage : Bool
  buffer : List UInt8

/-! ### Actions -/

variable {C World Object R : Type}

/-- `ActionDefinition`. A type of data is given by what is read of an element as this type: an
object, `null`, or an exception with its message. -/
structure ActionDefinition (C World Object R : Type) where
  actionName : String
  requiredDataType : Option (JsonElement → Except String (Option Object))
  invokeAsync : Option (C → EStateM Fault World (ActionResult R))
  invokeWithDataAsync : Option (C → Object → EStateM Fault World (ActionResult R))

structure WebSocketServer (C World Object R : Type) where
  mappedActions : Dictionary String (ActionDefinition C World Object R)

/-- What the loop depends on besides the messages. -/
structure WebSocketHost (C World R : Type) where
  /-- `JsonDocument.Parse` -/
  parse : String → Option JsonElement
  /-- `JsonSerializer.Serialize` -/
  serialize : MessageToClient (ActionResult R) → Except Fault String
  /-- `client.WebSocket.State == WebSocketState.Open` -/
  isOpen : C → World → Bool
  /-- `DateTimeOffset.UtcNow` -/
  utcNow : DateTimeOffset
  /-- `DateTimeOffset.Now` -/
  now : DateTimeOffset

/-- The world, and what has been sent to the client in reply. -/
structure WebSocketSession (World R : Type) where
  world : World
  sent : List (MessageToClient (ActionResult R))

namespace WebSocketServer

/-- `_mappedActions.TryAdd`. -/
def tryAdd (server : WebSocketServer C World Object R)
    (definition : ActionDefinition C World Object R) : WebSocketServer C World Object R × Bool :=
  if server.mappedActions.containsKey definition.actionName then (server, false)
  else (⟨server.mappedActions.set definition.actionName definition⟩, true)

/-- `MapAction<R>`. -/
def mapAction (server : WebSocketServer C World Object R) (actionStr : String)
    (action : C → EStateM Fault World (ActionResult R)) :
    WebSocketServer C World Object R × Bool :=
  server.tryAdd ⟨actionStr, none, some action, none⟩

/-- `MapAction<AD, R>`. -/
def mapActionWithData {AD : Type} (server : WebSocketServer C World Object R) (actionStr : String)
    (type : JsonElement → Except String (Option Object)) (cast : Object → Option AD)
    (actionWithData : C → AD → EStateM Fault World (ActionResult R)) :
    WebSocketServer C World Object R × Bool :=
  let wrappedAction connection obj :=
    match cast obj with
    | some typedObj => actionWithData connection typedObj
    | none => return .plain (.failure s!"Invalid payload type for action '{actionStr}'")
  server.tryAdd ⟨actionStr, some type, none, some wrappedAction⟩

variable (host : WebSocketHost C World R) (server : WebSocketServer C World Object R) (client : C)

/-! ### One text -/

def sendMessageToClientAsync (messageToClient : MessageToClient (ActionResult R)) :
    EStateM Fault (WebSocketSession World R) Unit := do
  let _jsonOfMessage ← ofExcept (host.serialize messageToClient)
  if host.isOpen client (← get).world then
    modify fun session => { session with sent := session.sent ++ [messageToClient] }
  else throw .webSocket

/-- Invoke a handler. Any exception is logged. -/
def invoke (handler : EStateM Fault World (ActionResult R)) :
    EStateM Fault (WebSocketSession World R) (Option (ActionResult R)) :=
  tryCatch
    (some <$> onField WebSocketSession.world (fun session world => { session with world }) handler)
    fun _ => pure none

/-- Invoke with Data. -/
def invokeWithData (requiredDataType : JsonElement → Except String (Option Object))
    (invokeWithDataAsync : C → Object → EStateM Fault World (ActionResult R))
    (responseMessageID : NetString) (actionName : String) (dataProp : JsonElement) :
    EStateM Fault (WebSocketSession World R) (Option (ActionResult R)) :=
  match requiredDataType dataProp with
  | .error message => do
    sendMessageToClientAsync host client
      ⟨responseMessageID, host.utcNow, actionName,
        .plain (.failure s!"Failed to Deserialize; {message}")⟩
    return none
  | .ok none => return none
  | .ok (some dataObj) => invoke (invokeWithDataAsync client dataObj)

/-- `resultObj`, where the loop body does not end before. -/
def resultObj (mapped : ActionDefinition C World Object R) (root : JsonElement)
    (responseMessageID : NetString) (actionName : String) :
    EStateM Fault (WebSocketSession World R) (Option (ActionResult R)) :=
  match mapped.invokeAsync, mapped.requiredDataType, mapped.invokeWithDataAsync with
  -- Invoke without Data
  | some invokeAsync, _, _ => invoke (invokeAsync client)
  | none, some requiredDataType, some invokeWithDataAsync => do
    match ← ofExcept (root.tryGetProperty "Data") with
    | none => return none
    | some dataProp =>
      invokeWithData host client requiredDataType invokeWithDataAsync responseMessageID actionName
        dataProp
  | none, _, _ => return none

/-- What the extension method `TryGetString(out value, name)` leaves in `value`. -/
def readString (root : JsonElement) (name : String) : Except Fault NetString := do
  match ← root.tryGetProperty name with
  | none => return none
  | some result =>
    match ← result.getString with
    | none => throw .nullReference
    | some value => return some (trim value)

/-- The end of the loop body: the reply, if there is a result. -/
def sendResult (responseMessageID : NetString) (actionName : String) :
    Option (ActionResult R) → EStateM Fault (WebSocketSession World R) Unit
  | none => pure ()
  | some result =>
    sendMessageToClientAsync host client ⟨responseMessageID, host.now, actionName, result⟩

/-- The loop body for a mapped action. -/
def respond (mapped : ActionDefinition C World Object R) (root : JsonElement)
    (responseMessageID : NetString) (actionName : String) :
    EStateM Fault (WebSocketSession World R) Unit :=
  resultObj host client mapped root responseMessageID actionName >>=
    sendResult host client responseMessageID actionName

/-- The loop body after the document is parsed. -/
def processRoot (root : JsonElement) : EStateM Fault (WebSocketSession World R) Unit := do
  match ← ofExcept (root.tryGetProperty "Action") with
  | none => return
  | some actionProp =>
    match ← ofExcept actionProp.getString with
    | none => return
    | some actionName =>
      if isNullOrWhiteSpace (some actionName) then return
      match server.mappedActions.tryGetValue actionName with
      | none => return
      | some mapped =>
        let responseMessageID ← ofExcept (readString root "ResponseMessageID")
        respond host client mapped root responseMessageID actionName

/-- The body of the loop, for one text. Nothing but invalid JSON is caught. -/
def processText (text : String) : EStateM Fault (WebSocketSession World R) Unit :=
  tryCatch
    (match host.parse text with
      | none => throw .json
      | some root => processRoot host server client root)
    fun
    | .json => pure ()
    | e => throw e

/-! ### The loop -/

/-- The loop over what `ReceiveAsync` returns. It has `ended` when an exception or a close frame has
ended it. -/
structure ReceiveLoop (World R : Type) where
  session : WebSocketSession World R
  ended : Bool

/-- Whether the loop calls `ReceiveAsync` once more. -/
def ReceiveLoop.isReading (loop : ReceiveLoop World R) : Bool :=
  !loop.ended && host.isOpen client loop.session.world

/-- One text is processed, as a request of its own, while the loop is reading. -/
def handleText (text : String) (loop : ReceiveLoop World R) :
    List String × ReceiveLoop World R :=
  if loop.isReading host client then
    ([text], match processText host server client text loop.session with
      | .ok _ session => ⟨session, false⟩
      | .error _ session => ⟨session, true⟩)
  else ([], loop)

/-- One round of the loop: the texts it processes. Neither the kind of the last result nor the end
of a message is remembered. -/
def receive (loop : ReceiveLoop World R) (result : WebSocketReceiveResult) :
    List String × ReceiveLoop World R :=
  match result.messageType with
  | .close => ([], { loop with ended := true })
  | .binary => ([], loop)
  | .text => handleText host server client (utf8GetString result.buffer) loop

/-- `ReceiveLoopAsync`, as long as there is something to receive. -/
def receiveLoopAsync : ReceiveLoop World R → List WebSocketReceiveResult →
    List String × ReceiveLoop World R
  | loop, [] => ([], loop)
  | loop, result :: results =>
    let (requests, loop) := receive host server client loop result
    let (later, loop) := receiveLoopAsync loop results
    (requests ++ later, loop)

end WebSocketServer

end Connect3Dp
