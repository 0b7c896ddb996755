import Connect3Dp.Services.WebSocketServer
import Connect3Dp.State.MachineState

/-!
# Subscriptions to the state of machines

A client subscribes to machines with a level of detail, and every change of the state of a machine
is sent to its subscribers.

`subscribe` looks for an existing subscription under the client's own id, not the machine's. So the
detail of a machine that is already subscribed to stays as it is.
-/

namespace Connect3Dp

/-! ### What is sent -/

/-- `StateDetails`. The converter of the enumeration reads a number as well as a name. -/
structure StateDetails where
  value : Int32
  deriving DecidableEq

namespace StateDetails

def none : StateDetails := ⟨0⟩

/-- Only `AtAGlanceChanges` will be included on state update events. -/
def atAGlance : StateDetails := ⟨1⟩

/-- Includes the entirety of the state and its changes. -/
def full : StateDetails := ⟨2⟩

end StateDetails

structure AtAGlanceMachineState where
  status : MachineStatus
  capabilities : MachineCapabilities
  nickname : NetString
  job : Option PrintJob

def AtAGlanceMachineState.of (machineState : MachineState) : AtAGlanceMachineState :=
  ⟨machineState.status, machineState.capabilities, machineState.nickname, machineState.currentJob⟩

structure AtAGlanceMachineStateChanges where
  status : ScalarChanges MachineStatus
  capabilities : ScalarChanges MachineCapabilities
  nickname : ScalarChanges NetString
  currentJobChanges : Option PrintJobChanges

namespace AtAGlanceMachineStateChanges

def hasChanged (changes : AtAGlanceMachineStateChanges) : Bool :=
  changes.status.hasChanged || changes.capabilities.hasChanged || changes.nickname.hasChanged ||
    changes.currentJobChanges.any PrintJobChanges.hasChanged

def of (changes : MachineStateChanges) : AtAGlanceMachineStateChanges :=
  ⟨changes.status, changes.capabilities, changes.nickname, changes.currentJob⟩

end AtAGlanceMachineStateChanges

structure SubscribeActionResult where
  fullState : Option MachineState
  atAGlanceState : Option AtAGlanceMachineState
  failureReason : NetString

def SubscribeActionResult.isSuccess (result : SubscribeActionResult) : Bool :=
  result.failureReason = none

structure BroadcastedMachineStateUpdateData where
  fullChanges : Option MachineStateChanges
  atAGlanceChanges : Option AtAGlanceMachineStateChanges

/-- `Topics.StateUpdated`. -/
def Topics.stateUpdated (machineID : String) : String := s!"machine/{machineID}/state"

/-! ### Clients and machines -/

structure MachineSubscription where
  detailOfState : StateDetails
  deriving DecidableEq

/-- `Connect3DpWebSocketClient`, with what its socket was sent of state updates. -/
structure Connect3DpWebSocketClient where
  id : String
  /-- `WebSocket.State == WebSocketState.Open` -/
  isOpen : Bool
  sent : List (MessageToClient BroadcastedMachineStateUpdateData)
  machineSubscriptions : Dictionary String MachineSubscription

/-- What the server reads of a `MachineConnection`. -/
structure ServedMachine where
  id : String
  state : MachineState

/-- The server with its clients, and the machines of the collection. Both are kept under their
ids. -/
structure StateServer where
  clients : Dictionary String Connect3DpWebSocketClient
  connections : Dictionary String ServedMachine
  id_client : ∀ {key client}, clients.tryGetValue key = some client → client.id = key
  id_machine : ∀ {key machine}, connections.tryGetValue key = some machine → machine.id = key

/-! ### The actions -/

structure SubscribeToMachinePayload where
  machineID : String
  detailOfState : StateDetails

structure UnsubscribeFromMachinePayload where
  machineID : String

namespace Connect3DpWebSocketClient

def subscribe (connection : Connect3DpWebSocketClient) (payload : SubscribeToMachinePayload)
    (machine : ServedMachine) : Connect3DpWebSocketClient × SubscribeActionResult :=
  let machineSubscriptions :=
    if connection.machineSubscriptions.containsKey connection.id then
      connection.machineSubscriptions.set connection.id ⟨payload.detailOfState⟩
    else if connection.machineSubscriptions.containsKey machine.id then
      -- `TryAdd` of a key that is there
      connection.machineSubscriptions
    else connection.machineSubscriptions.set machine.id ⟨payload.detailOfState⟩
  let result :=
    if payload.detailOfState = .full then ⟨some machine.state, none, none⟩
    else if payload.detailOfState = .atAGlance then ⟨none, some (.of machine.state), none⟩
    else ⟨none, none, none⟩
  ({ connection with machineSubscriptions }, result)

def unsubscribe (connection : Connect3DpWebSocketClient) (payload : UnsubscribeFromMachinePayload)
    (_machine : ServedMachine) : Connect3DpWebSocketClient × WebSocketClientActionResult :=
  ({ connection with
      machineSubscriptions := connection.machineSubscriptions.remove payload.machineID }, .success)

end Connect3DpWebSocketClient

namespace StateServer

/-- `MapMachineSpecificAction`. -/
def machineSpecificAction {TPayload TResult : Type} (server : StateServer)
    (machineID : TPayload → String)
    (handler : Connect3DpWebSocketClient → TPayload → ServedMachine →
      Connect3DpWebSocketClient × TResult)
    (connection : Connect3DpWebSocketClient) (payload : TPayload) :
    Connect3DpWebSocketClient × (WebSocketClientActionResult ⊕ TResult) :=
  match server.connections.tryGetValue (machineID payload) with
  | none =>
    (connection, .inl (.failure s!"Could not find Machine with ID {machineID payload}"))
  | some machine => (handler connection payload machine).map id .inr

/-- A client is put under its id. -/
def setClient (server : StateServer) (client : Connect3DpWebSocketClient) : StateServer where
  clients := server.clients.set client.id client
  connections := server.connections
  id_client {key found} h := by
    rw [Dictionary.tryGetValue_set] at h
    split at h
    · rename_i hkey
      rw [← Option.some.inj h, hkey]
    · exact server.id_client h
  id_machine := server.id_machine

def removeClient (server : StateServer) (id : String) : StateServer where
  clients := server.clients.remove id
  connections := server.connections
  id_client {key found} h := by
    rw [Dictionary.tryGetValue_remove] at h
    split at h
    · cases h
    · exact server.id_client h
  id_machine := server.id_machine

/-- A client carries out an action, if it is connected. -/
def act {TPayload TResult : Type} (server : StateServer) (machineID : TPayload → String)
    (handler : Connect3DpWebSocketClient → TPayload → ServedMachine →
      Connect3DpWebSocketClient × TResult)
    (clientID : String) (payload : TPayload) : StateServer :=
  match server.clients.tryGetValue clientID with
  | none => server
  | some connection =>
    server.setClient (server.machineSpecificAction machineID handler connection payload).1

/-! ### Broadcasts -/

/-- The clients with a detail of the state of a machine. -/
def subscribers (server : StateServer) (machineID : String) (detail : StateDetails) :
    List Connect3DpWebSocketClient :=
  server.clients.values.filter fun c =>
    (c.machineSubscriptions.tryGetValue machineID).any fun sub => sub.detailOfState = detail

/-- `SendAsync` on the socket of a client. -/
def sendAsync (message : MessageToClient BroadcastedMachineStateUpdateData)
    (connection : Connect3DpWebSocketClient) : EStateM Fault StateServer Unit :=
  if connection.isOpen then
    modify fun server => server.setClient { connection with sent := connection.sent ++ [message] }
  else throw .webSocket

variable (serialize : MessageToClient BroadcastedMachineStateUpdateData → Except Fault String)

/-- `BroadcastMessageAsync`: one client after another, until one of them fails. -/
def broadcastMessageAsync (message : MessageToClient BroadcastedMachineStateUpdateData)
    (connections : List Connect3DpWebSocketClient) : EStateM Fault StateServer Unit := do
  let _jsonOfMessage ← ofExcept (serialize message)
  connections.forM (sendAsync message)

/-- The message with the changes of a machine. -/
def stateUpdated (machineID : String) (now : DateTimeOffset)
    (data : BroadcastedMachineStateUpdateData) :
    MessageToClient BroadcastedMachineStateUpdateData :=
  ⟨none, now, Topics.stateUpdated machineID, data⟩

variable (machineID : String) (changes : MachineStateChanges) (now : DateTimeOffset)

def broadcastFullChanges (fullClients : List Connect3DpWebSocketClient) :
    EStateM Fault StateServer Unit :=
  if fullClients.length ≠ 0 then
    broadcastMessageAsync serialize (stateUpdated machineID now ⟨some changes, none⟩) fullClients
  else pure ()

def broadcastAtAGlanceChanges (atAGlanceClients : List Connect3DpWebSocketClient) :
    EStateM Fault StateServer Unit :=
  let atAGlanceChanges := AtAGlanceMachineStateChanges.of changes
  if atAGlanceClients.length ≠ 0 ∧ atAGlanceChanges.hasChanged = true then
    broadcastMessageAsync serialize (stateUpdated machineID now ⟨none, some atAGlanceChanges⟩)
      atAGlanceClients
  else pure ()

/-- `WithStateBroadcasts`, for one change. Nothing catches an exception of the first broadcast. -/
def onStateChange : EStateM Fault StateServer Unit := do
  let server ← get
  broadcastFullChanges serialize machineID changes now (server.subscribers machineID .full)
  broadcastAtAGlanceChanges serialize machineID changes now
    (server.subscribers machineID .atAGlance)

end StateServer

end Connect3Dp
