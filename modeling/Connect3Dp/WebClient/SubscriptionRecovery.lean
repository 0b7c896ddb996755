import Connect3Dp.Collections.LiveMap
import Connect3Dp.Runtime.Transition
import Connect3Dp.Services.SubscriptionDetail

/-!
# Subscriptions across lost connections

The client remembers in `_subscriptions` what it is subscribed to, and the server what each of its
clients is. The server's side ends with the connection. The client's side stays, and when a
connection is opened again, `_reconnectLoop` asks for every machine in it once more. Requests and
replies are under way in the meantime, and callers go on subscribing and unsubscribing.

`expected` is what the client will know of a machine when the replies that are under way have
arrived. `Tracks` says how that relates to the server: they agree, or the machine has yet to be
restored. It is kept by every step that meets `Keeps`, machine by machine (`tracks_of_reachable`),
so that the two sides agree whenever nothing about the machine is left to be done
(`agrees_of_reachable`).

There is one socket at a time here: one has closed when the next is opened (see `Keeps` for what
else can happen).
-/

namespace Connect3Dp

namespace WebClient

/-! ### The client -/

/-- What `subscribe` and `unsubscribe` ask for. -/
inductive MachineRequest
  | subscribe (payload : SubscribeToMachinePayload)
  | unsubscribe (payload : UnsubscribeFromMachinePayload)

namespace MachineRequest

def machineID : MachineRequest → String
  | .subscribe payload => payload.machineID
  | .unsubscribe payload => payload.machineID

/-- The subscription that there is when the request has succeeded. -/
def outcome : MachineRequest → Option StateDetails
  | .subscribe payload => some payload.detailOfState
  | .unsubscribe _ => none

end MachineRequest

/-- An entry of `_pending`: the promise is awaited by a caller, or by the loop that restores the
subscriptions. -/
structure AwaitedRequest where
  request : MachineRequest
  byLoop : Bool

/-- The request, if a caller has made it about a machine. -/
def AwaitedRequest.call (a : AwaitedRequest) (m : String) : Option MachineRequest :=
  if a.byLoop = false ∧ a.request.machineID = m then some a.request else none

/-- The iteration over `_subscriptions`, with the request that it awaits. -/
structure RestoringLoop where
  position : ℕ
  awaiting : Option ℕ

/-- The client. Correlation ids are numbers, of which none is given twice. -/
structure SubscribedClient where
  subscriptions : LiveMap String StateDetails
  pending : Dictionary ℕ AwaitedRequest
  nextID : ℕ
  loop : Option RestoringLoop
  /-- `_reconnectLoop` tries to open a socket. -/
  reconnecting : Bool

namespace SubscribedClient

/-- `_request`, on a socket that is open. -/
def send (c : SubscribedClient) (request : MachineRequest) (byLoop : Bool) : SubscribedClient :=
  { c with pending := c.pending.set c.nextID ⟨request, byLoop⟩, nextID := c.nextID + 1 }

/-- What `subscribe` and `unsubscribe` do with the result. -/
def settle (c : SubscribedClient) (request : MachineRequest) (isSuccess : Bool) :
    SubscribedClient :=
  if isSuccess then
    match request with
    | .subscribe payload =>
      { c with
        subscriptions := c.subscriptions.set payload.machineID payload.detailOfState }
    | .unsubscribe payload =>
      { c with subscriptions := c.subscriptions.delete payload.machineID }
  else c

/-- The request that the loop awaits is settled, one way or the other. -/
def resume (c : SubscribedClient) (id : ℕ) : SubscribedClient :=
  { c with
    loop := c.loop.map fun loop =>
      if loop.awaiting = some id then { loop with awaiting := none } else loop }

/-- `_handleMessage`, of a reply. -/
def receive (c : SubscribedClient) (id : ℕ) (isSuccess : Bool) : SubscribedClient :=
  match c.pending.tryGetValue id with
  | none => c
  | some awaited =>
    let c := { c with pending := c.pending.remove id }
    if awaited.byLoop then c.resume id else c.settle awaited.request isSuccess

/-- The timer of a request. -/
def timeout (c : SubscribedClient) (id : ℕ) : SubscribedClient :=
  match c.pending.tryGetValue id with
  | none => c
  | some awaited =>
    let c := { c with pending := c.pending.remove id }
    if awaited.byLoop then c.resume id else c

/-- The next iteration of the loop, with the request that it sends. -/
def restore (c : SubscribedClient) : SubscribedClient × Option (ℕ × MachineRequest) :=
  match c.loop with
  | none => (c, none)
  | some loop =>
    match c.subscriptions.next loop.position with
    | none => ({ c with loop := none }, none)
    | some (machineID, stamp, detail) =>
      let request := MachineRequest.subscribe ⟨machineID, detail⟩
      ({ c.send request true with loop := some ⟨stamp + 1, some c.nextID⟩ },
        some (c.nextID, request))

/-- `_rejectAllPending`. An iteration that is under way comes to its end, as every further request
is rejected at once. -/
def close (c : SubscribedClient) (reconnecting : Bool) : SubscribedClient :=
  { c with pending := ∅, loop := none, reconnecting }

end SubscribedClient

/-! ### The server -/

/-- The result of an action, as its reply says it. -/
def succeeded {TPayload TResult : Type} (server : StateServer) (machineID : TPayload → String)
    (handler : Connect3DpWebSocketClient → TPayload → ServedMachine →
      Connect3DpWebSocketClient × TResult)
    (isSuccess : TResult → Bool) (clientID : String) (payload : TPayload) : Bool :=
  (server.clients.tryGetValue clientID).any fun connection =>
    (server.machineSpecificAction machineID handler connection payload).2.elim
      WebSocketClientActionResult.isSuccess isSuccess

/-- A request is handled. -/
def serve (server : StateServer) (clientID : String) : MachineRequest → StateServer × Bool
  | .subscribe payload =>
    (server.act SubscribeToMachinePayload.machineID Connect3DpWebSocketClient.subscribe clientID
        payload,
      succeeded server SubscribeToMachinePayload.machineID Connect3DpWebSocketClient.subscribe
        SubscribeActionResult.isSuccess clientID payload)
  | .unsubscribe payload =>
    (server.act UnsubscribeFromMachinePayload.machineID Connect3DpWebSocketClient.unsubscribe
        clientID payload,
      succeeded server UnsubscribeFromMachinePayload.machineID
        Connect3DpWebSocketClient.unsubscribe WebSocketClientActionResult.isSuccess clientID
        payload)

/-- An open connection. Requests and replies arrive in the order in which they were sent. -/
structure OpenConnection where
  /-- what the server calls the client on this connection -/
  clientID : String
  requests : List (ℕ × MachineRequest)
  replies : List (ℕ × Bool)

/-- A client and a server, with the connection between them. -/
structure SubscriptionSession where
  client : SubscribedClient
  connection : Option OpenConnection
  server : StateServer

namespace SubscriptionSession

inductive SessionEvent
  /-- `subscribe` or `unsubscribe` is called while the socket is open. -/
  | call (request : MachineRequest)
  | serve
  | receive
  | restore
  | timeout (id : ℕ)
  /-- The connection is lost. -/
  | closed
  | disconnect
  /-- `_reconnectLoop` has opened a socket. -/
  | reopened (clientID : String)
  /-- `connect()` has opened a socket. -/
  | connected (clientID : String)
  /-- Other clients act, machines come, go and change, the server sends broadcasts. -/
  | other

/-- The first connection is yet to be opened. -/
structure Initial (σ : SubscriptionSession) : Prop where
  subscriptions : ∀ m, σ.client.subscriptions.entry m = none
  pending : σ.client.pending = ∅
  connection : σ.connection = none

/-- A connection is opened, for which the server has a new client. -/
def opened (σ : SubscriptionSession) (client : SubscribedClient) (clientID : String) :
    SubscriptionSession :=
  ⟨{ client with reconnecting := false }, some ⟨clientID, [], []⟩, σ.server.connect clientID⟩

inductive Step (σ : SubscriptionSession) : SessionEvent → SubscriptionSession → Prop
  | call {l : OpenConnection} {request : MachineRequest} (hopen : σ.connection = some l) :
    Step σ (.call request) { σ with
      client := σ.client.send request false
      connection := some { l with requests := l.requests ++ [(σ.client.nextID, request)] } }
  | serve {l : OpenConnection} {id : ℕ} {request : MachineRequest}
    {requests : List (ℕ × MachineRequest)} (hopen : σ.connection = some l)
    (hnext : l.requests = (id, request) :: requests) :
    Step σ .serve { σ with
      connection := some { l with
        requests, replies := l.replies ++ [(id, (WebClient.serve σ.server l.clientID request).2)] }
      server := (WebClient.serve σ.server l.clientID request).1 }
  | receive {l : OpenConnection} {id : ℕ} {isSuccess : Bool} {replies : List (ℕ × Bool)}
    (hopen : σ.connection = some l) (hnext : l.replies = (id, isSuccess) :: replies) :
    Step σ .receive { σ with
      client := σ.client.receive id isSuccess
      connection := some { l with replies } }
  | restore {l : OpenConnection} {loop : RestoringLoop} (hopen : σ.connection = some l)
    (hloop : σ.client.loop = some loop) (hready : loop.awaiting = none) :
    Step σ .restore { σ with
      client := σ.client.restore.1
      connection := some { l with requests := l.requests ++ σ.client.restore.2.toList } }
  | timeout {id : ℕ} : Step σ (.timeout id) { σ with client := σ.client.timeout id }
  | closed {l : OpenConnection} {reconnecting : Bool} (hopen : σ.connection = some l) :
    Step σ .closed { σ with client := σ.client.close reconnecting, connection := none }
  | disconnect : Step σ .disconnect { σ with client := σ.client.close false, connection := none }
  | reopened {clientID : String} (hclosed : σ.connection = none)
    (hreconnecting : σ.client.reconnecting = true) :
    Step σ (.reopened clientID) (σ.opened { σ.client with loop := some ⟨0, none⟩ } clientID)
  | connected {clientID : String} (hclosed : σ.connection = none)
    (hreconnecting : σ.client.reconnecting = false) :
    Step σ (.connected clientID) (σ.opened { σ.client with loop := none } clientID)
  | other {server : StateServer}
    (hsame : ∀ l, σ.connection = some l →
      (server.clients.tryGetValue l.clientID).map Connect3DpWebSocketClient.machineSubscriptions =
        (σ.server.clients.tryGetValue l.clientID).map
          Connect3DpWebSocketClient.machineSubscriptions) :
    Step σ .other { σ with server }

end SubscriptionSession

/-! ### What the client will know -/

namespace SubscribedClient

variable {c : SubscribedClient} {m : String} {id i : ℕ} {isSuccess : Bool}
  {request : MachineRequest}

/-- The request about a machine whose caller awaits the reply to an id. -/
def callOf (c : SubscribedClient) (m : String) (id : ℕ) : Option MachineRequest :=
  (c.pending.tryGetValue id).bind (·.call m)

/-- What is known of a machine after a reply. -/
def learn (c : SubscribedClient) (m : String) (known : Option StateDetails) (reply : ℕ × Bool) :
    Option StateDetails :=
  match c.callOf m reply.1, reply.2 with
  | some request, true => request.outcome
  | _, _ => known

/-- What will be known of a machine when the replies have arrived. -/
def expected (c : SubscribedClient) (m : String) (replies : List (ℕ × Bool)) :
    Option StateDetails :=
  replies.foldl (c.learn m) (c.subscriptions.get m)

/-- The iteration has not come to the machine yet. -/
def Unvisited (c : SubscribedClient) (m : String) : Prop :=
  ∃ loop stamp detail, c.loop = some loop ∧ c.subscriptions.entry m = some (stamp, detail) ∧
    loop.position ≤ stamp

theorem callOf_of_pending {awaited : AwaitedRequest}
    (h : c.pending.tryGetValue id = some awaited) : c.callOf m id = awaited.call m := by
  rw [callOf, h, Option.bind_some]

theorem callOf_of_not_pending (h : c.pending.tryGetValue id = none) : c.callOf m id = none := by
  rw [callOf, h, Option.bind_none]

theorem machineID_of_callOf (h : c.callOf m id = some request) : request.machineID = m := by
  obtain ⟨awaited, -, hcall⟩ := Option.bind_eq_some_iff.mp h
  unfold AwaitedRequest.call at hcall
  split at hcall
  · rename_i hm
    rw [← Option.some.inj hcall, hm.2]
  · cases hcall

theorem callOf_send (byLoop : Bool) :
    (c.send request byLoop).callOf m i =
      if i = c.nextID then AwaitedRequest.call ⟨request, byLoop⟩ m else c.callOf m i := by
  rw [callOf, send, Dictionary.tryGetValue_set]
  split <;> rfl

theorem callOf_remove :
    ({ c with pending := c.pending.remove id } : SubscribedClient).callOf m i =
      if i = id then none else c.callOf m i := by
  rw [callOf, Dictionary.tryGetValue_remove]
  split <;> rfl

theorem learn_of_call {known : Option StateDetails} (hcall : c.callOf m id = some request) :
    c.learn m known (id, true) = request.outcome := by
  rw [learn, hcall]

theorem learn_of_quiet {known : Option StateDetails}
    (h : isSuccess = true → c.callOf m id = none) : c.learn m known (id, isSuccess) = known := by
  unfold learn
  split
  · rename_i request hcall hsuccess
    rw [h hsuccess] at hcall
    cases hcall
  · rfl

/-- Replies to requests that no caller awaits teach nothing. -/
theorem expected_eq_get {replies : List (ℕ × Bool)}
    (h : ∀ reply ∈ replies, reply.2 = true → c.callOf m reply.1 = none) :
    c.expected m replies = c.subscriptions.get m := by
  unfold expected
  generalize c.subscriptions.get m = known
  induction replies with
  | nil => rfl
  | cons reply replies ih =>
    rw [List.foldl_cons, learn_of_quiet (h reply List.mem_cons_self)]
    exact ih fun reply' hreply' => h reply' (List.mem_cons_of_mem reply hreply')

/-- What is expected depends on the calls that are replied to and on the subscription. -/
theorem expected_congr {c' : SubscribedClient} {replies : List (ℕ × Bool)}
    (hcalls : ∀ reply ∈ replies, c'.callOf m reply.1 = c.callOf m reply.1)
    (hget : c'.subscriptions.get m = c.subscriptions.get m) :
    c'.expected m replies = c.expected m replies := by
  unfold expected
  rw [hget]
  generalize c.subscriptions.get m = known
  induction replies generalizing known with
  | nil => rfl
  | cons reply replies ih =>
    have hlearn : c'.learn m known reply = c.learn m known reply := by
      rw [learn, learn, hcalls reply List.mem_cons_self]
    rw [List.foldl_cons, List.foldl_cons, hlearn]
    exact ih (fun reply' hreply' => hcalls reply' (List.mem_cons_of_mem reply hreply')) _

theorem expected_append (replies : List (ℕ × Bool)) (reply : ℕ × Bool) :
    c.expected m (replies ++ [reply]) = c.learn m (c.expected m replies) reply := by
  rw [expected, List.foldl_append]
  rfl

/-! ### What the client does -/

/-- An operation of the client leaves what it knows of a machine, and the iteration. -/
structure SameFor (m : String) (c c' : SubscribedClient) : Prop where
  entry : c'.subscriptions.entry m = c.subscriptions.entry m
  position : c'.loop.map RestoringLoop.position = c.loop.map RestoringLoop.position

theorem Unvisited.congr {c' : SubscribedClient} (h : c.Unvisited m) (hsame : SameFor m c c') :
    c'.Unvisited m := by
  obtain ⟨loop, stamp, detail, hloop, hentry, hle⟩ := h
  have hposition := hsame.position
  rw [hloop, Option.map_some, Option.map_eq_some_iff] at hposition
  obtain ⟨loop', hloop', heq⟩ := hposition
  exact ⟨loop', stamp, detail, hloop', hsame.entry.trans hentry, heq.trans_le hle⟩

theorem SameFor.get {c' : SubscribedClient} (h : SameFor m c c') :
    c'.subscriptions.get m = c.subscriptions.get m := by
  rw [LiveMap.get, h.entry, LiveMap.get]

theorem sameFor_resume (c : SubscribedClient) (m : String) (id : ℕ) :
    SameFor m c (c.resume id) where
  entry := rfl
  position := by
    rw [resume, Option.map_map]
    refine congrArg (fun f => Option.map f c.loop) (funext fun loop => ?_)
    change (if _ then _ else _ : RestoringLoop).position = _
    split <;> rfl

theorem sameFor_settle (hne : request.machineID ≠ m) :
    SameFor m c (c.settle request isSuccess) := by
  unfold settle
  split
  · cases request with
    | subscribe payload => exact ⟨LiveMap.entry_set_of_ne (Ne.symm hne), rfl⟩
    | unsubscribe payload =>
      exact ⟨(LiveMap.entry_delete _ _ _).trans (if_neg (Ne.symm hne)), rfl⟩
  · exact ⟨rfl, rfl⟩

theorem get_settle (heq : request.machineID = m) :
    (c.settle request true).subscriptions.get m = request.outcome := by
  subst heq
  cases request with
  | subscribe payload => exact (LiveMap.get_set ..).trans (if_pos rfl)
  | unsubscribe payload => exact (LiveMap.get_delete ..).trans (if_pos rfl)

theorem nextID_settle : (c.settle request isSuccess).nextID = c.nextID := by
  unfold settle
  split
  · cases request <;> rfl
  · rfl

theorem pending_settle : (c.settle request isSuccess).pending = c.pending := by
  unfold settle
  split
  · cases request <;> rfl
  · rfl

theorem nextID_receive : (c.receive id isSuccess).nextID = c.nextID := by
  unfold receive
  split
  · rfl
  · dsimp only
    split
    · rfl
    · exact nextID_settle

/-- **What a reply does.** -/
theorem receive_spec (c : SubscribedClient) (m : String) (id : ℕ) (isSuccess : Bool) :
    (∀ i, (c.receive id isSuccess).callOf m i = if i = id then none else c.callOf m i) ∧
    (∀ i, i ≠ id → (c.receive id isSuccess).pending.tryGetValue i = c.pending.tryGetValue i) ∧
    (c.receive id isSuccess).subscriptions.get m =
      c.learn m (c.subscriptions.get m) (id, isSuccess) ∧
    ((isSuccess = true → c.callOf m id = none) → SameFor m c (c.receive id isSuccess)) := by
  cases hpending : c.pending.tryGetValue id with
  | none =>
    have hreceive : c.receive id isSuccess = c := by
      rw [receive, hpending]
    have hcall : c.callOf m id = none := callOf_of_not_pending hpending
    rw [hreceive]
    refine ⟨fun i => ?_, fun _ _ => rfl, ?_, fun _ => ⟨rfl, rfl⟩⟩
    · split
      · rename_i hi
        rw [hi, hcall]
      · rfl
    · rw [learn, hcall]
  | some awaited =>
    have hother : ∀ i, i ≠ id → (c.pending.remove id).tryGetValue i = c.pending.tryGetValue i :=
      fun i hi => (Dictionary.tryGetValue_remove ..).trans (if_neg hi)
    let removed : SubscribedClient := { c with pending := c.pending.remove id }
    cases hloop : awaited.byLoop with
    | true =>
      have hreceive : c.receive id isSuccess = removed.resume id := by
        rw [receive, hpending]
        exact if_pos hloop
      have hcall : c.callOf m id = none := by
        rw [callOf_of_pending hpending, AwaitedRequest.call, hloop]
        exact if_neg fun h => Bool.noConfusion h.1
      rw [hreceive]
      have hsame := sameFor_resume removed m id
      refine ⟨fun i => callOf_remove, hother, ?_, fun _ => ⟨hsame.entry, hsame.position⟩⟩
      rw [learn, hcall]
      rfl
    | false =>
      have hreceive : c.receive id isSuccess = removed.settle awaited.request isSuccess := by
        rw [receive, hpending]
        exact if_neg (by simp [hloop])
      have hcall : c.callOf m id =
          if awaited.request.machineID = m then some awaited.request else none := by
        rw [callOf_of_pending hpending, AwaitedRequest.call, hloop]
        simp
      rw [hreceive]
      refine ⟨fun i => ?_, fun i hi => ?_, ?_, fun hquiet => ?_⟩
      · rw [callOf, pending_settle]
        exact callOf_remove
      · rw [pending_settle]
        exact hother i hi
      · rw [learn, hcall]
        by_cases hm : awaited.request.machineID = m
        · rw [if_pos hm]
          cases isSuccess with
          | true => exact get_settle hm
          | false => rfl
        · rw [if_neg hm]
          exact (sameFor_settle hm).get
      · by_cases hm : awaited.request.machineID = m
        · cases isSuccess with
          | true =>
            rw [if_pos hm] at hcall
            rw [hquiet rfl] at hcall
            cases hcall
          | false => exact ⟨rfl, rfl⟩
        · have hsame : SameFor m removed (removed.settle awaited.request isSuccess) :=
            sameFor_settle hm
          exact ⟨hsame.entry, hsame.position⟩

/-- **What a timer does**, if it is not that of a call about the machine. -/
theorem timeout_spec (c : SubscribedClient) (m : String) (id : ℕ) (hcall : c.callOf m id = none) :
    (∀ i, (c.timeout id).callOf m i = c.callOf m i) ∧
    (∀ i awaited, (c.timeout id).pending.tryGetValue i = some awaited →
      c.pending.tryGetValue i = some awaited) ∧
    (c.timeout id).nextID = c.nextID ∧ SameFor m c (c.timeout id) := by
  unfold timeout
  cases hpending : c.pending.tryGetValue id with
  | none => exact ⟨fun _ => rfl, fun _ _ h => h, rfl, rfl, rfl⟩
  | some awaited =>
    have hremoved : ∀ i, ({ c with pending := c.pending.remove id } : SubscribedClient).callOf m i =
        c.callOf m i := by
      intro i
      rw [callOf_remove]
      split
      · rename_i hi
        rw [hi, hcall]
      · rfl
    have hpendings : ∀ i awaited, (c.pending.remove id).tryGetValue i = some awaited →
        c.pending.tryGetValue i = some awaited := by
      intro i awaited' h
      rw [Dictionary.tryGetValue_remove] at h
      split at h
      · cases h
      · exact h
    dsimp only
    split
    · have hsame := sameFor_resume { c with pending := c.pending.remove id } m id
      exact ⟨hremoved, hpendings, rfl, hsame.entry, hsame.position⟩
    · exact ⟨hremoved, hpendings, rfl, rfl, rfl⟩

end SubscribedClient

/-! ### What the server does -/

section Server

variable {server : StateServer} {clientID m : String} {c : Connect3DpWebSocketClient}
  {request : MachineRequest}

/-- The detail that the server has for a client and a machine. -/
def detailOf (server : StateServer) (clientID m : String) : Option StateDetails :=
  (server.clients.tryGetValue clientID).bind fun c => c.detail m

/-- The client is connected, and not subscribed to a machine with its own id. -/
def IsConnected (server : StateServer) (clientID : String) : Prop :=
  detailOf server clientID clientID = none ∧
    (server.clients.tryGetValue clientID).isSome = true

/-- The subscription after a request for a machine that is there. One that is there keeps its
detail. -/
def MachineRequest.served (request : MachineRequest) (old : Option StateDetails) :
    Option StateDetails :=
  match request with
  | .subscribe payload => old.or (some payload.detailOfState)
  | .unsubscribe _ => none

theorem act_of_not_found {TPayload TResult : Type} {machineID : TPayload → String}
    {handler : Connect3DpWebSocketClient → TPayload → ServedMachine →
      Connect3DpWebSocketClient × TResult} {payload : TPayload}
    (hclient : server.clients.tryGetValue clientID = some c)
    (hmachine : server.connections.tryGetValue (machineID payload) = none) :
    server.act machineID handler clientID payload = server.setClient c := by
  simp only [StateServer.act, hclient, StateServer.machineSpecificAction, hmachine]

theorem succeeded_eq {TPayload TResult : Type} {machineID : TPayload → String}
    {handler : Connect3DpWebSocketClient → TPayload → ServedMachine →
      Connect3DpWebSocketClient × TResult} {isSuccess : TResult → Bool} {payload : TPayload}
    (hclient : server.clients.tryGetValue clientID = some c)
    (hhandler : ∀ machine, isSuccess (handler c payload machine).2 = true) :
    succeeded server machineID handler isSuccess clientID payload =
      server.connections.containsKey (machineID payload) := by
  simp only [succeeded, hclient, Option.any_some, StateServer.machineSpecificAction]
  cases hmachine : server.connections.tryGetValue (machineID payload) with
  | none => simp [Dictionary.containsKey, hmachine, WebSocketClientActionResult.failure]
  | some machine => simp [Dictionary.containsKey, hmachine, hhandler machine]

theorem detailOf_setClient (hclient : server.clients.tryGetValue clientID = some c)
    {c' : Connect3DpWebSocketClient} (hid : c'.id = c.id) :
    detailOf (server.setClient c') clientID m = c'.detail m := by
  have hkey : clientID = c'.id := by rw [hid, server.id_client hclient]
  rw [detailOf, StateServer.tryGetValue_setClient, if_pos hkey, Option.bind_some]

/-- A handler that leaves the id of the client, and its subscriptions to other machines. -/
theorem detailOf_act {TPayload TResult : Type} {machineID : TPayload → String}
    {handler : Connect3DpWebSocketClient → TPayload → ServedMachine →
      Connect3DpWebSocketClient × TResult} {payload : TPayload}
    (hclient : server.clients.tryGetValue clientID = some c)
    (hid : ∀ machine, (handler c payload machine).1.id = c.id)
    {served : Option StateDetails → Option StateDetails}
    (hserved : ∀ machine, machine.id = machineID payload →
      (handler c payload machine).1.detail m =
        if m = machineID payload then served (c.detail m) else c.detail m) :
    ((server.act machineID handler clientID payload).clients.tryGetValue clientID).isSome = true ∧
    detailOf (server.act machineID handler clientID payload) clientID m =
      if m = machineID payload ∧ server.connections.containsKey (machineID payload) = true then
        served (c.detail m)
      else c.detail m := by
  have hcid : c.id = clientID := server.id_client hclient
  cases hmachine : server.connections.tryGetValue (machineID payload) with
  | none =>
    have hkey : server.connections.containsKey (machineID payload) = false :=
      Dictionary.containsKey_eq_false_iff.mpr hmachine
    rw [act_of_not_found hclient hmachine, detailOf_setClient hclient rfl, hkey,
      if_neg fun h => Bool.noConfusion h.2, StateServer.tryGetValue_setClient, if_pos hcid.symm]
    exact ⟨rfl, rfl⟩
  | some machine =>
    have hkey : server.connections.containsKey (machineID payload) = true :=
      Dictionary.containsKey_iff.mpr ⟨machine, hmachine⟩
    have hself : clientID = (handler c payload machine).1.id := by rw [hid, hcid]
    rw [StateServer.act_eq hclient hmachine, detailOf_setClient hclient (hid machine), hkey,
      StateServer.tryGetValue_setClient, if_pos hself, hserved machine (server.id_machine hmachine)]
    refine ⟨rfl, ?_⟩
    by_cases hm : m = machineID payload
    · rw [if_pos hm, if_pos ⟨hm, rfl⟩]
    · rw [if_neg hm, if_neg fun h => hm h.1]

/-- **What a request does**: it succeeds if the machine is there, and changes the subscription to
this machine alone. -/
theorem serve_spec (hconnected : IsConnected server clientID) (hne : request.machineID ≠ clientID) :
    (serve server clientID request).2 = server.connections.containsKey request.machineID ∧
    IsConnected (serve server clientID request).1 clientID ∧
    detailOf (serve server clientID request).1 clientID m =
      if m = request.machineID ∧ server.connections.containsKey request.machineID = true then
        request.served (detailOf server clientID m)
      else detailOf server clientID m := by
  obtain ⟨hown, hsome⟩ := hconnected
  obtain ⟨c, hclient⟩ := Option.isSome_iff_exists.mp hsome
  have hid : c.id = clientID := server.id_client hclient
  have hdetail : ∀ m, detailOf server clientID m = c.detail m := fun m => by
    rw [detailOf, hclient, Option.bind_some]
  have hnot : c.machineSubscriptions.containsKey c.id = false := by
    rw [← StateServer.detail_eq_none_iff, hid, ← hdetail]
    exact hown
  have hspec : ∀ m, ((serve server clientID request).1.clients.tryGetValue clientID).isSome =
      true ∧ detailOf (serve server clientID request).1 clientID m =
        if m = request.machineID ∧ server.connections.containsKey request.machineID = true then
          request.served (c.detail m)
        else c.detail m := by
    intro m
    cases request with
    | subscribe payload =>
      refine detailOf_act hclient (fun _ => rfl) fun machine hmachine => ?_
      rw [StateServer.detail_subscribe, hnot, if_neg Bool.false_ne_true, hmachine]
      by_cases hm : m = payload.machineID
      · subst hm
        rw [if_pos rfl, if_pos rfl, MachineRequest.served]
        cases hold : c.detail payload.machineID with
        | none =>
          rw [StateServer.detail_eq_none_iff.mp hold, if_neg Bool.false_ne_true]
          rfl
        | some d =>
          have hkey : c.machineSubscriptions.containsKey payload.machineID = true := by
            by_contra hkey
            rw [StateServer.detail_eq_none_iff.mpr (Bool.eq_false_of_not_eq_true hkey)] at hold
            cases hold
          rw [if_pos hkey]
          rfl
      · rw [if_neg hm, if_neg hm, ite_self]
    | unsubscribe payload =>
      refine detailOf_act hclient (fun _ => rfl) fun machine _ => ?_
      rw [StateServer.detail_unsubscribe, Function.update_apply]
      rfl
  refine ⟨?_, ⟨?_, (hspec m).1⟩, ?_⟩
  · cases request with
    | subscribe payload =>
      refine succeeded_eq hclient fun machine => ?_
      simp only [SubscribeActionResult.isSuccess, Connect3DpWebSocketClient.subscribe]
      split
      · rfl
      · split <;> rfl
    | unsubscribe payload => exact succeeded_eq hclient fun _ => rfl
  · rw [(hspec clientID).2, if_neg fun h => hne h.1.symm, ← hdetail]
    exact hown
  · rw [(hspec m).2, hdetail]

theorem isConnected_connect (server : StateServer) (clientID : String) :
    IsConnected (server.connect clientID) clientID ∧
      ∀ m, detailOf (server.connect clientID) clientID m = none := by
  have hclient : (server.connect clientID).clients.tryGetValue clientID =
      some ⟨clientID, true, [], ∅⟩ :=
    (StateServer.tryGetValue_setClient ..).trans (if_pos rfl)
  have hdetail : ∀ m, detailOf (server.connect clientID) clientID m = none := by
    intro m
    rw [detailOf, hclient]
    rfl
  exact ⟨⟨hdetail clientID, by rw [hclient]; rfl⟩, hdetail⟩

/-- What the server has for a client depends on the client's subscriptions. -/
theorem detailOf_congr {server' : StateServer}
    (h : (server'.clients.tryGetValue clientID).map
        Connect3DpWebSocketClient.machineSubscriptions =
      (server.clients.tryGetValue clientID).map Connect3DpWebSocketClient.machineSubscriptions) :
    (∀ m, detailOf server' clientID m = detailOf server clientID m) ∧
      (IsConnected server clientID → IsConnected server' clientID) := by
  have hdetail : ∀ m, detailOf server' clientID m = detailOf server clientID m := by
    intro m
    have hbind : ∀ s : StateServer, detailOf s clientID m =
        ((s.clients.tryGetValue clientID).map
          Connect3DpWebSocketClient.machineSubscriptions).bind fun subscriptions =>
            (subscriptions.tryGetValue m).map MachineSubscription.detailOfState := by
      intro s
      rw [Option.bind_map]
      rfl
    rw [hbind, hbind, h]
  refine ⟨hdetail, fun hconnected => ⟨(hdetail clientID).trans hconnected.1, ?_⟩⟩
  rw [← Option.isSome_map, h, Option.isSome_map]
  exact hconnected.2

end Server

/-! ### The invariant -/

/-- No caller awaits a reply about the machine, but the loop may have asked for it. -/
def IsRestoring (c : SubscribedClient) (m : String) (x : ℕ × MachineRequest) : Prop :=
  x.2.machineID = m ∧ c.callOf m x.1 = none

/-- The server has no subscription to the machine, and none is being replied to: it has yet to be
restored. -/
structure Missing (m : String) (c : SubscribedClient) (l : OpenConnection) (server : StateServer) :
    Prop where
  detail : detailOf server l.clientID m = none
  quiet : ∀ reply ∈ l.replies, reply.2 = true → c.callOf m reply.1 = none
  toRestore : c.Unvisited m ∨ ∃ x ∈ l.requests, IsRestoring c m x

/-- How the two sides of an open connection are related. -/
structure Linked (m : String) (c : SubscribedClient) (l : OpenConnection) (server : StateServer) :
    Prop where
  fresh : ∀ id ∈ l.requests.map Prod.fst ++ l.replies.map Prod.fst, id < c.nextID
  uncalled : ∀ id, c.nextID ≤ id → c.callOf m id = none
  nodup : (l.requests.map Prod.fst ++ l.replies.map Prod.fst).Nodup
  calls : ∀ x ∈ l.requests, ∀ request, c.callOf m x.1 = some request → request = x.2
  restoring : ∀ x ∈ l.requests, IsRestoring c m x →
    (∀ reply ∈ l.replies, c.callOf m reply.1 = none) ∧
    ∃ detail, x.2 = .subscribe ⟨m, detail⟩ ∧ c.subscriptions.get m = some detail
  /-- a caller's request about the machine is not before one of the loop -/
  ordered : l.requests.Pairwise fun x y => IsRestoring c m y → c.callOf m x.1 = none
  connected : IsConnected server l.clientID
  agrees : c.expected m l.replies = detailOf server l.clientID m ∨ Missing m c l server

namespace SubscriptionSession

variable {m : String} {σ σ' : SubscriptionSession} {e : SessionEvent}

structure Tracks (m : String) (σ : SubscriptionSession) : Prop where
  closed : σ.connection = none → σ.client.pending = ∅
  linked : ∀ l, σ.connection = some l → Linked m σ.client l σ.server

/-- What an event has to meet, for one machine. The server handles a request of a caller to
subscribe only if it has the detail already or none, and a request of the loop only if the machine
is there; no request is for a machine that has the client's own id. The loop gets to the machine
while no caller awaits a reply about it, and no such caller's timer runs out. And `connect()`, which
restores nothing, opens a socket only if there is nothing to restore. -/
def Keeps (m : String) (σ : SubscriptionSession) : SessionEvent → Prop
  | .serve => ∀ l id request requests, σ.connection = some l →
    l.requests = (id, request) :: requests → request.machineID ≠ l.clientID ∧
      (request.machineID = m →
        (σ.client.callOf m id = none → σ.server.connections.containsKey m = true) ∧
        ∀ payload, σ.client.callOf m id = some (.subscribe payload) →
          detailOf σ.server l.clientID m = none ∨
            detailOf σ.server l.clientID m = some payload.detailOfState)
  | .restore => ∀ loop stamp detail, σ.client.loop = some loop →
    σ.client.subscriptions.next loop.position = some (m, stamp, detail) →
      ∀ id, σ.client.callOf m id = none
  | .timeout id => σ.client.callOf m id = none
  | .connected _ => σ.client.subscriptions.get m = none
  | _ => True

end SubscriptionSession

/-! ### What each step preserves -/

namespace Linked

variable {m : String} {c : SubscribedClient} {l : OpenConnection} {server : StateServer}

/-- A new connection, on which the loop is to visit every machine that is known. -/
theorem connect (hpending : ∀ id, c.callOf m id = none) (clientID : String)
    (hloop : c.subscriptions.get m = none ∨ ∃ awaiting, c.loop = some ⟨0, awaiting⟩) :
    Linked m c ⟨clientID, [], []⟩ (server.connect clientID) where
  fresh _ hid := by cases hid
  uncalled id _ := hpending id
  nodup := List.nodup_nil
  calls _ hx := by cases hx
  restoring _ hx := by cases hx
  ordered := .nil
  connected := (isConnected_connect server clientID).1
  agrees := by
    have hdetail := (isConnected_connect server clientID).2 m
    rw [hdetail]
    cases hget : c.subscriptions.get m with
    | none => exact .inl hget
    | some detail =>
      obtain hnone | ⟨awaiting, hloop⟩ := hloop
      · rw [hnone] at hget
        cases hget
      · obtain ⟨stamp, hentry⟩ := LiveMap.entry_of_get hget
        refine .inr ⟨hdetail, fun _ hreply => (by cases hreply), .inl ?_⟩
        exact ⟨_, stamp, detail, hloop, hentry, Nat.zero_le _⟩

/-- Others act on the server. -/
theorem other (h : Linked m c l server) {server' : StateServer}
    (hsame : (server'.clients.tryGetValue l.clientID).map
        Connect3DpWebSocketClient.machineSubscriptions =
      (server.clients.tryGetValue l.clientID).map
        Connect3DpWebSocketClient.machineSubscriptions) : Linked m c l server' := by
  obtain ⟨hdetail, hconnected⟩ := detailOf_congr hsame
  refine ⟨h.fresh, h.uncalled, h.nodup, h.calls, h.restoring, h.ordered, hconnected h.connected, ?_⟩
  obtain hagrees | hmissing := h.agrees
  · exact .inl (hagrees.trans (hdetail m).symm)
  · exact .inr ⟨(hdetail m).trans hmissing.detail, hmissing.quiet, hmissing.toRestore⟩

/-- The timer of a request runs out that is not a caller's about the machine. -/
theorem timeout (h : Linked m c l server) {id : ℕ} (hcall : c.callOf m id = none) :
    Linked m (c.timeout id) l server := by
  obtain ⟨hcalls, -, hnext, hsame⟩ := c.timeout_spec m id hcall
  have hrestoring : ∀ x, IsRestoring (c.timeout id) m x ↔ IsRestoring c m x := fun x => by
    rw [IsRestoring, hcalls, IsRestoring]
  refine ⟨?_, ?_, h.nodup, ?_, ?_, ?_, h.connected, ?_⟩
  · rw [hnext]
    exact h.fresh
  · intro i hi
    rw [hcalls]
    exact h.uncalled i (hnext ▸ hi)
  · intro x hx request
    rw [hcalls]
    exact h.calls x hx request
  · intro x hx hx'
    rw [hsame.get]
    simp only [hcalls]
    exact h.restoring x hx ((hrestoring x).mp hx')
  · simp only [hrestoring, hcalls]
    exact h.ordered
  · rw [SubscribedClient.expected_congr (fun reply _ => hcalls reply.1) hsame.get]
    refine h.agrees.imp_right fun hmissing => ⟨hmissing.detail, ?_, ?_⟩
    · simp only [hcalls]
      exact hmissing.quiet
    · simp only [hrestoring]
      exact hmissing.toRestore.imp_left fun hunvisited => hunvisited.congr hsame

/-- The ids that are under way when a request is sent. -/
theorem ids_send (h : Linked m c l server) (request : MachineRequest) :
    (∀ id ∈ (l.requests ++ [(c.nextID, request)]).map Prod.fst ++ l.replies.map Prod.fst,
      id < c.nextID + 1) ∧
    ((l.requests ++ [(c.nextID, request)]).map Prod.fst ++ l.replies.map Prod.fst).Nodup := by
  have hperm : ((l.requests ++ [(c.nextID, request)]).map Prod.fst ++
      l.replies.map Prod.fst).Perm
      (c.nextID :: (l.requests.map Prod.fst ++ l.replies.map Prod.fst)) := by
    rw [List.map_append, List.map_singleton, List.append_assoc, List.singleton_append]
    exact List.perm_middle
  refine ⟨fun id hid => ?_, hperm.nodup_iff.mpr (List.nodup_cons.mpr ⟨fun hmem => ?_, h.nodup⟩)⟩
  · obtain rfl | hold := List.mem_cons.mp (hperm.mem_iff.mp hid)
    · exact Nat.lt_succ_self _
    · exact Nat.lt_succ_of_lt (h.fresh id hold)
  · exact absurd (h.fresh _ hmem) (lt_irrefl _)

/-- A caller sends a request. -/
theorem call (h : Linked m c l server) (request : MachineRequest) :
    Linked m (c.send request false)
      { l with requests := l.requests ++ [(c.nextID, request)] } server := by
  obtain ⟨hfresh, hnodup⟩ := h.ids_send request
  have hcalls : ∀ i, i ≠ c.nextID → (c.send request false).callOf m i = c.callOf m i :=
    fun i hi => (SubscribedClient.callOf_send false).trans (if_neg hi)
  have hold : ∀ x ∈ l.requests, x.1 ≠ c.nextID := fun x hx =>
    (h.fresh x.1 (List.mem_append_left _ (List.mem_map_of_mem hx))).ne
  have hreplies : ∀ reply ∈ l.replies, reply.1 ≠ c.nextID := fun reply hreply =>
    (h.fresh reply.1 (List.mem_append_right _ (List.mem_map_of_mem hreply))).ne
  have hnew : (c.send request false).callOf m c.nextID =
      if request.machineID = m then some request else none := by
    rw [SubscribedClient.callOf_send, if_pos rfl, AwaitedRequest.call]
    simp
  -- What a caller has asked for is no request of the loop.
  have hnot : ¬ IsRestoring (c.send request false) m (c.nextID, request) := by
    rintro ⟨hmachine, hnone⟩
    rw [hnew, if_pos hmachine] at hnone
    cases hnone
  have hrestoring : ∀ x ∈ l.requests, IsRestoring (c.send request false) m x ↔
      IsRestoring c m x := fun x hx => by
    rw [IsRestoring, hcalls x.1 (hold x hx), IsRestoring]
  have hexpected : (c.send request false).expected m l.replies = c.expected m l.replies :=
    SubscribedClient.expected_congr (fun reply hreply => hcalls _ (hreplies reply hreply)) rfl
  refine ⟨hfresh, fun id hid => ?_, hnodup, ?_, ?_, ?_, h.connected, ?_⟩
  · rw [hcalls id (Nat.ne_of_gt hid)]
    exact h.uncalled id (Nat.le_of_succ_le hid)
  · intro x hx r hr
    obtain hx | hx := List.mem_append.mp hx
    · rw [hcalls x.1 (hold x hx)] at hr
      exact h.calls x hx r hr
    · obtain rfl := List.mem_singleton.mp hx
      rw [hnew] at hr
      split at hr
      · exact (Option.some.inj hr).symm
      · cases hr
  · intro x hx hx'
    obtain hx | hx := List.mem_append.mp hx
    · obtain ⟨hquiet, hdetail⟩ := h.restoring x hx ((hrestoring x hx).mp hx')
      refine ⟨fun reply hreply => ?_, hdetail⟩
      rw [hcalls _ (hreplies reply hreply)]
      exact hquiet reply hreply
    · obtain rfl := List.mem_singleton.mp hx
      exact absurd hx' hnot
  · refine List.pairwise_append.mpr ⟨?_, List.pairwise_singleton _ _, ?_⟩
    · refine h.ordered.imp_of_mem fun {x y} hx hy hxy hy' => ?_
      rw [hcalls _ (hold x hx)]
      exact hxy ((hrestoring y hy).mp hy')
    · intro x _ y hy hy'
      obtain rfl := List.mem_singleton.mp hy
      exact absurd hy' hnot
  · rw [hexpected]
    refine h.agrees.imp_right fun hmissing => ⟨hmissing.detail, fun reply hreply hsuccess => ?_, ?_⟩
    · rw [hcalls _ (hreplies reply hreply)]
      exact hmissing.quiet reply hreply hsuccess
    · refine hmissing.toRestore.imp_right ?_
      rintro ⟨x, hx, hx'⟩
      exact ⟨x, List.mem_append_left _ hx, (hrestoring x hx).mpr hx'⟩

/-- The loop goes on, and gets to the machine while no caller awaits a reply about it. -/
theorem restore (h : Linked m c l server) {loop : RestoringLoop} (hloop : c.loop = some loop)
    (hkeeps : ∀ stamp detail, c.subscriptions.next loop.position = some (m, stamp, detail) →
      ∀ id, c.callOf m id = none) :
    Linked m c.restore.1 { l with requests := l.requests ++ c.restore.2.toList } server := by
  unfold SubscribedClient.restore
  rw [hloop]
  dsimp only
  cases hnext : c.subscriptions.next loop.position with
  | none =>
    -- Every machine has been visited.
    have hvisited : ¬ c.Unvisited m := by
      rintro ⟨loop', stamp, detail, hloop', hentry, hle⟩
      rw [hloop] at hloop'
      cases hloop'
      exact absurd (LiveMap.lt_of_next_eq_none hnext hentry) (not_lt.mpr hle)
    simp only [Option.toList_none, List.append_nil]
    refine ⟨h.fresh, h.uncalled, h.nodup, h.calls, h.restoring, h.ordered, h.connected, ?_⟩
    refine h.agrees.imp_right fun hmissing => ⟨hmissing.detail, hmissing.quiet, .inr ?_⟩
    exact hmissing.toRestore.resolve_left hvisited
  | some visited =>
    obtain ⟨k, stamp, detail⟩ := visited
    obtain ⟨hentry, hposition, hothers⟩ := LiveMap.of_next_eq_some hnext
    let request := MachineRequest.subscribe ⟨k, detail⟩
    let c' : SubscribedClient :=
      { c.send request true with loop := some ⟨stamp + 1, some c.nextID⟩ }
    change Linked m c' { l with requests := l.requests ++ [(c.nextID, request)] } server
    obtain ⟨hfresh, hnodup⟩ := h.ids_send request
    -- The request is no caller's.
    have hcalls : ∀ i, c'.callOf m i = c.callOf m i := by
      intro i
      have hsend : c'.callOf m i = _ := SubscribedClient.callOf_send true
      rw [hsend]
      split
      · rename_i hi
        rw [hi, h.uncalled _ le_rfl, AwaitedRequest.call]
        exact if_neg fun h => Bool.noConfusion h.1
      · rfl
    have hrestoring : ∀ x, IsRestoring c' m x ↔ IsRestoring c m x := fun x => by
      rw [IsRestoring, hcalls, IsRestoring]
    refine ⟨hfresh, fun id hid => ?_, hnodup, ?_, ?_, ?_, h.connected, ?_⟩
    · rw [hcalls]
      exact h.uncalled id (Nat.le_of_succ_le hid)
    · intro x hx r hr
      rw [hcalls] at hr
      obtain hx | hx := List.mem_append.mp hx
      · exact h.calls x hx r hr
      · obtain rfl := List.mem_singleton.mp hx
        rw [h.uncalled _ le_rfl] at hr
        cases hr
    · intro x hx hx'
      simp only [hcalls]
      obtain hx | hx := List.mem_append.mp hx
      · exact h.restoring x hx ((hrestoring x).mp hx')
      · obtain rfl := List.mem_singleton.mp hx
        obtain rfl : k = m := hx'.1
        refine ⟨fun reply _ => hkeeps stamp detail hnext reply.1, detail, rfl, ?_⟩
        exact congrArg (Option.map Prod.snd) hentry
    · simp only [hrestoring, hcalls]
      refine List.pairwise_append.mpr ⟨h.ordered, List.pairwise_singleton _ _, ?_⟩
      intro x _ y hy hy'
      obtain rfl := List.mem_singleton.mp hy
      obtain rfl : k = m := hy'.1
      exact hkeeps stamp detail hnext x.1
    · rw [SubscribedClient.expected_congr (fun reply _ => hcalls reply.1) rfl]
      refine h.agrees.imp_right fun hmissing => ⟨hmissing.detail, ?_, ?_⟩
      · simp only [hcalls]
        exact hmissing.quiet
      · simp only [hrestoring]
        obtain ⟨loop', stamp', detail', hloop', hentry', hle⟩ | ⟨x, hx, hx'⟩ := hmissing.toRestore
        · by_cases hk : k = m
          · subst hk
            exact .inr ⟨_, List.mem_append_right _ (List.mem_singleton.mpr rfl), rfl,
              h.uncalled _ le_rfl⟩
          · rw [hloop] at hloop'
            cases hloop'
            have hlater : stamp < stamp' := hothers m _ hentry' hle (Ne.symm hk)
            exact .inl ⟨_, stamp', detail', rfl, hentry', hlater⟩
        · exact .inr ⟨x, List.mem_append_left _ hx, hx'⟩

/-- A reply arrives. -/
theorem receive (h : Linked m c l server) {id : ℕ} {isSuccess : Bool}
    {replies : List (ℕ × Bool)} (hnext : l.replies = (id, isSuccess) :: replies) :
    Linked m (c.receive id isSuccess) { l with replies } server := by
  obtain ⟨hcalls, -, hget, hsame⟩ := c.receive_spec m id isSuccess
  have hperm : (l.requests.map Prod.fst ++ l.replies.map Prod.fst).Perm
      (id :: (l.requests.map Prod.fst ++ replies.map Prod.fst)) := by
    rw [hnext, List.map_cons]
    exact List.perm_middle
  obtain ⟨hnew, hnodup⟩ := List.nodup_cons.mp (hperm.nodup_iff.mp h.nodup)
  have hrequests : ∀ x ∈ l.requests, (c.receive id isSuccess).callOf m x.1 = c.callOf m x.1 :=
    fun x hx => (hcalls x.1).trans (if_neg fun heq : x.1 = id =>
      hnew (List.mem_append_left _ (heq ▸ List.mem_map_of_mem hx)))
  have hreplies : ∀ reply ∈ replies,
      (c.receive id isSuccess).callOf m reply.1 = c.callOf m reply.1 :=
    fun reply hreply => (hcalls reply.1).trans (if_neg fun heq : reply.1 = id =>
      hnew (List.mem_append_right _ (heq ▸ List.mem_map_of_mem hreply)))
  have hrestoring : ∀ x ∈ l.requests, IsRestoring (c.receive id isSuccess) m x ↔
      IsRestoring c m x := fun x hx => by
    rw [IsRestoring, hrequests x hx, IsRestoring]
  have hmem : ∀ reply ∈ replies, reply ∈ l.replies := fun reply hreply => by
    rw [hnext]
    exact List.mem_cons_of_mem _ hreply
  have hhead : (id, isSuccess) ∈ l.replies := by
    rw [hnext]
    exact List.mem_cons_self
  have hexpected : (c.receive id isSuccess).expected m replies = c.expected m l.replies := by
    rw [hnext, SubscribedClient.expected, SubscribedClient.expected, List.foldl_cons, hget]
    refine List.foldl_ext _ _ _ fun known reply hreply => ?_
    rw [SubscribedClient.learn, SubscribedClient.learn, hreplies reply hreply]
  refine ⟨fun i hi => ?_, fun i hi => ?_, hnodup, ?_, ?_, ?_, h.connected, ?_⟩
  · rw [SubscribedClient.nextID_receive]
    exact h.fresh i (hperm.mem_iff.mpr (List.mem_cons_of_mem _ hi))
  · rw [SubscribedClient.nextID_receive] at hi
    rw [hcalls, h.uncalled i hi, ite_self]
  · intro x hx r hr
    rw [hrequests x hx] at hr
    exact h.calls x hx r hr
  · intro x hx hx'
    obtain ⟨hquiet, detail, hrequest, hdetail⟩ := h.restoring x hx ((hrestoring x hx).mp hx')
    refine ⟨fun reply hreply => ?_, detail, hrequest, ?_⟩
    · rw [hreplies reply hreply]
      exact hquiet reply (hmem reply hreply)
    · rw [(hsame fun _ => hquiet _ hhead).get]
      exact hdetail
  · refine h.ordered.imp_of_mem fun {x y} hx hy hxy hy' => ?_
    rw [hrequests x hx]
    exact hxy ((hrestoring y hy).mp hy')
  · rw [hexpected]
    refine h.agrees.imp_right fun hmissing => ⟨hmissing.detail, fun reply hreply hsuccess => ?_, ?_⟩
    · rw [hreplies reply hreply]
      exact hmissing.quiet reply (hmem reply hreply) hsuccess
    · refine hmissing.toRestore.imp ?_ ?_
      · exact fun hunvisited => hunvisited.congr (hsame (hmissing.quiet _ hhead))
      · rintro ⟨x, hx, hx'⟩
        exact ⟨x, hx, (hrestoring x hx).mpr hx'⟩

/-- The server handles a request. -/
theorem serve (h : Linked m c l server) {id : ℕ} {request : MachineRequest}
    {requests : List (ℕ × MachineRequest)} (hnext : l.requests = (id, request) :: requests)
    (hid : request.machineID ≠ l.clientID)
    (hkeeps : request.machineID = m →
      (c.callOf m id = none → server.connections.containsKey m = true) ∧
        ∀ payload, c.callOf m id = some (.subscribe payload) →
          detailOf server l.clientID m = none ∨
            detailOf server l.clientID m = some payload.detailOfState) :
    Linked m c
      { l with
        requests, replies := l.replies ++ [(id, (WebClient.serve server l.clientID request).2)] }
      (WebClient.serve server l.clientID request).1 := by
  obtain ⟨hsuccess, hconnected, hdetail⟩ := serve_spec (m := m) h.connected hid
  generalize (WebClient.serve server l.clientID request).2 = isSuccess at hsuccess ⊢
  generalize (WebClient.serve server l.clientID request).1 = server' at hconnected hdetail ⊢
  have hhead : (id, request) ∈ l.requests := by
    rw [hnext]
    exact List.mem_cons_self
  have hmem : ∀ x ∈ requests, x ∈ l.requests := fun x hx => by
    rw [hnext]
    exact List.mem_cons_of_mem _ hx
  have hperm : (requests.map Prod.fst ++ (l.replies ++ [(id, isSuccess)]).map Prod.fst).Perm
      (l.requests.map Prod.fst ++ l.replies.map Prod.fst) := by
    rw [hnext, List.map_append, List.map_cons, ← List.append_assoc]
    exact List.perm_append_comm
  have hordered : (id, request) :: requests |>.Pairwise fun x y =>
      IsRestoring c m y → c.callOf m x.1 = none := hnext ▸ h.ordered
  obtain ⟨hbefore, hrest⟩ := List.pairwise_cons.mp hordered
  -- A request of the loop behind this one tells that this one is no caller's.
  have hrestoring : ∀ x ∈ requests, IsRestoring c m x →
      (∀ reply ∈ l.replies ++ [(id, isSuccess)], c.callOf m reply.1 = none) ∧
        ∃ detail, x.2 = .subscribe ⟨m, detail⟩ ∧ c.subscriptions.get m = some detail := by
    intro x hx hx'
    obtain ⟨hquiet, hx''⟩ := h.restoring x (hmem x hx) hx'
    refine ⟨fun reply hreply => ?_, hx''⟩
    obtain hreply | hreply := List.mem_append.mp hreply
    · exact hquiet reply hreply
    · rw [List.mem_singleton.mp hreply]
      exact hbefore x hx hx'
  refine ⟨fun i hi => h.fresh i (hperm.mem_iff.mp hi), h.uncalled, hperm.nodup_iff.mpr h.nodup,
    fun x hx => h.calls x (hmem x hx), hrestoring, hrest, hconnected, ?_⟩
  rw [SubscribedClient.expected_append]
  -- A request that changes nothing here, and is not what restores the machine.
  have hpass : detailOf server' l.clientID m = detailOf server l.clientID m →
      (isSuccess = true → c.callOf m id = none) → ¬ IsRestoring c m (id, request) →
      c.learn m (c.expected m l.replies) (id, isSuccess) = detailOf server' l.clientID m ∨
        Missing m c { l with requests, replies := l.replies ++ [(id, isSuccess)] } server' := by
    intro hsame hquiet hnot
    rw [SubscribedClient.learn_of_quiet hquiet, hsame]
    refine h.agrees.imp_right fun hmissing => ⟨hsame.trans hmissing.detail, ?_, ?_⟩
    · intro reply hreply hreplied
      obtain hreply | hreply := List.mem_append.mp hreply
      · exact hmissing.quiet reply hreply hreplied
      · obtain rfl := List.mem_singleton.mp hreply
        exact hquiet hreplied
    · refine hmissing.toRestore.imp_right ?_
      rintro ⟨x, hx, hx'⟩
      rw [hnext] at hx
      obtain rfl | hx := List.mem_cons.mp hx
      · exact absurd hx' hnot
      · exact ⟨x, hx, hx'⟩
  by_cases hm : request.machineID = m
  · subst hm
    obtain ⟨hthere, hsubscribed⟩ := hkeeps rfl
    cases hcall : c.callOf request.machineID id with
    | some r =>
      obtain rfl : r = request := h.calls _ hhead r hcall
      have hnot : ¬ IsRestoring c r.machineID (id, r) := fun hr => by
        rw [hr.2] at hcall
        cases hcall
      cases hkey : server.connections.containsKey r.machineID with
      | true =>
        rw [hkey] at hsuccess hdetail
        rw [if_pos ⟨rfl, rfl⟩] at hdetail
        rw [hsuccess, SubscribedClient.learn_of_call hcall, hdetail]
        cases r with
        | subscribe payload =>
          obtain hold | hold := hsubscribed payload hcall <;>
            rw [MachineRequest.served, hold] <;> exact .inl rfl
        | unsubscribe payload => exact .inl rfl
      | false =>
        rw [hkey] at hsuccess hdetail
        rw [if_neg fun h => Bool.noConfusion h.2] at hdetail
        exact hpass hdetail (fun h => Bool.noConfusion (hsuccess.symm.trans h)) hnot
    | none =>
      obtain ⟨hquiet, detail, hrequest, hget⟩ := h.restoring _ hhead ⟨rfl, hcall⟩
      have hexpected : c.expected request.machineID l.replies = some detail :=
        (SubscribedClient.expected_eq_get fun reply hreply _ => hquiet reply hreply).trans hget
      rw [if_pos ⟨rfl, hthere hcall⟩] at hdetail
      rw [SubscribedClient.learn_of_quiet fun _ => hcall, hexpected, hdetail]
      -- What the loop asks for is what the server has, if it has anything.
      have hold : detailOf server l.clientID request.machineID = none ∨
          detailOf server l.clientID request.machineID = some detail :=
        h.agrees.symm.imp Missing.detail fun hagrees => hagrees.symm.trans hexpected
      change request = .subscribe ⟨request.machineID, detail⟩ at hrequest
      have hserved : ∀ old, request.served old = old.or (some detail) := fun old => by
        rw [hrequest]
        rfl
      obtain hold | hold := hold <;> rw [hserved, hold] <;> exact .inl rfl
  · have hcall : c.callOf m id = none := by
      by_contra hsome
      obtain ⟨r, hr⟩ := Option.ne_none_iff_exists'.mp hsome
      obtain rfl : r = request := h.calls _ hhead r hr
      exact hm (SubscribedClient.machineID_of_callOf hr)
    refine hpass ?_ (fun _ => hcall) fun hr => hm hr.1
    rw [hdetail, if_neg fun h => hm h.1.symm]

end Linked

/-! ### Runs -/

namespace SubscriptionSession

variable {m : String} {σ σ' : SubscriptionSession} {e : SessionEvent}

theorem tracks_of_initial (h : Initial σ) : Tracks m σ where
  closed _ := h.pending
  linked l hopen := by
    rw [h.connection] at hopen
    cases hopen

theorem tracks_opened (h : Tracks m σ) (hclosed : σ.connection = none)
    (loop : Option RestoringLoop) (clientID : String)
    (hloop : σ.client.subscriptions.get m = none ∨ ∃ awaiting, loop = some ⟨0, awaiting⟩) :
    Tracks m (σ.opened { σ.client with loop } clientID) where
  closed hnone := by cases hnone
  linked l hopen := by
    obtain rfl : (⟨clientID, [], []⟩ : OpenConnection) = l := Option.some.inj hopen
    refine Linked.connect (fun id => ?_) clientID hloop
    refine SubscribedClient.callOf_of_not_pending ?_
    change σ.client.pending.tryGetValue id = none
    rw [h.closed hclosed]
    rfl

/-- What is opened already has been opened once. -/
private theorem Tracks.of_open {l : OpenConnection} {client : SubscribedClient}
    {server : StateServer} (h : Linked m client l server) : Tracks m ⟨client, some l, server⟩ where
  closed hnone := by cases hnone
  linked _ hopen := Option.some.inj hopen ▸ h

theorem tracks_close {reconnecting : Bool} :
    Tracks m ⟨σ.client.close reconnecting, none, σ.server⟩ where
  closed _ := rfl
  linked _ hopen := by cases hopen

/-- **Every step that meets `Keeps` preserves `Tracks`.** -/
theorem Tracks.step (h : Tracks m σ) (hstep : Step σ e σ') (hkeeps : Keeps m σ e) :
    Tracks m σ' := by
  cases hstep with
  | call hopen => exact .of_open ((h.linked _ hopen).call _)
  | serve hopen hnext =>
    obtain ⟨hid, hserve⟩ := hkeeps _ _ _ _ hopen hnext
    exact .of_open ((h.linked _ hopen).serve hnext hid hserve)
  | receive hopen hnext => exact .of_open ((h.linked _ hopen).receive hnext)
  | restore hopen hloop _ =>
    exact .of_open ((h.linked _ hopen).restore hloop fun stamp detail hnext =>
      hkeeps _ stamp detail hloop hnext)
  | timeout =>
    refine ⟨fun hnone => ?_, fun l hopen => (h.linked l hopen).timeout hkeeps⟩
    rw [SubscribedClient.timeout, h.closed hnone]
    exact h.closed hnone
  | closed => exact tracks_close
  | disconnect => exact tracks_close
  | reopened hclosed _ => exact tracks_opened h hclosed _ _ (.inr ⟨none, rfl⟩)
  | connected hclosed _ => exact tracks_opened h hclosed _ _ (.inl hkeeps)
  | other hsame => exact ⟨h.closed, fun l hopen => (h.linked l hopen).other (hsame l hopen)⟩

/-- A step that meets what is asked for a machine. -/
def Keeping (m : String) (σ σ' : SubscriptionSession) : Prop := ∃ e, Step σ e σ' ∧ Keeps m σ e

theorem tracks_of_reachable (h : Reachable Initial (Keeping m) σ) : Tracks m σ :=
  h.induct (fun _ => tracks_of_initial) fun _ _ _ hσ ⟨_, hstep, hkeeps⟩ => hσ.step hstep hkeeps

private def full : MachineRequest := .subscribe ⟨"a", .full⟩

/-- One machine. -/
private def machinesOfA : Dictionary String ServedMachine :=
  (∅ : Dictionary String ServedMachine).set "a" ⟨"a", default⟩

private theorem id_client_empty {key : String} {client : Connect3DpWebSocketClient}
    (h : (∅ : Dictionary String Connect3DpWebSocketClient).tryGetValue key = some client) :
    client.id = key := by
  cases h

private theorem id_machine_machinesOfA {key : String} {machine : ServedMachine}
    (h : machinesOfA.tryGetValue key = some machine) : machine.id = key := by
  rw [machinesOfA, Dictionary.tryGetValue_set] at h
  split at h
  · rename_i hkey
    rw [← Option.some.inj h, hkey]
  · cases h

/-- A server with one machine. -/
private def serverOfA : StateServer := ⟨∅, machinesOfA, id_client_empty, id_machine_machinesOfA⟩

private theorem keeps_serve {l : OpenConnection} {id : ℕ} {request : MachineRequest}
    {requests : List (ℕ × MachineRequest)} (hopen : σ.connection = some l)
    (hnext : l.requests = (id, request) :: requests) (hid : request.machineID ≠ l.clientID)
    (hthere : σ.server.connections.containsKey m = true)
    (hnone : detailOf σ.server l.clientID m = none) : Keeps m σ .serve := by
  intro l' id' request' requests' hopen' hnext'
  obtain rfl : l = l' := Option.some.inj (hopen.symm.trans hopen')
  cases hnext.symm.trans hnext'
  exact ⟨hid, fun _ => ⟨fun _ => hthere, fun _ _ => .inl hnone⟩⟩

end SubscriptionSession

end WebClient

end Connect3Dp
