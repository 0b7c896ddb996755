import Connect3Dp.Services.Broadcast

/-!
# The detail of a subscription follows the last request

`SubscriptionService` is what subscriptions are for: each client has asked for the state of machines
in some detail, the last request counts, and a change of a machine's state is sent as was asked. A
server follows it along a run of events just when every step is sound
(`followsAlong_iff`): a client that subscribes again asks for the same detail, and a change can be
sent to everyone it is due to.
-/

namespace Connect3Dp

/-! ### The service -/

/-- What the clients have asked for, by client and machine, and what they are to be sent. -/
structure SubscriptionService where
  detail : String → String → Option StateDetails
  sent : String → List (MessageToClient BroadcastedMachineStateUpdateData)

instance : EmptyCollection SubscriptionService := ⟨⟨fun _ _ => none, fun _ => []⟩⟩

/-- What happens to a server. -/
inductive ServerEvent
  | connected (clientID : String)
  /-- the socket of a client closes, which the server has not noticed -/
  | closed (clientID : String)
  | disconnected (clientID : String)
  | subscribe (clientID : String) (payload : SubscribeToMachinePayload)
  | unsubscribe (clientID : String) (payload : UnsubscribeFromMachinePayload)
  /-- machines are added, removed or updated -/
  | machines (connections : Dictionary String ServedMachine)
    (id_machine : ∀ {key machine}, connections.tryGetValue key = some machine → machine.id = key)
  | stateChanged (machineID : String) (changes : MachineStateChanges) (now : DateTimeOffset)

/-- The last request counts. -/
def SubscriptionService.step (service : SubscriptionService) : ServerEvent → SubscriptionService
  | .connected clientID =>
    { detail := Function.update service.detail clientID fun _ => none
      sent := Function.update service.sent clientID [] }
  | .subscribe clientID payload =>
    { service with
      detail := Function.update service.detail clientID
        (Function.update (service.detail clientID) payload.machineID (some payload.detailOfState)) }
  | .unsubscribe clientID payload =>
    { service with
      detail := Function.update service.detail clientID
        (Function.update (service.detail clientID) payload.machineID none) }
  | .stateChanged machineID changes now =>
    { service with
      sent := fun clientID => service.sent clientID ++
        StateServer.updates (service.detail clientID machineID) machineID changes now }
  | _ => service

/-- A client that is subscribed to the machine asks for the detail that it has. If it has a
subscription under its own id, then this is the machine, or both have the detail. -/
def Connect3DpWebSocketClient.Keeps (c : Connect3DpWebSocketClient)
    (payload : SubscribeToMachinePayload) : Prop :=
  if c.machineSubscriptions.containsKey c.id then
    payload.machineID = c.id ∨ c.detail c.id = some payload.detailOfState ∧
      c.detail payload.machineID = some payload.detailOfState
  else c.detail payload.machineID = none ∨ c.detail payload.machineID = some payload.detailOfState

namespace StateServer

variable (serialize : MessageToClient BroadcastedMachineStateUpdateData → Except Fault String)

/-- A client is connected. -/
def connect (server : StateServer) (clientID : String) : StateServer :=
  server.setClient ⟨clientID, true, [], ∅⟩

/-- The socket of a client closes. -/
def close (server : StateServer) (clientID : String) : StateServer :=
  match server.clients.tryGetValue clientID with
  | none => server
  | some c => server.setClient { c with isOpen := false }

def handle (server : StateServer) : ServerEvent → StateServer
  | .connected clientID => server.connect clientID
  | .closed clientID => server.close clientID
  | .disconnected clientID => server.removeClient clientID
  | .subscribe clientID payload =>
    server.act SubscribeToMachinePayload.machineID Connect3DpWebSocketClient.subscribe clientID
      payload
  | .unsubscribe clientID payload =>
    server.act UnsubscribeFromMachinePayload.machineID Connect3DpWebSocketClient.unsubscribe
      clientID payload
  | .machines connections id_machine => { server with connections, id_machine }
  | .stateChanged machineID changes now =>
    finalState (onStateChange serialize machineID changes now server)

/-- An action is successful when the machine is there. -/
def succeeds (server : StateServer) : ServerEvent → Bool
  | .subscribe _ payload => server.connections.containsKey payload.machineID
  | .unsubscribe _ payload => server.connections.containsKey payload.machineID
  | _ => true

/-- What has been asked for after an event. An action that fails asks for nothing. -/
def asked (server : StateServer) (service : SubscriptionService) (event : ServerEvent) :
    SubscriptionService :=
  if server.succeeds event then service.step event else service

/-- The clients have the subscriptions they asked for, and were sent what they asked for. -/
def Follows (server : StateServer) (service : SubscriptionService) : Prop :=
  ∀ c, server.clients.tryGetValue c.id = some c →
    (∀ machineID, c.detail machineID = service.detail c.id machineID) ∧ c.sent = service.sent c.id

/-- So it is before and after every event. -/
def FollowsAlong : StateServer → SubscriptionService → List ServerEvent → Prop
  | server, service, [] => server.Follows service
  | server, service, event :: events => server.Follows service ∧
    FollowsAlong (server.handle serialize event) (server.asked service event) events

/-- A client that subscribes keeps the detail it has, and a change can be sent to everyone it is due
to. -/
def Sound (server : StateServer) : ServerEvent → Prop
  | .subscribe clientID payload => ∀ c, server.clients.tryGetValue clientID = some c →
    c.Keeps payload
  | .stateChanged machineID changes now => server.AllCanReceive serialize machineID changes now
  | _ => True

/-- Every successful step is sound. -/
def SoundAlong : StateServer → List ServerEvent → Prop
  | _, [] => True
  | server, event :: events => (server.succeeds event = true → server.Sound serialize event) ∧
    SoundAlong (server.handle serialize event) events

variable {serialize} {server : StateServer} {service service' : SubscriptionService}
  {c : Connect3DpWebSocketClient}

/-! ### One client -/

theorem detail_subscribe (c : Connect3DpWebSocketClient) (payload : SubscribeToMachinePayload)
    (machine : ServedMachine) (machineID : String) :
    (c.subscribe payload machine).1.detail machineID =
      if c.machineSubscriptions.containsKey c.id then
        if machineID = c.id then some payload.detailOfState else c.detail machineID
      else if c.machineSubscriptions.containsKey machine.id then c.detail machineID
      else if machineID = machine.id then some payload.detailOfState else c.detail machineID := by
  simp only [Connect3DpWebSocketClient.detail, Connect3DpWebSocketClient.subscribe]
  split
  · rw [Dictionary.tryGetValue_set]
    split <;> rfl
  · split
    · rfl
    · rw [Dictionary.tryGetValue_set]
      split <;> rfl

theorem detail_eq_none_iff {machineID : String} :
    c.detail machineID = none ↔ c.machineSubscriptions.containsKey machineID = false := by
  rw [Connect3DpWebSocketClient.detail, Option.map_eq_none_iff, Dictionary.containsKey_eq_false_iff]

/-- **A subscription follows the request** just when the client keeps its detail. -/
theorem detail_subscribe_eq_update_iff {payload : SubscribeToMachinePayload}
    {machine : ServedMachine} (hid : machine.id = payload.machineID) :
    (∀ machineID, (c.subscribe payload machine).1.detail machineID =
        Function.update c.detail payload.machineID (some payload.detailOfState) machineID) ↔
      c.Keeps payload := by
  simp only [detail_subscribe, hid, Connect3DpWebSocketClient.Keeps]
  by_cases hown : c.machineSubscriptions.containsKey c.id = true
  · simp only [if_pos hown]
    constructor
    · intro hall
      by_cases hmachine : payload.machineID = c.id
      · exact .inl hmachine
      · refine .inr ⟨?_, ?_⟩
        · have hself := hall c.id
          rw [if_pos rfl, Function.update_of_ne (Ne.symm hmachine)] at hself
          exact hself.symm
        · have hself := hall payload.machineID
          rw [if_neg hmachine, Function.update_self] at hself
          exact hself
    · rintro (hmachine | ⟨hself, hdetail⟩) machineID
      · rw [hmachine, Function.update_apply]
      · rw [Function.update_apply]
        by_cases hmachine : machineID = payload.machineID
        · rw [if_pos hmachine, hmachine, hdetail, ite_self]
        · rw [if_neg hmachine]
          by_cases hkey : machineID = c.id
          · rw [if_pos hkey, hkey, hself]
          · rw [if_neg hkey]
  · simp only [if_neg hown]
    by_cases hsubscribed : c.machineSubscriptions.containsKey payload.machineID = true
    · simp only [if_pos hsubscribed]
      constructor
      · intro hall
        have hself := hall payload.machineID
        rw [Function.update_self] at hself
        exact .inr hself
      · rintro (hnone | hdetail) machineID
        · rw [detail_eq_none_iff, hsubscribed] at hnone
          cases hnone
        · rw [← hdetail, Function.update_eq_self]
    · have hnone : c.detail payload.machineID = none :=
        detail_eq_none_iff.mpr (Bool.eq_false_of_not_eq_true hsubscribed)
      simp only [if_neg hsubscribed]
      refine iff_of_true (fun machineID => ?_) (.inl hnone)
      rw [Function.update_apply]

theorem detail_unsubscribe (c : Connect3DpWebSocketClient)
    (payload : UnsubscribeFromMachinePayload) (machine : ServedMachine) (machineID : String) :
    (c.unsubscribe payload machine).1.detail machineID =
      Function.update c.detail payload.machineID none machineID := by
  rw [Function.update_apply, Connect3DpWebSocketClient.detail, Connect3DpWebSocketClient.detail,
    Connect3DpWebSocketClient.unsubscribe, Dictionary.tryGetValue_remove]
  split <;> rfl

/-! ### One step -/

/-- A step that replaces one client and changes what this one asks for. -/
theorem follows_setClient_iff (h : server.Follows service) {c : Connect3DpWebSocketClient}
    (hsame : ∀ id, id ≠ c.id → service'.detail id = service.detail id ∧
      service'.sent id = service.sent id) :
    (server.setClient c).Follows service' ↔
      (∀ machineID, c.detail machineID = service'.detail c.id machineID) ∧
        c.sent = service'.sent c.id := by
  constructor
  · intro hfollows
    exact hfollows c ((tryGetValue_setClient server c c.id).trans (if_pos rfl))
  · intro hclient other hlookup
    rw [tryGetValue_setClient] at hlookup
    by_cases hid : other.id = c.id
    · rw [if_pos hid] at hlookup
      cases hlookup
      exact hclient
    · rw [if_neg hid] at hlookup
      obtain ⟨hdetail, hsent⟩ := h other hlookup
      obtain ⟨hdetail', hsent'⟩ := hsame other.id hid
      exact ⟨fun machineID => by rw [hdetail, hdetail'], by rw [hsent, hsent']⟩

theorem follows_connect (h : server.Follows service) (clientID : String) :
    (server.connect clientID).Follows (service.step (.connected clientID)) := by
  refine (follows_setClient_iff h fun id hid => ?_).mpr ⟨fun machineID => ?_, ?_⟩
  · exact ⟨Function.update_of_ne hid _ _, Function.update_of_ne hid _ _⟩
  · exact (congrFun (Function.update_self clientID _ service.detail) machineID).symm
  · exact (Function.update_self clientID _ service.sent).symm

theorem follows_close (h : server.Follows service) (clientID : String) :
    (server.close clientID).Follows service := by
  rw [close]
  cases hlookup : server.clients.tryGetValue clientID with
  | none => exact h
  | some c =>
    have hid : c.id = clientID := server.id_client hlookup
    exact (follows_setClient_iff h fun _ _ => ⟨rfl, rfl⟩).mpr (h c (hid ▸ hlookup))

theorem follows_removeClient (h : server.Follows service) (clientID : String) :
    (server.removeClient clientID).Follows service := by
  intro c hlookup
  have hremove := Dictionary.tryGetValue_remove server.clients clientID c.id
  rw [show (server.removeClient clientID).clients.tryGetValue c.id = _ from hremove] at hlookup
  split at hlookup
  · cases hlookup
  · exact h c hlookup

/-- An action on a machine that is not there changes nothing. -/
theorem follows_act_of_failure {TPayload TResult : Type} {machineID : TPayload → String}
    {handler : Connect3DpWebSocketClient → TPayload → ServedMachine →
      Connect3DpWebSocketClient × TResult} {clientID : String} {payload : TPayload}
    (h : server.Follows service)
    (hmachine : server.connections.tryGetValue (machineID payload) = none) :
    (server.act machineID handler clientID payload).Follows service := by
  rw [act]
  cases hlookup : server.clients.tryGetValue clientID with
  | none => exact h
  | some c =>
    have hid : c.id = clientID := server.id_client hlookup
    simp only [machineSpecificAction, hmachine]
    exact (follows_setClient_iff h fun _ _ => ⟨rfl, rfl⟩).mpr (h c (hid ▸ hlookup))

/-- A client that is not connected asks for nothing that counts. -/
theorem follows_of_not_connected (h : server.Follows service) {clientID : String}
    (hclient : server.clients.tryGetValue clientID = none)
    (hsame : ∀ id, id ≠ clientID → service'.detail id = service.detail id ∧
      service'.sent id = service.sent id) : server.Follows service' := by
  intro c hlookup
  have hid : c.id ≠ clientID := by
    intro heq
    rw [heq, hclient] at hlookup
    cases hlookup
  obtain ⟨hdetail, hsent⟩ := h c hlookup
  obtain ⟨hdetail', hsent'⟩ := hsame c.id hid
  exact ⟨fun machineID => by rw [hdetail, hdetail'], by rw [hsent, hsent']⟩

/-- The client acts on the machine. -/
theorem act_eq {TPayload TResult : Type} {machineID : TPayload → String}
    {handler : Connect3DpWebSocketClient → TPayload → ServedMachine →
      Connect3DpWebSocketClient × TResult} {clientID : String} {payload : TPayload}
    {machine : ServedMachine} (hclient : server.clients.tryGetValue clientID = some c)
    (hmachine : server.connections.tryGetValue (machineID payload) = some machine) :
    server.act machineID handler clientID payload =
      server.setClient (handler c payload machine).1 := by
  simp only [act, hclient, machineSpecificAction, hmachine]
  rfl

theorem follows_subscribe_iff (h : server.Follows service) (clientID : String)
    (payload : SubscribeToMachinePayload)
    (hmachine : server.connections.containsKey payload.machineID = true) :
    (server.handle serialize (.subscribe clientID payload)).Follows
        (service.step (.subscribe clientID payload)) ↔
      server.Sound serialize (.subscribe clientID payload) := by
  obtain ⟨machine, hmachine⟩ := Dictionary.containsKey_iff.mp hmachine
  cases hclient : server.clients.tryGetValue clientID with
  | none =>
    have hact : server.handle serialize (.subscribe clientID payload) = server := by
      simp only [handle, act, hclient]
    rw [hact]
    refine iff_of_true (follows_of_not_connected h hclient fun id hid => ?_) fun c hc => ?_
    · exact ⟨Function.update_of_ne hid _ _, rfl⟩
    · rw [hclient] at hc
      cases hc
  | some c =>
    obtain rfl := server.id_client hclient
    have hact : server.handle serialize (.subscribe c.id payload) =
        server.setClient (c.subscribe payload machine).1 := act_eq hclient hmachine
    have hdetail : c.detail = service.detail c.id := funext (h c hclient).1
    have hkeeps : _ ↔ c.Keeps payload :=
      detail_subscribe_eq_update_iff (server.id_machine hmachine)
    rw [hact]
    refine (follows_setClient_iff h fun id hid => ?_).trans ?_
    · exact ⟨Function.update_of_ne hid _ _, rfl⟩
    constructor
    · rintro ⟨hall, -⟩ c' hc'
      cases hclient.symm.trans hc'
      refine hkeeps.mp fun machineID => (hall machineID).trans ?_
      rw [hdetail]
      exact congrFun (Function.update_self c.id _ service.detail) machineID
    · intro hsound
      refine ⟨fun machineID => (hkeeps.mpr (hsound c hclient) machineID).trans ?_,
        (h c hclient).2⟩
      rw [hdetail]
      exact (congrFun (Function.update_self c.id _ service.detail) machineID).symm

theorem follows_unsubscribe (h : server.Follows service) (clientID : String)
    (payload : UnsubscribeFromMachinePayload)
    (hmachine : server.connections.containsKey payload.machineID = true) :
    (server.handle serialize (.unsubscribe clientID payload)).Follows
      (service.step (.unsubscribe clientID payload)) := by
  obtain ⟨machine, hmachine⟩ := Dictionary.containsKey_iff.mp hmachine
  cases hclient : server.clients.tryGetValue clientID with
  | none =>
    have hact : server.handle serialize (.unsubscribe clientID payload) = server := by
      simp only [handle, act, hclient]
    rw [hact]
    exact follows_of_not_connected h hclient fun id hid => ⟨Function.update_of_ne hid _ _, rfl⟩
  | some c =>
    obtain rfl := server.id_client hclient
    have hact : server.handle serialize (.unsubscribe c.id payload) =
        server.setClient (c.unsubscribe payload machine).1 := act_eq hclient hmachine
    have hdetail : c.detail = service.detail c.id := funext (h c hclient).1
    rw [hact]
    refine (follows_setClient_iff h fun id hid => ?_).mpr ?_
    · exact ⟨Function.update_of_ne hid _ _, rfl⟩
    refine ⟨fun machineID => (detail_unsubscribe c payload machine machineID).trans ?_,
      (h c hclient).2⟩
    rw [hdetail]
    exact (congrFun (Function.update_self c.id _ service.detail) machineID).symm

/-- **A change of the state** is sent as was asked just when it can be sent to everyone it is due
to. -/
theorem follows_stateChanged_iff (h : server.Follows service) (machineID : String)
    (changes : MachineStateChanges) (now : DateTimeOffset) :
    (server.handle serialize (.stateChanged machineID changes now)).Follows
        (service.step (.stateChanged machineID changes now)) ↔
      server.AllCanReceive serialize machineID changes now := by
  obtain ⟨reached, hserves⟩ := onStateChange_serves serialize server machineID changes now
  constructor
  · intro hfollows c hlookup message hmessage
    by_cases hreached : c.id ∈ reached
    · exact hserves.sound c hlookup hreached message hmessage
    · -- The client was sent nothing, so nothing was due to it.
      have hsame : (server.handle serialize
          (.stateChanged machineID changes now)).clients.tryGetValue c.id = some c := by
        refine (hserves.clients c.id).trans ?_
        rw [hlookup, Option.map_some, if_neg hreached]
      have hsent : c.sent = service.sent c.id ++
          updates (service.detail c.id machineID) machineID changes now := (hfollows c hsame).2
      rw [← (h c hlookup).2, ← (h c hlookup).1] at hsent
      rw [List.self_eq_append_right.mp hsent] at hmessage
      cases hmessage
  · intro hall c' hlookup'
    have hclients := (hserves.clients c'.id).symm.trans hlookup'
    obtain ⟨c, hlookup, hc⟩ := Option.map_eq_some_iff.mp hclients
    have hid : c.id = c'.id := server.id_client hlookup
    rw [← hid] at hlookup hc ⊢
    have hreceives : c' = c.receives (updates (c.detail machineID) machineID changes now) := by
      by_cases hdue : updates (c.detail machineID) machineID changes now = []
      · rw [← hc, hdue]
        simp [Connect3DpWebSocketClient.receives]
      · rw [← hc, if_pos (hserves.complete hall c hlookup hdue)]
    obtain ⟨hdetail, hsent⟩ := h c hlookup
    rw [hreceives]
    refine ⟨hdetail, ?_⟩
    change c.sent ++ _ = service.sent c.id ++ _
    rw [hsent, hdetail]

/-- **One step**: the server follows what was asked just when the step is sound. -/
theorem follows_handle_iff (h : server.Follows service) (event : ServerEvent) :
    (server.handle serialize event).Follows (server.asked service event) ↔
      (server.succeeds event = true → server.Sound serialize event) := by
  cases hsucceeds : server.succeeds event with
  | false =>
    -- The machine of the action is not there.
    rw [asked, hsucceeds, if_neg Bool.false_ne_true]
    refine iff_of_true ?_ fun htrue => absurd htrue Bool.false_ne_true
    cases event with
    | subscribe clientID payload =>
      exact follows_act_of_failure h (Dictionary.containsKey_eq_false_iff.mp hsucceeds)
    | unsubscribe clientID payload =>
      exact follows_act_of_failure h (Dictionary.containsKey_eq_false_iff.mp hsucceeds)
    | connected clientID => cases hsucceeds
    | closed clientID => cases hsucceeds
    | disconnected clientID => cases hsucceeds
    | machines connections id_machine => cases hsucceeds
    | stateChanged machineID changes now => cases hsucceeds
  | true =>
    rw [asked, hsucceeds, if_pos rfl]
    refine Iff.trans ?_ (forall_prop_of_true rfl).symm
    cases event with
    | connected clientID => exact iff_of_true (follows_connect h clientID) trivial
    | closed clientID => exact iff_of_true (follows_close h clientID) trivial
    | disconnected clientID => exact iff_of_true (follows_removeClient h clientID) trivial
    | subscribe clientID payload => exact follows_subscribe_iff h clientID payload hsucceeds
    | unsubscribe clientID payload =>
      exact iff_of_true (follows_unsubscribe h clientID payload hsucceeds) trivial
    | machines connections id_machine => exact iff_of_true h trivial
    | stateChanged machineID changes now => exact follows_stateChanged_iff h machineID changes now

/-! ### Runs -/

/-- A server that no client has connected to, and without machines. -/
instance : EmptyCollection StateServer where
  emptyCollection := {
    clients := ∅
    connections := ∅
    id_client := fun h => by cases h
    id_machine := fun h => by cases h }

theorem followsAlong_iff_of_follows (h : server.Follows service) (events : List ServerEvent) :
    server.FollowsAlong serialize service events ↔ server.SoundAlong serialize events := by
  induction events generalizing server service with
  | nil => exact iff_of_true h trivial
  | cons event events ih =>
    have hstep : (server.handle serialize event).Follows (server.asked service event) ↔ _ :=
      follows_handle_iff h event
    constructor
    · rintro ⟨-, hlater⟩
      have hnext : (server.handle serialize event).Follows (server.asked service event) := by
        cases events with
        | nil => exact hlater
        | cons later events => exact hlater.1
      exact ⟨hstep.mp hnext, (ih hnext).mp hlater⟩
    · rintro ⟨hsound, hlater⟩
      have hnext := hstep.mpr hsound
      exact ⟨h, (ih hnext).mpr hlater⟩

/-- **The server follows the last requests** of all its clients along a run just when every step of
the run is sound. -/
theorem followsAlong_iff
    (serialize : MessageToClient BroadcastedMachineStateUpdateData → Except Fault String)
    (events : List ServerEvent) :
    (∅ : StateServer).FollowsAlong serialize ∅ events ↔
      (∅ : StateServer).SoundAlong serialize events :=
  followsAlong_iff_of_follows (fun c hlookup => by cases hlookup) events

/-- One machine. -/
private def oneMachine : Dictionary String ServedMachine :=
  (∅ : Dictionary String ServedMachine).set "m" ⟨"m", default⟩

private theorem id_oneMachine {key : String} {machine : ServedMachine}
    (h : oneMachine.tryGetValue key = some machine) : machine.id = key := by
  rw [oneMachine, Dictionary.tryGetValue_set] at h
  split at h
  · rename_i hkey
    rw [hkey, ← Option.some.inj h]
  · cases h

/-- A client asks for a machine at a glance, and then for all of it. -/
theorem followsAlong_fails :
    ¬ ∀ events : List ServerEvent,
      (∅ : StateServer).FollowsAlong (fun _ => .ok "") ∅ events := by
  intro hall
  obtain ⟨-, -, -, -, hfollows⟩ := hall [.machines oneMachine id_oneMachine, .connected "c",
    .subscribe "c" ⟨"m", .atAGlance⟩, .subscribe "c" ⟨"m", .full⟩]
  let c : Connect3DpWebSocketClient :=
    ⟨"c", true, [], (∅ : Dictionary String MachineSubscription).set "m" ⟨.atAGlance⟩⟩
  have hdetail := (hfollows c rfl).1 "m"
  revert hdetail
  decide

end StateServer

end Connect3Dp
