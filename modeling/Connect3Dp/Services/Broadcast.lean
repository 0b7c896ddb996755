import Connect3Dp.Services.Subscriptions
import Mathlib.Data.List.TakeWhile

/-!
# What a broadcast sends

A change of the state of a machine is due to the clients that are subscribed to it: its full changes
or its changes at a glance. The clients are served one after another, and a client that cannot be
served keeps those after it from being served. `onStateChange_serves` says who is served.
-/

namespace Connect3Dp

namespace Connect3DpWebSocketClient

/-- The detail in which the client is subscribed to a machine. -/
def detail (c : Connect3DpWebSocketClient) (machineID : String) : Option StateDetails :=
  (c.machineSubscriptions.tryGetValue machineID).map MachineSubscription.detailOfState

/-- The client after it was sent messages. -/
def receives (messages : List (MessageToClient BroadcastedMachineStateUpdateData))
    (c : Connect3DpWebSocketClient) : Connect3DpWebSocketClient :=
  { c with sent := c.sent ++ messages }

end Connect3DpWebSocketClient

namespace StateServer

/-- The messages about a change that are due to a client with a detail: the full changes or, if
these have changed, the changes at a glance. -/
def updates (detail : Option StateDetails) (machineID : String) (changes : MachineStateChanges)
    (now : DateTimeOffset) : List (MessageToClient BroadcastedMachineStateUpdateData) :=
  if detail = some .full then [stateUpdated machineID now ⟨some changes, none⟩]
  else if detail = some .atAGlance ∧
      (AtAGlanceMachineStateChanges.of changes).hasChanged = true then
    [stateUpdated machineID now ⟨none, some (.of changes)⟩]
  else []

variable {serialize : MessageToClient BroadcastedMachineStateUpdateData → Except Fault String}
  {server server' : StateServer} {message : MessageToClient BroadcastedMachineStateUpdateData}

/-- The message was sent to the clients with these ids, and nothing else has changed. -/
structure Delivered (message : MessageToClient BroadcastedMachineStateUpdateData)
    (reached : List String) (server server' : StateServer) : Prop where
  connections : server'.connections = server.connections
  clients : ∀ key, server'.clients.tryGetValue key = (server.clients.tryGetValue key).map fun c =>
    if key ∈ reached then c.receives [message] else c

theorem Delivered.refl (message : MessageToClient BroadcastedMachineStateUpdateData)
    (server : StateServer) : Delivered message [] server server where
  connections := rfl
  clients key := by simp

theorem tryGetValue_setClient (server : StateServer) (c : Connect3DpWebSocketClient)
    (key : String) :
    (server.setClient c).clients.tryGetValue key =
      if key = c.id then some c else server.clients.tryGetValue key :=
  Dictionary.tryGetValue_set ..

/-- Clients of a server are told apart by their ids. -/
structure Registered (server : StateServer) (connections : List Connect3DpWebSocketClient) :
    Prop where
  mem : ∀ c ∈ connections, server.clients.tryGetValue c.id = some c
  nodup : (connections.map Connect3DpWebSocketClient.id).Nodup

/-- One after another, the clients before the first closed socket are served. -/
theorem forM_sendAsync_delivers {connections : List Connect3DpWebSocketClient}
    (h : Registered server connections) :
    Delivered message
      ((connections.takeWhile Connect3DpWebSocketClient.isOpen).map Connect3DpWebSocketClient.id)
      server (finalState (connections.forM (sendAsync message) server)) ∧
    ((∀ c ∈ connections, c.isOpen = true) →
      ∃ server', connections.forM (sendAsync message) server = .ok () server') := by
  induction connections generalizing server with
  | nil => exact ⟨.refl message server, fun _ => ⟨server, rfl⟩⟩
  | cons c connections ih =>
    obtain ⟨hne, hnodup⟩ := List.nodup_cons.mp h.nodup
    have hregistered : server.clients.tryGetValue c.id = some c := h.mem c List.mem_cons_self
    have hbind : (c :: connections).forM (sendAsync message) server =
        (sendAsync message c >>= fun _ => connections.forM (sendAsync message)) server := rfl
    rw [hbind, sendAsync]
    by_cases hopen : c.isOpen = true
    · let served := server.setClient (c.receives [message])
      have hsame : ∀ key, key ≠ c.id →
          served.clients.tryGetValue key = server.clients.tryGetValue key := fun key hkey =>
        (tryGetValue_setClient server _ key).trans (if_neg hkey)
      have hrest : Registered served connections := by
        refine ⟨fun other hother => ?_, hnodup⟩
        have hid : other.id ≠ c.id := fun heq => hne (heq ▸ List.mem_map_of_mem hother)
        exact (hsame other.id hid).trans (h.mem other (List.mem_cons_of_mem c hother))
      obtain ⟨hdelivered, hreturns⟩ := ih hrest
      rw [if_pos hopen, List.takeWhile_cons_of_pos hopen, List.map_cons]
      refine ⟨⟨hdelivered.connections, fun key => (hdelivered.clients key).trans ?_⟩,
        fun hall => hreturns fun other hother => hall other (List.mem_cons_of_mem c hother)⟩
      by_cases hkey : key = c.id
      · -- No other client has this id, so the rest leaves this one alone.
        subst hkey
        have hnot : c.id ∉ (connections.takeWhile Connect3DpWebSocketClient.isOpen).map
            Connect3DpWebSocketClient.id := fun hmem =>
          hne (List.map_subset _ (List.takeWhile_subset _) hmem)
        have hserved : served.clients.tryGetValue c.id = some (c.receives [message]) :=
          (tryGetValue_setClient server _ c.id).trans (if_pos rfl)
        rw [hserved, hregistered, Option.map_some, Option.map_some, if_neg hnot,
          if_pos List.mem_cons_self]
      · rw [hsame key hkey]
        simp only [List.mem_cons, hkey, false_or]
    · rw [if_neg hopen, List.takeWhile_cons_of_neg hopen]
      refine ⟨.refl message server, fun hall => ?_⟩
      exact absurd (hall c List.mem_cons_self) hopen

/-- The message can be written, and the socket of the client is open. -/
def CanReceive (serialize : MessageToClient BroadcastedMachineStateUpdateData → Except Fault String)
    (message : MessageToClient BroadcastedMachineStateUpdateData)
    (c : Connect3DpWebSocketClient) : Prop :=
  (∃ jsonOfMessage, serialize message = .ok jsonOfMessage) ∧ c.isOpen = true

/-- A broadcast that is due to some clients: it reaches those who can receive it, and all of them
if all can. -/
structure Serves
    (serialize : MessageToClient BroadcastedMachineStateUpdateData → Except Fault String)
    (message : MessageToClient BroadcastedMachineStateUpdateData)
    (connections : List Connect3DpWebSocketClient) (broadcast : EStateM Fault StateServer Unit)
    (server : StateServer) (reached : List String) : Prop where
  delivered : Delivered message reached server (finalState (broadcast server))
  sound : ∀ id ∈ reached, ∃ c ∈ connections, c.id = id ∧ CanReceive serialize message c
  complete : (∀ c ∈ connections, CanReceive serialize message c) →
    (∀ c ∈ connections, c.id ∈ reached) ∧ ∃ server', broadcast server = .ok () server'

theorem serves_broadcastMessageAsync {connections : List Connect3DpWebSocketClient}
    (h : Registered server connections) (hne : connections ≠ []) :
    ∃ reached, Serves serialize message connections
      (broadcastMessageAsync serialize message connections) server reached := by
  rw [broadcastMessageAsync]
  cases hserialize : serialize message with
  | error e =>
    rw [ofExcept_error_bind]
    refine ⟨[], .refl message server, fun id hid => ?_, fun hall => ?_⟩
    · cases hid
    obtain ⟨c, hc⟩ := List.exists_mem_of_ne_nil connections hne
    obtain ⟨json, hjson⟩ := (hall c hc).1
    cases hserialize.symm.trans hjson
  | ok json =>
    rw [ofExcept_ok_bind]
    obtain ⟨hdelivered, hreturns⟩ := forM_sendAsync_delivers h
    refine ⟨_, hdelivered, fun id hid => ?_, fun hall => ?_⟩
    · obtain ⟨c, hc, rfl⟩ := List.mem_map.mp hid
      have hopen : c.isOpen = true := List.mem_takeWhile_imp hc
      exact ⟨c, List.takeWhile_subset _ hc, rfl, ⟨json, hserialize⟩, hopen⟩
    · have hopen : ∀ c ∈ connections, c.isOpen = true := fun c hc => (hall c hc).2
      rw [List.takeWhile_eq_self_iff.mpr hopen]
      exact ⟨fun c hc => List.mem_map_of_mem hc, hreturns hopen⟩

/-- A broadcast that takes place under a condition, and is due to nobody otherwise. -/
theorem serves_if {connections due : List Connect3DpWebSocketClient} {P : Prop} [Decidable P]
    (h : Registered server connections) (hyes : P → connections ≠ [] ∧ due = connections)
    (hno : ¬ P → due = []) :
    ∃ reached, Serves serialize message due
      (if P then broadcastMessageAsync serialize message connections else pure ()) server
      reached := by
  by_cases hP : P
  · obtain ⟨hne, hdue⟩ := hyes hP
    rw [if_pos hP, hdue]
    exact serves_broadcastMessageAsync h hne
  · rw [if_neg hP, hno hP]
    refine ⟨[], .refl message server, fun id hid => ?_, fun _ => ⟨fun c hc => ?_, server, rfl⟩⟩
    · cases hid
    · cases hc

/-! ### The subscribers -/

theorem mem_subscribers_iff {machineID : String} {detail : StateDetails}
    {c : Connect3DpWebSocketClient} :
    c ∈ server.subscribers machineID detail ↔
      server.clients.tryGetValue c.id = some c ∧ c.detail machineID = some detail := by
  have hvalue : c ∈ server.clients.values ↔ server.clients.tryGetValue c.id = some c := by
    rw [Dictionary.mem_values_iff]
    refine ⟨fun ⟨key, hkey⟩ => ?_, fun h => ⟨c.id, h⟩⟩
    rw [server.id_client hkey]
    exact hkey
  have hdetail : ((c.machineSubscriptions.tryGetValue machineID).any
      fun sub => sub.detailOfState = detail) = true ↔ c.detail machineID = some detail := by
    cases hsub : c.machineSubscriptions.tryGetValue machineID with
    | none => simp [Connect3DpWebSocketClient.detail, hsub]
    | some sub => simp [Connect3DpWebSocketClient.detail, hsub]
  rw [subscribers, List.mem_filter, hvalue, hdetail]

theorem registered_subscribers (server : StateServer) (machineID : String)
    (detail : StateDetails) : Registered server (server.subscribers machineID detail) where
  mem c hc := (mem_subscribers_iff.mp hc).1
  nodup := by
    have hids : server.clients.values.map Connect3DpWebSocketClient.id =
        server.clients.entries.map Prod.fst := by
      rw [Dictionary.values, List.map_map]
      refine List.map_congr_left fun entry hentry => ?_
      exact server.id_client (Dictionary.mem_entries_iff.mp hentry)
    have hsublist := (List.filter_sublist (l := server.clients.values)
      (p := fun c => (c.machineSubscriptions.tryGetValue machineID).any
        fun sub => sub.detailOfState = detail)).map Connect3DpWebSocketClient.id
    exact (hids ▸ hsublist).nodup server.clients.nodup_keys

/-- The clients of a server after a delivery. -/
theorem Delivered.registered {reached : List String} {connections : List Connect3DpWebSocketClient}
    (h : Delivered message reached server server') (hregistered : Registered server connections)
    (hnot : ∀ c ∈ connections, c.id ∉ reached) : Registered server' connections where
  mem c hc := by
    rw [h.clients, hregistered.mem c hc, Option.map_some, if_neg (hnot c hc)]
  nodup := hregistered.nodup

/-! ### One change -/

section Change

variable {machineID : String} {changes : MachineStateChanges} {now : DateTimeOffset}
  {c : Connect3DpWebSocketClient}

theorem updates_full (h : c.detail machineID = some .full) :
    updates (c.detail machineID) machineID changes now =
      [stateUpdated machineID now ⟨some changes, none⟩] := by
  rw [updates, if_pos h]

theorem updates_atAGlance (h : c.detail machineID = some .atAGlance)
    (hchanged : (AtAGlanceMachineStateChanges.of changes).hasChanged = true) :
    updates (c.detail machineID) machineID changes now =
      [stateUpdated machineID now ⟨none, some (.of changes)⟩] := by
  have hne : c.detail machineID ≠ some .full := by
    rw [h]
    decide
  rw [updates, if_neg hne, if_pos ⟨h, hchanged⟩]

/-- A client that a message is due to is subscribed in one of the two details. -/
theorem detail_of_updates_ne_nil
    (h : updates (c.detail machineID) machineID changes now ≠ []) :
    c.detail machineID = some .full ∨ c.detail machineID = some .atAGlance ∧
      (AtAGlanceMachineStateChanges.of changes).hasChanged = true := by
  rw [updates] at h
  split at h
  · exact .inl ‹_›
  · split at h
    · exact .inr ‹_›
    · exact absurd rfl h

/-- Every client that a message is due to can receive it. -/
def AllCanReceive
    (serialize : MessageToClient BroadcastedMachineStateUpdateData → Except Fault String)
    (server : StateServer) (machineID : String) (changes : MachineStateChanges)
    (now : DateTimeOffset) : Prop :=
  ∀ c, server.clients.tryGetValue c.id = some c →
    ∀ message ∈ updates (c.detail machineID) machineID changes now, CanReceive serialize message c

theorem serves_broadcastFullChanges
    (serialize : MessageToClient BroadcastedMachineStateUpdateData → Except Fault String)
    (server : StateServer) (machineID : String) (changes : MachineStateChanges)
    (now : DateTimeOffset) :
    ∃ reached, Serves serialize (stateUpdated machineID now ⟨some changes, none⟩)
      (server.subscribers machineID .full)
      (broadcastFullChanges serialize machineID changes now (server.subscribers machineID .full))
      server reached := by
  refine serves_if (registered_subscribers server machineID .full) (fun h => ⟨?_, rfl⟩) fun h => ?_
  · exact List.length_eq_zero_iff.not.mp h
  · exact List.length_eq_zero_iff.mp (not_not.mp h)

/-- The clients that changes at a glance are due to. -/
def atAGlanceDue (server : StateServer) (machineID : String) (changes : MachineStateChanges) :
    List Connect3DpWebSocketClient :=
  if (AtAGlanceMachineStateChanges.of changes).hasChanged = true then
    server.subscribers machineID .atAGlance
  else []

theorem mem_atAGlanceDue_iff :
    c ∈ server.atAGlanceDue machineID changes ↔ server.clients.tryGetValue c.id = some c ∧
      c.detail machineID = some .atAGlance ∧
        (AtAGlanceMachineStateChanges.of changes).hasChanged = true := by
  rw [atAGlanceDue]
  split
  · rename_i hchanged
    simp [mem_subscribers_iff, hchanged]
  · rename_i hchanged
    simp [hchanged]

/-- A client is subscribed in one detail, so the two broadcasts are due to different clients. -/
theorem id_ne_of_mem_subscribers {c' : Connect3DpWebSocketClient}
    (h : c ∈ server.subscribers machineID .full)
    (h' : c' ∈ server.subscribers machineID .atAGlance) : c.id ≠ c'.id := by
  intro hid
  obtain ⟨hlookup, hdetail⟩ := mem_subscribers_iff.mp h
  obtain ⟨hlookup', hdetail'⟩ := mem_subscribers_iff.mp h'
  rw [← hid, hlookup] at hlookup'
  cases hlookup'
  rw [hdetail] at hdetail'
  exact absurd (Option.some.inj hdetail') (by decide)

theorem serves_broadcastAtAGlanceChanges
    {serialize : MessageToClient BroadcastedMachineStateUpdateData → Except Fault String}
    {server : StateServer} {machineID : String} {changes : MachineStateChanges}
    {now : DateTimeOffset} {reachedFull : List String}
    (hfull : Serves serialize (stateUpdated machineID now ⟨some changes, none⟩)
      (server.subscribers machineID .full)
      (broadcastFullChanges serialize machineID changes now (server.subscribers machineID .full))
      server reachedFull) :
    ∃ reached, Serves serialize (stateUpdated machineID now ⟨none, some (.of changes)⟩)
      (server.atAGlanceDue machineID changes)
      (broadcastAtAGlanceChanges serialize machineID changes now
        (server.subscribers machineID .atAGlance))
      (finalState (broadcastFullChanges serialize machineID changes now
        (server.subscribers machineID .full) server)) reached := by
  have hregistered : Registered (finalState (broadcastFullChanges serialize machineID changes now
      (server.subscribers machineID .full) server)) (server.subscribers machineID .atAGlance) := by
    refine hfull.delivered.registered (registered_subscribers server machineID .atAGlance) ?_
    intro c' hc' hmem
    obtain ⟨c, hc, hid, -⟩ := hfull.sound c'.id hmem
    exact id_ne_of_mem_subscribers hc hc' hid
  refine serves_if hregistered (fun h => ?_) fun h => ?_
  · exact ⟨List.length_eq_zero_iff.not.mp h.1, if_pos h.2⟩
  · by_cases hchanged : (AtAGlanceMachineStateChanges.of changes).hasChanged = true
    · have hlength : (server.subscribers machineID .atAGlance).length = 0 := by
        by_contra hne
        exact h ⟨hne, hchanged⟩
      exact (if_pos hchanged).trans (List.length_eq_zero_iff.mp hlength)
    · exact if_neg hchanged

/-- Some of the clients that messages are due to can receive them and are served with what is due
to them, and all are served if all can receive it. -/
structure ServesChange
    (serialize : MessageToClient BroadcastedMachineStateUpdateData → Except Fault String)
    (server : StateServer) (machineID : String) (changes : MachineStateChanges)
    (now : DateTimeOffset) (server' : StateServer) (reached : List String) : Prop where
  connections : server'.connections = server.connections
  clients : ∀ key, server'.clients.tryGetValue key = (server.clients.tryGetValue key).map fun c =>
    if key ∈ reached then c.receives (updates (c.detail machineID) machineID changes now) else c
  sound : ∀ c, server.clients.tryGetValue c.id = some c → c.id ∈ reached →
    ∀ message ∈ updates (c.detail machineID) machineID changes now, CanReceive serialize message c
  complete : AllCanReceive serialize server machineID changes now →
    ∀ c, server.clients.tryGetValue c.id = some c →
      updates (c.detail machineID) machineID changes now ≠ [] → c.id ∈ reached

/-- The clients in a table, by their ids. -/
theorem eq_of_id_eq {c' : Connect3DpWebSocketClient}
    (h : server.clients.tryGetValue c.id = some c)
    (h' : server.clients.tryGetValue c'.id = some c') (hid : c'.id = c.id) : c' = c := by
  rw [hid, h] at h'
  exact (Option.some.inj h').symm

theorem full_of_reached {reached : List String} {first : EStateM Fault StateServer Unit}
    (h : Serves serialize (stateUpdated machineID now ⟨some changes, none⟩)
      (server.subscribers machineID .full) first server reached)
    (hlookup : server.clients.tryGetValue c.id = some c) (hmem : c.id ∈ reached) :
    c.detail machineID = some .full ∧
      CanReceive serialize (stateUpdated machineID now ⟨some changes, none⟩) c := by
  obtain ⟨c', hc', hid, hcan⟩ := h.sound c.id hmem
  obtain ⟨hlookup', hdetail⟩ := mem_subscribers_iff.mp hc'
  rw [eq_of_id_eq hlookup hlookup' hid] at hdetail hcan
  exact ⟨hdetail, hcan⟩

theorem atAGlance_of_reached {reached : List String} {second : EStateM Fault StateServer Unit}
    (h : Serves serialize (stateUpdated machineID now ⟨none, some (.of changes)⟩)
      (server.atAGlanceDue machineID changes) second server' reached)
    (hlookup : server.clients.tryGetValue c.id = some c) (hmem : c.id ∈ reached) :
    (c.detail machineID = some .atAGlance ∧
        (AtAGlanceMachineStateChanges.of changes).hasChanged = true) ∧
      CanReceive serialize (stateUpdated machineID now ⟨none, some (.of changes)⟩) c := by
  obtain ⟨c', hc', hid, hcan⟩ := h.sound c.id hmem
  obtain ⟨hlookup', hdue⟩ := mem_atAGlanceDue_iff.mp hc'
  rw [eq_of_id_eq hlookup hlookup' hid] at hdue hcan
  exact ⟨hdue, hcan⟩

/-- After an exception of the first broadcast nobody else is served, and somebody could not be. -/
theorem exists_serves_second {reachedFull reachedAtAGlance : List String}
    {first second : EStateM Fault StateServer Unit}
    (hfull : Serves serialize (stateUpdated machineID now ⟨some changes, none⟩)
      (server.subscribers machineID .full) first server reachedFull)
    (hatAGlance : Serves serialize (stateUpdated machineID now ⟨none, some (.of changes)⟩)
      (server.atAGlanceDue machineID changes) second (finalState (first server)) reachedAtAGlance) :
    ∃ reached, Delivered (stateUpdated machineID now ⟨none, some (.of changes)⟩) reached
        (finalState (first server)) (finalState ((first >>= fun _ => second) server)) ∧
      (∀ id ∈ reached, id ∈ reachedAtAGlance) ∧
      ((∀ c ∈ server.subscribers machineID .full,
          CanReceive serialize (stateUpdated machineID now ⟨some changes, none⟩) c) →
        (∀ c ∈ server.atAGlanceDue machineID changes,
          CanReceive serialize (stateUpdated machineID now ⟨none, some (.of changes)⟩) c) →
            ∀ c ∈ server.atAGlanceDue machineID changes, c.id ∈ reached) := by
  cases hrun : first server with
  | error e stopped =>
    have hfinal : (first >>= fun _ => second) server = .error e stopped := run_bind_error hrun
    rw [hfinal]
    refine ⟨[], .refl _ _, fun id hid => ?_, fun hall => ?_⟩
    · cases hid
    · obtain ⟨-, served, hserved⟩ := hfull.complete hall
      cases hrun.symm.trans hserved
  | ok a served =>
    have hfinal : (first >>= fun _ => second) server = second served := run_bind_ok hrun
    rw [hrun] at hatAGlance
    rw [hfinal]
    exact ⟨reachedAtAGlance, hatAGlance.delivered, fun id hid => hid,
      fun _ hall => (hatAGlance.complete hall).1⟩

theorem ServesChange.of_serves {reachedFull reachedAtAGlance : List String}
    {first second : EStateM Fault StateServer Unit}
    (hfull : Serves serialize (stateUpdated machineID now ⟨some changes, none⟩)
      (server.subscribers machineID .full) first server reachedFull)
    (hatAGlance : Serves serialize (stateUpdated machineID now ⟨none, some (.of changes)⟩)
      (server.atAGlanceDue machineID changes) second (finalState (first server)) reachedAtAGlance) :
    ∃ reached, ServesChange serialize server machineID changes now
      (finalState ((first >>= fun _ => second) server)) reached := by
  obtain ⟨reached, hdelivered, hsubset, hcomplete⟩ := exists_serves_second hfull hatAGlance
  refine ⟨reachedFull ++ reached, hdelivered.connections.trans hfull.delivered.connections,
    fun key => ?_, fun c hlookup hmem => ?_, fun hall c hlookup hdue => ?_⟩
  · rw [hdelivered.clients, hfull.delivered.clients]
    cases hlookup : server.clients.tryGetValue key with
    | none => rfl
    | some c =>
      obtain rfl := server.id_client hlookup
      simp only [Option.map_some, Option.some.injEq, List.mem_append]
      -- who is served first has the full detail, so the second round passes them over
      by_cases hfirst : c.id ∈ reachedFull
      · obtain ⟨hdetail, -⟩ := full_of_reached hfull hlookup hfirst
        have hnot : c.id ∉ reached := by
          intro hmem
          obtain ⟨⟨hdetail', -⟩, -⟩ := atAGlance_of_reached hatAGlance hlookup (hsubset _ hmem)
          rw [hdetail] at hdetail'
          exact absurd (Option.some.inj hdetail') (by decide)
        rw [if_pos hfirst, if_neg hnot, if_pos (.inl hfirst), updates_full hdetail]
      · by_cases hlater : c.id ∈ reached
        · obtain ⟨⟨hdetail, hchanged⟩, -⟩ :=
            atAGlance_of_reached hatAGlance hlookup (hsubset _ hlater)
          rw [if_neg hfirst, if_pos hlater, if_pos (.inr hlater),
            updates_atAGlance hdetail hchanged]
        · rw [if_neg hfirst, if_neg hlater, if_neg (not_or.mpr ⟨hfirst, hlater⟩)]
  · rcases List.mem_append.mp hmem with hfirst | hlater
    · obtain ⟨hdetail, hcan⟩ := full_of_reached hfull hlookup hfirst
      rw [updates_full hdetail]
      simpa using hcan
    · obtain ⟨⟨hdetail, hchanged⟩, hcan⟩ :=
        atAGlance_of_reached hatAGlance hlookup (hsubset _ hlater)
      rw [updates_atAGlance hdetail hchanged]
      simpa using hcan
  · have hallFull : ∀ c ∈ server.subscribers machineID .full,
        CanReceive serialize (stateUpdated machineID now ⟨some changes, none⟩) c := by
      intro c hc
      obtain ⟨hlookup, hdetail⟩ := mem_subscribers_iff.mp hc
      exact hall c hlookup _ (by rw [updates_full hdetail]; exact List.mem_singleton.mpr rfl)
    have hallAtAGlance : ∀ c ∈ server.atAGlanceDue machineID changes,
        CanReceive serialize (stateUpdated machineID now ⟨none, some (.of changes)⟩) c := by
      intro c hc
      obtain ⟨hlookup, hdetail, hchanged⟩ := mem_atAGlanceDue_iff.mp hc
      exact hall c hlookup _
        (by rw [updates_atAGlance hdetail hchanged]; exact List.mem_singleton.mpr rfl)
    rcases detail_of_updates_ne_nil hdue with hdetail | ⟨hdetail, hchanged⟩
    · exact List.mem_append_left _
        ((hfull.complete hallFull).1 c (mem_subscribers_iff.mpr ⟨hlookup, hdetail⟩))
    · exact List.mem_append_right _ (hcomplete hallFull hallAtAGlance c
        (mem_atAGlanceDue_iff.mpr ⟨hlookup, hdetail, hchanged⟩))

/-- **Who is served** when the state of a machine changes. -/
theorem onStateChange_serves
    (serialize : MessageToClient BroadcastedMachineStateUpdateData → Except Fault String)
    (server : StateServer) (machineID : String) (changes : MachineStateChanges)
    (now : DateTimeOffset) :
    ∃ reached, ServesChange serialize server machineID changes now
      (finalState (onStateChange serialize machineID changes now server)) reached := by
  obtain ⟨reachedFull, hfull⟩ := serves_broadcastFullChanges serialize server machineID changes now
  obtain ⟨reachedAtAGlance, hatAGlance⟩ := serves_broadcastAtAGlanceChanges hfull
  exact ServesChange.of_serves hfull hatAGlance

end Change

end StateServer

end Connect3Dp
