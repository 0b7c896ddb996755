import Connect3Dp.Services.SubscriptionDetail

/-!
# Broadcasts to clients that fail

The clients of a broadcast are served in turn, and the first whose socket fails ends the turn. Those
before it are served (`delivered_turn`), and of those after it nobody is. A failure in the turn
of the full changes is also the end of the changes at a glance.

So the healthy clients are served when none comes after a failing one (`ServedInTurn`), and when no
client at a glance waits for a turn of the full changes that fails (`isolates_iff`).
-/

namespace Connect3Dp

/-- What satisfies a predicate comes before what does not. -/
theorem forall_mem_takeWhile_iff {α : Type*} {p : α → Bool} {l : List α} (h : l.Nodup) :
    (∀ a ∈ l, p a = true → a ∈ l.takeWhile p) ↔ l.Pairwise fun a b => p b = true → p a = true := by
  induction l with
  | nil => simp
  | cons a l ih =>
    obtain ⟨hne, hnodup⟩ := List.nodup_cons.mp h
    rw [List.pairwise_cons]
    by_cases ha : p a = true
    · have hrest : (∀ b ∈ a :: l, p b = true → b ∈ (a :: l).takeWhile p) ↔
          ∀ b ∈ l, p b = true → b ∈ l.takeWhile p := by
        rw [List.takeWhile_cons_of_pos ha, List.forall_mem_cons]
        constructor
        · rintro ⟨-, hall⟩ b hb hpb
          exact (List.mem_cons.mp (hall b hb hpb)).resolve_left fun heq => hne (heq ▸ hb)
        · exact fun hall => ⟨fun _ => List.mem_cons_self,
            fun b hb hpb => List.mem_cons_of_mem a (hall b hb hpb)⟩
      rw [hrest, ih hnodup]
      exact (and_iff_right fun b _ _ => ha).symm
    · rw [List.takeWhile_cons_of_neg ha]
      constructor
      · intro hall
        have hnone : ∀ b ∈ l, ¬ p b = true := fun b hb hpb => by
          cases hall b (List.mem_cons_of_mem a hb) hpb
        refine ⟨fun b hb hpb => absurd hpb (hnone b hb), ?_⟩
        exact List.pairwise_of_forall_mem_list fun x _ y hy hpy => absurd hpy (hnone y hy)
      · rintro ⟨hhead, -⟩ b hb hpb
        obtain rfl | hb := List.mem_cons.mp hb
        · exact absurd hpb ha
        · exact absurd (hhead b hb hpb) ha

namespace StateServer

variable {serialize : MessageToClient BroadcastedMachineStateUpdateData → Except Fault String}
  {server : StateServer} {message : MessageToClient BroadcastedMachineStateUpdateData}
  {connections : List Connect3DpWebSocketClient}

/-! ### One turn -/

/-- The message can be written. -/
def IsSerializable
    (serialize : MessageToClient BroadcastedMachineStateUpdateData → Except Fault String)
    (message : MessageToClient BroadcastedMachineStateUpdateData) : Prop :=
  ∃ jsonOfMessage, serialize message = .ok jsonOfMessage

/-- The healthy clients of a turn are served: there are none, or the message can be written and
none of them comes after a failing one. -/
def ServedInTurn
    (serialize : MessageToClient BroadcastedMachineStateUpdateData → Except Fault String)
    (message : MessageToClient BroadcastedMachineStateUpdateData)
    (connections : List Connect3DpWebSocketClient) : Prop :=
  (∀ c ∈ connections, c.isOpen = false) ∨ IsSerializable serialize message ∧
    connections.Pairwise fun a b => b.isOpen = true → a.isOpen = true

/-- The turn does not raise: it is nobody's, or the message can be written and no client fails. -/
def Completes
    (serialize : MessageToClient BroadcastedMachineStateUpdateData → Except Fault String)
    (message : MessageToClient BroadcastedMachineStateUpdateData)
    (connections : List Connect3DpWebSocketClient) : Prop :=
  connections = [] ∨ IsSerializable serialize message ∧ ∀ c ∈ connections, c.isOpen = true

/-- The clients that a turn gets to. -/
def served (serialize : MessageToClient BroadcastedMachineStateUpdateData → Except Fault String)
    (message : MessageToClient BroadcastedMachineStateUpdateData)
    (connections : List Connect3DpWebSocketClient) : List String :=
  match serialize message with
  | .ok _ => (connections.takeWhile Connect3DpWebSocketClient.isOpen).map
      Connect3DpWebSocketClient.id
  | .error _ => []

/-- A broadcast to no clients does not take place. -/
def turn (serialize : MessageToClient BroadcastedMachineStateUpdateData → Except Fault String)
    (message : MessageToClient BroadcastedMachineStateUpdateData)
    (connections : List Connect3DpWebSocketClient) : EStateM Fault StateServer Unit :=
  if connections ≠ [] then broadcastMessageAsync serialize message connections else pure ()

theorem forM_sendAsync_ok_iff :
    (∃ server', connections.forM (sendAsync message) server = .ok () server') ↔
      ∀ c ∈ connections, c.isOpen = true := by
  induction connections generalizing server with
  | nil => exact iff_of_true ⟨server, rfl⟩ (List.forall_mem_nil _)
  | cons c connections ih =>
    have hbind : (c :: connections).forM (sendAsync message) server =
        (sendAsync message c >>= fun _ => connections.forM (sendAsync message)) server := rfl
    rw [hbind, sendAsync, List.forall_mem_cons]
    by_cases hopen : c.isOpen = true
    · rw [if_pos hopen, and_iff_right hopen]
      exact ih
    · rw [if_neg hopen]
      refine iff_of_false ?_ fun h => hopen h.1
      rintro ⟨server', hserver⟩
      cases hserver

variable (serialize message) in
/-- **What a turn does**: it serves the clients before the first that fails. -/
theorem delivered_turn (h : Registered server connections) :
    Delivered message (served serialize message connections) server
        (finalState (turn serialize message connections server)) ∧
      ((∃ server', turn serialize message connections server = .ok () server') ↔
        Completes serialize message connections) := by
  unfold turn served Completes IsSerializable
  by_cases hne : connections = []
  · subst hne
    refine ⟨?_, iff_of_true ⟨server, rfl⟩ (.inl rfl)⟩
    cases serialize message <;> exact .refl message server
  · rw [if_pos hne, broadcastMessageAsync]
    cases hserialize : serialize message with
    | error e =>
      rw [ofExcept_error_bind]
      refine ⟨.refl message server, iff_of_false ?_ ?_⟩
      · rintro ⟨server', hserver⟩
        cases hserver
      · rintro (hnil | ⟨⟨json, hjson⟩, -⟩)
        · exact hne hnil
        · cases hjson
    | ok json =>
      rw [ofExcept_ok_bind]
      refine ⟨(forM_sendAsync_delivers h).1, forM_sendAsync_ok_iff.trans ⟨fun hall => ?_, ?_⟩⟩
      · exact .inr ⟨⟨json, rfl⟩, hall⟩
      · exact fun hall => (hall.resolve_left hne).2

variable (serialize message) in
/-- The healthy clients are among those that the turn gets to. -/
theorem forall_mem_served_iff (h : Registered server connections) :
    (∀ c ∈ connections, c.isOpen = true → c.id ∈ served serialize message connections) ↔
      ServedInTurn serialize message connections := by
  unfold served ServedInTurn IsSerializable
  cases hserialize : serialize message with
  | error e =>
    simp only [List.not_mem_nil, imp_false, Bool.not_eq_true]
    exact (or_iff_left (by rintro ⟨⟨json, hjson⟩, -⟩; cases hjson)).symm
  | ok json =>
    have hmem : ∀ c ∈ connections, c.id ∈ (connections.takeWhile
        Connect3DpWebSocketClient.isOpen).map Connect3DpWebSocketClient.id ↔
          c ∈ connections.takeWhile Connect3DpWebSocketClient.isOpen := by
      intro c hc
      refine ⟨fun hid => ?_, List.mem_map_of_mem⟩
      obtain ⟨c', hc', heq⟩ := List.mem_map.mp hid
      rwa [List.inj_on_of_nodup_map h.nodup (List.takeWhile_subset _ hc') hc heq] at hc'
    have hturn : (∀ c ∈ connections, c.isOpen = true → c.id ∈ (connections.takeWhile
        Connect3DpWebSocketClient.isOpen).map Connect3DpWebSocketClient.id) ↔
          connections.Pairwise fun a b => b.isOpen = true → a.isOpen = true := by
      rw [← forall_mem_takeWhile_iff h.nodup.of_map]
      exact forall₂_congr fun c hc => imp_congr_right fun _ => hmem c hc
    rw [hturn]
    constructor
    · exact fun hall => .inr ⟨⟨json, rfl⟩, hall⟩
    · rintro (hnone | ⟨-, hall⟩)
      · refine List.pairwise_of_forall_mem_list fun a _ b hb hopen => ?_
        rw [hnone b hb] at hopen
        cases hopen
      · exact hall

/-! ### One change -/

section Change

variable {machineID : String} {changes : MachineStateChanges} {now : DateTimeOffset}
  {c : Connect3DpWebSocketClient}

abbrev fullMessage (machineID : String) (changes : MachineStateChanges) (now : DateTimeOffset) :
    MessageToClient BroadcastedMachineStateUpdateData :=
  stateUpdated machineID now ⟨some changes, none⟩

abbrev atAGlanceMessage (machineID : String) (changes : MachineStateChanges)
    (now : DateTimeOffset) : MessageToClient BroadcastedMachineStateUpdateData :=
  stateUpdated machineID now ⟨none, some (.of changes)⟩

theorem broadcastFullChanges_eq_turn :
    broadcastFullChanges serialize machineID changes now connections =
      turn serialize (fullMessage machineID changes now) connections := by
  unfold broadcastFullChanges turn
  simp only [ne_eq, List.length_eq_zero_iff]

theorem broadcastAtAGlanceChanges_eq_turn :
    broadcastAtAGlanceChanges serialize machineID changes now
        (server.subscribers machineID .atAGlance) =
      turn serialize (atAGlanceMessage machineID changes now)
        (server.atAGlanceDue machineID changes) := by
  unfold broadcastAtAGlanceChanges turn atAGlanceDue
  by_cases hchanged : (AtAGlanceMachineStateChanges.of changes).hasChanged = true
  · simp only [ne_eq, List.length_eq_zero_iff, hchanged, and_true, if_true]
  · simp [hchanged]

theorem onStateChange_eq_turns (server : StateServer) :
    onStateChange serialize machineID changes now server =
      (turn serialize (fullMessage machineID changes now)
          (server.subscribers machineID .full) >>= fun _ =>
        turn serialize (atAGlanceMessage machineID changes now)
          (server.atAGlanceDue machineID changes)) server := by
  rw [← broadcastFullChanges_eq_turn, ← broadcastAtAGlanceChanges_eq_turn]
  rfl

/-- Every healthy client is sent what is due to it, once, and nothing else. -/
def Isolates (serialize : MessageToClient BroadcastedMachineStateUpdateData → Except Fault String)
    (server : StateServer) (machineID : String) (changes : MachineStateChanges)
    (now : DateTimeOffset) : Prop :=
  ∀ c, server.clients.tryGetValue c.id = some c → c.isOpen = true →
    (finalState (onStateChange serialize machineID changes now server)).clients.tryGetValue c.id =
      some (c.receives (updates (c.detail machineID) machineID changes now))

theorem receives_nil (c : Connect3DpWebSocketClient) : c.receives [] = c := by
  simp [Connect3DpWebSocketClient.receives]

theorem receives_eq_self_iff {messages : List (MessageToClient BroadcastedMachineStateUpdateData)} :
    c.receives messages = c ↔ messages = [] := by
  constructor
  · intro h
    exact List.append_right_eq_self.mp (congrArg Connect3DpWebSocketClient.sent h)
  · rintro rfl
    exact receives_nil c

/-- A client of the first turn is no client of the second. -/
theorem notMem_atAGlanceDue_of_full (hdetail : c.detail machineID = some .full) :
    c ∉ server.atAGlanceDue machineID changes := by
  intro hmem
  obtain ⟨-, hdetail', -⟩ := mem_atAGlanceDue_iff.mp hmem
  rw [hdetail] at hdetail'
  exact absurd (Option.some.inj hdetail') (by decide)

/-- Who is served in a turn is one of its clients. -/
theorem exists_of_mem_served {id : String} (h : id ∈ served serialize message connections) :
    ∃ c ∈ connections, c.id = id := by
  unfold served at h
  split at h
  · obtain ⟨c, hc, hid⟩ := List.mem_map.mp h
    exact ⟨c, List.takeWhile_subset _ hc, hid⟩
  · cases h

theorem registered_atAGlanceDue (server : StateServer) (machineID : String)
    (changes : MachineStateChanges) :
    Registered server (server.atAGlanceDue machineID changes) := by
  unfold atAGlanceDue
  split
  · exact registered_subscribers server machineID .atAGlance
  · exact ⟨nofun, List.nodup_nil⟩

/-- A client that is served in the first turn is subscribed in full. -/
theorem detail_of_mem_served_full (hlookup : server.clients.tryGetValue c.id = some c)
    (h : c.id ∈ served serialize message (server.subscribers machineID .full)) :
    c.detail machineID = some .full := by
  obtain ⟨c', hc', hid⟩ := exists_of_mem_served h
  obtain ⟨hlookup', hdetail⟩ := mem_subscribers_iff.mp hc'
  rwa [eq_of_id_eq hlookup hlookup' hid] at hdetail

/-- A client that is served in the second turn waited for it. -/
theorem mem_atAGlanceDue_of_mem_served (hlookup : server.clients.tryGetValue c.id = some c)
    (h : c.id ∈ served serialize message (server.atAGlanceDue machineID changes)) :
    c ∈ server.atAGlanceDue machineID changes := by
  obtain ⟨c', hc', hid⟩ := exists_of_mem_served h
  rwa [eq_of_id_eq hlookup (mem_atAGlanceDue_iff.mp hc').1 hid] at hc'

/-- **Both turns**: the second one takes place when the first does not raise. -/
theorem delivered_onStateChange
    (serialize : MessageToClient BroadcastedMachineStateUpdateData → Except Fault String)
    (server : StateServer) (machineID : String) (changes : MachineStateChanges)
    (now : DateTimeOffset) :
    ∃ between reached, Delivered (fullMessage machineID changes now)
        (served serialize (fullMessage machineID changes now)
          (server.subscribers machineID .full)) server between ∧
      Delivered (atAGlanceMessage machineID changes now) reached between
        (finalState (onStateChange serialize machineID changes now server)) ∧
      (Completes serialize (fullMessage machineID changes now)
          (server.subscribers machineID .full) →
        reached = served serialize (atAGlanceMessage machineID changes now)
          (server.atAGlanceDue machineID changes)) ∧
      (¬ Completes serialize (fullMessage machineID changes now)
          (server.subscribers machineID .full) → reached = []) := by
  obtain ⟨hfirst, hcompletes⟩ := delivered_turn serialize
    (fullMessage machineID changes now) (registered_subscribers server machineID .full)
  rw [onStateChange_eq_turns]
  cases hrun : turn serialize (fullMessage machineID changes now)
      (server.subscribers machineID .full) server with
  | error e between =>
    have hnot : ¬ Completes serialize (fullMessage machineID changes now)
        (server.subscribers machineID .full) := by
      rw [← hcompletes, hrun]
      exact nofun
    rw [hrun] at hfirst
    have hfinal : (turn serialize (fullMessage machineID changes now)
        (server.subscribers machineID .full) >>= fun _ =>
          turn serialize (atAGlanceMessage machineID changes now)
            (server.atAGlanceDue machineID changes)) server = .error e between :=
      run_bind_error hrun
    rw [hfinal]
    exact ⟨between, [], hfirst, .refl _ between, fun h => absurd h hnot, fun _ => rfl⟩
  | ok a between =>
    have hyes : Completes serialize (fullMessage machineID changes now)
        (server.subscribers machineID .full) := hcompletes.mp ⟨between, hrun⟩
    rw [hrun] at hfirst
    have hregistered : Registered between (server.atAGlanceDue machineID changes) := by
      refine hfirst.registered (registered_atAGlanceDue server machineID changes) fun c hc hid => ?_
      obtain ⟨hlookup, hdetail, -⟩ := mem_atAGlanceDue_iff.mp hc
      rw [detail_of_mem_served_full hlookup hid] at hdetail
      exact absurd (Option.some.inj hdetail) (by decide)
    obtain ⟨hsecond, -⟩ := delivered_turn serialize
      (atAGlanceMessage machineID changes now) hregistered
    have hfinal : (turn serialize (fullMessage machineID changes now)
        (server.subscribers machineID .full) >>= fun _ =>
          turn serialize (atAGlanceMessage machineID changes now)
            (server.atAGlanceDue machineID changes)) server =
        turn serialize (atAGlanceMessage machineID changes now)
          (server.atAGlanceDue machineID changes) between := run_bind_ok hrun
    rw [hfinal]
    exact ⟨between, _, hfirst, hsecond, fun _ => rfl, fun h => absurd hyes h⟩

/-- Each healthy client is served in its own turn. -/
theorem isolates_iff_of_delivered {between server' : StateServer} {reached : List String}
    (hfirst : Delivered (fullMessage machineID changes now)
      (served serialize (fullMessage machineID changes now) (server.subscribers machineID .full))
      server between)
    (hsecond : Delivered (atAGlanceMessage machineID changes now) reached between server')
    (hreached : ∀ id ∈ reached, id ∈ served serialize (atAGlanceMessage machineID changes now)
      (server.atAGlanceDue machineID changes)) :
    (∀ c, server.clients.tryGetValue c.id = some c → c.isOpen = true →
      server'.clients.tryGetValue c.id =
        some (c.receives (updates (c.detail machineID) machineID changes now))) ↔
    (∀ c ∈ server.subscribers machineID .full, c.isOpen = true →
      c.id ∈ served serialize (fullMessage machineID changes now)
        (server.subscribers machineID .full)) ∧
      ∀ c ∈ server.atAGlanceDue machineID changes, c.isOpen = true → c.id ∈ reached := by
  have hafter : ∀ c, server.clients.tryGetValue c.id = some c →
      server'.clients.tryGetValue c.id = some
        (let c' := if c.id ∈ served serialize (fullMessage machineID changes now)
          (server.subscribers machineID .full) then
            c.receives [fullMessage machineID changes now] else c
        if c.id ∈ reached then c'.receives [atAGlanceMessage machineID changes now] else c') := by
    intro c hlookup
    rw [hsecond.clients, hfirst.clients, hlookup, Option.map_some, Option.map_some]
  have hfull : ∀ c, server.clients.tryGetValue c.id = some c → c.detail machineID = some .full →
      c.id ∉ reached := fun c hlookup hdetail hmem =>
    notMem_atAGlanceDue_of_full hdetail (mem_atAGlanceDue_of_mem_served hlookup (hreached _ hmem))
  have hother : ∀ c, server.clients.tryGetValue c.id = some c → c.detail machineID ≠ some .full →
      c.id ∉ served serialize (fullMessage machineID changes now)
        (server.subscribers machineID .full) := fun c hlookup hdetail hmem =>
    hdetail (detail_of_mem_served_full hlookup hmem)
  constructor
  · intro h
    refine ⟨fun c hc hopen => ?_, fun c hc hopen => ?_⟩
    · obtain ⟨hlookup, hdetail⟩ := mem_subscribers_iff.mp hc
      have hstate := (hafter c hlookup).symm.trans (h c hlookup hopen)
      rw [if_neg (hfull c hlookup hdetail), updates_full hdetail] at hstate
      by_contra hmissed
      rw [if_neg hmissed] at hstate
      cases receives_eq_self_iff.mp (Option.some.inj hstate).symm
    · obtain ⟨hlookup, hdetail, hchanged⟩ := mem_atAGlanceDue_iff.mp hc
      have hne : c.detail machineID ≠ some .full := by
        rw [hdetail]
        decide
      have hstate := (hafter c hlookup).symm.trans (h c hlookup hopen)
      rw [if_neg (hother c hlookup hne), updates_atAGlance hdetail hchanged] at hstate
      by_contra hmissed
      rw [if_neg hmissed] at hstate
      cases receives_eq_self_iff.mp (Option.some.inj hstate).symm
  · rintro ⟨hallFull, hallAtAGlance⟩ c hlookup hopen
    rw [hafter c hlookup]
    by_cases hdetail : c.detail machineID = some .full
    · rw [if_neg (hfull c hlookup hdetail), updates_full hdetail,
        if_pos (hallFull c (mem_subscribers_iff.mpr ⟨hlookup, hdetail⟩) hopen)]
    · rw [if_neg (hother c hlookup hdetail)]
      by_cases hdue : c ∈ server.atAGlanceDue machineID changes
      · obtain ⟨-, hglance, hchanged⟩ := mem_atAGlanceDue_iff.mp hdue
        rw [if_pos (hallAtAGlance c hdue hopen), updates_atAGlance hglance hchanged]
      · -- nothing is due to this client
        have hnone : updates (c.detail machineID) machineID changes now = [] := by
          by_contra hne
          rcases detail_of_updates_ne_nil hne with h | h
          · exact hdetail h
          · exact hdue (mem_atAGlanceDue_iff.mpr ⟨hlookup, h⟩)
        have hmissed : c.id ∉ reached := fun hmem =>
          hdue (mem_atAGlanceDue_of_mem_served hlookup (hreached _ hmem))
        rw [if_neg hmissed, hnone, receives_nil]

/-- **When a failing client harms no healthy one**: no healthy client comes after a failing one in
its turn, and no healthy client at a glance waits for a turn of the full changes that fails. -/
theorem isolates_iff
    (serialize : MessageToClient BroadcastedMachineStateUpdateData → Except Fault String)
    (server : StateServer) (machineID : String) (changes : MachineStateChanges)
    (now : DateTimeOffset) :
    Isolates serialize server machineID changes now ↔
      ServedInTurn serialize (fullMessage machineID changes now)
        (server.subscribers machineID .full) ∧
      ((∀ c ∈ server.atAGlanceDue machineID changes, c.isOpen = false) ∨
        Completes serialize (fullMessage machineID changes now)
          (server.subscribers machineID .full) ∧
        ServedInTurn serialize (atAGlanceMessage machineID changes now)
          (server.atAGlanceDue machineID changes)) := by
  obtain ⟨between, reached, hfirst, hsecond, hyes, hno⟩ :=
    delivered_onStateChange serialize server machineID changes now
  have hturn := forall_mem_served_iff serialize
    (fullMessage machineID changes now)
    (registered_subscribers server machineID .full)
  have hturn' := forall_mem_served_iff serialize
    (atAGlanceMessage machineID changes now)
    (registered_atAGlanceDue server machineID changes)
  by_cases hcompletes : Completes serialize (fullMessage machineID changes now)
      (server.subscribers machineID .full)
  · obtain rfl := hyes hcompletes
    have hserved := isolates_iff_of_delivered hfirst hsecond fun id hid => hid
    rw [Isolates, hserved, hturn, hturn']
    refine and_congr_right fun _ => ⟨fun h => .inr ⟨hcompletes, h⟩, ?_⟩
    rintro (hclosed | ⟨-, h⟩)
    · exact .inl hclosed
    · exact h
  · obtain rfl := hno hcompletes
    have hserved := isolates_iff_of_delivered hfirst hsecond nofun
    rw [Isolates, hserved, hturn]
    refine and_congr_right fun _ => ⟨fun h => .inl fun c hc => ?_, ?_⟩
    · rw [← Bool.not_eq_true]
      exact fun hopen => by cases h c hc hopen
    · rintro (hclosed | ⟨h, -⟩) c hc hopen
      · rw [hclosed c hc] at hopen
        cases hopen
      · exact absurd h hcompletes

end Change

/-- A client with the full detail of the machine `m`. -/
private def fullClient (id : String) (isOpen : Bool) : Connect3DpWebSocketClient :=
  ⟨id, isOpen, [], (∅ : Dictionary String MachineSubscription).set "m" ⟨.full⟩⟩

/-- A failing client, and a healthy one after it. -/
private def failingFirst : StateServer :=
  ((∅ : StateServer).setClient (fullClient "a" false)).setClient
    (fullClient "b" true)

/-- A new nickname. -/
private def renamed : MachineStateChanges :=
  { (default : MachineStateChanges) with nickname := ⟨true, some none, some (some "m")⟩ }

/-- The failing client keeps the healthy one from its message. -/
theorem isolates_fails : ¬ Isolates (fun _ => .ok "") failingFirst "m" renamed default := by
  intro h
  have hb := h (fullClient "b" true) rfl rfl
  have hsent := congrArg (Option.map fun c => c.sent.length) hb
  revert hsent
  decide

end StateServer

end Connect3Dp
