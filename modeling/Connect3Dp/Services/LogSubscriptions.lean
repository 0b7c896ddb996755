import Connect3Dp.Collections.Dictionary
import Connect3Dp.Runtime.Transition
import Mathlib.Data.Multiset.UnionInter

/-!
# Who is registered for logs

`BufferedLoggerProvider` writes every log entry to the channels in its bag `_subscribers`. A client
that subscribes gets a channel there, and a channel that is disposed takes one out again: whichever
`ConcurrentBag.TryTake` hands it, since the bag is not told which.

A run is a list of actions. What `TryTake` hands out is not determined, so a run has many
executions (`Executes`), which have the clients in common.
-/

namespace Connect3Dp

/-- The clients of a `WebSocketServer`, by the channels of their `LogBroadcast`s, and the bag of
the `BufferedLoggerProvider`. The ids and the channels that were never used are those from
`nextClient` and `nextChannel` on. -/
structure LogServer where
  clients : Dictionary ℕ (Option ℕ)
  nextClient : ℕ
  subscribers : Multiset ℕ
  nextChannel : ℕ

/-- What the clients do, and how their sessions end. -/
inductive LogAction
  | connect
  | subscribe (client : ℕ)
  | unsubscribe (client : ℕ)
  /-- The receive loop ends because the socket was closed. -/
  | close (client : ℕ)
  /-- An exception leaves the receive loop. -/
  | receiveError (client : ℕ)

namespace LogServer

def initial : LogServer := ⟨∅, 0, 0, 0⟩

/-- What `TryTake` can hand out: any element, if there is one. -/
def CanTake (s : LogServer) (taken : ℕ) : Prop := s.subscribers = 0 ∨ taken ∈ s.subscribers

/-- `BufferedLoggerChannel.Dispose`. The bag does not learn which channel it is. -/
def disposeChannel (taken : ℕ) (s : LogServer) : LogServer :=
  { s with subscribers := s.subscribers.erase taken }

/-- `StartLogForwarding`. -/
def startLogForwarding (client : ℕ) (s : LogServer) : LogServer :=
  match s.clients.tryGetValue client with
  | some none => { s with
      clients := s.clients.set client (some s.nextChannel)
      subscribers := s.nextChannel ::ₘ s.subscribers
      nextChannel := s.nextChannel + 1 }
  | _ => s

/-- `StopLogForwarding`. -/
def stopLogForwarding (taken client : ℕ) (s : LogServer) : LogServer :=
  match s.clients.tryGetValue client with
  | some (some _) =>
    let s := s.disposeChannel taken
    { s with clients := s.clients.set client none }
  | _ => s

/-- `Connect3DpWebSocketClient.Dispose`, which leaves its `LogBroadcast` as it is. -/
def disposeClient (taken client : ℕ) (s : LogServer) : LogServer :=
  match s.clients.tryGetValue client with
  | some (some _) => s.disposeChannel taken
  | _ => s

/-- `_Clients.TryRemove`, at the end of `AcceptWebSocketAsync`. -/
def removeClient (client : ℕ) (s : LogServer) : LogServer :=
  { s with clients := s.clients.remove client }

/-- What an action does, where `TryTake` hands out `taken`. A client is disposed of by its receive
loop only. -/
def perform (taken : ℕ) (s : LogServer) : LogAction → LogServer
  | .connect =>
    { s with clients := s.clients.set s.nextClient none, nextClient := s.nextClient + 1 }
  | .subscribe client => s.startLogForwarding client
  | .unsubscribe client => s.stopLogForwarding taken client
  | .close client => (s.disposeClient taken client).removeClient client
  | .receiveError client => s.removeClient client

/-- A run of actions can lead to a state. -/
inductive Executes : List LogAction → LogServer → Prop
  | start : Executes [] initial
  | step {past : List LogAction} {s : LogServer} (action : LogAction) (taken : ℕ) :
    Executes past s → s.CanTake taken → Executes (past ++ [action]) (s.perform taken action)

/-- The channels of the connected clients whose `LogBroadcast` is set. -/
def channels (clients : Dictionary ℕ (Option ℕ)) : Multiset ℕ :=
  (clients.entries : Multiset (ℕ × Option ℕ)).filterMap Prod.snd

/-- The registered channels are exactly those. -/
def Registered (s : LogServer) : Prop := s.subscribers = channels s.clients

/-- A client is subscribed. -/
def IsSubscribed (s : LogServer) (client : ℕ) : Prop :=
  ∃ channel, s.clients.tryGetValue client = some (some channel)

/-- The action takes no channel out that is not its own, and leaves none of its own. -/
def Keeps (s : LogServer) : LogAction → Prop
  | .unsubscribe client | .close client =>
    s.IsSubscribed client → ∀ other, s.IsSubscribed other → other = client
  | .receiveError client => ¬ s.IsSubscribed client
  | .connect | .subscribe _ => True

/-! ### The channels of the clients -/

/-- The channel of one client. -/
def channelOf (logBroadcast : Option ℕ) : Multiset ℕ :=
  logBroadcast.elim 0 fun channel => {channel}

theorem channels_of_perm {clients : Dictionary ℕ (Option ℕ)} {client : ℕ}
    {logBroadcast : Option ℕ} {others : List (ℕ × Option ℕ)}
    (h : clients.entries.Perm ((client, logBroadcast) :: others)) :
    channels clients =
      channelOf logBroadcast + (others : Multiset (ℕ × Option ℕ)).filterMap Prod.snd := by
  have hcons : (clients.entries : Multiset (ℕ × Option ℕ)) = (client, logBroadcast) ::ₘ ↑others :=
    Multiset.coe_eq_coe.mpr h
  rw [channels, hcons]
  cases logBroadcast with
  | none =>
    rw [Multiset.filterMap_cons_none _ _ rfl, channelOf, Option.elim_none, Multiset.zero_add]
  | some channel =>
    have hsome : Prod.snd (client, some channel) = some channel := rfl
    rw [Multiset.filterMap_cons_some _ _ _ hsome, channelOf, Option.elim_some,
      Multiset.singleton_add]

theorem channels_set (clients : Dictionary ℕ (Option ℕ)) (client : ℕ) (logBroadcast : Option ℕ) :
    channels (clients.set client logBroadcast) =
      channelOf logBroadcast + channels (clients.remove client) :=
  channels_of_perm (clients.entries_set_perm client logBroadcast)

theorem channels_eq {clients : Dictionary ℕ (Option ℕ)} {client : ℕ} {logBroadcast : Option ℕ}
    (h : clients.tryGetValue client = some logBroadcast) :
    channels clients = channelOf logBroadcast + channels (clients.remove client) :=
  channels_of_perm (Dictionary.entries_perm h)

theorem mem_channels_iff {clients : Dictionary ℕ (Option ℕ)} {channel : ℕ} :
    channel ∈ channels clients ↔
      ∃ client, clients.tryGetValue client = some (some channel) := by
  simp only [channels, Multiset.mem_filterMap, Multiset.mem_coe, Prod.exists,
    Dictionary.mem_entries_iff]
  constructor
  · rintro ⟨client, logBroadcast, hclient, rfl⟩
    exact ⟨client, hclient⟩
  · rintro ⟨client, hclient⟩
    exact ⟨client, _, hclient, rfl⟩

/-- What the clients hold is new to what comes next, and no two of them hold the same channel. -/
structure Fresh (s : LogServer) : Prop where
  client : ∀ client logBroadcast, s.clients.tryGetValue client = some logBroadcast →
    client < s.nextClient
  channel : ∀ channel ∈ channels s.clients, channel < s.nextChannel
  nodup : (channels s.clients).Nodup

theorem fresh_initial : Fresh initial := by
  refine ⟨?_, ?_, Multiset.nodup_zero⟩
  · intro client logBroadcast h
    cases h
  · intro channel h
    exact absurd h (Multiset.notMem_zero channel)

theorem channels_remove_le (clients : Dictionary ℕ (Option ℕ)) (client : ℕ) :
    channels (clients.remove client) ≤ channels clients := by
  cases hclient : clients.tryGetValue client with
  | none => rw [Dictionary.remove_eq_self hclient]
  | some logBroadcast =>
    rw [channels_eq hclient]
    exact Multiset.le_add_left _ _

/-- A client that is given no channel, or one that is new. -/
theorem Fresh.set {s s' : LogServer} (h : s.Fresh) {client : ℕ} {logBroadcast : Option ℕ}
    (hclients : s'.clients = s.clients.set client logBroadcast)
    (hnext : s.nextClient ≤ s'.nextClient) (hclient : client < s'.nextClient)
    (hchannel : s.nextChannel ≤ s'.nextChannel)
    (hnew : ∀ channel, logBroadcast = some channel →
      s.nextChannel ≤ channel ∧ channel < s'.nextChannel) : s'.Fresh := by
  have hremove : channels (s.clients.remove client) ≤ channels s.clients :=
    channels_remove_le s.clients client
  refine ⟨fun client' logBroadcast' h' => ?_, fun channel h' => ?_, ?_⟩
  · rw [hclients, Dictionary.tryGetValue_set] at h'
    by_cases heq : client' = client
    · exact heq ▸ hclient
    · rw [if_neg heq] at h'
      exact lt_of_lt_of_le (h.client client' logBroadcast' h') hnext
  · rw [hclients, channels_set, Multiset.mem_add] at h'
    rcases h' with hown | hother
    · cases logBroadcast with
      | none => exact absurd hown (Multiset.notMem_zero channel)
      | some channel' => exact Multiset.mem_singleton.mp hown ▸ (hnew channel' rfl).2
    · exact lt_of_lt_of_le (h.channel channel (Multiset.mem_of_le hremove hother)) hchannel
  · rw [hclients, channels_set]
    refine Multiset.nodup_add.mpr ⟨?_, Multiset.nodup_of_le hremove h.nodup, ?_⟩
    · cases logBroadcast with
      | none => exact Multiset.nodup_zero
      | some channel => exact Multiset.nodup_singleton channel
    · refine Multiset.disjoint_left.mpr ?_
      intro channel hown hother
      cases logBroadcast with
      | none => exact absurd hown (Multiset.notMem_zero channel)
      | some channel' =>
        have hlt := h.channel channel (Multiset.mem_of_le hremove hother)
        have hle := (hnew channel' rfl).1
        rw [Multiset.mem_singleton.mp hown] at hlt
        exact absurd hlt (not_lt_of_ge hle)

theorem Fresh.removeClient {s s' : LogServer} (h : s.Fresh) {client : ℕ}
    (hclients : s'.clients = s.clients.remove client) (hnext : s'.nextClient = s.nextClient)
    (hchannel : s'.nextChannel = s.nextChannel) : s'.Fresh := by
  have hremove : channels (s.clients.remove client) ≤ channels s.clients :=
    channels_remove_le s.clients client
  refine ⟨fun client' logBroadcast h' => ?_, fun channel h' => ?_, ?_⟩
  · rw [hclients, Dictionary.tryGetValue_remove] at h'
    by_cases heq : client' = client
    · rw [if_pos heq] at h'
      cases h'
    · rw [if_neg heq] at h'
      exact hnext ▸ h.client client' logBroadcast h'
  · rw [hclients] at h'
    exact hchannel ▸ h.channel channel (Multiset.mem_of_le hremove h')
  · rw [hclients]
    exact Multiset.nodup_of_le hremove h.nodup

/-! ### What an action does -/

/-- Where a client is not subscribed, there is none, or it has no channel. -/
theorem not_isSubscribed_cases {s : LogServer} {client : ℕ} (h : ¬ s.IsSubscribed client) :
    s.clients.tryGetValue client = none ∨ s.clients.tryGetValue client = some none := by
  cases hclient : s.clients.tryGetValue client with
  | none => exact .inl rfl
  | some logBroadcast =>
    cases logBroadcast with
    | none => exact .inr rfl
    | some channel => exact absurd ⟨channel, hclient⟩ h

theorem stopLogForwarding_of_isSubscribed {s : LogServer} {client : ℕ}
    (h : s.IsSubscribed client) (taken : ℕ) : s.stopLogForwarding taken client =
      { s with
        clients := s.clients.set client none
        subscribers := s.subscribers.erase taken } := by
  obtain ⟨channel, hclient⟩ := h
  rw [stopLogForwarding, hclient]
  rfl

theorem stopLogForwarding_of_not_isSubscribed {s : LogServer} {client : ℕ}
    (h : ¬ s.IsSubscribed client) (taken : ℕ) : s.stopLogForwarding taken client = s := by
  rw [stopLogForwarding]
  obtain hclient | hclient := not_isSubscribed_cases h
  · rw [hclient]
  · rw [hclient]

theorem disposeClient_of_isSubscribed {s : LogServer} {client : ℕ} (h : s.IsSubscribed client)
    (taken : ℕ) : s.disposeClient taken client = s.disposeChannel taken := by
  obtain ⟨channel, hclient⟩ := h
  rw [disposeClient, hclient]

theorem disposeClient_of_not_isSubscribed {s : LogServer} {client : ℕ}
    (h : ¬ s.IsSubscribed client) (taken : ℕ) : s.disposeClient taken client = s := by
  rw [disposeClient]
  obtain hclient | hclient := not_isSubscribed_cases h
  · rw [hclient]
  · rw [hclient]

theorem Fresh.perform {s : LogServer} (h : s.Fresh) (taken : ℕ) (action : LogAction) :
    (s.perform taken action).Fresh := by
  cases action with
  | connect =>
    exact h.set rfl (Nat.le_succ _) (Nat.lt_succ_self _) le_rfl fun _ hc => by cases hc
  | subscribe client =>
    simp only [LogServer.perform, startLogForwarding]
    split
    · rename_i hclient
      refine h.set rfl le_rfl (h.client client none hclient) (Nat.le_succ _) fun channel hc => ?_
      cases hc
      exact ⟨le_rfl, Nat.lt_succ_self _⟩
    · exact h
  | unsubscribe client =>
    by_cases hsubscribed : s.IsSubscribed client
    · rw [LogServer.perform, stopLogForwarding_of_isSubscribed hsubscribed]
      obtain ⟨channel, hclient⟩ := hsubscribed
      exact h.set rfl le_rfl (h.client client _ hclient) le_rfl fun _ hc => by cases hc
    · rw [LogServer.perform, stopLogForwarding_of_not_isSubscribed hsubscribed]
      exact h
  | close client =>
    by_cases hsubscribed : s.IsSubscribed client
    · rw [LogServer.perform, disposeClient_of_isSubscribed hsubscribed]
      exact h.removeClient rfl rfl rfl
    · rw [LogServer.perform, disposeClient_of_not_isSubscribed hsubscribed]
      exact h.removeClient rfl rfl rfl
  | receiveError client => exact h.removeClient rfl rfl rfl

/-- The last action of a run. -/
theorem Executes.last {past : List LogAction} {action : LogAction} {s' : LogServer}
    (h : Executes (past ++ [action]) s') :
    ∃ s taken, Executes past s ∧ s.CanTake taken ∧ s' = s.perform taken action := by
  generalize hrun : past ++ [action] = run at h
  cases h with
  | start => cases List.append_ne_nil_of_right_ne_nil past (List.cons_ne_nil action []) hrun
  | step action' taken hs htake =>
    obtain ⟨rfl, hactions⟩ := List.append_inj' hrun rfl
    cases hactions
    exact ⟨_, taken, hs, htake, rfl⟩

theorem Executes.fresh {past : List LogAction} {s : LogServer} (h : Executes past s) : s.Fresh := by
  induction h with
  | start => exact fresh_initial
  | step action taken _ _ ih => exact ih.perform taken action

/-! ### Who stays registered -/

/-- The channels without those of a client that is not subscribed are the same. -/
theorem channels_remove_of_not_isSubscribed {s : LogServer} {client : ℕ}
    (h : ¬ s.IsSubscribed client) : channels (s.clients.remove client) = channels s.clients := by
  cases hclient : s.clients.tryGetValue client with
  | none => rw [Dictionary.remove_eq_self hclient]
  | some logBroadcast =>
    cases logBroadcast with
    | none => rw [channels_eq hclient, channelOf, Option.elim_none, Multiset.zero_add]
    | some channel => exact absurd ⟨channel, hclient⟩ h

/-- A client leaves the bag right, whatever is taken, just when it is the only subscribed one. -/
theorem erase_eq_remove_iff {s : LogServer} (hfresh : s.Fresh) (hregistered : s.Registered)
    {client : ℕ} (h : s.IsSubscribed client) :
    (∀ taken, s.CanTake taken →
        s.subscribers.erase taken = channels (s.clients.remove client)) ↔
      ∀ other, s.IsSubscribed other → other = client := by
  obtain ⟨channel, hclient⟩ := h
  have hbag : s.subscribers = channel ::ₘ channels (s.clients.remove client) := by
    rw [hregistered, channels_eq hclient, channelOf, Option.elim_some, Multiset.singleton_add]
  have hown : channel ∉ channels (s.clients.remove client) := by
    have hnodup := hfresh.nodup
    rw [← hregistered, hbag] at hnodup
    exact (Multiset.nodup_cons.mp hnodup).1
  constructor
  · intro hall other ⟨channel', hother⟩
    by_contra hne
    have hmem : channel' ∈ channels (s.clients.remove client) := by
      refine mem_channels_iff.mpr ⟨other, ?_⟩
      rw [Dictionary.tryGetValue_remove, if_neg hne]
      exact hother
    -- `TryTake` can hand out the channel of the other client, and the own one stays.
    have htaken : channel' ∈ s.subscribers := hbag ▸ Multiset.mem_cons_of_mem hmem
    have hleft : channel ∈ s.subscribers.erase channel' := by
      have hne' : channel ≠ channel' := fun heq => hown (heq ▸ hmem)
      rw [Multiset.mem_erase_of_ne hne', hbag]
      exact Multiset.mem_cons_self channel _
    rw [hall channel' (.inr htaken)] at hleft
    exact hown hleft
  · intro honly taken htake
    have hrest : channels (s.clients.remove client) = 0 := by
      refine Multiset.eq_zero_of_forall_notMem fun channel' hmem => ?_
      obtain ⟨other, hother⟩ := mem_channels_iff.mp hmem
      rw [Dictionary.tryGetValue_remove] at hother
      by_cases hne : other = client
      · rw [if_pos hne] at hother
        cases hother
      · rw [if_neg hne] at hother
        exact hne (honly other ⟨channel', hother⟩)
    rw [hrest] at hbag ⊢
    have htaken : taken = channel := by
      rcases htake with hempty | hmem
      · rw [hempty] at hbag
        exact absurd hbag.symm Multiset.cons_ne_zero
      · rw [hbag] at hmem
        exact Multiset.mem_singleton.mp hmem
    rw [hbag, htaken]
    exact Multiset.erase_cons_head channel 0

theorem exists_canTake (s : LogServer) : ∃ taken, s.CanTake taken := by
  rcases Multiset.empty_or_exists_mem s.subscribers with hempty | ⟨taken, htaken⟩
  · exact ⟨0, .inl hempty⟩
  · exact ⟨taken, .inr htaken⟩

/-- **An action keeps the registrations**, whatever `TryTake` hands out, just when it is one of
those that do. -/
theorem registered_perform_iff {s : LogServer} (hfresh : s.Fresh) (hregistered : s.Registered)
    (action : LogAction) :
    (∀ taken, s.CanTake taken → (s.perform taken action).Registered) ↔ s.Keeps action := by
  cases action with
  | connect =>
    refine iff_of_true (fun taken _ => ?_) trivial
    have hnew : s.clients.tryGetValue s.nextClient = none := by
      cases hclient : s.clients.tryGetValue s.nextClient with
      | none => rfl
      | some logBroadcast => exact absurd (hfresh.client _ _ hclient) (Nat.lt_irrefl _)
    have hset : channels (s.clients.set s.nextClient none) = channels s.clients := by
      rw [channels_set, Dictionary.remove_eq_self hnew, channelOf, Option.elim_none,
        Multiset.zero_add]
    exact hregistered.trans hset.symm
  | subscribe client =>
    refine iff_of_true (fun taken _ => ?_) trivial
    simp only [perform, startLogForwarding]
    split
    · rename_i hclient
      have hset : channels (s.clients.set client (some s.nextChannel)) =
          s.nextChannel ::ₘ channels s.clients := by
        rw [channels_set, channels_eq hclient, channelOf, channelOf, Option.elim_some,
          Option.elim_none, Multiset.zero_add, Multiset.singleton_add]
      exact (congrArg (s.nextChannel ::ₘ ·) hregistered).trans hset.symm
    · exact hregistered
  | unsubscribe client =>
    by_cases hsubscribed : s.IsSubscribed client
    · refine Iff.trans ?_ ((erase_eq_remove_iff hfresh hregistered hsubscribed).trans
        ⟨fun h _ => h, fun h => h hsubscribed⟩)
      refine forall₂_congr fun taken _ => ?_
      have hset : channels (s.clients.set client none) = channels (s.clients.remove client) := by
        rw [channels_set, channelOf, Option.elim_none, Multiset.zero_add]
      rw [perform, stopLogForwarding_of_isSubscribed hsubscribed, Registered]
      exact iff_of_eq (congrArg (s.subscribers.erase taken = ·) hset)
    · refine iff_of_true (fun taken _ => ?_) fun h => absurd h hsubscribed
      rw [perform, stopLogForwarding_of_not_isSubscribed hsubscribed]
      exact hregistered
  | close client =>
    by_cases hsubscribed : s.IsSubscribed client
    · refine Iff.trans ?_ ((erase_eq_remove_iff hfresh hregistered hsubscribed).trans
        ⟨fun h _ => h, fun h => h hsubscribed⟩)
      refine forall₂_congr fun taken _ => ?_
      rw [perform, disposeClient_of_isSubscribed hsubscribed]
      exact Iff.rfl
    · refine iff_of_true (fun taken _ => ?_) fun h => absurd h hsubscribed
      rw [perform, disposeClient_of_not_isSubscribed hsubscribed]
      exact hregistered.trans (channels_remove_of_not_isSubscribed hsubscribed).symm
  | receiveError client =>
    obtain ⟨taken, htake⟩ := s.exists_canTake
    constructor
    · rintro hall ⟨channel, hclient⟩
      have hbag : s.subscribers = channels (s.clients.remove client) := hall taken htake
      rw [hregistered, channels_eq hclient, channelOf, Option.elim_some,
        Multiset.singleton_add] at hbag
      have hcard := congrArg Multiset.card hbag
      rw [Multiset.card_cons] at hcard
      omega
    · intro hnot taken _
      exact hregistered.trans (channels_remove_of_not_isSubscribed hnot).symm

/-- **The registered channels are those of the subscribed clients** all along exactly those runs in
which a subscribed client unsubscribes or closes only while no other is subscribed, and no session
of a subscribed client ends with an exception. -/
theorem registered_iff_keeps (run : List LogAction) :
    (∀ past, past <+: run → ∀ s, Executes past s → s.Registered) ↔
      ∀ past action, past ++ [action] <+: run → ∀ s, Executes past s → s.Keeps action := by
  refine forall_prefix_iff ?_ ?_ run
  · intro s hs
    generalize hrun : ([] : List LogAction) = run at hs
    cases hs with
    | start => rfl
    | step => cases List.append_ne_nil_of_right_ne_nil _ (List.cons_ne_nil _ []) hrun.symm
  · intro past action hpast
    constructor
    · intro hnext s hs
      refine (registered_perform_iff hs.fresh (hpast s hs) action).mp fun taken htake => ?_
      exact hnext _ (.step action taken hs htake)
    · intro hkeeps s' hs'
      obtain ⟨s, taken, hs, htake, rfl⟩ := hs'.last
      exact (registered_perform_iff hs.fresh (hpast s hs) action).mpr (hkeeps s hs) taken htake

/-- Of two subscribed clients, one unsubscribes and the other's channel is taken out. -/
theorem registered_fails :
    ¬ ∀ (run : List LogAction) (s : LogServer), Executes run s → s.Registered := by
  intro hall
  have h₁ : Executes [.connect] _ := .step .connect 0 .start (.inl rfl)
  have h₂ : Executes [.connect, .connect] _ := .step .connect 0 h₁ (.inl rfl)
  have h₃ : Executes [.connect, .connect, .subscribe 0] _ := .step (.subscribe 0) 0 h₂ (.inl rfl)
  have h₄ : Executes [.connect, .connect, .subscribe 0, .subscribe 1] _ :=
    .step (.subscribe 1) 0 h₃ (.inr (by decide))
  have h₅ : Executes [.connect, .connect, .subscribe 0, .subscribe 1, .unsubscribe 0] _ :=
    .step (.unsubscribe 0) 1 h₄ (.inr (by decide))
  have hregistered := hall _ _ h₅
  exact absurd hregistered (by unfold Registered; decide)

end LogServer

end Connect3Dp
