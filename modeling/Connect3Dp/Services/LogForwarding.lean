import Connect3Dp.Runtime.Arithmetic
import Connect3Dp.Runtime.Transition
import Mathlib.Data.Finset.Basic
import Mathlib.Logic.Function.Basic

/-!
# Forwarding logs

Every client that subscribes to logs gets a loop of its own, `ForwardLogs`, which collects the
entries of its channel and from time to time sends what it has collected. It sends it to every
subscribed client.

The clients are a fixed set here, and a run is a list of what happens: an entry is logged, a loop
reads an entry, a loop sends to one client. Entries are numbered in the order in which they were
logged.
-/

namespace Connect3Dp

namespace DateTimeOffset

/-- The last tick of the year 9999. -/
def maxTicks : ℤ := 3155378975999999999

/-- The operator `+`, which raises when one of the points in time is out of range. -/
def add (t : DateTimeOffset) (d : TimeSpan) : Except Fault DateTimeOffset :=
  let ticks := t.utcTicks + d.ticks.toInt
  if 0 ≤ t.utcTicks ∧ t.utcTicks ≤ maxTicks ∧ 0 ≤ ticks ∧ ticks ≤ maxTicks then .ok ⟨ticks⟩
  else .error .argumentOutOfRange

end DateTimeOffset

namespace LogForwarding

/-- The capacity of a `BufferedLoggerChannel`. -/
def channelCapacity : ℕ := 100

/-- A subscription: what `ForwardLogs` was started with, and when. -/
structure Subscription where
  minInterval : TimeSpan
  started : DateTimeOffset

/-- Where a loop is. -/
inductive Phase (C : Type)
  /-- At the head of `await foreach`. -/
  | reading
  /-- In `BroadcastMessageAsync`, with these clients still to come. -/
  | sending (connections : Finset C)
  /-- An exception has ended the task. -/
  | faulted

/-- A loop, and its channel. -/
structure ForwardLoop (C : Type) where
  channel : List ℕ
  pending : List ℕ
  nextSend : DateTimeOffset
  phase : Phase C

/-- All loops, how many entries were logged, and what every client has received. -/
structure State (C : Type) where
  logged : ℕ
  loops : C → ForwardLoop C
  received : C → List ℕ

/-- What happens. -/
inductive Event (C : Type)
  /-- `AddEntry`. -/
  | log
  /-- The loop of a client reads an entry at a time. -/
  | read (owner : C) (now : DateTimeOffset)
  /-- The loop of a client sends to one of the clients that are still to come. -/
  | send (owner client : C)
  /-- A send of the loop fails. -/
  | sendFailed (owner : C)

variable {C : Type} [DecidableEq C]

/-- `TryWrite` on a full channel drops the oldest entry. -/
def write (entry : ℕ) (loop : ForwardLoop C) : ForwardLoop C :=
  { loop with
    channel := (loop.channel ++ [entry]).drop (loop.channel.length + 1 - channelCapacity) }

/-- The body of the loop up to the broadcast. -/
def read (subscribed : Finset C) (subscription : Subscription) (now : DateTimeOffset)
    (loop : ForwardLoop C) : ForwardLoop C :=
  match loop.phase, loop.channel with
  | .reading, entry :: rest =>
    let loop := { loop with channel := rest, pending := loop.pending ++ [entry] }
    if now.utcTicks < loop.nextSend.utcTicks then loop
    else
      match now.add subscription.minInterval with
      | .error _ => { loop with phase := .faulted }
      | .ok nextSend => { loop with nextSend := nextSend, phase := .sending subscribed }
  | _, _ => loop

/-- After a send to a client. Past the last client the pending entries are cleared. -/
def sent (client : C) (loop : ForwardLoop C) (connections : Finset C) : ForwardLoop C :=
  if connections.erase client = ∅ then { loop with phase := .reading, pending := [] }
  else { loop with phase := .sending (connections.erase client) }

def perform (subscribed : Finset C) (subscription : C → Subscription) (s : State C) :
    Event C → State C
  | .log => { s with
      logged := s.logged + 1
      loops := fun owner =>
        if owner ∈ subscribed then write s.logged (s.loops owner) else s.loops owner }
  | .read owner now => { s with
      loops := Function.update s.loops owner
        (read subscribed (subscription owner) now (s.loops owner)) }
  | .send owner client =>
    match (s.loops owner).phase with
    | .sending connections =>
      if client ∈ connections then { s with
        loops := Function.update s.loops owner (sent client (s.loops owner) connections)
        received := Function.update s.received client
          (s.received client ++ (s.loops owner).pending) }
      else s
    | _ => s
  | .sendFailed owner =>
    match (s.loops owner).phase with
    | .sending _ => { s with
        loops := Function.update s.loops owner { s.loops owner with phase := .faulted } }
    | _ => s

/-- Nothing was logged yet, and every loop has come to its first read. -/
def initial (subscription : C → Subscription) : State C where
  logged := 0
  loops owner := ⟨[], [], (subscription owner).started, .reading⟩
  received _ := []

/-- The state after a run. -/
def after (subscribed : Finset C) (subscription : C → Subscription) (run : List (Event C)) :
    State C :=
  run.foldl (perform subscribed subscription) (initial subscription)

/-! ### What can still be received -/

/-- What a loop has read and is to send to a client. -/
def inFlight (loop : ForwardLoop C) (client : C) : List ℕ :=
  match loop.phase with
  | .reading => loop.pending
  | .sending connections => if client ∈ connections then loop.pending else []
  | .faulted => []

/-- What a client has received, and after it what it can still receive from a loop. -/
def chain (s : State C) (owner client : C) : List ℕ :=
  s.received client ++ (inFlight (s.loops owner) client ++ (s.loops owner).channel)

/-- The loop of a client can come to send: there is a time from its start on to which its interval
can be added. -/
def IsSender (subscribed : Finset C) (subscription : C → Subscription) (owner : C) : Prop :=
  owner ∈ subscribed ∧ ∃ now next : DateTimeOffset,
    (subscription owner).started.utcTicks ≤ now.utcTicks ∧
      now.add (subscription owner).minInterval = .ok next

/-- Of at most one loop that can send, what was and will be received is in order. -/
structure Orderly (subscribed : Finset C) (subscription : C → Subscription) (s : State C) :
    Prop where
  unsubscribed : ∀ owner, owner ∉ subscribed → (s.loops owner).channel = []
  quiet : ∀ owner, ¬ IsSender subscribed subscription owner →
    (s.loops owner).nextSend = (subscription owner).started ∧
      ∀ connections, (s.loops owner).phase ≠ .sending connections
  ordered : ∀ owner, IsSender subscribed subscription owner → ∀ client,
    (chain s owner client).Pairwise (· < ·) ∧ ∀ entry ∈ chain s owner client, entry < s.logged
  silent : (∀ owner, ¬ IsSender subscribed subscription owner) → ∀ client, s.received client = []

variable {subscribed : Finset C} {subscription : C → Subscription} {s : State C}

theorem orderly_initial : Orderly subscribed subscription (initial subscription) where
  unsubscribed _ _ := rfl
  quiet _ _ := ⟨rfl, fun _ h => by cases h⟩
  ordered _ _ _ := ⟨List.Pairwise.nil, fun _ h => absurd h List.not_mem_nil⟩
  silent _ _ := rfl

/-- The order survives what makes the chain shorter. -/
theorem Orderly.ordered_of_sublist {s' : State C} (h : Orderly subscribed subscription s)
    {owner client : C} (howner : IsSender subscribed subscription owner)
    (hchain : (chain s' owner client).Sublist (chain s owner client))
    (hlogged : s'.logged = s.logged) :
    (chain s' owner client).Pairwise (· < ·) ∧
      ∀ entry ∈ chain s' owner client, entry < s'.logged := by
  obtain ⟨hpairwise, hlt⟩ := h.ordered owner howner client
  refine ⟨hpairwise.sublist hchain, fun entry hentry => ?_⟩
  rw [hlogged]
  exact hlt entry (hchain.subset hentry)

/-- A change of one loop, from which a client can still receive no more than before. -/
theorem Orderly.update (h : Orderly subscribed subscription s) {owner : C} {loop : ForwardLoop C}
    (hchannel : owner ∉ subscribed → loop.channel = [])
    (hquiet : ¬ IsSender subscribed subscription owner →
      loop.nextSend = (subscription owner).started ∧
        ∀ connections, loop.phase ≠ .sending connections)
    (hflight : ∀ client, (inFlight loop client ++ loop.channel).Sublist
      (inFlight (s.loops owner) client ++ (s.loops owner).channel)) :
    Orderly subscribed subscription { s with loops := Function.update s.loops owner loop } := by
  obtain ⟨s', hs'⟩ : ∃ s' : State C, s' = { s with
    loops := Function.update s.loops owner loop } := ⟨_, rfl⟩
  have hother : ∀ other, other ≠ owner → s'.loops other = s.loops other := by
    intro other hne
    rw [hs']
    exact Function.update_of_ne hne _ _
  have hself : s'.loops owner = loop := by
    rw [hs']
    exact Function.update_self _ _ _
  have hreceived : s'.received = s.received := by rw [hs']
  rw [← hs']
  refine ⟨fun other hnot => ?_, fun other hnot => ?_, fun other hsender client => ?_, ?_⟩
  · by_cases hne : other = owner
    · subst hne
      rw [hself]
      exact hchannel hnot
    · rw [hother other hne]
      exact h.unsubscribed other hnot
  · by_cases hne : other = owner
    · subst hne
      rw [hself]
      exact hquiet hnot
    · rw [hother other hne]
      exact h.quiet other hnot
  · refine h.ordered_of_sublist hsender ?_ (by rw [hs'])
    rw [chain, chain, hreceived]
    refine List.Sublist.append_left ?_ _
    by_cases hne : other = owner
    · subst hne
      rw [hself]
      exact hflight client
    · rw [hother other hne]
  · rw [hreceived]
    exact h.silent

theorem Orderly.log (h : Orderly subscribed subscription s) :
    Orderly subscribed subscription (perform subscribed subscription s .log) := by
  have hloop : ∀ owner, ((perform subscribed subscription s .log).loops owner) =
      if owner ∈ subscribed then write s.logged (s.loops owner) else s.loops owner := fun _ => rfl
  have hphase : ∀ owner, ((perform subscribed subscription s .log).loops owner).phase =
      (s.loops owner).phase := fun owner => by rw [hloop]; split <;> rfl
  have hnext : ∀ owner, ((perform subscribed subscription s .log).loops owner).nextSend =
      (s.loops owner).nextSend := fun owner => by rw [hloop]; split <;> rfl
  refine ⟨fun owner howner => ?_, fun owner howner => ?_, fun owner howner client => ?_, h.silent⟩
  · rw [hloop, if_neg howner]
    exact h.unsubscribed owner howner
  · rw [hphase, hnext]
    exact h.quiet owner howner
  · obtain ⟨hpairwise, hlt⟩ := h.ordered owner howner client
    -- The chain grows by the new entry, less what the full channel drops.
    have hsublist : (chain (perform subscribed subscription s .log) owner client).Sublist
        (chain s owner client ++ [s.logged]) := by
      have hflight : inFlight (write s.logged (s.loops owner)) client =
          inFlight (s.loops owner) client := rfl
      have hchannel : (write s.logged (s.loops owner)).channel.Sublist
          ((s.loops owner).channel ++ [s.logged]) := List.drop_sublist _ _
      rw [chain, hloop, if_pos howner.1, hflight, chain, List.append_assoc, List.append_assoc]
      exact ((hchannel.append_left _).append_left _)
    have hgrown : (chain s owner client ++ [s.logged]).Pairwise (· < ·) := by
      refine List.pairwise_append.mpr ⟨hpairwise, List.pairwise_singleton _ _, ?_⟩
      intro entry hentry new hnew
      rw [List.mem_singleton.mp hnew]
      exact hlt entry hentry
    refine ⟨hgrown.sublist hsublist, fun entry hentry => ?_⟩
    rcases List.mem_append.mp (hsublist.subset hentry) with hold | hnew
    · exact Nat.lt_succ_of_lt (hlt entry hold)
    · rw [List.mem_singleton.mp hnew]
      exact Nat.lt_succ_self _

omit [DecidableEq C] in
/-- What a read does to a loop. -/
theorem read_cases (subscribed : Finset C) (subscription : Subscription) (now : DateTimeOffset)
    (loop : ForwardLoop C) :
    read subscribed subscription now loop = loop ∨
    ∃ entry rest, loop.phase = .reading ∧ loop.channel = entry :: rest ∧
      (read subscribed subscription now loop =
          { loop with channel := rest, pending := loop.pending ++ [entry] } ∨
        read subscribed subscription now loop =
          { loop with channel := rest, pending := loop.pending ++ [entry], phase := .faulted } ∨
        ∃ nextSend, loop.nextSend.utcTicks ≤ now.utcTicks ∧
          now.add subscription.minInterval = .ok nextSend ∧
          read subscribed subscription now loop =
            ⟨rest, loop.pending ++ [entry], nextSend, .sending subscribed⟩) := by
  cases hphase : loop.phase with
  | sending connections => exact .inl (by simp only [read, hphase])
  | faulted => exact .inl (by simp only [read, hphase])
  | reading =>
    cases hchannel : loop.channel with
    | nil => exact .inl (by simp only [read, hphase, hchannel])
    | cons entry rest =>
      refine .inr ⟨entry, rest, rfl, rfl, ?_⟩
      by_cases hnow : now.utcTicks < loop.nextSend.utcTicks
      · exact .inl (by simp only [read, hphase, hchannel, if_pos hnow])
      · cases hadd : now.add subscription.minInterval with
        | error e =>
          exact .inr (.inl (by simp only [read, hphase, hchannel, if_neg hnow, hadd]))
        | ok nextSend =>
          exact .inr (.inr ⟨nextSend, Int.not_lt.mp hnow, rfl,
            by simp only [read, hphase, hchannel, if_neg hnow, hadd]⟩)

theorem Orderly.read (h : Orderly subscribed subscription s) (owner : C) (now : DateTimeOffset) :
    Orderly subscribed subscription (perform subscribed subscription s (.read owner now)) := by
  rcases read_cases subscribed (subscription owner) now (s.loops owner) with
    hsame | ⟨entry, rest, hphase, hchannel, hcases⟩
  · have heq : perform subscribed subscription s (.read owner now) = s := by
      rw [perform, hsame, Function.update_eq_self]
    rw [heq]
    exact h
  have hmember : owner ∈ subscribed := by
    by_contra hnot
    rw [h.unsubscribed owner hnot] at hchannel
    cases hchannel
  refine h.update (fun hnot => absurd hmember hnot) (fun hquiet => ?_) fun client => ?_
  · obtain ⟨hnext, hphases⟩ := h.quiet owner hquiet
    rcases hcases with heq | heq | ⟨nextSend, hnow, hadd, -⟩
    · rw [heq]
      exact ⟨hnext, fun connections hp => hphases connections hp⟩
    · rw [heq]
      exact ⟨hnext, fun connections hp => by cases hp⟩
    · -- A loop that sends is one that can.
      rw [hnext] at hnow
      exact absurd ⟨hmember, now, nextSend, hnow, hadd⟩ hquiet
  · have hbefore : inFlight (s.loops owner) client ++ (s.loops owner).channel =
        (s.loops owner).pending ++ [entry] ++ rest := by
      rw [inFlight, hphase, hchannel]
      simp
    rw [hbefore]
    rcases hcases with heq | heq | ⟨nextSend, -, -, heq⟩
    · rw [heq, inFlight, hphase]
    · rw [heq]
      exact List.sublist_append_right _ _
    · rw [heq, inFlight]
      simp only
      split
      · exact List.Sublist.refl _
      · exact List.sublist_append_right _ _

theorem Orderly.sendFailed (h : Orderly subscribed subscription s) (owner : C) :
    Orderly subscribed subscription (perform subscribed subscription s (.sendFailed owner)) := by
  cases hphase : (s.loops owner).phase with
  | sending connections =>
    have heq : perform subscribed subscription s (.sendFailed owner) = { s with
        loops := Function.update s.loops owner { s.loops owner with phase := .faulted } } := by
      simp only [perform, hphase]
    rw [heq]
    refine h.update (h.unsubscribed owner) (fun hquiet => ?_) fun client =>
      List.sublist_append_right _ _
    exact absurd hphase ((h.quiet owner hquiet).2 connections)
  | reading =>
    have hsame : perform subscribed subscription s (.sendFailed owner) = s := by
      simp only [perform, hphase]
    rw [hsame]
    exact h
  | faulted =>
    have hsame : perform subscribed subscription s (.sendFailed owner) = s := by
      simp only [perform, hphase]
    rw [hsame]
    exact h

/-- A send moves what is in flight to the one client to what that client has received. -/
theorem chain_send {owner client : C} {connections : Finset C}
    (hphase : (s.loops owner).phase = .sending connections) (hclient : client ∈ connections)
    (other : C) :
    chain (perform subscribed subscription s (.send owner client)) owner other =
      chain s owner other := by
  have heq : perform subscribed subscription s (.send owner client) = { s with
      loops := Function.update s.loops owner (sent client (s.loops owner) connections)
      received := Function.update s.received client
        (s.received client ++ (s.loops owner).pending) } := by
    simp only [perform, hphase, if_pos hclient]
  have hchannel : (sent client (s.loops owner) connections).channel =
      (s.loops owner).channel := by
    rw [sent]
    split <;> rfl
  have hflight : inFlight (sent client (s.loops owner) connections) other =
      if other ∈ connections.erase client then (s.loops owner).pending else [] := by
    rw [sent]
    split
    · rename_i hempty
      rw [hempty, if_neg (Finset.notMem_empty other)]
      rfl
    · rfl
  have hbefore : inFlight (s.loops owner) other =
      if other ∈ connections then (s.loops owner).pending else [] := by
    simp only [inFlight, hphase]
  rw [heq, chain, chain, hbefore]
  simp only [Function.update_self, hchannel, hflight]
  by_cases hother : other = client
  · subst hother
    rw [Function.update_self, if_neg (Finset.notMem_erase other connections), if_pos hclient,
      List.nil_append, List.append_assoc]
  · rw [Function.update_of_ne hother]
    simp only [Finset.mem_erase, hother, ne_eq, not_false_eq_true, true_and]

theorem Orderly.send (hone : ∀ i j, IsSender subscribed subscription i →
      IsSender subscribed subscription j → i = j)
    (h : Orderly subscribed subscription s) (owner client : C) :
    Orderly subscribed subscription (perform subscribed subscription s (.send owner client)) := by
  by_cases hsending : ∃ connections, (s.loops owner).phase = .sending connections ∧
      client ∈ connections
  · obtain ⟨connections, hphase, hclient⟩ := hsending
    have hsender : IsSender subscribed subscription owner := by
      by_contra hnot
      exact (h.quiet owner hnot).2 connections hphase
    have heq : perform subscribed subscription s (.send owner client) = { s with
        loops := Function.update s.loops owner (sent client (s.loops owner) connections)
        received := Function.update s.received client
          (s.received client ++ (s.loops owner).pending) } := by
      simp only [perform, hphase, if_pos hclient]
    have hother : ∀ other, other ≠ owner →
        (perform subscribed subscription s (.send owner client)).loops other = s.loops other := by
      intro other hne
      rw [heq]
      exact Function.update_of_ne hne _ _
    refine ⟨fun other hnot => ?_, fun other hquiet => ?_, fun other hother' client' => ?_,
      fun hnone => absurd hsender (hnone owner)⟩
    · rw [hother other fun hne => hnot (hne ▸ hsender.1)]
      exact h.unsubscribed other hnot
    · rw [hother other fun hne => hquiet (hne ▸ hsender)]
      exact h.quiet other hquiet
    · obtain rfl := hone other owner hother' hsender
      refine h.ordered_of_sublist hsender ?_ (by rw [heq])
      rw [chain_send hphase hclient]
  · have heq : perform subscribed subscription s (.send owner client) = s := by
      simp only [perform]
      split
      · rename_i connections hphase
        exact if_neg fun hclient => hsending ⟨connections, hphase, hclient⟩
      · rfl
    rw [heq]
    exact h

/-! ### Delivery -/

/-- What a client receives, it receives once and in the order in which it was logged. -/
structure DeliversOnce (received : List ℕ) : Prop where
  once : ∀ entry, received.count entry ≤ 1
  inOrder : received.Pairwise (· ≤ ·)

theorem deliversOnce_of_pairwise {received : List ℕ} (h : received.Pairwise (· < ·)) :
    DeliversOnce received where
  once := List.nodup_iff_count_le_one.mp (h.imp Nat.ne_of_lt)
  inOrder := h.imp Nat.le_of_lt

theorem orderly_after (hone : ∀ i j, IsSender subscribed subscription i →
      IsSender subscribed subscription j → i = j) (run : List (Event C)) :
    Orderly subscribed subscription (after subscribed subscription run) := by
  induction run using List.reverseRecOn with
  | nil => exact orderly_initial
  | append_singleton run e ih =>
    rw [after, List.foldl_concat]
    cases e with
    | log => exact ih.log
    | read owner now => exact ih.read owner now
    | send owner client => exact ih.send hone owner client
    | sendFailed owner => exact ih.sendFailed owner

/-- Two loops that can send deliver the first entry twice. -/
theorem exists_delivered_twice {i j : C} (hi : IsSender subscribed subscription i)
    (hj : IsSender subscribed subscription j) (hne : i ≠ j) :
    ∃ run, (after subscribed subscription run).received i = [0, 0] := by
  obtain ⟨hmemi, nowi, nexti, hnowi, haddi⟩ := hi
  obtain ⟨hmemj, nowj, nextj, hnowj, haddj⟩ := hj
  refine ⟨[.log, .read i nowi, .read j nowj, .send i i, .send j i], ?_⟩
  have hread : ∀ (k : C) (now next : DateTimeOffset),
      (subscription k).started.utcTicks ≤ now.utcTicks →
      now.add (subscription k).minInterval = .ok next →
      LogForwarding.read subscribed (subscription k) now
          ⟨[0], [], (subscription k).started, .reading⟩ =
        ⟨[], [0], next, .sending subscribed⟩ := by
    intro k now next hnow hadd
    simp only [LogForwarding.read, if_neg (Int.not_lt.mpr hnow), hadd, List.nil_append]
  let s₁ := perform subscribed subscription (initial subscription) .log
  have hlogged : ∀ k ∈ subscribed, s₁.loops k =
      ⟨[0], [], (subscription k).started, .reading⟩ := fun k hk => if_pos hk
  let s₂ := perform subscribed subscription s₁ (.read i nowi)
  let s₃ := perform subscribed subscription s₂ (.read j nowj)
  have hi₂ : s₂.loops i = ⟨[], [0], nexti, .sending subscribed⟩ := by
    rw [← hread i nowi nexti hnowi haddi, ← hlogged i hmemi]
    exact Function.update_self _ _ _
  have hj₂ : s₂.loops j = ⟨[0], [], (subscription j).started, .reading⟩ := by
    rw [← hlogged j hmemj]
    exact Function.update_of_ne (Ne.symm hne) _ _
  have hi₃ : s₃.loops i = ⟨[], [0], nexti, .sending subscribed⟩ := by
    rw [← hi₂]
    exact Function.update_of_ne hne _ _
  have hj₃ : s₃.loops j = ⟨[], [0], nextj, .sending subscribed⟩ := by
    rw [← hread j nowj nextj hnowj haddj, ← hj₂]
    exact Function.update_self _ _ _
  -- Both loops hold the entry, and each sends it to the first client.
  have hsend : ∀ (s : State C) (k : C), (s.loops k).phase = .sending subscribed →
      perform subscribed subscription s (.send k i) = { s with
        loops := Function.update s.loops k (sent i (s.loops k) subscribed)
        received := Function.update s.received i (s.received i ++ (s.loops k).pending) } := by
    intro s k hphase
    simp only [perform, hphase, if_pos hmemi]
  let s₄ := perform subscribed subscription s₃ (.send i i)
  have hs₄ : s₄ = _ := hsend s₃ i (by rw [hi₃])
  have hj₄ : s₄.loops j = ⟨[], [0], nextj, .sending subscribed⟩ := by
    rw [hs₄, ← hj₃]
    exact Function.update_of_ne (Ne.symm hne) _ _
  have hreceived₄ : s₄.received i = [0] := by
    rw [hs₄]
    refine (Function.update_self _ _ _).trans ?_
    rw [hi₃]
    rfl
  have hs₅ : perform subscribed subscription s₄ (.send j i) = _ := hsend s₄ j (by rw [hj₄])
  change (perform subscribed subscription s₄ (.send j i)).received i = [0, 0]
  rw [hs₅]
  refine (Function.update_self _ _ _).trans ?_
  rw [hreceived₄, hj₄]
  rfl

/-- **Every entry is delivered once and in order**, whatever happens, just when no two of the
subscribed clients have loops that can send: each loop sends to all of them. -/
theorem deliversOnce_iff (subscribed : Finset C) (subscription : C → Subscription) :
    (∀ run client, client ∈ subscribed →
        DeliversOnce ((after subscribed subscription run).received client)) ↔
      ∀ i j, IsSender subscribed subscription i → IsSender subscribed subscription j → i = j := by
  constructor
  · intro hall i j hi hj
    by_contra hne
    obtain ⟨run, hrun⟩ := exists_delivered_twice hi hj hne
    have honce := (hall run i hi.1).once 0
    rw [hrun] at honce
    exact absurd honce (by decide)
  · intro hone run client hclient
    have h := orderly_after hone run
    refine deliversOnce_of_pairwise ?_
    by_cases hsender : ∃ owner, IsSender subscribed subscription owner
    · obtain ⟨owner, howner⟩ := hsender
      exact (h.ordered owner howner client).1.sublist (List.sublist_append_left _ _)
    · rw [h.silent fun owner howner => hsender ⟨owner, howner⟩]
      exact List.Pairwise.nil

/-- Two clients that subscribe with an interval of zero. -/
theorem deliversOnce_fails :
    ¬ ∀ (subscribed : Finset Bool) (subscription : Bool → Subscription) (run : List (Event Bool))
        (client : Bool), client ∈ subscribed →
      DeliversOnce ((after subscribed subscription run).received client) := by
  intro hall
  have honce := (hall {true, false} (fun _ => ⟨.zero, ⟨0⟩⟩)
    [.log, .read true ⟨0⟩, .read false ⟨0⟩, .send true true, .send false true] true
    (by decide)).once 0
  exact absurd honce (by decide)

end LogForwarding

end Connect3Dp
