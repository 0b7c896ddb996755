import Connect3Dp.Runtime.Transition

/-!
# Reconnecting to the MQTT broker

Whenever the client is disconnected its callback starts a task that tries to reconnect, for as long
as the client is not connected and the token is not cancelled. The task looks at both, sleeps, and
then reconnects without looking again. `DisconnectAsync` disconnects the client before it cancels
the token, and does neither when the client is not connected.

`MQTTReconnection` has the calls and tasks that are under way. What the client does, which is a
package, is left open: a connection is established, fails or is lost at any time.
`reconnectsNever_iff` says when nothing reconnects any more.
-/

namespace Connect3Dp

/-- Where a task of `ContinuouslyReconnect` is: before its loop check, in `Thread.Sleep`, or in
`ReconnectAsync`. -/
inductive ReconnectPhase
  | check
  | sleeping
  | reconnecting
  deriving DecidableEq

/-- Where a call of `DisconnectAsync` is: in the `DisconnectAsync` of the client, or before
`Cancel`. -/
inductive DisconnectPhase
  | disconnecting
  | cancelling
  deriving DecidableEq

/-- A `BBLMQTTConnection`, as far as connecting goes. -/
structure MQTTReconnection where
  /-- `MQTT.IsConnected` -/
  isConnected : Bool
  /-- of `ContinuouslyReconnectTokenSource`, as it is now -/
  isCancellationRequested : Bool
  /-- the calls of `AutoConnectAsync` that connect -/
  connects : ℕ
  disconnects : List DisconnectPhase
  /-- the callbacks of the client that have not started a task yet -/
  callbacks : ℕ
  tasks : List ReconnectPhase
  deriving Inhabited

inductive ReconnectionEvent
  /-- `AutoConnectAsync` is called. -/
  | autoConnect
  /-- The client connects for a call of `AutoConnectAsync`, -/
  | connected
  /-- or fails to, with a callback or without. -/
  | connectFails (raised : Bool)
  | connectionLost
  /-- `OnDisconnected` comes to its last line, or a handler of `OnData` raises before. -/
  | callback (returns : Bool)
  /-- A task evaluates the condition of its loop. -/
  | check (task : ℕ)
  /-- A task wakes up and calls `ReconnectAsync`. -/
  | wake (task : ℕ)
  | reconnected (task : ℕ)
  | reconnectFails (task : ℕ) (raised : Bool)
  /-- `DisconnectAsync` is called. -/
  | disconnect
  /-- The client answers a call of `DisconnectAsync`, -/
  | clientDisconnects (call : ℕ)
  /-- or raises, as the call does then. -/
  | clientRaises (call : ℕ)
  /-- `Cancel`, and the call of `DisconnectAsync` returns. -/
  | cancel (call : ℕ)

namespace MQTTReconnection

/-- A phase of a task is over. -/
def moveTask (σ : MQTTReconnection) (task : ℕ) (now next : ReconnectPhase) :
    Option MQTTReconnection :=
  if σ.tasks[task]? = some now then some { σ with tasks := σ.tasks.set task next } else none

/-- The client tells that it is disconnected, or it does not. -/
def raise (σ : MQTTReconnection) (raised : Bool) : MQTTReconnection :=
  { σ with callbacks := σ.callbacks + raised.toNat }

def perform (σ : MQTTReconnection) : ReconnectionEvent → Option MQTTReconnection
  | .autoConnect =>
    if σ.isConnected then some σ
    else some { σ with isCancellationRequested := false, connects := σ.connects + 1 }
  | .connected =>
    if 0 < σ.connects then some { σ with isConnected := true, connects := σ.connects - 1 }
    else none
  | .connectFails raised =>
    if 0 < σ.connects then some ({ σ with connects := σ.connects - 1 }.raise raised) else none
  | .connectionLost =>
    if σ.isConnected then some ({ σ with isConnected := false }.raise true) else none
  | .callback returns =>
    if 0 < σ.callbacks then
      some { σ with
        callbacks := σ.callbacks - 1
        tasks := if returns then σ.tasks ++ [.check] else σ.tasks }
    else none
  | .check task =>
    if σ.tasks[task]? = some .check then
      if !σ.isConnected && !σ.isCancellationRequested then
        some { σ with tasks := σ.tasks.set task .sleeping }
      else some { σ with tasks := σ.tasks.eraseIdx task }
    else none
  | .wake task => σ.moveTask task .sleeping .reconnecting
  | .reconnected task =>
    (σ.moveTask task .reconnecting .check).map fun σ => { σ with isConnected := true }
  | .reconnectFails task raised =>
    (σ.moveTask task .reconnecting .check).map fun σ => σ.raise raised
  | .disconnect =>
    if σ.isConnected then some { σ with disconnects := σ.disconnects ++ [.disconnecting] }
    else some σ
  | .clientDisconnects call =>
    if σ.disconnects[call]? = some .disconnecting then
      let σ := { σ with disconnects := σ.disconnects.set call .cancelling }
      some ({ σ with isConnected := false }.raise σ.isConnected)
    else none
  | .clientRaises call =>
    if σ.disconnects[call]? = some .disconnecting then
      some { σ with disconnects := σ.disconnects.eraseIdx call }
    else none
  | .cancel call =>
    if σ.disconnects[call]? = some .cancelling then
      some { σ with
        disconnects := σ.disconnects.eraseIdx call
        isCancellationRequested := true }
    else none

/-- A call of `DisconnectAsync` returns. -/
def DisconnectReturns (σ : MQTTReconnection) : ReconnectionEvent → Prop
  | .disconnect => σ.isConnected = false
  | .cancel _ => True
  | _ => False

/-- A connection that was constructed. -/
def initial : MQTTReconnection := ⟨false, false, 0, [], 0, []⟩

def Step (σ σ' : MQTTReconnection) : Prop := ∃ e, σ.perform e = some σ'

/-- A step, until the next `AutoConnectAsync`. -/
def StepUntilConnect (σ σ' : MQTTReconnection) : Prop :=
  ∃ e, e ≠ .autoConnect ∧ σ.perform e = some σ'

/-- `ReconnectAsync` is called. -/
def StartsReconnect : ReconnectionEvent → Prop
  | .wake _ => True
  | _ => False

/-- No task is past its check, and either the token is cancelled or there is nothing that can lead
to a check. -/
structure Quiet (σ : MQTTReconnection) : Prop where
  notSleeping : .sleeping ∉ σ.tasks
  settled : σ.isCancellationRequested = true ∨
    σ.isConnected = false ∧ σ.connects = 0 ∧ σ.callbacks = 0 ∧ σ.tasks = []

/-! ### Nothing reconnects -/

variable {σ σ' : MQTTReconnection} {e : ReconnectionEvent} {task : ℕ}

theorem moveTask_eq_some_iff {now next : ReconnectPhase} :
    σ.moveTask task now next = some σ' ↔
      σ.tasks[task]? = some now ∧ σ' = { σ with tasks := σ.tasks.set task next } := by
  unfold moveTask
  split
  · rename_i h
    simp [h, eq_comm]
  · rename_i h
    simp [h]

theorem not_mem_set {phase : ReconnectPhase} (h : .sleeping ∉ σ.tasks)
    (hphase : phase ≠ .sleeping) : .sleeping ∉ σ.tasks.set task phase := by
  intro hmem
  rcases List.mem_or_eq_of_mem_set hmem with hold | heq
  · exact h hold
  · exact hphase heq.symm

theorem Quiet.not_startsReconnect (h : σ.Quiet) (he : σ.perform e = some σ') :
    ¬ StartsReconnect e := by
  intro hstarts
  cases e with
  | wake task =>
    obtain ⟨htask, -⟩ := moveTask_eq_some_iff.mp he
    exact h.notSleeping (List.mem_of_getElem? htask)
  | _ => exact hstarts

/-- A task whose loop check is next does not get past it. -/
theorem Quiet.step (h : σ.Quiet) (hconnect : e ≠ .autoConnect) (he : σ.perform e = some σ') :
    σ'.Quiet := by
  obtain ⟨hsleeping, hsettled⟩ := h
  cases e with
  | autoConnect => exact absurd rfl hconnect
  | connected =>
    simp only [perform, Option.ite_none_right_eq_some, Option.some.injEq] at he
    obtain ⟨hpos, rfl⟩ := he
    refine ⟨hsleeping, hsettled.imp_right fun hidle => ?_⟩
    exact absurd hidle.2.1 hpos.ne'
  | connectFails raised =>
    simp only [perform, Option.ite_none_right_eq_some, Option.some.injEq] at he
    obtain ⟨hpos, rfl⟩ := he
    refine ⟨hsleeping, hsettled.imp_right fun hidle => ?_⟩
    exact absurd hidle.2.1 hpos.ne'
  | connectionLost =>
    simp only [perform, Option.ite_none_right_eq_some, Option.some.injEq] at he
    obtain ⟨hconnected, rfl⟩ := he
    refine ⟨hsleeping, hsettled.imp_right fun hidle => ?_⟩
    cases hidle.1.symm.trans hconnected
  | callback returns =>
    simp only [perform, Option.ite_none_right_eq_some, Option.some.injEq] at he
    obtain ⟨hpos, rfl⟩ := he
    refine ⟨?_, hsettled.imp_right fun hidle => absurd hidle.2.2.1 hpos.ne'⟩
    dsimp only
    split
    · simpa using hsleeping
    · exact hsleeping
  | check task =>
    simp only [perform, Option.ite_none_right_eq_some] at he
    obtain ⟨htask, he⟩ := he
    -- nothing is checked while nothing is cancelled
    have hcancelled : σ.isCancellationRequested = true := by
      refine hsettled.resolve_right fun hidle => ?_
      rw [hidle.2.2.2] at htask
      cases htask
    rw [hcancelled, Bool.not_true, Bool.and_false, if_neg Bool.false_ne_true] at he
    cases he
    exact ⟨fun hmem => hsleeping (List.mem_of_mem_eraseIdx hmem), .inl rfl⟩
  | wake task =>
    obtain ⟨htask, -⟩ := moveTask_eq_some_iff.mp he
    exact absurd (List.mem_of_getElem? htask) hsleeping
  | reconnected task =>
    obtain ⟨σ₁, hmove, rfl⟩ := Option.map_eq_some_iff.mp he
    obtain ⟨htask, rfl⟩ := moveTask_eq_some_iff.mp hmove
    refine ⟨not_mem_set hsleeping (by decide), hsettled.imp_right fun hidle => ?_⟩
    rw [hidle.2.2.2] at htask
    cases htask
  | reconnectFails task raised =>
    obtain ⟨σ₁, hmove, rfl⟩ := Option.map_eq_some_iff.mp he
    obtain ⟨htask, rfl⟩ := moveTask_eq_some_iff.mp hmove
    refine ⟨not_mem_set hsleeping (by decide), hsettled.imp_right fun hidle => ?_⟩
    rw [hidle.2.2.2] at htask
    cases htask
  | disconnect =>
    simp only [perform] at he
    split at he
    all_goals
      cases he
      exact ⟨hsleeping, hsettled⟩
  | clientDisconnects call =>
    simp only [perform, Option.ite_none_right_eq_some, Option.some.injEq] at he
    obtain ⟨-, rfl⟩ := he
    -- without a connection the client has nothing to close, so it raises no callback
    refine ⟨hsleeping, hsettled.imp_right fun ⟨hconnected, hconnects, hcallbacks, htasks⟩ => ?_⟩
    refine ⟨rfl, hconnects, ?_, htasks⟩
    rw [raise, hconnected, hcallbacks]
    rfl
  | clientRaises call =>
    simp only [perform, Option.ite_none_right_eq_some, Option.some.injEq] at he
    obtain ⟨-, rfl⟩ := he
    exact ⟨hsleeping, hsettled⟩
  | cancel call =>
    simp only [perform, Option.ite_none_right_eq_some, Option.some.injEq] at he
    obtain ⟨-, rfl⟩ := he
    exact ⟨hsleeping, .inl rfl⟩

/-! ### Something reconnects -/

/-- `ReconnectAsync` can be called before the next `AutoConnectAsync`. -/
def CanReconnect (σ : MQTTReconnection) : Prop :=
  ∃ σ₁ e σ₂, Relation.ReflTransGen StepUntilConnect σ σ₁ ∧ σ₁.perform e = some σ₂ ∧
    StartsReconnect e

theorem CanReconnect.head (hstep : StepUntilConnect σ σ') (h : σ'.CanReconnect) :
    σ.CanReconnect := by
  obtain ⟨σ₁, e, σ₂, hrun, he, hstarts⟩ := h
  exact ⟨σ₁, e, σ₂, .head hstep hrun, he, hstarts⟩

theorem canReconnect_of_sleeping (h : σ.tasks[task]? = some .sleeping) : σ.CanReconnect :=
  ⟨σ, .wake task, _, .refl, moveTask_eq_some_iff.mpr ⟨h, rfl⟩, trivial⟩

theorem stepUntilConnect_connectionLost (h : σ.isConnected = true) :
    StepUntilConnect σ ({ σ with isConnected := false }.raise true) := by
  refine ⟨.connectionLost, by simp, ?_⟩
  simp [perform, h]

/-- A task whose loop check is next reconnects once the client has no connection. -/
theorem canReconnect_of_check (h : σ.tasks[task]? = some .check)
    (hcancelled : σ.isCancellationRequested = false) : σ.CanReconnect := by
  have hcheck : ∀ σ : MQTTReconnection, σ.tasks[task]? = some .check →
      σ.isCancellationRequested = false → σ.isConnected = false → σ.CanReconnect := by
    intro σ h hcancelled hconnected
    have hlt : task < σ.tasks.length := (List.getElem?_eq_some_iff.mp h).1
    have hstep : StepUntilConnect σ { σ with tasks := σ.tasks.set task .sleeping } := by
      refine ⟨.check task, by simp, ?_⟩
      simp [perform, h, hcancelled, hconnected]
    exact .head hstep (canReconnect_of_sleeping (List.getElem?_set_self hlt))
  cases hconnected : σ.isConnected with
  | false => exact hcheck σ h hcancelled hconnected
  | true => exact .head (stepUntilConnect_connectionLost hconnected) (hcheck _ h hcancelled rfl)

theorem canReconnect_of_callback (h : 0 < σ.callbacks)
    (hcancelled : σ.isCancellationRequested = false) : σ.CanReconnect := by
  have hstep : StepUntilConnect σ
      { σ with callbacks := σ.callbacks - 1, tasks := σ.tasks ++ [.check] } := by
    refine ⟨.callback true, by simp, ?_⟩
    simp [perform, h]
  have htask : (σ.tasks ++ [.check])[σ.tasks.length]? = some ReconnectPhase.check := by simp
  exact .head hstep (canReconnect_of_check htask hcancelled)

theorem canReconnect_of_not_quiet (h : ¬ σ.Quiet) : σ.CanReconnect := by
  -- a task that sleeps reconnects when it wakes
  by_cases hsleeping : .sleeping ∈ σ.tasks
  · obtain ⟨task, htask⟩ := List.getElem?_of_mem hsleeping
    exact canReconnect_of_sleeping htask
  have hunsettled : ¬ (σ.isCancellationRequested = true ∨ σ.isConnected = false ∧
      σ.connects = 0 ∧ σ.callbacks = 0 ∧ σ.tasks = []) := fun hsettled => h ⟨hsleeping, hsettled⟩
  rw [not_or, Bool.not_eq_true] at hunsettled
  obtain ⟨hcancelled, hbusy⟩ := hunsettled
  -- otherwise whatever is under way leads to a task before its loop check
  cases hconnected : σ.isConnected with
  | true =>
    exact .head (stepUntilConnect_connectionLost hconnected)
      (canReconnect_of_callback (Nat.succ_pos _) hcancelled)
  | false =>
    rcases Nat.eq_zero_or_pos σ.connects with hconnects | hconnects
    · rcases Nat.eq_zero_or_pos σ.callbacks with hcallbacks | hcallbacks
      · have htasks : σ.tasks ≠ [] :=
          fun htasks => hbusy ⟨hconnected, hconnects, hcallbacks, htasks⟩
        obtain ⟨phase, htask⟩ := List.exists_mem_of_ne_nil _ htasks
        obtain ⟨task, htask⟩ := List.getElem?_of_mem htask
        have hlt : task < σ.tasks.length := (List.getElem?_eq_some_iff.mp htask).1
        cases phase with
        | check => exact canReconnect_of_check htask hcancelled
        | sleeping => exact canReconnect_of_sleeping htask
        -- the attempt fails, and the task loops
        | reconnecting =>
          have hstep : StepUntilConnect σ
              ({ σ with tasks := σ.tasks.set task .check }.raise false) := by
            refine ⟨.reconnectFails task false, by simp, ?_⟩
            simp [perform, moveTask, htask]
          exact .head hstep (canReconnect_of_check (List.getElem?_set_self hlt) hcancelled)
      · exact canReconnect_of_callback hcallbacks hcancelled
    · have hstep : StepUntilConnect σ ({ σ with connects := σ.connects - 1 }.raise true) := by
        refine ⟨.connectFails true, by simp, ?_⟩
        simp [perform, hconnects]
      exact .head hstep (canReconnect_of_callback (Nat.succ_pos _) hcancelled)

/-- **Nothing reconnects after a disconnect that was asked for**, until the next `AutoConnectAsync`,
just when no task sleeps as `DisconnectAsync` returns and, where it returns without cancelling the
token, the token is cancelled already or nothing is under way. -/
theorem reconnectsNever_iff (hreturns : σ.DisconnectReturns e) (he : σ.perform e = some σ') :
    (∀ σ₁ e₁ σ₂, Relation.ReflTransGen StepUntilConnect σ' σ₁ → σ₁.perform e₁ = some σ₂ →
      ¬ StartsReconnect e₁) ↔
    .sleeping ∉ σ.tasks ∧ (e = .disconnect → σ.isCancellationRequested = true ∨
      σ.connects = 0 ∧ σ.callbacks = 0 ∧ σ.tasks = []) := by
  -- nothing reconnects from a state just when that state is quiet
  have hquiet : (∀ σ₁ e₁ σ₂, Relation.ReflTransGen StepUntilConnect σ' σ₁ →
      σ₁.perform e₁ = some σ₂ → ¬ StartsReconnect e₁) ↔ σ'.Quiet := by
    constructor
    · intro hnever
      by_contra hnot
      obtain ⟨σ₁, e₁, σ₂, hrun, he₁, hstarts⟩ := canReconnect_of_not_quiet hnot
      exact hnever σ₁ e₁ σ₂ hrun he₁ hstarts
    · intro h σ₁ e₁ σ₂ hrun he₁
      have hσ₁ : σ₁.Quiet := by
        clear he₁
        induction hrun with
        | refl => exact h
        | tail _ hstep ih =>
          obtain ⟨e, hconnect, he⟩ := hstep
          exact ih.step hconnect he
      exact hσ₁.not_startsReconnect he₁
  rw [hquiet]
  cases e with
  | disconnect =>
    -- it returns at once, and the state is as it was
    have hconnected : σ.isConnected = false := hreturns
    simp only [perform, hconnected, Bool.false_eq_true, if_false, Option.some.injEq] at he
    subst he
    constructor
    · rintro ⟨hsleeping, hsettled⟩
      exact ⟨hsleeping, fun _ => hsettled.imp_right fun hidle => hidle.2⟩
    · rintro ⟨hsleeping, hsettled⟩
      exact ⟨hsleeping, (hsettled rfl).imp_right fun hidle => ⟨hconnected, hidle⟩⟩
  | cancel call =>
    simp only [perform, Option.ite_none_right_eq_some, Option.some.injEq] at he
    obtain ⟨-, rfl⟩ := he
    constructor
    · rintro ⟨hsleeping, -⟩
      refine ⟨hsleeping, fun hcall => ?_⟩
      cases hcall
    · rintro ⟨hsleeping, -⟩
      exact ⟨hsleeping, .inl rfl⟩
  | _ => exact hreturns.elim

/-- The callback of the disconnect comes only after the token is cancelled. -/
theorem reconnectsNever_iff_lateCallback : ∃ σ σ', Reachable (· = initial) Step σ ∧
    σ.perform (.cancel 0) = some σ' ∧ σ'.callbacks = 1 ∧
      ∀ σ₁ e₁ σ₂, Relation.ReflTransGen StepUntilConnect σ' σ₁ → σ₁.perform e₁ = some σ₂ →
        ¬ StartsReconnect e₁ := by
  have h₀ : Reachable (· = initial) Step initial := .refl rfl
  have h₁ := h₀.tail ⟨.autoConnect, rfl⟩
  have h₂ := h₁.tail ⟨.connected, rfl⟩
  have h₃ := h₂.tail ⟨.disconnect, rfl⟩
  have h₄ : Reachable (· = initial) Step ⟨false, false, 0, [.cancelling], 1, []⟩ :=
    h₃.tail ⟨.clientDisconnects 0, rfl⟩
  have h₅ : perform ⟨false, false, 0, [.cancelling], 1, []⟩ (.cancel 0) =
      some ⟨false, true, 0, [], 1, []⟩ := rfl
  refine ⟨_, _, h₄, h₅, rfl, (reconnectsNever_iff (e := .cancel 0) trivial h₅).mpr ⟨?_, ?_⟩⟩
  · rintro ⟨⟩
  · rintro ⟨⟩

/-- The callback of the disconnect starts a task that looks at the token before it is cancelled. -/
theorem reconnectsNever_fails : ¬ ∀ σ, Reachable (· = initial) Step σ → ∀ e σ',
    σ.DisconnectReturns e → σ.perform e = some σ' →
      ∀ σ₁ e₁ σ₂, Relation.ReflTransGen StepUntilConnect σ' σ₁ → σ₁.perform e₁ = some σ₂ →
        ¬ StartsReconnect e₁ := by
  intro hall
  have h₀ : Reachable (· = initial) Step initial := .refl rfl
  have h₁ := h₀.tail ⟨.autoConnect, rfl⟩
  have h₂ := h₁.tail ⟨.connected, rfl⟩
  have h₃ := h₂.tail ⟨.disconnect, rfl⟩
  have h₄ := h₃.tail ⟨.clientDisconnects 0, rfl⟩
  -- the callback runs before the token is cancelled
  have h₅ := h₄.tail ⟨.callback true, rfl⟩
  have h₆ := h₅.tail ⟨.check 0, rfl⟩
  exact hall _ h₆ (.cancel 0) _ trivial rfl _ (.wake 0) _ .refl rfl trivial

end MQTTReconnection

end Connect3Dp
