import Connect3Dp.Connectors.MQTTReconnection

/-!
# Recovery from a disconnect

While the client is connected, a `PeriodicAsyncAction` publishes `pushall` again and again. When
the client is disconnected, `OnDisconnected` disposes of the action, forgets it and starts to
reconnect, in this order. `DisposeAsync` awaits the loop of the action, and the loop catches nothing
but its cancellation. So an exception of a publish is stored in the loop's task, is raised by
`DisposeAsync` and ends `OnDisconnected` before the action is forgotten.

`MQTTRecovery` is `MQTTReconnection` with the actions and the calls that dispose of them
(`reachable_reconnection`). `recoversAlways_iff` lists the runs in which every disconnect is
recovered from.
-/

namespace Connect3Dp

/-! ### The periodic action -/

/-- Where `RunAsync` is: in `WaitForNextTickAsync`, in the action, or at its end, with an exception
stored in its task or without. -/
inductive PeriodicPhase
  | waiting
  | acting
  | finished
  | faulted
  deriving DecidableEq

structure PeriodicAsyncAction where
  /-- of `_cts` -/
  isCancellationRequested : Bool
  loopTask : PeriodicPhase
  deriving DecidableEq

namespace PeriodicAsyncAction

/-- `new PeriodicAsyncAction`. -/
def new : PeriodicAsyncAction := ⟨false, .waiting⟩

def tick (action : PeriodicAsyncAction) : Option PeriodicAsyncAction :=
  if action.loopTask = .waiting then some { action with loopTask := .acting } else none

/-- The action is over. The loop waits for the next tick, which raises what it catches when it has
been cancelled. -/
def actionReturns (action : PeriodicAsyncAction) : Option PeriodicAsyncAction :=
  if action.loopTask = .acting then
    some { action with
      loopTask := if action.isCancellationRequested then .finished else .waiting }
  else none

/-- The action raises an exception, of which the loop catches an `OperationCanceledException`. -/
def actionRaises (action : PeriodicAsyncAction) (operationCanceled : Bool) :
    Option PeriodicAsyncAction :=
  if action.loopTask = .acting then
    some { action with loopTask := if operationCanceled then .finished else .faulted }
  else none

/-- `DisposeAsync`, up to where it awaits the loop. -/
def dispose (action : PeriodicAsyncAction) : PeriodicAsyncAction where
  isCancellationRequested := true
  loopTask := if action.loopTask = .waiting then .finished else action.loopTask

theorem dispose_faulted_iff (action : PeriodicAsyncAction) :
    action.dispose.loopTask = .faulted ↔ action.loopTask = .faulted ∨ False := by
  obtain ⟨cancelled, loopTask⟩ := action
  cases loopTask <;> simp [dispose]

/-- A loop that was cancelled does not wait. -/
def IsSettled (action : PeriodicAsyncAction) : Prop :=
  action.isCancellationRequested = true ∧ action.loopTask ≠ .waiting

theorem dispose_isSettled (action : PeriodicAsyncAction) : action.dispose.IsSettled := by
  obtain ⟨cancelled, loopTask⟩ := action
  cases loopTask <;> simp [dispose, IsSettled]

end PeriodicAsyncAction

/-! ### The connection -/

/-- A `BBLMQTTConnection`, as far as connecting and pulling go. -/
structure MQTTRecovery where
  reconnection : MQTTReconnection
  /-- the calls of `OnConnected` that are under way -/
  connects : ℕ
  /-- the actions that were made, the first one first -/
  periodics : List PeriodicAsyncAction
  pullAllChangesPeriodic : Option ℕ
  /-- the actions that calls of `OnDisconnected` dispose of -/
  disposing : List ℕ

inductive RecoveryEvent
  /-- The client, a task that reconnects or a caller does something. -/
  | reconnection (e : ReconnectionEvent)
  /-- `OnConnected` comes to its last line, -/
  | connectedReturns
  /-- or it raises before. -/
  | connectedRaises
  | tick (periodic : ℕ)
  | actionReturns (periodic : ℕ)
  | actionRaises (periodic : ℕ) (operationCanceled : Bool)
  /-- `OnDisconnected` invokes `OnData`. It comes to `DisposeAsync` or to its last line, unless a
  handler raises. -/
  | onData (raises : Bool)
  /-- `OnDisconnected` is resumed after `DisposeAsync`. -/
  | disposed (call : ℕ)

namespace MQTTRecovery

/-- A step that is not a part of `OnDisconnected`, with the call of `OnConnected` that it leads
to. -/
def reconnect (σ : MQTTRecovery) : ReconnectionEvent → Option MQTTRecovery
  | .callback _ => none
  | e => (σ.reconnection.perform e).map fun reconnection =>
    { σ with
      reconnection := reconnection
      connects := match e with
        | .connected | .reconnected _ => σ.connects + 1
        | _ => σ.connects }

/-- A call of `OnDisconnected` ends, with a task of `ContinuouslyReconnect` if it returns. -/
def callback (σ : MQTTRecovery) (returns : Bool) : Option MQTTRecovery :=
  (σ.reconnection.perform (.callback returns)).map fun reconnection =>
    { σ with reconnection := reconnection }

/-- `PullAllChangesPeriodic ??= new PeriodicAsyncAction`. -/
def pullAllChanges (σ : MQTTRecovery) : MQTTRecovery :=
  match σ.pullAllChangesPeriodic with
  | some _ => σ
  | none =>
    { σ with
      periodics := σ.periodics ++ [.new]
      pullAllChangesPeriodic := some σ.periodics.length }

/-- A step of an action. -/
def onPeriodic (σ : MQTTRecovery) (periodic : ℕ)
    (f : PeriodicAsyncAction → Option PeriodicAsyncAction) : Option MQTTRecovery := do
  let action ← σ.periodics[periodic]?
  let action ← f action
  return { σ with periodics := σ.periodics.set periodic action }

def perform (σ : MQTTRecovery) : RecoveryEvent → Option MQTTRecovery
  | .reconnection e => σ.reconnect e
  | .connectedReturns =>
    if 0 < σ.connects then some { σ with connects := σ.connects - 1 }.pullAllChanges else none
  | .connectedRaises =>
    if 0 < σ.connects then some { σ with connects := σ.connects - 1 } else none
  | .tick periodic => σ.onPeriodic periodic PeriodicAsyncAction.tick
  | .actionReturns periodic => σ.onPeriodic periodic PeriodicAsyncAction.actionReturns
  | .actionRaises periodic operationCanceled =>
    σ.onPeriodic periodic fun action => action.actionRaises operationCanceled
  | .onData raises =>
    if σ.disposing.length < σ.reconnection.callbacks then
      if raises then σ.callback false
      else match σ.pullAllChangesPeriodic with
        | none => σ.callback true
        | some periodic =>
          { σ with disposing := σ.disposing ++ [periodic] }.onPeriodic periodic
            fun action => some action.dispose
    else none
  | .disposed call => do
    let periodic ← σ.disposing[call]?
    let action ← σ.periodics[periodic]?
    match action.loopTask with
    | .finished =>
      callback
        { σ with
          disposing := σ.disposing.eraseIdx call
          pullAllChangesPeriodic := none } true
    | .faulted => callback { σ with disposing := σ.disposing.eraseIdx call } false
    | _ => none

/-- A connection that was constructed. -/
def initial : MQTTRecovery := ⟨.initial, 0, [], none, []⟩

/-- The runs of a connection. -/
inductive Runs : List RecoveryEvent → MQTTRecovery → Prop
  | start : Runs [] initial
  | step {past : List RecoveryEvent} {σ σ' : MQTTRecovery} {e : RecoveryEvent}
      (hpast : Runs past σ) (he : σ.perform e = some σ') : Runs (past ++ [e]) σ'

variable {σ σ' : MQTTRecovery} {e : RecoveryEvent} {past run : List RecoveryEvent}

/-! ### What a step does -/

theorem callback_eq_some_iff {returns : Bool} :
    σ.callback returns = some σ' ↔ 0 < σ.reconnection.callbacks ∧ σ' =
      { σ with
        reconnection :=
          { σ.reconnection with
            callbacks := σ.reconnection.callbacks - 1
            tasks := if returns then σ.reconnection.tasks ++ [.check]
              else σ.reconnection.tasks } } := by
  rw [callback, MQTTReconnection.perform]
  split
  · rename_i h
    simp [h, eq_comm]
  · rename_i h
    simp [h]

theorem onPeriodic_eq_some_iff {periodic : ℕ}
    {f : PeriodicAsyncAction → Option PeriodicAsyncAction} :
    σ.onPeriodic periodic f = some σ' ↔ ∃ action action', σ.periodics[periodic]? = some action ∧
      f action = some action' ∧ σ' = { σ with periodics := σ.periodics.set periodic action' } := by
  rw [onPeriodic]
  cases σ.periodics[periodic]? with
  | none => simp
  | some action =>
    cases hf : f action with
    | none => simp [hf]
    | some action' => simp [hf, eq_comm]

theorem onData_eq_some_iff {raises : Bool} :
    σ.perform (.onData raises) = some σ' ↔
      σ.disposing.length < σ.reconnection.callbacks ∧
        (raises = true ∧ σ.callback false = some σ' ∨
          raises = false ∧ (σ.pullAllChangesPeriodic = none ∧ σ.callback true = some σ' ∨
            ∃ periodic action, σ.pullAllChangesPeriodic = some periodic ∧
              σ.periodics[periodic]? = some action ∧
              σ' = { σ with
                disposing := σ.disposing ++ [periodic]
                periodics := σ.periodics.set periodic action.dispose })) := by
  rw [perform]
  split
  · rename_i hcallbacks
    cases raises with
    | true => simp [hcallbacks]
    | false =>
      cases hperiodic : σ.pullAllChangesPeriodic with
      | none => simp [hcallbacks]
      | some periodic => simp [hcallbacks, onPeriodic_eq_some_iff]
  · rename_i hcallbacks
    simp [hcallbacks]

theorem disposed_eq_some_iff {call : ℕ} :
    σ.perform (.disposed call) = some σ' ↔ ∃ periodic action,
      σ.disposing[call]? = some periodic ∧ σ.periodics[periodic]? = some action ∧
        (action.loopTask = .finished ∧
            callback { σ with
              disposing := σ.disposing.eraseIdx call
              pullAllChangesPeriodic := none } true = some σ' ∨
          action.loopTask = .faulted ∧
            callback { σ with disposing := σ.disposing.eraseIdx call } false = some σ') := by
  rw [perform]
  cases σ.disposing[call]? with
  | none => simp
  | some periodic =>
    cases hperiodic : σ.periodics[periodic]? with
    | none => simp [hperiodic]
    | some action =>
      obtain ⟨cancelled, loopTask⟩ := action
      cases loopTask <;> simp [hperiodic]

/-! ### Actions that have faulted -/

/-- The loop of an action has ended with an exception. -/
def HasFaulted (periodics : List PeriodicAsyncAction) (periodic : ℕ) : Prop :=
  ∃ action, periodics[periodic]? = some action ∧ action.loopTask = .faulted

theorem hasFaulted_append_new_iff {periodics : List PeriodicAsyncAction} {p : ℕ} :
    HasFaulted (periodics ++ [.new]) p ↔ HasFaulted periodics p := by
  constructor
  · rintro ⟨action, haction, hfaulted⟩
    rcases lt_or_ge p periodics.length with hlt | hge
    · rw [List.getElem?_append_left hlt] at haction
      exact ⟨action, haction, hfaulted⟩
    · rw [List.getElem?_append_right hge] at haction
      obtain rfl : action = .new := List.mem_singleton.mp (List.mem_of_getElem? haction)
      cases hfaulted
  · rintro ⟨action, haction, hfaulted⟩
    have hlt : p < periodics.length := (List.getElem?_eq_some_iff.mp haction).1
    exact ⟨action, by rw [List.getElem?_append_left hlt, haction], hfaulted⟩

theorem hasFaulted_set_iff {periodics : List PeriodicAsyncAction} {p q : ℕ}
    {action action' : PeriodicAsyncAction} {P : Prop} (haction : periodics[q]? = some action)
    (hfaults : action'.loopTask = .faulted ↔ action.loopTask = .faulted ∨ P) :
    HasFaulted (periodics.set q action') p ↔ HasFaulted periodics p ∨ q = p ∧ P := by
  have hlt : q < periodics.length := (List.getElem?_eq_some_iff.mp haction).1
  by_cases hqp : q = p
  · subst hqp
    rw [HasFaulted, HasFaulted, List.getElem?_set_self hlt, haction]
    simp [hfaults]
  · simp [HasFaulted, List.getElem?_set_ne hqp, hqp]

theorem reconnect_periodics {e : ReconnectionEvent} (he : σ.reconnect e = some σ') :
    σ'.periodics = σ.periodics ∧ σ'.pullAllChangesPeriodic = σ.pullAllChangesPeriodic ∧
      σ'.disposing = σ.disposing ∧ σ.reconnection.perform e = some σ'.reconnection := by
  cases e with
  | callback returns => cases he
  | _ =>
    obtain ⟨reconnection, hreconnection, rfl⟩ := Option.map_eq_some_iff.mp he
    exact ⟨rfl, rfl, rfl, hreconnection⟩

theorem callback_periodics {returns : Bool} (he : σ.callback returns = some σ') :
    σ'.periodics = σ.periodics := by
  obtain ⟨-, rfl⟩ := callback_eq_some_iff.mp he
  rfl

/-- An action faults when it raises, and stays so. -/
theorem hasFaulted_perform_iff (he : σ.perform e = some σ') (p : ℕ) :
    HasFaulted σ'.periodics p ↔ HasFaulted σ.periodics p ∨ e = .actionRaises p false := by
  cases e with
  | reconnection e =>
    rw [(reconnect_periodics he).1]
    simp
  | connectedReturns =>
    simp only [perform, Option.ite_none_right_eq_some, Option.some.injEq] at he
    obtain ⟨-, rfl⟩ := he
    rw [pullAllChanges]
    dsimp only
    cases σ.pullAllChangesPeriodic with
    | none => simp [hasFaulted_append_new_iff]
    | some periodic => simp
  | connectedRaises =>
    simp only [perform, Option.ite_none_right_eq_some, Option.some.injEq] at he
    obtain ⟨-, rfl⟩ := he
    simp
  | tick periodic =>
    obtain ⟨action, action', haction, htick, rfl⟩ := onPeriodic_eq_some_iff.mp he
    simp only [PeriodicAsyncAction.tick, Option.ite_none_right_eq_some, Option.some.injEq] at htick
    obtain ⟨hwaiting, rfl⟩ := htick
    rw [hasFaulted_set_iff (P := False) haction (by simp [hwaiting])]
    simp
  | actionReturns periodic =>
    obtain ⟨action, action', haction, hreturns, rfl⟩ := onPeriodic_eq_some_iff.mp he
    simp only [PeriodicAsyncAction.actionReturns, Option.ite_none_right_eq_some,
      Option.some.injEq] at hreturns
    obtain ⟨hacting, rfl⟩ := hreturns
    have hfaults : (if action.isCancellationRequested then PeriodicPhase.finished else .waiting) ≠
        .faulted := by split <;> nofun
    rw [hasFaulted_set_iff (P := False) haction (by simp [hacting, hfaults])]
    simp
  | actionRaises periodic operationCanceled =>
    obtain ⟨action, action', haction, hraises, rfl⟩ := onPeriodic_eq_some_iff.mp he
    simp only [PeriodicAsyncAction.actionRaises, Option.ite_none_right_eq_some,
      Option.some.injEq] at hraises
    obtain ⟨hacting, rfl⟩ := hraises
    rw [hasFaulted_set_iff (P := operationCanceled = false) haction (by
      cases operationCanceled <;> simp [hacting])]
    simp
  | onData raises =>
    obtain ⟨-, ⟨-, hcallback⟩ | ⟨-, ⟨-, hcallback⟩ | ⟨periodic, action, -, haction, rfl⟩⟩⟩ :=
      onData_eq_some_iff.mp he
    · rw [callback_periodics hcallback]
      simp
    · rw [callback_periodics hcallback]
      simp
    · rw [hasFaulted_set_iff haction action.dispose_faulted_iff]
      simp
  | disposed call =>
    obtain ⟨periodic, action, -, -, ⟨-, hcallback⟩ | ⟨-, hcallback⟩⟩ := disposed_eq_some_iff.mp he
    · rw [callback_periodics hcallback]
      simp
    · rw [callback_periodics hcallback]
      simp

/-- The actions that have faulted are those that have raised. -/
theorem Runs.hasFaulted_iff (hpast : Runs past σ) (p : ℕ) :
    HasFaulted σ.periodics p ↔ .actionRaises p false ∈ past := by
  induction hpast with
  | start => simp [HasFaulted, initial]
  | step hpast he ih =>
    rw [hasFaulted_perform_iff he, ih, List.mem_append, List.mem_singleton, eq_comm]

/-! ### Calls that end -/

/-- What holds of the calls that dispose of an action: there is a callback for each of them, and the
loops that they await have been cancelled. -/
structure Valid (σ : MQTTRecovery) : Prop where
  callbacks : σ.disposing.length ≤ σ.reconnection.callbacks
  settled : ∀ periodic ∈ σ.disposing, ∃ action, σ.periodics[periodic]? = some action ∧
    action.IsSettled

theorem settled_set {periodics : List PeriodicAsyncAction} {p q : ℕ}
    {action action' : PeriodicAsyncAction} (haction : periodics[q]? = some action)
    (hsettled : action.IsSettled → action'.IsSettled)
    (h : ∃ a, periodics[p]? = some a ∧ a.IsSettled) :
    ∃ a, (periodics.set q action')[p]? = some a ∧ a.IsSettled := by
  obtain ⟨a, ha, hold⟩ := h
  by_cases hqp : q = p
  · subst hqp
    cases haction.symm.trans ha
    exact ⟨action', List.getElem?_set_self (List.getElem?_eq_some_iff.mp ha).1, hsettled hold⟩
  · exact ⟨a, by rw [List.getElem?_set_ne hqp, ha], hold⟩

theorem callbacks_le_raise (σ : MQTTReconnection) (raised : Bool) :
    σ.callbacks ≤ (σ.raise raised).callbacks := Nat.le_add_right _ _

theorem callbacks_moveTask {σ σ' : MQTTReconnection} {task : ℕ} {now next : ReconnectPhase}
    (he : σ.moveTask task now next = some σ') : σ'.callbacks = σ.callbacks := by
  obtain ⟨-, rfl⟩ := MQTTReconnection.moveTask_eq_some_iff.mp he
  rfl

/-- Only `OnDisconnected` ends a callback. -/
theorem callbacks_le_perform {σ σ' : MQTTReconnection} {e : ReconnectionEvent}
    (he : σ.perform e = some σ') (hcallback : ∀ returns, e ≠ .callback returns) :
    σ.callbacks ≤ σ'.callbacks := by
  cases e with
  | callback returns => exact absurd rfl (hcallback returns)
  | wake task => exact (callbacks_moveTask he).ge
  | reconnected task =>
    obtain ⟨σ₁, hmove, rfl⟩ := Option.map_eq_some_iff.mp he
    exact (callbacks_moveTask hmove).ge
  | reconnectFails task raised =>
    obtain ⟨σ₁, hmove, rfl⟩ := Option.map_eq_some_iff.mp he
    exact (callbacks_moveTask hmove).ge.trans (callbacks_le_raise σ₁ raised)
  | autoConnect | check | disconnect =>
    simp only [MQTTReconnection.perform] at he
    grind
  | connected | clientRaises | cancel =>
    simp only [MQTTReconnection.perform, Option.ite_none_right_eq_some, Option.some.injEq] at he
    obtain ⟨-, rfl⟩ := he
    exact le_rfl
  | connectFails | connectionLost | clientDisconnects =>
    simp only [MQTTReconnection.perform, Option.ite_none_right_eq_some, Option.some.injEq] at he
    obtain ⟨-, rfl⟩ := he
    exact callbacks_le_raise _ _

/-- A call of `OnDisconnected` that ends is one of the callbacks. -/
theorem Valid.callback {returns : Bool} {disposing : List ℕ} (h : σ.Valid)
    (hdisposing : disposing.length + 1 ≤ σ.reconnection.callbacks)
    (hsub : ∀ p ∈ disposing, p ∈ σ.disposing) {periodic : Option ℕ}
    (he : callback { σ with
      disposing := disposing
      pullAllChangesPeriodic := periodic } returns = some σ') : σ'.Valid := by
  obtain ⟨-, rfl⟩ := callback_eq_some_iff.mp he
  exact ⟨Nat.le_sub_one_of_lt hdisposing, fun p hp => h.settled p (hsub p hp)⟩

theorem Valid.onPeriodic {p : ℕ} {f : PeriodicAsyncAction → Option PeriodicAsyncAction}
    (h : σ.Valid)
    (hf : ∀ action action', f action = some action' → action.IsSettled → action'.IsSettled)
    (he : σ.onPeriodic p f = some σ') : σ'.Valid := by
  obtain ⟨action, action', haction, hstep, rfl⟩ := onPeriodic_eq_some_iff.mp he
  exact ⟨h.callbacks, fun q hq => settled_set haction (hf action action' hstep) (h.settled q hq)⟩

theorem Valid.perform (h : σ.Valid) (he : σ.perform e = some σ') : σ'.Valid := by
  cases e with
  | reconnection e =>
    obtain ⟨hperiodics, -, hdisposing, hreconnection⟩ := reconnect_periodics he
    have hcallback : ∀ returns, e ≠ .callback returns := by
      rintro returns rfl
      cases he
    refine ⟨?_, ?_⟩
    · rw [hdisposing]
      exact h.callbacks.trans (callbacks_le_perform hreconnection hcallback)
    · rw [hdisposing, hperiodics]
      exact h.settled
  | connectedReturns =>
    simp only [MQTTRecovery.perform, Option.ite_none_right_eq_some, Option.some.injEq] at he
    obtain ⟨-, rfl⟩ := he
    rw [pullAllChanges]
    dsimp only
    cases σ.pullAllChangesPeriodic with
    | some periodic => exact ⟨h.callbacks, h.settled⟩
    | none =>
      -- the new action comes behind those that are disposed of
      refine ⟨h.callbacks, fun p hp => ?_⟩
      obtain ⟨action, haction, hsettled⟩ := h.settled p hp
      have hlt : p < σ.periodics.length := (List.getElem?_eq_some_iff.mp haction).1
      exact ⟨action, by rw [List.getElem?_append_left hlt, haction], hsettled⟩
  | connectedRaises =>
    simp only [MQTTRecovery.perform, Option.ite_none_right_eq_some, Option.some.injEq] at he
    obtain ⟨-, rfl⟩ := he
    exact ⟨h.callbacks, h.settled⟩
  | tick periodic =>
    refine h.onPeriodic (fun action action' htick hsettled => ?_) he
    simp only [PeriodicAsyncAction.tick, Option.ite_none_right_eq_some, Option.some.injEq] at htick
    -- a cancelled loop waits for no tick
    exact absurd htick.1 hsettled.2
  | actionReturns periodic =>
    refine h.onPeriodic (fun action action' hreturns hsettled => ?_) he
    simp only [PeriodicAsyncAction.actionReturns, Option.ite_none_right_eq_some,
      Option.some.injEq] at hreturns
    obtain ⟨-, rfl⟩ := hreturns
    refine ⟨hsettled.1, ?_⟩
    rw [if_pos hsettled.1]
    nofun
  | actionRaises periodic operationCanceled =>
    refine h.onPeriodic (fun action action' hraises hsettled => ?_) he
    simp only [PeriodicAsyncAction.actionRaises, Option.ite_none_right_eq_some,
      Option.some.injEq] at hraises
    obtain ⟨-, rfl⟩ := hraises
    refine ⟨hsettled.1, ?_⟩
    cases operationCanceled <;> nofun
  | onData raises =>
    obtain ⟨hlt, ⟨-, hcallback⟩ | ⟨-, ⟨-, hcallback⟩ | ⟨periodic, action, -, haction, rfl⟩⟩⟩ :=
      onData_eq_some_iff.mp he
    · exact h.callback hlt (fun _ hp => hp) hcallback
    · exact h.callback hlt (fun _ hp => hp) hcallback
    · refine ⟨?_, fun p hp => ?_⟩
      · rw [List.length_append, List.length_singleton]
        exact hlt
      · obtain hp | hp := List.mem_append.mp hp
        · exact settled_set haction (fun _ => action.dispose_isSettled) (h.settled p hp)
        · cases List.mem_singleton.mp hp
          have hlt : periodic < σ.periodics.length := (List.getElem?_eq_some_iff.mp haction).1
          exact ⟨action.dispose, List.getElem?_set_self hlt, action.dispose_isSettled⟩
  | disposed call =>
    obtain ⟨periodic, action, hcall, -, ⟨-, hcallback⟩ | ⟨-, hcallback⟩⟩ :=
      disposed_eq_some_iff.mp he
    all_goals
      have hlt : call < σ.disposing.length := (List.getElem?_eq_some_iff.mp hcall).1
      refine h.callback ?_ (fun p hp => List.mem_of_mem_eraseIdx hp) hcallback
      rw [List.length_eraseIdx_of_lt hlt]
      have hle := h.callbacks
      omega

theorem Runs.valid (hpast : Runs past σ) : σ.Valid := by
  induction hpast with
  | start => exact ⟨le_rfl, nofun⟩
  | step hpast he ih => exact ih.perform he

/-- A call of `OnDisconnected` ends. -/
def EndsCall (σ : MQTTRecovery) : RecoveryEvent → Prop
  | .onData raises => raises = true ∨ σ.pullAllChangesPeriodic = none
  | .disposed _ => True
  | _ => False

/-- A step, until `OnConnected` comes to its last line. -/
def StepUntilConnected (σ σ' : MQTTRecovery) : Prop :=
  ∃ e, e ≠ .connectedReturns ∧ σ.perform e = some σ'

/-- The action is there, and it waits for its next tick. -/
def Pulls (σ : MQTTRecovery) : Prop :=
  ∃ periodic, σ.pullAllChangesPeriodic = some periodic ∧ σ.periodics[periodic]? = some .new

/-- The action is forgotten, a task that reconnects is started, and the next call of `OnConnected`
that comes to its last line starts to pull. -/
structure Recovers (σ σ' : MQTTRecovery) : Prop where
  forgotten : σ'.pullAllChangesPeriodic = none
  reconnects : σ'.reconnection.tasks = σ.reconnection.tasks ++ [.check]
  pulls : ∀ σ₁ σ₂, Relation.ReflTransGen StepUntilConnected σ' σ₁ →
    σ₁.perform .connectedReturns = some σ₂ → σ₂.Pulls

theorem pullAllChangesPeriodic_none (h : σ.pullAllChangesPeriodic = none)
    (hstep : StepUntilConnected σ σ') : σ'.pullAllChangesPeriodic = none := by
  obtain ⟨e, hconnected, he⟩ := hstep
  cases e with
  | reconnection e => rw [(reconnect_periodics he).2.1, h]
  | connectedReturns => exact absurd rfl hconnected
  | connectedRaises =>
    simp only [perform, Option.ite_none_right_eq_some, Option.some.injEq] at he
    obtain ⟨-, rfl⟩ := he
    exact h
  | tick | actionReturns | actionRaises =>
    obtain ⟨-, -, -, -, rfl⟩ := onPeriodic_eq_some_iff.mp he
    exact h
  | onData raises =>
    obtain ⟨-, ⟨-, hcallback⟩ | ⟨-, ⟨-, hcallback⟩ | ⟨periodic, action, hperiodic, -⟩⟩⟩ :=
      onData_eq_some_iff.mp he
    · obtain ⟨-, rfl⟩ := callback_eq_some_iff.mp hcallback
      exact h
    · obtain ⟨-, rfl⟩ := callback_eq_some_iff.mp hcallback
      exact h
    · cases h.symm.trans hperiodic
  | disposed call =>
    obtain ⟨periodic, action, -, -, ⟨-, hcallback⟩ | ⟨-, hcallback⟩⟩ := disposed_eq_some_iff.mp he
    · obtain ⟨-, rfl⟩ := callback_eq_some_iff.mp hcallback
      rfl
    · obtain ⟨-, rfl⟩ := callback_eq_some_iff.mp hcallback
      exact h

/-- Once the action is forgotten, the next connection pulls. -/
theorem pulls_of_none (h : σ.pullAllChangesPeriodic = none) {σ₁ σ₂ : MQTTRecovery}
    (hsteps : Relation.ReflTransGen StepUntilConnected σ σ₁)
    (he : σ₁.perform .connectedReturns = some σ₂) : σ₂.Pulls := by
  have hnone : σ₁.pullAllChangesPeriodic = none := by
    clear he
    induction hsteps with
    | refl => exact h
    | tail _ hstep ih => exact pullAllChangesPeriodic_none ih hstep
  simp only [perform, Option.ite_none_right_eq_some, Option.some.injEq] at he
  obtain ⟨-, rfl⟩ := he
  rw [pullAllChanges]
  simp only [hnone]
  exact ⟨_, rfl, List.getElem?_concat_length ..⟩

theorem recovers_of_returns {disposing : List ℕ}
    (he : callback { σ with
      disposing := disposing
      pullAllChangesPeriodic := none } true = some σ') : Recovers σ σ' := by
  obtain ⟨-, rfl⟩ := callback_eq_some_iff.mp he
  exact ⟨rfl, rfl, fun σ₁ σ₂ => pulls_of_none rfl⟩

theorem not_recovers_of_raises {disposing : List ℕ}
    (he : callback { σ with disposing := disposing } false = some σ') : ¬ Recovers σ σ' := by
  obtain ⟨-, rfl⟩ := callback_eq_some_iff.mp he
  intro h
  have hlength := congrArg List.length h.reconnects
  rw [List.length_append, List.length_singleton] at hlength
  exact Nat.succ_ne_self _ hlength.symm

/-- A call that ends has recovered just when nothing was raised. -/
theorem recovers_iff (he : σ.perform e = some σ') (hends : σ.EndsCall e) :
    Recovers σ σ' ↔ e ≠ .onData true ∧ ∀ call periodic, e = .disposed call →
      σ.disposing[call]? = some periodic → ¬ HasFaulted σ.periodics periodic := by
  cases e with
  | onData raises =>
    obtain ⟨-, ⟨rfl, hcallback⟩ | ⟨rfl, ⟨hnone, hcallback⟩ | ⟨periodic, action, hsome, -⟩⟩⟩ :=
      onData_eq_some_iff.mp he
    · exact iff_of_false (not_recovers_of_raises hcallback) fun h => h.1 rfl
    · have hrecovers : Recovers σ σ' := by
        obtain ⟨reconnection, connects, periodics, pull, disposing⟩ := σ
        subst hnone
        exact recovers_of_returns hcallback
      exact iff_of_true hrecovers ⟨nofun, nofun⟩
    · obtain hraises | hnone := hends
      · cases hraises
      · cases hnone.symm.trans hsome
  | disposed call =>
    obtain ⟨periodic, action, hcall, haction, ⟨hfinished, hcallback⟩ | ⟨hfaulted, hcallback⟩⟩ :=
      disposed_eq_some_iff.mp he
    · refine iff_of_true (recovers_of_returns hcallback) ⟨nofun, ?_⟩
      rintro call' periodic' hcall' hperiodic ⟨action', haction', hfaulted⟩
      cases hcall'
      cases hcall.symm.trans hperiodic
      cases haction.symm.trans haction'
      cases hfinished.symm.trans hfaulted
    · exact iff_of_false (not_recovers_of_raises hcallback) fun h =>
        h.2 call periodic rfl hcall ⟨action, haction, hfaulted⟩
  | _ => exact hends.elim

/-- Unless the token is cancelled, the task that was started can reconnect. -/
theorem Recovers.canReconnect (h : Recovers σ σ')
    (hcancelled : σ'.reconnection.isCancellationRequested = false) :
    σ'.reconnection.CanReconnect := by
  have htask : σ'.reconnection.tasks[σ.reconnection.tasks.length]? = some .check := by
    rw [h.reconnects, List.getElem?_concat_length]
  exact MQTTReconnection.canReconnect_of_check htask hcancelled

/-! ### Runs -/

theorem reconnection_callback {returns : Bool} (he : σ.callback returns = some σ') :
    MQTTReconnection.Step σ.reconnection σ'.reconnection := by
  obtain ⟨reconnection, hreconnection, rfl⟩ := Option.map_eq_some_iff.mp he
  exact ⟨_, hreconnection⟩

/-- A step is one of `MQTTReconnection`, or it does not concern it. -/
theorem reconnection_perform (he : σ.perform e = some σ') :
    σ'.reconnection = σ.reconnection ∨
      MQTTReconnection.Step σ.reconnection σ'.reconnection := by
  cases e with
  | reconnection e => exact .inr ⟨e, (reconnect_periodics he).2.2.2⟩
  | connectedReturns =>
    simp only [perform, Option.ite_none_right_eq_some, Option.some.injEq] at he
    obtain ⟨-, rfl⟩ := he
    rw [pullAllChanges]
    dsimp only
    cases σ.pullAllChangesPeriodic with
    | none => exact .inl rfl
    | some periodic => exact .inl rfl
  | connectedRaises =>
    simp only [perform, Option.ite_none_right_eq_some, Option.some.injEq] at he
    obtain ⟨-, rfl⟩ := he
    exact .inl rfl
  | tick | actionReturns | actionRaises =>
    obtain ⟨-, -, -, -, rfl⟩ := onPeriodic_eq_some_iff.mp he
    exact .inl rfl
  | onData raises =>
    obtain ⟨-, ⟨-, hcallback⟩ | ⟨-, ⟨-, hcallback⟩ | ⟨periodic, action, -, -, rfl⟩⟩⟩ :=
      onData_eq_some_iff.mp he
    · exact .inr (reconnection_callback hcallback)
    · exact .inr (reconnection_callback hcallback)
    · exact .inl rfl
  | disposed call =>
    obtain ⟨periodic, action, -, -, ⟨-, hcallback⟩ | ⟨-, hcallback⟩⟩ := disposed_eq_some_iff.mp he
    · exact .inr (reconnection_callback (σ := { σ with
        disposing := σ.disposing.eraseIdx call
        pullAllChangesPeriodic := none }) hcallback)
    · exact .inr (reconnection_callback (σ := { σ with
        disposing := σ.disposing.eraseIdx call }) hcallback)

theorem reachable_reconnection (hrun : Runs run σ) :
    Reachable (· = .initial) MQTTReconnection.Step σ.reconnection := by
  induction hrun with
  | start => exact .refl rfl
  | step hpast he ih =>
    obtain heq | hstep := reconnection_perform he
    · rw [heq]
      exact ih
    · exact ih.tail hstep

/-- No call of `OnDisconnected` is stuck, and each that ends has recovered. -/
structure RecoversAlways (run : List RecoveryEvent) : Prop where
  ends : ∀ past σ, past <+: run → Runs past σ → ∀ call periodic,
    σ.disposing[call]? = some periodic →
      (∃ action, σ.periodics[periodic]? = some action ∧ action.loopTask = .acting) ∨
        ∃ σ', σ.perform (.disposed call) = some σ'
  recovers : ∀ past e, past ++ [e] <+: run → ∀ σ σ', Runs past σ → σ.perform e = some σ' →
    σ.EndsCall e → Recovers σ σ'

/-- No handler of `OnData` raises, and no action that has raised is disposed of. -/
structure Undisturbed (run : List RecoveryEvent) : Prop where
  onData : .onData true ∉ run
  disposed : ∀ past call, past ++ [.disposed call] <+: run → ∀ σ periodic, Runs past σ →
    σ.disposing[call]? = some periodic → .actionRaises periodic false ∉ past

theorem Runs.unique (h : Runs past σ) (h' : Runs past σ') : σ = σ' := by
  induction h generalizing σ' with
  | start =>
    generalize hnil : ([] : List RecoveryEvent) = past at h'
    cases h' with
    | start => rfl
    | step => exact absurd hnil.symm (List.append_ne_nil_of_right_ne_nil _ (by simp))
  | @step past σ₁ σ₂ e hpast he ih =>
    generalize hconcat : past ++ [e] = run at h'
    cases h' with
    | start => exact absurd hconcat (List.append_ne_nil_of_right_ne_nil _ (by simp))
    | step hpast' he' =>
      obtain ⟨rfl, hlast⟩ := List.append_inj' hconcat rfl
      cases hlast
      cases ih hpast'
      exact Option.some.inj (he.symm.trans he')

theorem Runs.exists_step (hrun : Runs run σ) (hle : past ++ [e] <+: run) :
    ∃ σ₁ σ₂, Runs past σ₁ ∧ σ₁.perform e = some σ₂ := by
  induction hrun with
  | start =>
    exact absurd (List.prefix_nil.mp hle) (List.append_ne_nil_of_right_ne_nil _ (by simp))
  | step hpast he ih =>
    obtain heq | hle := List.prefix_concat_iff.mp hle
    · obtain ⟨rfl, hlast⟩ := List.append_inj' heq rfl
      cases hlast
      exact ⟨_, _, hpast, he⟩
    · exact ih hle

/-- A call can go on as soon as the action that it disposes of is over. -/
theorem Valid.ends (h : σ.Valid) {call periodic : ℕ} (hcall : σ.disposing[call]? = some periodic) :
    (∃ action, σ.periodics[periodic]? = some action ∧ action.loopTask = .acting) ∨
      ∃ σ', σ.perform (.disposed call) = some σ' := by
  obtain ⟨action, haction, -, hwaiting⟩ := h.settled periodic (List.mem_of_getElem? hcall)
  have hlt : call < σ.disposing.length := (List.getElem?_eq_some_iff.mp hcall).1
  have hcallbacks : 0 < σ.reconnection.callbacks := (Nat.zero_lt_of_lt hlt).trans_le h.callbacks
  cases hloop : action.loopTask with
  | waiting => exact absurd hloop hwaiting
  | acting => exact .inl ⟨action, haction, hloop⟩
  | finished =>
    exact .inr ⟨_, disposed_eq_some_iff.mpr ⟨periodic, action, hcall, haction,
      .inl ⟨hloop, callback_eq_some_iff.mpr ⟨hcallbacks, rfl⟩⟩⟩⟩
  | faulted =>
    exact .inr ⟨_, disposed_eq_some_iff.mpr ⟨periodic, action, hcall, haction,
      .inr ⟨hloop, callback_eq_some_iff.mpr ⟨hcallbacks, rfl⟩⟩⟩⟩

/-- **Every disconnect of a run is recovered from** just when no handler of `OnData` raises in it
and no action that has raised is disposed of. -/
theorem recoversAlways_iff (hrun : Runs run σ) : RecoversAlways run ↔ Undisturbed run := by
  constructor
  · intro h
    refine ⟨fun honData => ?_, fun past call hle σ₁ periodic hpast hcall hraised => ?_⟩
    -- the handler that raises ends its call before anything is disposed of
    · obtain ⟨past, later, rfl⟩ := List.append_of_mem honData
      have hle : past ++ [.onData true] <+: past ++ .onData true :: later :=
        ⟨later, List.append_assoc ..⟩
      obtain ⟨σ₁, σ₂, hpast, he⟩ := hrun.exists_step hle
      have hrecovers := h.recovers past _ hle σ₁ σ₂ hpast he (.inl rfl)
      exact ((recovers_iff he (.inl rfl)).mp hrecovers).1 rfl
    -- what the action has raised is raised again
    · obtain ⟨σ₁', σ₂, hpast', he⟩ := hrun.exists_step hle
      cases hpast.unique hpast'
      have hrecovers := h.recovers past _ hle σ₁ σ₂ hpast he trivial
      exact ((recovers_iff he trivial).mp hrecovers).2 call periodic rfl hcall
        ((hpast.hasFaulted_iff periodic).mpr hraised)
  · intro h
    refine ⟨fun past σ₁ _ hpast call periodic => hpast.valid.ends, ?_⟩
    intro past e hle σ₁ σ₂ hpast he hends
    refine (recovers_iff he hends).mpr ⟨?_, ?_⟩
    · rintro rfl
      exact h.onData (hle.subset (List.mem_append_right past (List.mem_singleton.mpr rfl)))
    · rintro call periodic rfl hcall hfaulted
      exact h.disposed past call hle σ₁ periodic hpast hcall ((hpast.hasFaulted_iff _).mp hfaulted)

/-- The client connects, pulls once and loses its connection. -/
private def pulledOnce : List RecoveryEvent :=
  [.reconnection .autoConnect, .reconnection .connected, .connectedReturns, .tick 0,
    .actionReturns 0, .reconnection .connectionLost, .onData false, .disposed 0]

theorem recoversAlways_pulledOnce : RecoversAlways pulledOnce := by
  have h₁ := Runs.step .start (e := .reconnection .autoConnect) rfl
  have h₂ := h₁.step (e := .reconnection .connected) rfl
  have h₃ := h₂.step (e := .connectedReturns) rfl
  have h₄ := h₃.step (e := .tick 0) rfl
  have h₅ := h₄.step (e := .actionReturns 0) rfl
  have h₆ := h₅.step (e := .reconnection .connectionLost) rfl
  have h₇ := h₆.step (e := .onData false) rfl
  have h₈ := h₇.step (e := .disposed 0) rfl
  refine (recoversAlways_iff h₈).mpr ⟨by simp, ?_⟩
  intro past call hle σ periodic hpast hcall hraised
  have hmem := hle.subset (List.mem_append_left _ hraised)
  simp at hmem

/-- The publish raises as the connection is lost. -/
theorem recoversAlways_fails : ¬ ∀ run σ, Runs run σ → RecoversAlways run := by
  intro hall
  have h₁ := Runs.step .start (e := .reconnection .autoConnect) rfl
  have h₂ := h₁.step (e := .reconnection .connected) rfl
  have h₃ := h₂.step (e := .connectedReturns) rfl
  have h₄ := h₃.step (e := .tick 0) rfl
  have h₅ := h₄.step (e := .reconnection .connectionLost) rfl
  have h₆ := h₅.step (e := .actionRaises 0 false) rfl
  have h₇ := h₆.step (e := .onData false) rfl
  have h₈ := h₇.step (e := .disposed 0) rfl
  have hrecovers := (hall _ _ h₈).recovers _ _ List.prefix_rfl _ _ h₇ rfl trivial
  cases hrecovers.forgotten

end MQTTRecovery

end Connect3Dp
