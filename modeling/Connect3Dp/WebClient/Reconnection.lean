import Connect3Dp.Runtime.Arithmetic
import Connect3Dp.Runtime.Transition
import Mathlib.Logic.Function.Basic

/-!
# The reconnection of the JavaScript client

`connect()` opens a socket. When a socket closes and the client did not ask for it, its `onclose`
starts a `_reconnectLoop`, which sleeps, opens a socket with the same `onclose`, and starts over
until an attempt succeeds or no attempts are left. `Connection` is the part of a client that takes
part in this. Timers may expire in any order, so the delays of the backoff are left out.

The `onclose` of a failed attempt starts another loop beside the one that made the attempt, that of
a socket that is no longer the client's does so too, and `connect()` does not look at what is
running. `Keeps` is what an event has to meet, and `Single` the invariant that it keeps.

Handlers of the application run inside the events. What they call is an event of its own.
-/

namespace Connect3Dp

namespace WebClient

/-- `ReconnectOptions`, without the delays. -/
structure ReconnectOptions where
  enabled : Bool
  maxAttempts : Double

namespace ReconnectOptions

/-- The defaults. -/
instance : Inhabited ReconnectOptions := ⟨⟨true, .infinite false⟩⟩

def attemptsLeft (o : ReconnectOptions) (attempt : ℕ) : Bool :=
  (Double.finite attempt).lt o.maxAttempts

/-- `maxAttempts` is a number of attempts that the counter can reach, or there is no limit. -/
def IsCount (o : ReconnectOptions) : Prop :=
  o.maxAttempts = .infinite false ∨ ∃ n : ℕ, n ≤ 2 ^ 53 ∧ o.maxAttempts = .finite n

/-- The attempts never run out. -/
def Unlimited (o : ReconnectOptions) : Prop := ∀ n, o.attemptsLeft n = true

/-- So many attempts can be made. -/
def Within (o : ReconnectOptions) (n : ℕ) : Prop := ∀ m < n, o.attemptsLeft m = true

theorem Within.succ {o : ReconnectOptions} {n : ℕ} (h : o.Within n)
    (hleft : o.attemptsLeft n = true) : o.Within (n + 1) := by
  intro m hm
  rcases Nat.lt_succ_iff_lt_or_eq.mp hm with hm | rfl
  · exact h m hm
  · exact hleft

theorem Within.not_exceeded {o : ReconnectOptions} {n : ℕ} (hcount : o.IsCount) (h : o.Within n) :
    o.maxAttempts.lt (.finite n) = false := by
  obtain hmax | ⟨m, -, hmax⟩ := hcount
  · rw [hmax]
    rfl
  · rw [hmax]
    by_contra hlt
    have hmn : m < n := by simpa [Double.lt] using hlt
    have hleft := h m hmn
    simp [attemptsLeft, hmax, Double.lt] at hleft

end ReconnectOptions

/-! ### Sockets and loops -/

/-- The `readyState` of a socket. One that closes may have an `error` event to come before its
`close` event. -/
inductive SocketState
  | notCreated
  | connecting
  | opened
  | failing
  | closing
  | closed
  deriving DecidableEq

namespace SocketState

/-- `ws.close()`. -/
def close : SocketState → SocketState
  | connecting => failing
  | opened => closing
  | state => state

def isLive : SocketState → Bool
  | connecting | opened => true
  | _ => false

/-- An `error` event can come. -/
def mayFail : SocketState → Bool
  | connecting | opened | failing | closing => true
  | _ => false

/-- A `close` event can come. -/
def mayClose : SocketState → Bool
  | opened | closing => true
  | _ => false

end SocketState

/-- A socket, and how the promise of its `_openSocket` was settled, if it was. -/
structure Socket where
  state : SocketState
  resolved : Option Bool

/-- The first call of `resolve` or `reject` settles the promise. -/
def Socket.settle (socket : Socket) (resolved : Bool) : Option Bool :=
  some (socket.resolved.getD resolved)

/-- Where a `_reconnectLoop` is. -/
inductive LoopPhase
  | notStarted
  /-- In `await sleep(...)`. -/
  | sleeping
  /-- In `await this._openSocket()`. -/
  | opening (socket : ℕ)
  /-- It restores the subscriptions. -/
  | resubscribing
  | finished
  deriving DecidableEq

def LoopPhase.isRunning : LoopPhase → Bool
  | notStarted | finished => false
  | _ => true

structure Loop where
  attempt : ℕ
  phase : LoopPhase

/-- What happens to a client. `constructed` tells whether `new WebSocket(...)` returns. -/
inductive ConnectionEvent
  | connect (constructed : Bool)
  | disconnect
  | opened (socket : ℕ)
  | error (socket : ℕ)
  | closed (socket : ℕ)
  /-- The timer of a loop that sleeps expires. -/
  | timer (loop : ℕ) (constructed : Bool)
  /-- A loop goes on from the promise that it awaits. -/
  | resume (loop : ℕ)
  /-- The last request of a loop that restores the subscriptions is settled. -/
  | restored (loop : ℕ)

/-! ### The client -/

/-- Sockets and loops are numbered in the order in which they were made. `attempts` counts the
attempts that were begun since a socket opened last. -/
structure Connection where
  sockets : ℕ → Socket
  socketsMade : ℕ
  ws : Option ℕ
  intentionalClose : Bool
  loops : ℕ → Loop
  loopsStarted : ℕ
  attempts : ℕ

namespace Connection

def initial : Connection where
  sockets _ := ⟨.notCreated, none⟩
  socketsMade := 0
  ws := none
  intentionalClose := false
  loops _ := ⟨0, .notStarted⟩
  loopsStarted := 0
  attempts := 0

def setSocket (s : Connection) (i : ℕ) (socket : Socket) : Connection :=
  { s with sockets := Function.update s.sockets i socket }

def setLoop (s : Connection) (l : ℕ) (loop : Loop) : Connection :=
  { s with loops := Function.update s.loops l loop }

theorem sockets_setSocket_self {s : Connection} {i : ℕ} {socket : Socket} :
    (s.setSocket i socket).sockets i = socket := Function.update_self ..

theorem sockets_setSocket_of_ne {s : Connection} {i j : ℕ} {socket : Socket} (h : j ≠ i) :
    (s.setSocket i socket).sockets j = s.sockets j := Function.update_of_ne h ..

theorem loops_setLoop_self {s : Connection} {l : ℕ} {loop : Loop} :
    (s.setLoop l loop).loops l = loop := Function.update_self ..

theorem loops_setLoop_of_ne {s : Connection} {l k : ℕ} {loop : Loop} (h : k ≠ l) :
    (s.setLoop l loop).loops k = s.loops k := Function.update_of_ne h ..

/-- `_openSocket`, when `new WebSocket(...)` returns. -/
def openSocket (s : Connection) : Connection :=
  { s.setSocket s.socketsMade ⟨.connecting, none⟩ with
    socketsMade := s.socketsMade + 1, ws := some s.socketsMade }

theorem sockets_openSocket_self {s : Connection} :
    s.openSocket.sockets s.socketsMade = ⟨.connecting, none⟩ := sockets_setSocket_self

theorem sockets_openSocket_of_ne {s : Connection} {j : ℕ} (h : j ≠ s.socketsMade) :
    s.openSocket.sockets j = s.sockets j := sockets_setSocket_of_ne h

/-- The head of the `while` loop of `_reconnectLoop`. -/
def iterate (o : ReconnectOptions) (s : Connection) (l attempt : ℕ) : Connection :=
  if o.attemptsLeft attempt && !s.intentionalClose then
    { s.setLoop l ⟨attempt + 1, .sleeping⟩ with attempts := s.attempts + 1 }
  else s.setLoop l ⟨attempt, .finished⟩

/-- `_reconnectLoop`, up to what it awaits first. -/
def reconnectLoop (o : ReconnectOptions) (s : Connection) : Connection :=
  iterate o { s with loopsStarted := s.loopsStarted + 1 } s.loopsStarted 0

def connect (s : Connection) (constructed : Bool) : Connection :=
  let s := { s with intentionalClose := false }
  if constructed then s.openSocket else s

def disconnect (s : Connection) : Connection :=
  let s := { s with intentionalClose := true }
  match s.ws with
  | none => s
  | some i =>
    { s.setSocket i { s.sockets i with state := (s.sockets i).state.close } with ws := none }

def onopen (s : Connection) (i : ℕ) : Connection :=
  { s.setSocket i ⟨.opened, (s.sockets i).settle true⟩ with attempts := 0 }

def onerror (s : Connection) (i : ℕ) : Connection :=
  s.setSocket i ⟨.closing, (s.sockets i).settle false⟩

def onclose (o : ReconnectOptions) (s : Connection) (i : ℕ) : Connection :=
  let s := s.setSocket i { s.sockets i with state := .closed }
  if !s.intentionalClose && o.enabled then s.reconnectLoop o else s

/-- The body of the `while` loop after `await sleep(...)`. -/
def attempt (o : ReconnectOptions) (s : Connection) (l attempt : ℕ) (constructed : Bool) :
    Connection :=
  if s.intentionalClose then s.setLoop l ⟨attempt, .finished⟩
  else if constructed then s.openSocket.setLoop l ⟨attempt, .opening s.socketsMade⟩
  else s.iterate o l attempt

/-- What an event does, if it can happen. -/
def perform (o : ReconnectOptions) (s : Connection) : ConnectionEvent → Option Connection
  | .connect constructed => some (s.connect constructed)
  | .disconnect => some s.disconnect
  | .opened i => if (s.sockets i).state = .connecting then some (s.onopen i) else none
  | .error i => if (s.sockets i).state.mayFail then some (s.onerror i) else none
  | .closed i => if (s.sockets i).state.mayClose then some (s.onclose o i) else none
  | .timer l constructed =>
    match (s.loops l).phase with
    | .sleeping => some (s.attempt o l (s.loops l).attempt constructed)
    | _ => none
  | .resume l =>
    match (s.loops l).phase with
    | .opening i =>
      (s.sockets i).resolved.map fun resolved =>
        if resolved then s.setLoop l { s.loops l with phase := .resubscribing }
        else s.iterate o l (s.loops l).attempt
    | _ => none
  | .restored l =>
    match (s.loops l).phase with
    | .resubscribing => some (s.setLoop l { s.loops l with phase := .finished })
    | _ => none

def Step (o : ReconnectOptions) (s s' : Connection) : Prop := ∃ e, s.perform o e = some s'

/-! ### What is to hold -/

/-- The socket is open or connecting. -/
def Live (s : Connection) (i : ℕ) : Prop := (s.sockets i).state.isLive = true

def Running (s : Connection) (l : ℕ) : Prop := (s.loops l).phase.isRunning = true

/-- At most one loop runs, at most one socket is open or connecting, and no more attempts were
begun since the last success than the options allow. -/
structure Safe (o : ReconnectOptions) (s : Connection) : Prop where
  loops : ∀ l l', s.Running l → s.Running l' → l = l'
  sockets : ∀ i j, s.Live i → s.Live j → i = j
  attempts : o.maxAttempts.lt (.finite s.attempts) = false

/-- The loop can still open a socket. -/
def MayOpen (o : ReconnectOptions) (s : Connection) (l : ℕ) : Prop :=
  (s.loops l).phase = .sleeping ∨ ∃ i, (s.loops l).phase = .opening i ∧
    o.attemptsLeft (s.loops l).attempt = true ∧ (s.sockets i).resolved ≠ some true

/-- An `onclose` starts a loop that runs. -/
def StartsLoop (o : ReconnectOptions) (s : Connection) : Prop :=
  o.enabled = true ∧ s.intentionalClose = false ∧ o.attemptsLeft 0 = true

/-- What an event has to meet: `connect()` opens a socket only while there is no other and no loop
that can open one, and a socket that closes starts a loop only while none runs, no other socket is
open or connecting, and no attempt was begun since the last success. -/
def Keeps (o : ReconnectOptions) (s : Connection) : ConnectionEvent → Prop
  | .connect true => (∀ i, ¬ s.Live i) ∧ ∀ l, ¬ s.MayOpen o l
  | .closed i => s.StartsLoop o →
      (∀ l, ¬ s.Running l) ∧ (∀ j, s.Live j → j = i) ∧ (s.attempts = 0 ∨ o.Unlimited)
  | _ => True

/-! ### The invariant -/

/-- What every state of a run has whose events meet `Keeps`. -/
structure Single (o : ReconnectOptions) (s : Connection) : Prop where
  loops : ∀ l l', s.Running l → s.Running l' → l = l'
  sockets : ∀ i j, s.Live i → s.Live j → i = j
  fresh : ∀ i, s.socketsMade ≤ i → s.sockets i = ⟨.notCreated, none⟩
  rejected : ∀ i, (s.sockets i).resolved = some false → ¬ s.Live i
  mayOpen : ∀ l, s.MayOpen o l → ∀ j, s.Live j → (s.loops l).phase = .opening j
  counted : ∀ l, s.MayOpen o l → o.Unlimited ∨ s.attempts ≤ (s.loops l).attempt
  withinLoop : ∀ l, o.Within (s.loops l).attempt
  within : o.Within s.attempts

variable {o : ReconnectOptions} {s s' : Connection}

theorem MayOpen.running {l : ℕ} (h : s.MayOpen o l) : s.Running l := by
  obtain h | ⟨i, h, -⟩ := h
  all_goals
    rw [Running, h]
    rfl

theorem single_initial : Single o initial where
  loops _ _ h := by cases h
  sockets _ _ h := by cases h
  fresh _ _ := rfl
  rejected _ h := by cases h
  mayOpen _ _ _ h := by cases h
  counted _ h := by cases h.running
  withinLoop _ _ h := absurd h (Nat.not_lt_zero _)
  within _ h := absurd h (Nat.not_lt_zero _)

/-- The rest of the client does not matter. -/
theorem Single.congr (h : Single o s) (hsockets : s'.sockets = s.sockets)
    (hmade : s'.socketsMade = s.socketsMade) (hloops : s'.loops = s.loops)
    (hattempts : s'.attempts = s.attempts) : Single o s' := by
  obtain ⟨⟩ := s
  obtain ⟨⟩ := s'
  cases hsockets
  cases hmade
  cases hloops
  cases hattempts
  exact ⟨h.loops, h.sockets, h.fresh, h.rejected, h.mayOpen, h.counted, h.withinLoop, h.within⟩

theorem Single.lt_socketsMade (h : Single o s) {i : ℕ} (hi : (s.sockets i).state ≠ .notCreated) :
    i < s.socketsMade := by
  by_contra hle
  rw [h.fresh i (Nat.not_lt.mp hle)] at hi
  exact hi rfl

/-- A socket that stops being used, or stays as it is. -/
theorem Single.setSocket (h : Single o s) {i : ℕ} {socket : Socket}
    (hlive : socket.state.isLive = true → s.Live i)
    (hresolved : (s.sockets i).resolved = some true → socket.resolved = some true)
    (hrejected : socket.resolved = some false → ¬ socket.state.isLive = true)
    (hfresh : i < s.socketsMade ∨ socket = s.sockets i) : Single o (s.setSocket i socket) := by
  have hself : (s.setSocket i socket).sockets i = socket := sockets_setSocket_self
  have hother : ∀ j, j ≠ i → (s.setSocket i socket).sockets j = s.sockets j :=
    fun _ => sockets_setSocket_of_ne
  -- no socket comes to life
  have hlives : ∀ j, (s.setSocket i socket).Live j → s.Live j := by
    intro j hj
    rcases eq_or_ne j i with rfl | hne
    · rw [Live, hself] at hj
      exact hlive hj
    · rwa [Live, hother j hne] at hj
  -- no loop can open a socket that could not before
  have hmay : ∀ l, (s.setSocket i socket).MayOpen o l → s.MayOpen o l := by
    rintro l (hl | ⟨j, hl, hleft, hj⟩)
    · exact .inl hl
    · refine .inr ⟨j, hl, hleft, fun hres => hj ?_⟩
      rcases eq_or_ne j i with rfl | hne
      · rw [hself]
        exact hresolved hres
      · rwa [hother j hne]
  refine ⟨h.loops, fun j k hj hk => h.sockets j k (hlives j hj) (hlives k hk), fun j hj => ?_,
    fun j hj => ?_, fun l hl j hj => h.mayOpen l (hmay l hl) j (hlives j hj),
    fun l hl => h.counted l (hmay l hl), h.withinLoop, h.within⟩
  · rcases eq_or_ne j i with rfl | hne
    · rw [hself]
      obtain hlt | heq := hfresh
      · exact absurd hlt (Nat.not_lt.mpr hj)
      · rw [heq]
        exact h.fresh j hj
    · rw [hother j hne]
      exact h.fresh j hj
  · rcases eq_or_ne j i with rfl | hne
    · rw [Live, hself]
      rw [hself] at hj
      exact hrejected hj
    · rw [Live, hother j hne]
      rw [hother j hne] at hj
      exact h.rejected j hj

/-- A new socket while there is no other and no loop that can open one. -/
theorem Single.openSocket (h : Single o s) (hlive : ∀ i, ¬ s.Live i)
    (hmay : ∀ l, ¬ s.MayOpen o l) : Single o s.openSocket := by
  have hself : s.openSocket.sockets s.socketsMade = ⟨.connecting, none⟩ := sockets_openSocket_self
  have hother : ∀ j, j ≠ s.socketsMade → s.openSocket.sockets j = s.sockets j :=
    fun _ => sockets_openSocket_of_ne
  have hlives : ∀ j, s.openSocket.Live j → j = s.socketsMade := by
    intro j hj
    by_contra hne
    rw [Live, hother j hne] at hj
    exact hlive j hj
  -- the socket is new, so no loop awaits it
  have hmay' : ∀ l, ¬ s.openSocket.MayOpen o l := by
    rintro l (hl | ⟨j, hl, hleft, hj⟩)
    · exact hmay l (.inl hl)
    · refine hmay l (.inr ⟨j, hl, hleft, fun hres => hj ?_⟩)
      rcases eq_or_ne j s.socketsMade with rfl | hne
      · rw [h.fresh _ le_rfl] at hres
        cases hres
      · rwa [hother j hne]
  refine ⟨h.loops, fun j k hj hk => (hlives j hj).trans (hlives k hk).symm, fun j hj => ?_,
    fun j hj => ?_, fun l hl => absurd hl (hmay' l), fun l hl => absurd hl (hmay' l),
    h.withinLoop, h.within⟩
  · have hle : s.socketsMade + 1 ≤ j := hj
    rw [hother j (by omega)]
    exact h.fresh j (by omega)
  · rcases eq_or_ne j s.socketsMade with rfl | hne
    · rw [hself] at hj
      cases hj
    · exact fun hl => hne (hlives j hl)

/-- The one loop that runs goes to another phase. -/
theorem Single.setLoop (h : Single o s) {l attempt : ℕ} {phase : LoopPhase}
    (hrunning : phase.isRunning = true → ∀ l', s.Running l' → l' = l)
    (hopens : phase = .sleeping ∨ (∃ i, phase = .opening i) →
      (∀ j, s.Live j → phase = .opening j) ∧ (o.Unlimited ∨ s.attempts ≤ attempt))
    (hattempt : o.Within attempt) : Single o (s.setLoop l ⟨attempt, phase⟩) := by
  have hself : (s.setLoop l ⟨attempt, phase⟩).loops l = ⟨attempt, phase⟩ := loops_setLoop_self
  have hother : ∀ l', l' ≠ l → (s.setLoop l ⟨attempt, phase⟩).loops l' = s.loops l' :=
    fun _ => loops_setLoop_of_ne
  have hmay : ∀ l', (s.setLoop l ⟨attempt, phase⟩).MayOpen o l' →
      (l' = l ∧ (∀ j, s.Live j → phase = .opening j) ∧ (o.Unlimited ∨ s.attempts ≤ attempt)) ∨
        l' ≠ l ∧ s.MayOpen o l' := by
    intro l' hl'
    rcases eq_or_ne l' l with rfl | hne
    · rw [MayOpen, hself] at hl'
      exact .inl ⟨rfl, hopens (hl'.imp_right fun ⟨i, hi, _⟩ => ⟨i, hi⟩)⟩
    · rw [MayOpen, hother l' hne] at hl'
      exact .inr ⟨hne, hl'⟩
  -- the loop itself, or one that ran before
  have hrun : ∀ l', (s.setLoop l ⟨attempt, phase⟩).Running l' →
      l' = l ∧ phase.isRunning = true ∨ l' ≠ l ∧ s.Running l' := by
    intro l' hl'
    rcases eq_or_ne l' l with rfl | hne
    · rw [Running, hself] at hl'
      exact .inl ⟨rfl, hl'⟩
    · rw [Running, hother l' hne] at hl'
      exact .inr ⟨hne, hl'⟩
  refine ⟨fun l₁ l₂ h₁ h₂ => ?_, h.sockets, h.fresh, h.rejected, fun l' hl' j hj => ?_,
    fun l' hl' => ?_, fun l' => ?_, h.within⟩
  · obtain ⟨hl₁, hr₁⟩ | ⟨hne₁, hs₁⟩ := hrun l₁ h₁
    · obtain ⟨hl₂, -⟩ | ⟨hne₂, hs₂⟩ := hrun l₂ h₂
      · exact hl₁.trans hl₂.symm
      · exact absurd (hrunning hr₁ l₂ hs₂) hne₂
    · obtain ⟨-, hr₂⟩ | ⟨-, hs₂⟩ := hrun l₂ h₂
      · exact absurd (hrunning hr₂ l₁ hs₁) hne₁
      · exact h.loops l₁ l₂ hs₁ hs₂
  · obtain ⟨rfl, hlive, -⟩ | ⟨hne, hl'⟩ := hmay l' hl'
    · rw [hself]
      exact hlive j hj
    · rw [hother l' hne]
      exact h.mayOpen l' hl' j hj
  · obtain ⟨rfl, -, hcount⟩ | ⟨hne, hl'⟩ := hmay l' hl'
    · rw [hself]
      exact hcount
    · rw [hother l' hne]
      exact h.counted l' hl'
  · rcases eq_or_ne l' l with rfl | hne
    · rw [hself]
      exact hattempt
    · rw [hother l' hne]
      exact h.withinLoop l'

/-- The one loop that runs begins another attempt, or ends. -/
theorem Single.iterate (h : Single o s) {l attempt : ℕ}
    (halone : o.attemptsLeft attempt = true → ∀ l', s.Running l' → l' = l)
    (hlive : o.attemptsLeft attempt = true → ∀ i, ¬ s.Live i)
    (hcounted : o.attemptsLeft attempt = true → o.Unlimited ∨ s.attempts ≤ attempt)
    (hattempt : o.Within attempt) : Single o (s.iterate o l attempt) := by
  unfold Connection.iterate
  split
  case isFalse =>
    exact h.setLoop (fun hr => by cases hr) (by simp) hattempt
  case isTrue hleft =>
    have hleft : o.attemptsLeft attempt = true := (Bool.and_eq_true_iff.mp hleft).1
    have hself : (s.setLoop l ⟨attempt + 1, .sleeping⟩).loops l = ⟨attempt + 1, .sleeping⟩ :=
      loops_setLoop_self
    have hother : ∀ l', l' ≠ l → (s.setLoop l ⟨attempt + 1, .sleeping⟩).loops l' = s.loops l' :=
      fun _ => loops_setLoop_of_ne
    have hrun : ∀ l', ({ s.setLoop l ⟨attempt + 1, .sleeping⟩ with
        attempts := s.attempts + 1 } : Connection).Running l' → l' = l := by
      intro l' hl'
      by_contra hne
      change (s.setLoop l ⟨attempt + 1, .sleeping⟩).Running l' at hl'
      rw [Running, hother l' hne] at hl'
      exact hne (halone hleft l' hl')
    -- an attempt is counted only while one is left
    have hwithin : o.Within (attempt + 1) := hattempt.succ hleft
    refine ⟨fun l₁ l₂ h₁ h₂ => (hrun l₁ h₁).trans (hrun l₂ h₂).symm, h.sockets, h.fresh,
      h.rejected, fun _ _ j hj => absurd hj (hlive hleft j), fun l' hl' => ?_, fun l' => ?_, ?_⟩
    · obtain rfl := hrun l' hl'.running
      refine (hcounted hleft).imp_right fun hle => ?_
      change s.attempts + 1 ≤ ((s.setLoop l' ⟨attempt + 1, .sleeping⟩).loops l').attempt
      rw [hself]
      exact Nat.succ_le_succ hle
    · change o.Within ((s.setLoop l ⟨attempt + 1, .sleeping⟩).loops l').attempt
      rcases eq_or_ne l' l with rfl | hne
      · rw [hself]
        exact hwithin
      · rw [hother l' hne]
        exact h.withinLoop l'
    · obtain hall | hle := hcounted hleft
      · exact fun m _ => hall m
      · exact fun m hm => hwithin m (lt_of_lt_of_le hm (Nat.succ_le_succ hle))

/-- The loop that runs goes on after its sleep. -/
theorem Single.attempt (h : Single o s) {l : ℕ} (hl : (s.loops l).phase = .sleeping)
    (constructed : Bool) : Single o (s.attempt o l (s.loops l).attempt constructed) := by
  have hmay : s.MayOpen o l := .inl hl
  have halone : ∀ l', s.Running l' → l' = l := fun l' hl' => h.loops l' l hl' hmay.running
  have hlive : ∀ j, ¬ s.Live j := by
    intro j hj
    have hphase := h.mayOpen l hmay j hj
    rw [hl] at hphase
    cases hphase
  have hended : Single o (s.setLoop l ⟨(s.loops l).attempt, .finished⟩) :=
    h.setLoop (fun hr => by cases hr) (by simp) (h.withinLoop l)
  unfold Connection.attempt
  split
  · exact hended
  split
  · -- the state passes through one in which no loop runs
    have hnone : ∀ l', ¬ (s.setLoop l ⟨(s.loops l).attempt, .finished⟩).Running l' := by
      intro l' hl'
      rcases eq_or_ne l' l with rfl | hne
      · rw [Running, loops_setLoop_self] at hl'
        cases hl'
      · rw [Running, loops_setLoop_of_ne hne] at hl'
        exact hne (halone l' hl')
    have hopen := hended.openSocket hlive fun l' hl' => hnone l' hl'.running
    have hset : Single o ((s.setLoop l ⟨(s.loops l).attempt, .finished⟩).openSocket.setLoop l
        ⟨(s.loops l).attempt, .opening s.socketsMade⟩) := by
      refine hopen.setLoop (fun _ l' hl' => absurd hl' (hnone l')) (fun _ => ⟨?_, ?_⟩)
        (h.withinLoop l)
      · intro j hj
        by_contra hne
        have hne : j ≠ s.socketsMade := fun heq => hne (heq ▸ rfl)
        have hj' : s.Live j := by
          rw [Live, ← sockets_openSocket_of_ne hne]
          exact hj
        exact hlive j hj'
      · exact h.counted l hmay
    -- both writes are to the same loop, so the first leaves no trace
    have hidem : (s.setLoop l ⟨(s.loops l).attempt, .finished⟩).openSocket.setLoop l
        ⟨(s.loops l).attempt, .opening s.socketsMade⟩ =
          s.openSocket.setLoop l ⟨(s.loops l).attempt, .opening s.socketsMade⟩ :=
      congrArg (fun loops => { s.openSocket with loops }) (Function.update_idem ..)
    rwa [hidem] at hset
  · exact h.iterate (fun _ => halone) (fun _ => hlive) (fun _ => h.counted l hmay) (h.withinLoop l)

theorem Single.resume (h : Single o s) {l i : ℕ} (hl : (s.loops l).phase = .opening i)
    {resolved : Bool} (hi : (s.sockets i).resolved = some resolved) :
    Single o (if resolved then s.setLoop l { s.loops l with phase := .resubscribing }
      else s.iterate o l (s.loops l).attempt) := by
  have hrunning : s.Running l := by
    rw [Running, hl]
    rfl
  have halone : ∀ l', s.Running l' → l' = l := fun l' hl' => h.loops l' l hl' hrunning
  cases resolved with
  | true => exact h.setLoop (fun _ => halone) (by simp) (h.withinLoop l)
  | false =>
    -- with attempts left, the only live socket could be the one that failed
    have hmay : o.attemptsLeft (s.loops l).attempt = true → s.MayOpen o l := fun hleft =>
      .inr ⟨i, hl, hleft, by rw [hi]; decide⟩
    refine h.iterate (fun _ => halone) (fun hleft j hj => ?_)
      (fun hleft => h.counted l (hmay hleft))
      (h.withinLoop l)
    have hphase := h.mayOpen l (hmay hleft) j hj
    rw [hl] at hphase
    cases hphase
    exact h.rejected i hi hj

theorem Single.onclose (h : Single o s) {i : ℕ} (hi : (s.sockets i).state.mayClose = true)
    (hkeeps : s.Keeps o (.closed i)) : Single o (s.onclose o i) := by
  have hmade : i < s.socketsMade := h.lt_socketsMade fun hnot => by
    rw [hnot] at hi
    cases hi
  have hclosed : Single o (s.setSocket i { s.sockets i with state := .closed }) :=
    h.setSocket (fun hl => by cases hl) id (fun _ hl => by cases hl) (.inl hmade)
  simp only [Connection.onclose]
  split
  case isFalse => exact hclosed
  case isTrue hstarts =>
    obtain ⟨hintentional, henabled⟩ := Bool.and_eq_true_iff.mp hstarts
    have hkept : o.attemptsLeft 0 = true →
        (∀ l, ¬ s.Running l) ∧ (∀ j, s.Live j → j = i) ∧ (s.attempts = 0 ∨ o.Unlimited) :=
      fun hleft =>
        hkeeps ⟨henabled, by simpa [Connection.setSocket] using hintentional, hleft⟩
    refine Single.iterate (s := { s.setSocket i { s.sockets i with state := .closed } with
      loopsStarted := s.loopsStarted + 1 }) (hclosed.congr rfl rfl rfl rfl)
      (fun hleft l' hl' => absurd hl' ((hkept hleft).1 l')) (fun hleft j hj => ?_)
      (fun hleft => ?_) (fun _ hm => absurd hm (Nat.not_lt_zero _))
    · -- the socket that closed was the only one
      rcases eq_or_ne j i with rfl | hne
      · change (s.setSocket j { s.sockets j with state := .closed }).Live j at hj
        rw [Live, sockets_setSocket_self] at hj
        cases hj
      · change (s.setSocket i { s.sockets i with state := .closed }).Live j at hj
        rw [Live, sockets_setSocket_of_ne hne] at hj
        exact hne ((hkept hleft).2.1 j hj)
    · obtain hzero | hall := (hkept hleft).2.2
      · exact .inr (le_of_eq hzero)
      · exact .inl hall

theorem Single.disconnect (h : Single o s) : Single o s.disconnect := by
  have hs : Single o { s with intentionalClose := true } := h.congr rfl rfl rfl rfl
  simp only [Connection.disconnect]
  split
  case h_1 => exact hs
  case h_2 i _ =>
    have hclose : (s.sockets i).state.close.isLive = false ∧
        ((s.sockets i).state = .notCreated → (s.sockets i).state.close = .notCreated) := by
      cases (s.sockets i).state
      all_goals exact ⟨rfl, fun h => by cases h <;> rfl⟩
    have hset : Single o (({ s with intentionalClose := true } : Connection).setSocket i
        { s.sockets i with state := (s.sockets i).state.close }) := by
      refine hs.setSocket (fun hl => ?_) id (fun _ => by simp [hclose.1]) ?_
      · rw [hclose.1] at hl
        cases hl
      · by_cases hi : (s.sockets i).state = .notCreated
        · right
          rw [hclose.2 hi, ← hi]
        · exact .inl (h.lt_socketsMade hi)
    exact hset.congr rfl rfl rfl rfl

/-- A socket opens: it resolves its promise, and the attempts are counted anew. -/
theorem Single.onopen (h : Single o s) {i : ℕ} (hi : (s.sockets i).state = .connecting) :
    Single o (s.onopen i) := by
  have hlive : s.Live i := by
    rw [Live, hi]
    rfl
  -- a socket that lives has not rejected its promise
  have hresolved : (s.sockets i).settle true = some true := by
    cases hr : (s.sockets i).resolved with
    | none => simp [Socket.settle, hr]
    | some resolved =>
      cases resolved with
      | false => exact absurd hlive (h.rejected i hr)
      | true => simp [Socket.settle, hr]
  have hset : Single o (s.setSocket i ⟨.opened, (s.sockets i).settle true⟩) := by
    rw [hresolved]
    exact h.setSocket (fun _ => hlive) (fun _ => rfl) (fun hl => by cases hl)
      (.inl (h.lt_socketsMade (by rw [hi]; decide)))
  exact ⟨hset.loops, hset.sockets, hset.fresh, hset.rejected, hset.mayOpen,
    fun _ _ => .inr (Nat.zero_le _), hset.withinLoop, fun _ hm => absurd hm (Nat.not_lt_zero _)⟩

/-- **The step lemma.** -/
theorem Single.perform (h : Single o s) {e : ConnectionEvent} (he : s.Keeps o e)
    (hs : s.perform o e = some s') : Single o s' := by
  cases e with
  | connect constructed =>
    cases hs
    have hs : Single o { s with intentionalClose := false } := h.congr rfl rfl rfl rfl
    cases constructed with
    | true => exact hs.openSocket he.1 he.2
    | false => exact hs
  | disconnect =>
    cases hs
    exact h.disconnect
  | opened i =>
    obtain ⟨hi, hs⟩ := Option.ite_none_right_eq_some.mp hs
    cases hs
    exact h.onopen hi
  | error i =>
    obtain ⟨hi, hs⟩ := Option.ite_none_right_eq_some.mp hs
    cases hs
    refine h.setSocket (fun hl => by cases hl) (fun hr => ?_) (fun _ hl => by cases hl)
      (.inl (h.lt_socketsMade fun hno => ?_))
    · simp [Socket.settle, hr]
    · rw [hno] at hi
      cases hi
  | closed i =>
    obtain ⟨hi, hs⟩ := Option.ite_none_right_eq_some.mp hs
    cases hs
    exact h.onclose hi he
  | timer l constructed =>
    simp only [Connection.perform] at hs
    split at hs
    case h_1 hl =>
      cases hs
      exact h.attempt hl constructed
    case h_2 => cases hs
  | resume l =>
    simp only [Connection.perform] at hs
    split at hs
    case h_1 i hl =>
      obtain ⟨resolved, hi, rfl⟩ := Option.map_eq_some_iff.mp hs
      exact h.resume hl hi
    case h_2 => cases hs
  | restored l =>
    simp only [Connection.perform] at hs
    split at hs
    case h_1 =>
      cases hs
      exact h.setLoop (fun hr => by cases hr) (by simp) (h.withinLoop l)
    case h_2 => cases hs

theorem Single.safe (h : Single o s) (hcount : o.IsCount) : s.Safe o :=
  ⟨h.loops, h.sockets, h.within.not_exceeded hcount⟩

/-- **At most one loop, at most one socket, and no more attempts than allowed**, in every run whose
events meet `Keeps`, where the options limit the attempts by a number of attempts. -/
theorem safe_of_reachable (o : ReconnectOptions) (hcount : o.IsCount) (s : Connection)
    (h : Reachable (· = initial) (fun s s' => ∃ e, s.Keeps o e ∧ s.perform o e = some s') s) :
    s.Safe o := by
  have hsingle : Single o s := by
    refine Reachable.induct (I := fun s : Connection => Single o s) ?_ ?_ h
    · rintro s rfl
      exact single_initial
    · rintro s s' - hs ⟨e, he, hstep⟩
      exact hs.perform he hstep
  exact hsingle.safe hcount

/-- A connection that is lost, and the first attempt succeeds. -/
theorem safe_of_reachable_lostConnection :
    ∃ s : Connection, Reachable (· = initial)
        (fun s s' => ∃ e, s.Keeps default e ∧ s.perform default e = some s') s ∧
      (s.loops 0).phase = .finished ∧ s.Live 1 ∧ s.Safe default := by
  have h₀ : Reachable (· = initial)
      (fun s s' => ∃ e, s.Keeps default e ∧ s.perform default e = some s') initial := .refl rfl
  have hnoLoop : ∀ l, ¬ initial.Running l := fun l hl => by cases hl
  have h₁ := Reachable.tail h₀
    ⟨.connect true, ⟨fun i hi => (by cases hi), fun l hl => hnoLoop l hl.running⟩, rfl⟩
  have h₂ := Reachable.tail h₁ ⟨.opened 0, trivial, rfl⟩
  have h₃ := Reachable.tail h₂ ⟨.closed 0, fun _ => ⟨hnoLoop, fun j hj => ?_, .inl rfl⟩, rfl⟩
  have h₄ := Reachable.tail h₃ ⟨.timer 0 true, trivial, rfl⟩
  have h₅ := Reachable.tail h₄ ⟨.opened 1, trivial, rfl⟩
  have h₆ := Reachable.tail h₅ ⟨.resume 0, trivial, rfl⟩
  have h₇ := Reachable.tail h₆ ⟨.restored 0, trivial, rfl⟩
  · exact ⟨_, h₇, rfl, rfl, safe_of_reachable default (.inl rfl) _ h₇⟩
  · -- the only socket is the one that closes
    by_contra hne
    simp [Live, onopen, connect, openSocket, setSocket, initial, hne, SocketState.isLive] at hj

/-- One failed attempt is enough for two loops: its `error` event lets the loop that made it go on,
and its `close` event starts another. -/
theorem safe_fails : ¬ ∀ s : Connection, Reachable (· = initial) (Step default) s →
    s.Safe default := by
  intro hall
  have h₀ : Reachable (· = initial) (Step default) initial := .refl rfl
  have h₁ := Reachable.tail h₀ ⟨.connect true, rfl⟩
  have h₂ := Reachable.tail h₁ ⟨.opened 0, rfl⟩
  have h₃ := Reachable.tail h₂ ⟨.closed 0, rfl⟩
  have h₄ := Reachable.tail h₃ ⟨.timer 0 true, rfl⟩
  have h₅ := Reachable.tail h₄ ⟨.error 1, rfl⟩
  have h₆ := Reachable.tail h₅ ⟨.resume 0, rfl⟩
  have h₇ := Reachable.tail h₆ ⟨.closed 1, rfl⟩
  exact absurd ((hall _ h₇).loops 0 1 rfl rfl) (by decide)

end Connection

end WebClient

end Connect3Dp
