import Connect3Dp.Collections.Dictionary
import Mathlib.Data.List.Induction

/-!
# The requests of the JavaScript client

`Connect3DpClient._request` makes a promise, remembers under a correlation id how to settle it, and
starts a timer. Five things settle it: the response, the timer, a failure to send, a socket that
closes and `disconnect()`. `Requests` is the part of a client that they share, with every call of
`resolve` and `reject` so far.

`Ledger` says what is to become of each request, from the run alone. `Represents.after` is the
refinement: what the client holds is what the ledger says.

Handlers of the application run inside `_handleMessage`, `onclose` and so on. What they call is
an event of its own, and a message is an event when it has come past them.
-/

namespace Connect3Dp

namespace WebClient

/-- `MessageToClient`, without its time. -/
structure MessageToClient (D : Type) where
  messageID : Option String
  topic : String
  data : D

/-- What becomes of a request at the socket. Only one that is to be sent gets an id. -/
inductive Sending
  /-- There is no socket or it is not open. -/
  | notOpen
  | sent (correlationId : String)
  /-- `send` throws. -/
  | failed (correlationId : String) (err : String)

/-- What happens to a client. -/
inductive Event (D : Type)
  | request (action : String) (timeoutMs : ℕ) (sending : Sending)
  | message (msg : MessageToClient D)
  | timeout (timer : ℕ)
  /-- A socket of the client, not necessarily its last, has closed. -/
  | close (reason : String)
  | disconnect

/-- The correlation id that a request is given. -/
def Event.correlationId {D : Type} : Event D → Option String
  | .request _ _ (.sent correlationId) | .request _ _ (.failed correlationId _) =>
    some correlationId
  | _ => none

/-! ### The client -/

/-- An entry of `_pending`. The promise stands for its `resolve` and `reject`. -/
structure PendingRequest where
  promise : ℕ
  timer : ℕ

/-- What the callback of a timer has captured. -/
structure TimeoutCallback where
  correlationId : String
  promise : ℕ
  err : String

/-- The requests of a client. Promises are numbered in the order in which they were made, and a
timer has the number of its promise. -/
structure Requests (D : Type) where
  made : ℕ
  pending : Dictionary String PendingRequest
  timers : Dictionary ℕ TimeoutCallback
  /-- The calls of `resolve` and `reject`, in order. -/
  settlements : List (ℕ × Except String D)

namespace Requests

variable {D : Type}

def initial : Requests D := ⟨0, ∅, ∅, []⟩

def settle (s : Requests D) (promise : ℕ) (outcome : Except String D) : Requests D :=
  { s with settlements := s.settlements ++ [(promise, outcome)] }

def clearTimeout (s : Requests D) (timer : ℕ) : Requests D :=
  { s with timers := s.timers.remove timer }

/-- `_pending.delete`. -/
def delete (s : Requests D) (correlationId : String) : Requests D :=
  { s with pending := s.pending.remove correlationId }

/-- `setTimeout` and `_pending.set`. -/
def register (s : Requests D) (promise : ℕ) (correlationId : String) (action : String)
    (timeoutMs : ℕ) : Requests D :=
  { s with
    timers := s.timers.set promise ⟨correlationId, promise,
      "Request \"" ++ action ++ "\" timed out after " ++ toString timeoutMs ++ "ms"⟩
    pending := s.pending.set correlationId ⟨promise, promise⟩ }

/-- `_request`. -/
def request (s : Requests D) (action : String) (timeoutMs : ℕ) (sending : Sending) :
    Requests D :=
  let promise := s.made
  let s := { s with made := promise + 1 }
  match sending with
  | .notOpen =>
    s.settle promise (.error ("Cannot send \"" ++ action ++ "\": WebSocket is not open"))
  | .sent correlationId => s.register promise correlationId action timeoutMs
  | .failed correlationId err =>
    (((s.register promise correlationId action timeoutMs).clearTimeout promise).delete
      correlationId).settle promise (.error err)

/-- The callback of the timer, if it is still running. -/
def timeout (s : Requests D) (timer : ℕ) : Requests D :=
  match s.timers.tryGetValue timer with
  | none => s
  | some callback =>
    ((s.clearTimeout timer).delete callback.correlationId).settle callback.promise
      (.error callback.err)

/-- `_handleMessage`. What is no response goes to the handlers of its topic. -/
def handleMessage (s : Requests D) (msg : MessageToClient D) : Requests D :=
  match msg.messageID with
  | none => s
  | some messageID =>
    match s.pending.tryGetValue messageID with
    | none => s
    | some pending =>
      ((s.clearTimeout pending.timer).delete messageID).settle pending.promise (.ok msg.data)

/-- `_rejectAllPending`. -/
def rejectAllPending (s : Requests D) (err : String) : Requests D :=
  { s.pending.values.foldl (fun s pending =>
      (s.clearTimeout pending.timer).settle pending.promise (.error err)) s with pending := ∅ }

def perform (s : Requests D) : Event D → Requests D
  | .request action timeoutMs sending => s.request action timeoutMs sending
  | .message msg => s.handleMessage msg
  | .timeout timer => s.timeout timer
  | .close reason => s.rejectAllPending ("WebSocket closed: " ++ reason)
  | .disconnect => s.rejectAllPending "Client disconnected"

/-- The requests after a run. -/
def after (run : List (Event D)) : Requests D := run.foldl perform initial

/-- What a promise was settled with, an error being `none`. -/
def outcomesOf (s : Requests D) (promise : ℕ) : List (Option D) :=
  (s.settlements.filter (·.1 = promise)).map (·.2.toOption)

end Requests

/-! ### The ledger -/

/-- What has become of a request: it waits for the response to its id, or it was settled with data
or, `none`, with an error. -/
inductive Status (D : Type)
  | waiting (correlationId : String)
  | settled (outcome : Option D)

/-- The requests of a run, in the order in which they were made. -/
abbrev Ledger (D : Type) := List (Status D)

namespace Ledger

variable {D : Type}

/-- What a new request becomes. -/
def enter : Sending → Status D
  | .notOpen | .failed _ _ => .settled none
  | .sent correlationId => .waiting correlationId

/-- What the number `i` becomes. The first response settles a request with its data, and its
timeout, a close and a disconnect settle it with an error. -/
def answer (e : Event D) (i : ℕ) : Status D → Status D
  | .settled outcome => .settled outcome
  | .waiting correlationId =>
    match e with
    | .message msg =>
      if msg.messageID = some correlationId then .settled (some msg.data)
      else .waiting correlationId
    | .timeout timer => if timer = i then .settled none else .waiting correlationId
    | .close _ | .disconnect => .settled none
    | .request _ _ _ => .waiting correlationId

def advance (ledger : Ledger D) : Event D → Ledger D
  | .request _ _ sending => ledger ++ [enter sending]
  | e => ledger.mapIdx (answer e)

/-- The ledger of a run. -/
def ofRun (run : List (Event D)) : Ledger D := run.foldl advance []

end Ledger

/-- The client holds what the ledger says: an entry and a running timer for each request that
waits, and one settlement for each that does not. -/
structure Represents {D : Type} (ledger : Ledger D) (s : Requests D) : Prop where
  made : s.made = ledger.length
  pending : ∀ correlationId entry, s.pending.tryGetValue correlationId = some entry ↔
    entry.timer = entry.promise ∧ ledger[entry.promise]? = some (.waiting correlationId)
  timer : ∀ timer callback, s.timers.tryGetValue timer = some callback →
    callback.promise = timer ∧ ledger[timer]? = some (.waiting callback.correlationId)
  running : ∀ i correlationId, ledger[i]? = some (.waiting correlationId) →
    ∃ callback, s.timers.tryGetValue i = some callback
  settled : ∀ i outcome, ledger[i]? = some (.settled outcome) → s.outcomesOf i = [outcome]
  unsettled : ∀ i, (∀ outcome, ledger[i]? ≠ some (.settled outcome)) → s.outcomesOf i = []

namespace Represents

variable {D : Type} {ledger : Ledger D} {s : Requests D}

theorem initial : Represents ([] : Ledger D) .initial where
  made := rfl
  pending _ _ := by simp [Requests.initial]
  timer _ _ h := by cases h
  running _ _ h := by cases h
  settled _ _ h := by cases h
  unsettled _ _ := rfl

theorem pending_waiting (h : Represents ledger s) {i : ℕ} {correlationId : String}
    (hi : ledger[i]? = some (.waiting correlationId)) :
    s.pending.tryGetValue correlationId = some ⟨i, i⟩ :=
  (h.pending correlationId ⟨i, i⟩).mpr ⟨rfl, hi⟩

/-- An id waits at one place only. -/
theorem waiting_unique (h : Represents ledger s) {i j : ℕ} {correlationId : String}
    (hi : ledger[i]? = some (.waiting correlationId))
    (hj : ledger[j]? = some (.waiting correlationId)) : i = j := by
  have hentry := (h.pending_waiting hi).symm.trans (h.pending_waiting hj)
  cases hentry
  rfl

theorem outcomesOf_settle (s : Requests D) (promise i : ℕ) (outcome : Except String D) :
    (s.settle promise outcome).outcomesOf i =
      s.outcomesOf i ++ if promise = i then [outcome.toOption] else [] := by
  simp only [Requests.outcomesOf, Requests.settle, List.filter_append, List.map_append]
  by_cases h : promise = i
  · simp [h]
  · simp [h]

/-- The outcomes after one request is settled that was not. -/
theorem outcomesOf_of_settled (h : Represents ledger s) {ledger' : Ledger D} {s' : Requests D}
    {i : ℕ} {outcome : Option D}
    (hlookup : ∀ j, ledger'[j]? = if j = i then some (.settled outcome) else ledger[j]?)
    (houtcomes : ∀ j, s'.outcomesOf j = s.outcomesOf j ++ if i = j then [outcome] else [])
    (hi : ∀ o, ledger[i]? ≠ some (.settled o)) :
    (∀ j o, ledger'[j]? = some (.settled o) → s'.outcomesOf j = [o]) ∧
      ∀ j, (∀ o, ledger'[j]? ≠ some (.settled o)) → s'.outcomesOf j = [] := by
  refine ⟨fun j o hj => ?_, fun j hj => ?_⟩
  · rw [hlookup] at hj
    rw [houtcomes]
    by_cases hne : j = i
    · rw [if_pos hne] at hj
      cases hj
      rw [if_pos hne.symm, hne, h.unsettled i hi]
      rfl
    · rw [if_neg hne] at hj
      rw [if_neg (Ne.symm hne), h.settled j o hj, List.append_nil]
  · simp only [hlookup] at hj
    rw [houtcomes]
    by_cases hne : j = i
    · rw [if_pos hne] at hj
      exact absurd rfl (hj outcome)
    · rw [if_neg hne] at hj
      rw [if_neg (Ne.symm hne), h.unsettled j hj, List.append_nil]

/-- One request is settled: its timer and its entry go. -/
theorem settleOne (h : Represents ledger s) {i : ℕ} {correlationId : String}
    (hi : ledger[i]? = some (.waiting correlationId)) (outcome : Except String D) :
    Represents (ledger.set i (.settled outcome.toOption))
      (((s.clearTimeout i).delete correlationId).settle i outcome) := by
  have hlength : i < ledger.length := (List.getElem?_eq_some_iff.mp hi).1
  have hlookup : ∀ j, (ledger.set i (.settled outcome.toOption))[j]? =
      if j = i then some (.settled outcome.toOption) else ledger[j]? := by
    intro j
    rw [List.getElem?_set]
    by_cases hj : i = j
    · subst hj
      simp [hlength]
    · simp [hj, Ne.symm hj]
  -- no other request waits under the id
  have hids : ∀ j id, ledger[j]? = some (.waiting id) → (id = correlationId ↔ j = i) := by
    intro j id hj
    constructor
    · rintro rfl
      exact h.waiting_unique hj hi
    · rintro rfl
      rw [hi] at hj
      cases hj
      rfl
  have houtcomes : ∀ j, (((s.clearTimeout i).delete correlationId).settle i outcome).outcomesOf j =
      s.outcomesOf j ++ if i = j then [outcome.toOption] else [] :=
    fun j => outcomesOf_settle _ i j outcome
  obtain ⟨hsettled, hunsettled⟩ := h.outcomesOf_of_settled hlookup houtcomes fun o ho => by
    cases hi.symm.trans ho
  constructor
  case made => rw [List.length_set]; exact h.made
  case pending =>
    intro id entry
    have hremove : (s.pending.remove correlationId).tryGetValue id = some entry ↔
        id ≠ correlationId ∧ s.pending.tryGetValue id = some entry := by
      rw [Dictionary.tryGetValue_remove]
      by_cases hid : id = correlationId <;> simp [hid]
    -- the entry goes where its request stops waiting
    refine hremove.trans ?_
    rw [h.pending, hlookup]
    constructor
    · rintro ⟨hne, htimer, hentry⟩
      exact ⟨htimer, by rw [if_neg fun hp => hne ((hids _ _ hentry).mpr hp)]; exact hentry⟩
    · rintro ⟨htimer, hentry⟩
      by_cases hp : entry.promise = i
      · rw [if_pos hp] at hentry
        cases hentry
      · rw [if_neg hp] at hentry
        exact ⟨fun hid => hp ((hids _ _ hentry).mp hid), htimer, hentry⟩
  case timer =>
    intro timer callback htimer
    have hremove : (s.timers.remove i).tryGetValue timer = some callback := htimer
    rw [Dictionary.tryGetValue_remove] at hremove
    by_cases hne : timer = i
    · rw [if_pos hne] at hremove
      cases hremove
    · rw [if_neg hne] at hremove
      rw [hlookup, if_neg hne]
      exact h.timer timer callback hremove
  case running =>
    intro j id hj
    rw [hlookup] at hj
    by_cases hne : j = i
    · rw [if_pos hne] at hj
      cases hj
    · rw [if_neg hne] at hj
      obtain ⟨callback, hcallback⟩ := h.running j id hj
      refine ⟨callback, ?_⟩
      have hremove := Dictionary.tryGetValue_remove s.timers i j
      rw [if_neg hne] at hremove
      exact hremove.trans hcallback
  case settled => exact hsettled
  case unsettled => exact hunsettled

/-! ### The events -/

/-- Where an event answers one request only, the ledger changes there only. -/
theorem advance_eq_set {e : Event D} {i : ℕ} {correlationId : String} {outcome : Option D}
    (hi : ledger[i]? = some (.waiting correlationId))
    (hanswer : Ledger.answer e i (.waiting correlationId) = .settled outcome)
    (hother : ∀ j id, j ≠ i → ledger[j]? = some (.waiting id) →
      Ledger.answer e j (.waiting id) = .waiting id) :
    ledger.mapIdx (Ledger.answer e) = ledger.set i (.settled outcome) := by
  refine List.ext_getElem? fun j => ?_
  have hlength : i < ledger.length := (List.getElem?_eq_some_iff.mp hi).1
  rw [List.getElem?_mapIdx, List.getElem?_set]
  by_cases hj : i = j
  · subst hj
    rw [if_pos rfl, if_pos hlength, hi, Option.map_some, hanswer]
  · rw [if_neg hj]
    cases hstatus : ledger[j]? with
    | none => rfl
    | some status =>
      cases status with
      | settled o => rfl
      | waiting id => rw [Option.map_some, hother j id (Ne.symm hj) hstatus]

theorem advance_eq_self {e : Event D}
    (hother : ∀ j id, ledger[j]? = some (.waiting id) →
      Ledger.answer e j (.waiting id) = .waiting id) :
    ledger.mapIdx (Ledger.answer e) = ledger := by
  refine List.ext_getElem? fun j => ?_
  rw [List.getElem?_mapIdx]
  cases hstatus : ledger[j]? with
  | none => rfl
  | some status =>
    cases status with
    | settled o => rfl
    | waiting id => rw [Option.map_some, hother j id hstatus]

theorem handleMessage (h : Represents ledger s) (msg : MessageToClient D) :
    Represents (ledger.advance (.message msg)) (s.handleMessage msg) := by
  -- A message that carries no id that waits leaves everything as it is.
  have hquiet : (∀ id entry, msg.messageID = some id → s.pending.tryGetValue id ≠ some entry) →
      ledger.advance (.message msg) = ledger := by
    intro hnone
    refine advance_eq_self fun j id hj => if_neg fun hid => ?_
    exact hnone id _ hid (h.pending_waiting hj)
  rw [Requests.handleMessage]
  cases hid : msg.messageID with
  | none =>
    rw [hquiet fun id entry hsome => by rw [hid] at hsome; cases hsome]
    exact h
  | some messageID =>
    cases hpending : s.pending.tryGetValue messageID with
    | none =>
      have hself : ledger.advance (.message msg) = ledger := by
        refine hquiet fun id entry hsome hentry => ?_
        rw [hid] at hsome
        cases hsome
        rw [hpending] at hentry
        cases hentry
      simp only [hpending]
      rw [hself]
      exact h
    | some entry =>
      obtain ⟨htimer, hwaiting⟩ := (h.pending messageID entry).mp hpending
      have hset : ledger.advance (.message msg) =
          ledger.set entry.promise (.settled (some msg.data)) := by
        refine advance_eq_set hwaiting (if_pos hid) fun j id hj hother => if_neg fun hsome => ?_
        have hsame : messageID = id := Option.some.inj (hid.symm.trans hsome)
        exact hj (h.waiting_unique hother (hsame ▸ hwaiting))
      have hsettle := h.settleOne hwaiting (.ok msg.data)
      rw [hset]
      simp only [hpending, htimer]
      exact hsettle

theorem timeout (h : Represents ledger s) (timer : ℕ) :
    Represents (ledger.advance (.timeout timer)) (s.timeout timer) := by
  rw [Requests.timeout]
  cases htimer : s.timers.tryGetValue timer with
  | none =>
    have hself : ledger.advance (.timeout timer) = ledger := by
      refine advance_eq_self fun j id hj => if_neg ?_
      rintro rfl
      obtain ⟨callback, hcallback⟩ := h.running timer id hj
      rw [htimer] at hcallback
      cases hcallback
    rw [hself]
    exact h
  | some callback =>
    obtain ⟨hpromise, hwaiting⟩ := h.timer timer callback htimer
    have hset : ledger.advance (.timeout timer) = ledger.set timer (.settled none) :=
      advance_eq_set hwaiting (if_pos rfl) fun j id hj _ => if_neg (Ne.symm hj)
    have hsettle := h.settleOne hwaiting (.error callback.err)
    rw [hset]
    simp only [hpromise]
    exact hsettle

theorem getElem?_concat (ledger : Ledger D) (status : Status D) (i : ℕ) :
    (ledger ++ [status])[i]? = if i = ledger.length then some status else ledger[i]? := by
  by_cases hi : i = ledger.length
  · rw [if_pos hi, hi, List.getElem?_concat_length]
  · rw [if_neg hi]
    rcases Nat.lt_or_gt_of_ne hi with hlt | hgt
    · exact List.getElem?_append_left hlt
    · rw [List.getElem?_eq_none (by simp; omega), List.getElem?_eq_none (by omega)]

theorem outcomesOf_made (h : Represents ledger s) : s.outcomesOf ledger.length = [] := by
  refine h.unsettled _ fun outcome hsettled => ?_
  rw [List.getElem?_eq_none (Nat.le_refl _)] at hsettled
  cases hsettled

/-- A promise that is rejected at once. -/
theorem notOpen (h : Represents ledger s) (err : String) :
    Represents (ledger ++ [.settled none])
      ({ s with made := s.made + 1 }.settle s.made (.error err)) := by
  have hlookup := getElem?_concat ledger (.settled none)
  have houtcomes : ∀ j, ({ s with made := s.made + 1 }.settle s.made (.error err)).outcomesOf j =
      s.outcomesOf j ++ if ledger.length = j then [none] else [] := by
    intro j
    rw [← h.made]
    exact outcomesOf_settle _ s.made j (.error err)
  have hwaiting : ∀ (j : ℕ) (id : String),
      (ledger ++ [.settled none])[j]? = some (Status.waiting id) ↔
        ledger[j]? = some (Status.waiting id) := by
    intro j id
    rw [hlookup]
    by_cases hj : j = ledger.length
    · rw [if_pos hj, hj, List.getElem?_eq_none (Nat.le_refl _)]
      simp
    · rw [if_neg hj]
  obtain ⟨hsettled, hunsettled⟩ := h.outcomesOf_of_settled hlookup houtcomes fun o ho => by
    rw [List.getElem?_eq_none (Nat.le_refl _)] at ho
    cases ho
  constructor
  case made => simp [Requests.settle, h.made]
  case pending =>
    intro id entry
    rw [hwaiting]
    exact h.pending id entry
  case timer =>
    intro timer callback htimer
    rw [hwaiting]
    exact h.timer timer callback htimer
  case running =>
    intro j id hj
    exact h.running j id ((hwaiting j id).mp hj)
  case settled => exact hsettled
  case unsettled => exact hunsettled

/-- A request that is sent under an id that does not wait. -/
theorem register (h : Represents ledger s) {correlationId : String}
    (hfresh : s.pending.tryGetValue correlationId = none) (action : String) (timeoutMs : ℕ) :
    Represents (ledger ++ [.waiting correlationId])
      ({ s with made := s.made + 1 }.register s.made correlationId action timeoutMs) := by
  have hlookup := getElem?_concat ledger (.waiting correlationId)
  have hnew : ledger[ledger.length]? = none := List.getElem?_eq_none (Nat.le_refl _)
  have houtcomes : ∀ j, ({ s with made := s.made + 1 }.register s.made correlationId action
      timeoutMs).outcomesOf j = s.outcomesOf j := fun _ => rfl
  have htimers : ∀ timer, ({ s with made := s.made + 1 }.register s.made correlationId action
      timeoutMs).timers.tryGetValue timer = _ := fun timer =>
    Dictionary.tryGetValue_set s.timers s.made timer _
  constructor
  case made => simp [Requests.register, h.made]
  case pending =>
    intro id entry
    refine (iff_of_eq (congrArg (· = some entry)
      (Dictionary.tryGetValue_set s.pending correlationId id ⟨s.made, s.made⟩))).trans ?_
    rw [hlookup]
    by_cases hid : id = correlationId
    · rw [if_pos hid, hid, h.made]
      constructor
      · intro hentry
        cases hentry
        exact ⟨rfl, if_pos rfl⟩
      -- an older request does not wait under a fresh id
      · rintro ⟨htimer, hentry⟩
        by_cases hp : entry.promise = ledger.length
        · obtain ⟨promise, timer⟩ := entry
          cases hp
          cases htimer
          rfl
        · rw [if_neg hp] at hentry
          have hwaiting := h.pending_waiting hentry
          rw [hfresh] at hwaiting
          cases hwaiting
    · rw [if_neg hid, h.pending]
      refine and_congr_right fun _ => ?_
      by_cases hp : entry.promise = ledger.length
      · rw [if_pos hp, hp, hnew]
        simp [Ne.symm hid]
      · rw [if_neg hp]
  case timer =>
    intro timer callback htimer
    rw [htimers] at htimer
    rw [hlookup]
    by_cases hne : timer = s.made
    · rw [if_pos hne] at htimer
      cases htimer
      rw [if_pos (hne.trans h.made)]
      exact ⟨hne.symm, rfl⟩
    · rw [if_neg hne] at htimer
      rw [if_neg fun heq => hne (heq.trans h.made.symm)]
      exact h.timer timer callback htimer
  case running =>
    intro j id hj
    rw [hlookup] at hj
    rw [htimers]
    by_cases hne : j = s.made
    · rw [if_pos hne]
      exact ⟨_, rfl⟩
    · rw [if_neg fun heq => hne (heq.trans h.made.symm)] at hj
      rw [if_neg hne]
      exact h.running j id hj
  case settled =>
    intro j o hj
    rw [hlookup] at hj
    rw [houtcomes]
    by_cases hne : j = ledger.length
    · rw [if_pos hne] at hj
      cases hj
    · rw [if_neg hne] at hj
      exact h.settled j o hj
  case unsettled =>
    intro j hj
    simp only [hlookup] at hj
    rw [houtcomes]
    by_cases hne : j = ledger.length
    · rw [hne]
      exact h.outcomesOf_made
    · rw [if_neg hne] at hj
      exact h.unsettled j hj

theorem request (h : Represents ledger s) (action : String) (timeoutMs : ℕ) (sending : Sending)
    (hfresh : ∀ correlationId,
      (Event.request action timeoutMs sending : Event D).correlationId = some correlationId →
        s.pending.tryGetValue correlationId = none) :
    Represents (ledger.advance (.request action timeoutMs sending))
      (s.request action timeoutMs sending) := by
  cases sending with
  | notOpen => exact h.notOpen _
  | sent correlationId => exact h.register (hfresh correlationId rfl) action timeoutMs
  | failed correlationId err =>
    have hregister := h.register (hfresh correlationId rfl) action timeoutMs
    have hwaiting : (ledger ++ [.waiting correlationId])[s.made]? =
        some (.waiting correlationId) := by
      rw [h.made, List.getElem?_concat_length]
    have hsettle := hregister.settleOne hwaiting (.error err : Except String D)
    rw [h.made, List.set_append_right _ _ (Nat.le_refl _), Nat.sub_self] at hsettle
    rw [← h.made] at hsettle
    exact hsettle

/-- The loop of `_rejectAllPending`. -/
theorem reject_loop (entries : List PendingRequest) (err : String) (s : Requests D) :
    entries.foldl (fun s pending =>
        (s.clearTimeout pending.timer).settle pending.promise (.error err)) s =
      { s with
        timers := s.timers.removeAll (entries.map (·.timer))
        settlements := s.settlements ++
          entries.map fun pending => (pending.promise, .error err) } := by
  induction entries generalizing s with
  | nil => simp [Dictionary.removeAll]
  | cons entry entries ih =>
    rw [List.foldl_cons, ih]
    simp [Requests.clearTimeout, Requests.settle, Dictionary.removeAll]

/-- The entries of one request. -/
theorem filter_entries (h : Represents ledger s) {i : ℕ} {correlationId : String}
    (hi : ledger[i]? = some (.waiting correlationId)) :
    s.pending.entries.filter (·.2.promise = i) = [(correlationId, ⟨i, i⟩)] := by
  have hnodup : (s.pending.entries.filter (·.2.promise = i)).Nodup :=
    s.pending.nodup_keys.of_map.filter _
  refine List.perm_singleton.mp ?_
  refine (List.perm_ext_iff_of_nodup hnodup (List.nodup_singleton _)).mpr ?_
  rintro ⟨id, entry⟩
  rw [List.mem_filter, List.mem_singleton, Dictionary.mem_entries_iff, decide_eq_true_eq]
  constructor
  · rintro ⟨hentry, rfl⟩
    obtain ⟨htimer, hwaiting⟩ := (h.pending id entry).mp hentry
    rw [hi] at hwaiting
    cases hwaiting
    obtain ⟨promise, timer⟩ := entry
    cases htimer
    rfl
  · intro heq
    cases heq
    exact ⟨h.pending_waiting hi, rfl⟩

theorem filter_entries_eq_nil (h : Represents ledger s) {i : ℕ}
    (hi : ∀ correlationId, ledger[i]? ≠ some (.waiting correlationId)) :
    s.pending.entries.filter (·.2.promise = i) = [] := by
  rw [List.filter_eq_nil_iff]
  rintro ⟨id, entry⟩ hentry
  rw [Dictionary.mem_entries_iff] at hentry
  rw [decide_eq_true_eq]
  rintro rfl
  exact hi id ((h.pending id entry).mp hentry).2

/-- What a request is settled with at the latest when all are rejected. -/
def outcome : Status D → Option D
  | .waiting _ => none
  | .settled outcome => outcome

theorem getElem?_rejected {e : Event D}
    (he : ∀ i id, Ledger.answer e i (.waiting id) = .settled none) (ledger : Ledger D) (j : ℕ) :
    (ledger.mapIdx (Ledger.answer e))[j]? = ledger[j]?.map fun status =>
      .settled (outcome status) := by
  rw [List.getElem?_mapIdx]
  cases ledger[j]? with
  | none => rfl
  | some status =>
    cases status with
    | settled o => rfl
    | waiting id => exact congrArg some (he j id)

/-- Each request has one outcome once the entries are rejected too. -/
theorem outcomesOf_append_rejected (h : Represents ledger s) {j : ℕ} {status : Status D}
    (hj : ledger[j]? = some status) : s.outcomesOf j ++
      (s.pending.entries.filter (·.2.promise = j)).map (fun _ => none) = [outcome status] := by
  cases status with
  | settled o =>
    have hentries : s.pending.entries.filter (·.2.promise = j) = [] := by
      refine h.filter_entries_eq_nil fun id hid => ?_
      cases hj.symm.trans hid
    rw [h.settled j o hj, hentries]
    rfl
  | waiting id =>
    have hunsettled : s.outcomesOf j = [] := by
      refine h.unsettled j fun o ho => ?_
      cases hj.symm.trans ho
    rw [h.filter_entries hj, hunsettled]
    rfl

theorem rejectAllPending (h : Represents ledger s) (e : Event D) (err : String)
    (he : ∀ i id, Ledger.answer e i (.waiting id) = .settled none) :
    Represents (ledger.mapIdx (Ledger.answer e)) (s.rejectAllPending err) := by
  have hlookup := getElem?_rejected he ledger
  -- no request waits afterwards
  have hwaiting : ∀ (j : ℕ) (id : String),
      (ledger.mapIdx (Ledger.answer e))[j]? ≠ some (.waiting id) := by
    intro j id hj
    rw [hlookup] at hj
    obtain ⟨status, -, hstatus⟩ := Option.map_eq_some_iff.mp hj
    cases hstatus
  have houtcomes : ∀ j, (s.rejectAllPending err).outcomesOf j =
      s.outcomesOf j ++ (s.pending.entries.filter (·.2.promise = j)).map fun _ => none := by
    intro j
    rw [Requests.rejectAllPending, reject_loop]
    simp only [Requests.outcomesOf, Dictionary.values, List.map_map, List.filter_append,
      List.filter_map, List.map_append]
    rfl
  constructor
  case made =>
    rw [Requests.rejectAllPending, reject_loop, List.length_mapIdx]
    exact h.made
  case pending =>
    intro id entry
    rw [Requests.rejectAllPending]
    refine iff_of_false (fun hentry => by cases hentry) ?_
    rintro ⟨-, hentry⟩
    exact hwaiting _ _ hentry
  case timer =>
    intro timer callback htimer
    rw [Requests.rejectAllPending, reject_loop] at htimer
    have hremoved : (if timer ∈ s.pending.values.map (·.timer) then none
        else s.timers.tryGetValue timer) = some callback :=
      (Dictionary.tryGetValue_removeAll _ s.timers timer).symm.trans htimer
    -- Every running timer belongs to an entry, so the loop has cleared it.
    by_cases hmem : timer ∈ s.pending.values.map (·.timer)
    · rw [if_pos hmem] at hremoved
      cases hremoved
    · rw [if_neg hmem] at hremoved
      have hentry := h.pending_waiting (h.timer timer callback hremoved).2
      exact absurd (List.mem_map_of_mem (Dictionary.mem_values_iff.mpr ⟨_, hentry⟩)) hmem
  case running =>
    intro j id hj
    exact absurd hj (hwaiting j id)
  case settled =>
    intro j o hj
    rw [hlookup] at hj
    obtain ⟨status, hstatus, ho⟩ := Option.map_eq_some_iff.mp hj
    cases ho
    rw [houtcomes]
    exact h.outcomesOf_append_rejected hstatus
  case unsettled =>
    intro j hj
    have hnone : ledger[j]? = none := by
      refine Option.eq_none_iff_forall_ne_some.mpr fun status hstatus => hj (outcome status) ?_
      rw [hlookup, hstatus]
      rfl
    have hentries : s.pending.entries.filter (·.2.promise = j) = [] := by
      refine h.filter_entries_eq_nil fun id hid => ?_
      cases hnone.symm.trans hid
    have hunsettled : s.outcomesOf j = [] := by
      refine h.unsettled j fun o ho => ?_
      cases hnone.symm.trans ho
    rw [houtcomes, hentries, hunsettled]
    rfl

theorem perform (h : Represents ledger s) (e : Event D)
    (hfresh : ∀ correlationId, e.correlationId = some correlationId →
      s.pending.tryGetValue correlationId = none) :
    Represents (ledger.advance e) (s.perform e) := by
  cases e with
  | request action timeoutMs sending => exact h.request action timeoutMs sending hfresh
  | message msg => exact h.handleMessage msg
  | timeout timer => exact h.timeout timer
  | close reason => exact h.rejectAllPending (.close reason) _ fun _ _ => rfl
  | disconnect => exact h.rejectAllPending .disconnect _ fun _ _ => rfl

/-- What waits was made by a request of the run. -/
theorem mem_ids_of_waiting (run : List (Event D)) {i : ℕ} {correlationId : String}
    (h : (Ledger.ofRun run)[i]? = some (.waiting correlationId)) :
    correlationId ∈ run.filterMap Event.correlationId := by
  induction run using List.reverseRecOn generalizing i with
  | nil => cases h
  | append_singleton run e ih =>
    have hadvance : Ledger.ofRun (run ++ [e]) = (Ledger.ofRun run).advance e :=
      List.foldl_concat ..
    rw [hadvance] at h
    rw [List.filterMap_append, List.mem_append]
    -- an answer lets no request wait that did not
    have hold : ∀ e', ((Ledger.ofRun run).mapIdx (Ledger.answer e'))[i]? =
        some (.waiting correlationId) → correlationId ∈ run.filterMap Event.correlationId := by
      intro e' he'
      rw [List.getElem?_mapIdx] at he'
      obtain ⟨status, hstatus, hanswer⟩ := Option.map_eq_some_iff.mp he'
      have hwaiting : status = .waiting correlationId := by
        cases status with
        | settled o => cases hanswer
        | waiting id =>
          cases e' <;> simp only [Ledger.answer] at hanswer
          case request => exact hanswer
          case message msg => split at hanswer <;> first | exact hanswer | cases hanswer
          case timeout timer => split at hanswer <;> first | exact hanswer | cases hanswer
          case close => cases hanswer
          case disconnect => cases hanswer
      exact ih (hwaiting ▸ hstatus)
    cases e with
    | request action timeoutMs sending =>
      have hconcat : (if i = (Ledger.ofRun run).length then some (Ledger.enter sending)
          else (Ledger.ofRun run)[i]?) = some (.waiting correlationId) :=
        (getElem?_concat _ _ i).symm.trans h
      split at hconcat
      · refine .inr ?_
        cases sending with
        | sent id =>
          cases hconcat
          simp [Event.correlationId]
        | notOpen => cases hconcat
        | failed id err => cases hconcat
      · exact .inl (ih hconcat)
    | message msg => exact .inl (hold _ h)
    | timeout timer => exact .inl (hold _ h)
    | close reason => exact .inl (hold _ h)
    | disconnect => exact .inl (hold _ h)

/-- **The client holds what the ledger says**, whatever happens, if correlation ids are not used
twice. -/
theorem after (run : List (Event D)) (hids : (run.filterMap Event.correlationId).Nodup) :
    Represents (Ledger.ofRun run) (.after run) := by
  induction run using List.reverseRecOn with
  | nil => exact initial
  | append_singleton run e ih =>
    rw [List.filterMap_append] at hids
    obtain ⟨hrun, -, hdisjoint⟩ := List.nodup_append.mp hids
    have h := ih hrun
    have hstep : Represents ((Ledger.ofRun run).advance e) ((Requests.after run).perform e) := by
      refine h.perform e fun id hid => ?_
      cases hentry : (Requests.after run).pending.tryGetValue id with
      | none => rfl
      | some entry =>
        -- An id that waits was used before.
        have hused := mem_ids_of_waiting run ((h.pending id entry).mp hentry).2
        have hnew : id ∈ [e].filterMap Event.correlationId := by simp [hid]
        exact absurd rfl (hdisjoint id hused id hnew)
    rw [Ledger.ofRun, List.foldl_concat, Requests.after, List.foldl_concat]
    exact hstep

end Represents

/-! ### Settlement -/

/-- The requests of a run are accounted for: each that the ledger has settled was settled once and
so; none of the others was, but its timer is running and would settle it, and `_pending` has their
ids and no more. -/
structure Accounts {D : Type} (ledger : Ledger D) (s : Requests D) : Prop where
  made : s.made = ledger.length
  once : ∀ i outcome, ledger[i]? = some (.settled outcome) → s.outcomesOf i = [outcome]
  unsettled : ∀ i correlationId, ledger[i]? = some (.waiting correlationId) →
    s.outcomesOf i = [] ∧ s.timers.containsKey i = true ∧ (s.timeout i).outcomesOf i = [none]
  pending : ∀ correlationId, s.pending.containsKey correlationId = true ↔
    ∃ i : ℕ, ledger[i]? = some (.waiting correlationId)

/-- **Every request settles exactly once**, with the data of the first response to it or with an
error, and until then its id is pending. -/
theorem settlesExactlyOnce {D : Type} (run : List (Event D))
    (hids : (run.filterMap Event.correlationId).Nodup) :
    Accounts (Ledger.ofRun run) (.after run) := by
  have h := Represents.after run hids
  refine ⟨h.made, h.settled, fun i id hi => ⟨h.unsettled i fun o ho => ?_, ?_, ?_⟩, fun id => ?_⟩
  · rw [hi] at ho
    cases ho
  · exact Dictionary.containsKey_iff.mpr (h.running i id hi)
  -- the timer rejects what still waits
  · refine (h.timeout i).settled i none ?_
    have hadvance : ((Ledger.ofRun run).advance (.timeout i))[i]? =
        (Ledger.ofRun run)[i]?.map (Ledger.answer (.timeout i) i) := List.getElem?_mapIdx
    rw [hadvance, hi, Option.map_some]
    exact congrArg some (if_pos rfl)
  · rw [Dictionary.containsKey_iff]
    constructor
    · rintro ⟨entry, hentry⟩
      exact ⟨entry.promise, ((h.pending id entry).mp hentry).2⟩
    · rintro ⟨i, hi⟩
      exact ⟨_, h.pending_waiting hi⟩

/-- Two requests, of which the first is answered twice and the second times out. -/
theorem settlesExactlyOnce_two :
    Accounts (Ledger.ofRun [.request "log/subscribe" 10000 (.sent "a"),
        .request "log/unsubscribe" 10000 (.sent "b"), .message ⟨some "a", "log/subscribe", 1⟩,
        .message ⟨some "a", "log/subscribe", 2⟩, .timeout 1])
      (.after [.request "log/subscribe" 10000 (.sent "a"),
        .request "log/unsubscribe" 10000 (.sent "b"), .message ⟨some "a", "log/subscribe", 1⟩,
        .message ⟨some "a", "log/subscribe", 2⟩, .timeout 1]) :=
  settlesExactlyOnce (D := ℕ) _ (by decide)

end WebClient

end Connect3Dp
