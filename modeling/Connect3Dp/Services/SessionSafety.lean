import Connect3Dp.Services.Framing
import Connect3Dp.Services.Replies

/-!
# Sessions and messages

The loop catches nothing but a `JsonException`. Any other exception leaves it, and
`AcceptWebSocketAsync` removes the client. The readers of the loop body demand an object at the
root, a string or `null` under `Action`, and under `ResponseMessageID` a string: there a `null` is
dereferenced by `TryGetString`. So a message ends the session of its client unless its root, its
action and the message to respond to are of these kinds and its reply can be written
(`survives_iff`).

What a message leaves to the next ones is the work of its handler. The loop never looks at what it
has sent: `Commutes` with `afterSending` says so, of each part of the loop body.
-/

namespace Connect3Dp

variable {C World Object R : Type}

/-! ### What was sent before -/

/-- The session, if the messages had been sent before. -/
def WebSocketSession.afterSending (earlier : List (MessageToClient (ActionResult R)))
    (session : WebSocketSession World R) : WebSocketSession World R :=
  { session with sent := earlier ++ session.sent }

namespace WebSocketServer

def ReceiveLoop.afterSending (earlier : List (MessageToClient (ActionResult R)))
    (loop : ReceiveLoop World R) : ReceiveLoop World R :=
  { loop with session := loop.session.afterSending earlier }

section Commutes

variable (host : WebSocketHost C World R) (server : WebSocketServer C World Object R) (client : C)
  (earlier : List (MessageToClient (ActionResult R)))

theorem sendMessageToClientAsync_commutes (message : MessageToClient (ActionResult R)) :
    Commutes (WebSocketSession.afterSending earlier)
      (sendMessageToClientAsync host client message) := by
  rw [sendMessageToClientAsync]
  refine .bind (.ofExcept _) fun _ => .get_bind (fun _ => rfl) fun session => ?_
  split
  · refine .modify fun session => ?_
    simp only [WebSocketSession.afterSending, List.append_assoc]
  · exact .throw _

theorem invoke_commutes (handler : EStateM Fault World (ActionResult R)) :
    Commutes (WebSocketSession.afterSending earlier) (invoke handler) := by
  rw [invoke, map_eq_pure_bind]
  refine .tryCatch (.bind (.onField handler (fun _ => rfl) fun _ _ => rfl) fun _ => .pure _)
    fun _ => .pure _

theorem sendResult_commutes (id : NetString) (action : String)
    (result : Option (ActionResult R)) :
    Commutes (WebSocketSession.afterSending earlier) (sendResult host client id action result) := by
  cases result with
  | none => exact .pure _
  | some result => exact sendMessageToClientAsync_commutes host client earlier _

theorem invokeWithData_commutes (requiredDataType : JsonElement → Except String (Option Object))
    (invokeWithDataAsync : C → Object → EStateM Fault World (ActionResult R)) (id : NetString)
    (action : String) (dataProp : JsonElement) :
    Commutes (WebSocketSession.afterSending earlier)
      (invokeWithData host client requiredDataType invokeWithDataAsync id action dataProp) := by
  rw [invokeWithData]
  split
  · exact .bind (sendMessageToClientAsync_commutes host client earlier _) fun _ => .pure _
  · exact .pure _
  · exact invoke_commutes earlier _

theorem respond_commutes (mapped : ActionDefinition C World Object R) (root : JsonElement)
    (id : NetString) (action : String) :
    Commutes (WebSocketSession.afterSending earlier)
      (respond host client mapped root id action) := by
  refine .bind ?_ fun result => sendResult_commutes host client earlier id action result
  rw [resultObj]
  split
  · exact invoke_commutes earlier _
  · refine .bind (.ofExcept _) fun found => ?_
    cases found with
    | none => exact .pure _
    | some dataProp => exact invokeWithData_commutes host client earlier _ _ id action dataProp
  · exact .pure _

theorem processRoot_commutes (root : JsonElement) :
    Commutes (WebSocketSession.afterSending earlier) (processRoot host server client root) := by
  rw [processRoot]
  refine .bind (.ofExcept _) fun found => ?_
  cases found with
  | none => exact .pure _
  | some actionProp =>
    refine .bind (.ofExcept _) fun name => ?_
    cases name with
    | none => exact .pure _
    | some actionName =>
      dsimp only
      split
      · exact .pure _
      · split
        · exact .pure _
        · exact .bind (.ofExcept _) fun id => respond_commutes host client earlier _ root id _

theorem processText_commutes (text : String) :
    Commutes (WebSocketSession.afterSending earlier) (processText host server client text) := by
  refine .tryCatch ?_ fun e => ?_
  · split
    · exact .throw _
    · exact processRoot_commutes host server client earlier _
  · split
    · exact .pure _
    · exact .throw _

theorem receive_afterSending (loop : ReceiveLoop World R) (result : WebSocketReceiveResult) :
    receive host server client (loop.afterSending earlier) result =
      ((receive host server client loop result).1,
        (receive host server client loop result).2.afterSending earlier) := by
  rw [receive, receive]
  cases result.messageType with
  | close => rfl
  | binary => rfl
  | text =>
    dsimp only
    rw [handleText, handleText]
    change (if loop.isReading host client = true then _ else _) = _
    by_cases hreading : loop.isReading host client = true
    · have hcommutes : processText host server client (utf8GetString result.buffer)
          (loop.session.afterSending earlier) = _ :=
        processText_commutes host server client earlier (utf8GetString result.buffer) loop.session
      rw [if_pos hreading, if_pos hreading, ReceiveLoop.afterSending, hcommutes, EStateM.run]
      cases processText host server client (utf8GetString result.buffer) loop.session with
      | ok a session => rfl
      | error e session => rfl
    · rw [if_neg hreading, if_neg hreading]

theorem receiveLoopAsync_afterSending (loop : ReceiveLoop World R)
    (results : List WebSocketReceiveResult) :
    receiveLoopAsync host server client (loop.afterSending earlier) results =
      ((receiveLoopAsync host server client loop results).1,
        (receiveLoopAsync host server client loop results).2.afterSending earlier) := by
  induction results generalizing loop with
  | nil => rfl
  | cons result results ih => simp only [receiveLoopAsync, receive_afterSending, ih]

end Commutes

/-! ### What a message asks for -/

section Requests

variable (host : WebSocketHost C World R) (server : WebSocketServer C World Object R) (client : C)

/-- The action that is looked up: a string that is not blank. -/
def actionOf (root : JsonElement) : Option String :=
  match root.tryGetProperty "Action" with
  | .ok (some (.string action)) => if isNullOrWhiteSpace (some action) then none else some action
  | _ => none

def mappedOf (root : JsonElement) : Option (String × ActionDefinition C World Object R) := do
  let action ← actionOf root
  let mapped ← server.mappedActions.tryGetValue action
  return (action, mapped)

/-- The message to respond to, where it is a string. -/
def messageIDOf (root : JsonElement) : NetString :=
  match root.tryGetProperty "ResponseMessageID" with
  | .ok (some (.string id)) => some (trim id)
  | _ => none

/-- The handler that is invoked, with its data. -/
def handlerOf (root : JsonElement) (mapped : ActionDefinition C World Object R) :
    Option (EStateM Fault World (ActionResult R)) :=
  match mapped.invokeAsync, mapped.requiredDataType, mapped.invokeWithDataAsync with
  | some invokeAsync, _, _ => some (invokeAsync client)
  | none, some requiredDataType, some invokeWithDataAsync =>
    match root.tryGetProperty "Data" with
    | .ok (some dataProp) =>
      match requiredDataType dataProp with
      | .ok (some dataObj) => some (invokeWithDataAsync client dataObj)
      | _ => none
    | _ => none
  | none, _, _ => none

/-- Why the data is refused, where the action takes data and it cannot be deserialized. -/
def refusalOf (root : JsonElement) (mapped : ActionDefinition C World Object R) : Option String :=
  match mapped.invokeAsync, mapped.requiredDataType, mapped.invokeWithDataAsync with
  | none, some requiredDataType, some _ =>
    match root.tryGetProperty "Data" with
    | .ok (some dataProp) =>
      match requiredDataType dataProp with
      | .error message => some message
      | _ => none
    | _ => none
  | _, _, _ => none

/-- The world after the handler of the message, if it has one. -/
def worldAfter (root : JsonElement) (world : World) : World :=
  match (mappedOf server root).bind fun found => handlerOf client root found.2 with
  | some handler => finalState (handler world)
  | none => world

/-- The message can be written, or a `JsonException` is raised instead. -/
def Writes (message : MessageToClient (ActionResult R)) : Prop :=
  ∀ e, host.serialize message = .error e → e = .json

/-- The handler leaves the socket open, and its result can be written. -/
structure KeepsOpen (handler : EStateM Fault World (ActionResult R)) (id : NetString)
    (action : String) (world : World) : Prop where
  isOpen : host.isOpen client (finalState (handler world)) = true
  writes : ∀ result world', handler world = .ok result world' →
    Writes host ⟨id, host.now, action, result⟩

/-- The reply to a mapped action can be written, and a handler leaves the socket open. -/
structure RepliesSafely (root : JsonElement) (action : String)
    (mapped : ActionDefinition C World Object R) (world : World) : Prop where
  handler : ∀ handler, handlerOf client root mapped = some handler →
    KeepsOpen host client handler (messageIDOf root) action world
  refusal : ∀ message, refusalOf root mapped = some message →
    Writes host ⟨messageIDOf root, host.utcNow, action,
      .plain (.failure s!"Failed to Deserialize; {message}")⟩

/-- The kinds of elements that the loop body reads, and a reply that can be written. -/
structure IsSafe (root : JsonElement) (world : World) : Prop where
  root_object : ∃ properties, root = .object properties
  action_text : ∀ e, root.tryGetProperty "Action" = .ok (some e) → e = .null ∨ ∃ s, e = .string s
  id_string : ∀ found, mappedOf server root = some found → ∀ e,
    root.tryGetProperty "ResponseMessageID" = .ok (some e) → ∃ s, e = .string s
  replies : ∀ action mapped, mappedOf server root = some (action, mapped) →
    RepliesSafely host client root action mapped world

end Requests

/-! ### The ends of the body -/

section Ends

variable {host : WebSocketHost C World R} {server : WebSocketServer C World Object R} {client : C}
  {session : WebSocketSession World R}

/-- Nothing but a `JsonException` is raised, and the socket is open. -/
structure StaysOpen {α : Type} (host : WebSocketHost C World R) (client : C)
    (r : EStateM.Result Fault (WebSocketSession World R) α) : Prop where
  eq_json : ∀ e session, r = .error e session → e = .json
  isOpen : host.isOpen client (finalState r).world = true

variable (host client session) in
theorem world_sendMessageToClientAsync (message : MessageToClient (ActionResult R)) :
    (finalState (sendMessageToClientAsync host client message session)).world = session.world := by
  rw [sendMessageToClientAsync]
  cases hserialize : host.serialize message with
  | error e => rfl
  | ok json =>
    rw [ofExcept_ok_bind]
    change (finalState ((if host.isOpen client session.world = true then _ else _ :
      EStateM Fault (WebSocketSession World R) Unit) session)).world = _
    split
    · rfl
    · rfl

theorem sendMessageToClientAsync_staysOpen_iff (message : MessageToClient (ActionResult R)) :
    StaysOpen host client (sendMessageToClientAsync host client message session) ↔
      host.isOpen client session.world = true ∧ Writes host message := by
  have hworld := world_sendMessageToClientAsync host client session message
  constructor
  · intro hstays
    refine ⟨by rw [← hworld]; exact hstays.isOpen, fun e hserialize => ?_⟩
    refine hstays.eq_json e session ?_
    rw [sendMessageToClientAsync, hserialize]
    rfl
  · rintro ⟨hopen, hwrites⟩
    refine ⟨fun e session' hraises => ?_, by rw [hworld]; exact hopen⟩
    rw [sendMessageToClientAsync] at hraises
    cases hserialize : host.serialize message with
    | error e' =>
      rw [hserialize, ofExcept_error_bind] at hraises
      cases hraises
      exact hwrites e hserialize
    | ok json =>
      rw [hserialize, ofExcept_ok_bind] at hraises
      change (if host.isOpen client session.world = true then _ else _ :
        EStateM Fault (WebSocketSession World R) Unit) session = _ at hraises
      rw [if_pos hopen] at hraises
      cases hraises

theorem invoke_bind_eq (handler : EStateM Fault World (ActionResult R)) (id : NetString)
    (action : String) :
    (invoke handler >>= sendResult host client id action) session =
      match handler session.world with
      | .ok result world =>
        sendMessageToClientAsync host client ⟨id, host.now, action, result⟩
          { session with world := world }
      | .error _ world => .ok () { session with world := world } := by
  cases hhandler : handler session.world with
  | ok result world => exact run_bind_ok (invoke_ok hhandler)
  | error e world => exact run_bind_ok (invoke_error hhandler)

theorem world_invoke_bind (handler : EStateM Fault World (ActionResult R)) (id : NetString)
    (action : String) :
    (finalState ((invoke handler >>= sendResult host client id action) session)).world =
      finalState (handler session.world) := by
  rw [invoke_bind_eq]
  cases handler session.world with
  | ok result world => exact world_sendMessageToClientAsync host client _ _
  | error e world => rfl

theorem invoke_bind_staysOpen_iff (handler : EStateM Fault World (ActionResult R)) (id : NetString)
    (action : String) :
    StaysOpen host client ((invoke handler >>= sendResult host client id action) session) ↔
      KeepsOpen host client handler id action session.world := by
  rw [invoke_bind_eq]
  cases hhandler : handler session.world with
  | ok result world =>
    refine (sendMessageToClientAsync_staysOpen_iff _).trans ⟨?_, ?_⟩
    · rintro ⟨hopen, hwrites⟩
      refine ⟨by rw [hhandler]; exact hopen, fun result' world' hreturns => ?_⟩
      cases hhandler.symm.trans hreturns
      exact hwrites
    · intro hkeeps
      have hopen := hkeeps.isOpen
      rw [hhandler] at hopen
      exact ⟨hopen, hkeeps.writes result world hhandler⟩
  | error e world =>
    refine ⟨fun hstays => ⟨?_, fun result world' hreturns => ?_⟩, fun hkeeps => ⟨nofun, ?_⟩⟩
    · rw [hhandler]
      exact hstays.isOpen
    · cases hhandler.symm.trans hreturns
    · have hopen := hkeeps.isOpen
      rw [hhandler] at hopen
      exact hopen

theorem staysOpen_ok_iff {α : Type} {a : α} {session : WebSocketSession World R} :
    StaysOpen host client (.ok a session) ↔ host.isOpen client session.world = true :=
  ⟨fun hstays => hstays.isOpen, fun hopen => ⟨nofun, hopen⟩⟩

/-- Any other exception ends the session. -/
theorem not_staysOpen_error {α : Type} {e : Fault} {session : WebSocketSession World R}
    (h : e ≠ .json) :
    ¬ StaysOpen host client
      (.error e session : EStateM.Result Fault (WebSocketSession World R) α) :=
  fun hstays => h (hstays.eq_json e session rfl)

variable (host client) in
/-- For a mapped action a handler is invoked, or its data is refused, or nothing is done. -/
theorem respond_cases (mapped : ActionDefinition C World Object R)
    (properties : List (String × JsonElement)) (id : NetString) (action : String) :
    (∃ handler, handlerOf client (.object properties) mapped = some handler ∧
      refusalOf (.object properties) mapped = none ∧
      respond host client mapped (.object properties) id action =
        invoke handler >>= sendResult host client id action) ∨
    (∃ message, handlerOf client (.object properties) mapped = none ∧
      refusalOf (.object properties) mapped = some message ∧
      respond host client mapped (.object properties) id action =
        sendMessageToClientAsync host client ⟨id, host.utcNow, action,
          .plain (.failure s!"Failed to Deserialize; {message}")⟩) ∨
    (handlerOf client (.object properties) mapped = none ∧
      refusalOf (.object properties) mapped = none ∧
      respond host client mapped (.object properties) id action = pure ()) := by
  rw [handlerOf, refusalOf, respond, resultObj, JsonElement.tryGetProperty]
  cases mapped.invokeAsync with
  | some invokeAsync => exact .inl ⟨invokeAsync client, rfl, rfl, rfl⟩
  | none =>
    cases mapped.requiredDataType with
    | none => exact .inr (.inr ⟨rfl, rfl, rfl⟩)
    | some requiredDataType =>
      cases mapped.invokeWithDataAsync with
      | none => exact .inr (.inr ⟨rfl, rfl, rfl⟩)
      | some invokeWithDataAsync =>
        dsimp only
        rw [ofExcept_ok_bind]
        cases properties.reverse.lookup "Data" with
        | none => exact .inr (.inr ⟨rfl, rfl, rfl⟩)
        | some dataProp =>
          dsimp only
          rw [invokeWithData]
          cases requiredDataType dataProp with
          | error message =>
            refine .inr (.inl ⟨message, rfl, rfl, ?_⟩)
            dsimp only
            rw [bind_assoc]
            simp only [pure_bind, sendResult, bind_pure_unit]
          | ok dataObj =>
            cases dataObj with
            | none => exact .inr (.inr ⟨rfl, rfl, rfl⟩)
            | some dataObj => exact .inl ⟨invokeWithDataAsync client dataObj, rfl, rfl, rfl⟩

theorem respond_staysOpen_iff (hopen : host.isOpen client session.world = true)
    (mapped : ActionDefinition C World Object R) (properties : List (String × JsonElement))
    (action : String) :
    StaysOpen host client (respond host client mapped (.object properties)
        (messageIDOf (.object properties)) action session) ↔
      RepliesSafely host client (.object properties) action mapped session.world := by
  obtain ⟨handler, hhandler, hrefusal, hrespond⟩ | ⟨message, hhandler, hrefusal, hrespond⟩ |
      ⟨hhandler, hrefusal, hrespond⟩ := respond_cases host client mapped
    properties (messageIDOf (.object properties)) action
  · rw [hrespond, invoke_bind_staysOpen_iff]
    refine ⟨fun hkeeps => ⟨fun handler' h => ?_, fun message h => ?_⟩, fun h => ?_⟩
    · cases hhandler.symm.trans h
      exact hkeeps
    · cases hrefusal.symm.trans h
    · exact h.handler handler hhandler
  · rw [hrespond, sendMessageToClientAsync_staysOpen_iff]
    refine ⟨fun hwrites => ⟨fun handler h => ?_, fun message' h => ?_⟩, fun h => ?_⟩
    · cases hhandler.symm.trans h
    · cases hrefusal.symm.trans h
      exact hwrites.2
    · exact ⟨hopen, h.refusal message hrefusal⟩
  · rw [hrespond]
    refine iff_of_true (staysOpen_ok_iff.mpr hopen) ⟨fun handler h => ?_, fun message h => ?_⟩
    · cases hhandler.symm.trans h
    · cases hrefusal.symm.trans h

theorem world_respond (mapped : ActionDefinition C World Object R)
    (properties : List (String × JsonElement)) (id : NetString) (action : String) :
    (finalState (respond host client mapped (.object properties) id action session)).world =
      match handlerOf client (.object properties) mapped with
      | some handler => finalState (handler session.world)
      | none => session.world := by
  obtain ⟨handler, hhandler, hrefusal, hrespond⟩ | ⟨message, hhandler, hrefusal, hrespond⟩ |
      ⟨hhandler, hrefusal, hrespond⟩ := respond_cases host client mapped
    properties id action
  · rw [hrespond, hhandler]
    exact world_invoke_bind handler id action
  · rw [hrespond, hhandler]
    exact world_sendMessageToClientAsync host client _ _
  · rw [hrespond, hhandler]
    rfl

variable (host server client session) in
/-- The loop body ends at the action if this is neither a string nor `null`, and before the message
to respond to is read if the action is not mapped. -/
theorem processRoot_object (properties : List (String × JsonElement)) :
    (∃ e, properties.reverse.lookup "Action" = some e ∧ (e ≠ .null ∧ ∀ s, e ≠ .string s) ∧
      processRoot host server client (.object properties) session =
        .error .invalidOperation session) ∨
    ((∀ e, properties.reverse.lookup "Action" = some e → e = .null ∨ ∃ s, e = .string s) ∧
      processRoot host server client (.object properties) session =
        match mappedOf server (.object properties) with
        | none => .ok () session
        | some (action, mapped) =>
          (ofExcept (readString (.object properties) "ResponseMessageID") >>= fun id =>
            respond host client mapped (.object properties) id action) session) := by
  rw [processRoot, mappedOf, actionOf, JsonElement.tryGetProperty, ofExcept_ok_bind]
  cases properties.reverse.lookup "Action" with
  | none => exact .inr ⟨by simp, rfl⟩
  | some e =>
    cases e with
    | null => exact .inr ⟨fun e he => .inl (Option.some.inj he).symm, rfl⟩
    | string action =>
      refine .inr ⟨fun e he => .inr ⟨action, (Option.some.inj he).symm⟩, ?_⟩
      change (if isNullOrWhiteSpace (some action) = true then _ else _ :
        EStateM Fault (WebSocketSession World R) Unit) session = _
      by_cases hblank : isNullOrWhiteSpace (some action) = true
      · simp only [hblank, if_true]
        rfl
      · simp only [hblank]
        cases hmapped : server.mappedActions.tryGetValue action with
        | none => simp [hmapped]; rfl
        | some mapped => simp [hmapped]
    | boolean => exact .inl ⟨_, rfl, ⟨by simp, by simp⟩, rfl⟩
    | number => exact .inl ⟨_, rfl, ⟨by simp, by simp⟩, rfl⟩
    | array => exact .inl ⟨_, rfl, ⟨by simp, by simp⟩, rfl⟩
    | object => exact .inl ⟨_, rfl, ⟨by simp, by simp⟩, rfl⟩

/-- The message to respond to is read where it is a string or missing. -/
theorem readString_cases (properties : List (String × JsonElement)) :
    ((∀ e, properties.reverse.lookup "ResponseMessageID" = some e → ∃ s, e = .string s) ∧
      readString (.object properties) "ResponseMessageID" =
        .ok (messageIDOf (.object properties))) ∨
    ∃ e fault, properties.reverse.lookup "ResponseMessageID" = some e ∧ (∀ s, e ≠ .string s) ∧
      fault ≠ .json ∧ readString (.object properties) "ResponseMessageID" = .error fault := by
  rw [messageIDOf, readString, JsonElement.tryGetProperty]
  cases properties.reverse.lookup "ResponseMessageID" with
  | none => exact .inl ⟨by simp, rfl⟩
  | some e =>
    cases e with
    | string id => exact .inl ⟨fun e he => ⟨id, (Option.some.inj he).symm⟩, rfl⟩
    | null => exact .inr ⟨_, .nullReference, rfl, by simp, by simp, rfl⟩
    | boolean => exact .inr ⟨_, .invalidOperation, rfl, by simp, by simp, rfl⟩
    | number => exact .inr ⟨_, .invalidOperation, rfl, by simp, by simp, rfl⟩
    | array => exact .inr ⟨_, .invalidOperation, rfl, by simp, by simp, rfl⟩
    | object => exact .inr ⟨_, .invalidOperation, rfl, by simp, by simp, rfl⟩

theorem processRoot_of_not_object {root : JsonElement}
    (hroot : ∀ properties, root ≠ .object properties) :
    processRoot host server client root session = .error .invalidOperation session := by
  cases root with
  | object properties => exact absurd rfl (hroot properties)
  | null => rfl
  | boolean => rfl
  | number => rfl
  | string => rfl
  | array => rfl

/-- The loop body stays in the loop just when the message is safe. -/
theorem processRoot_staysOpen_iff (hopen : host.isOpen client session.world = true)
    (root : JsonElement) :
    StaysOpen host client (processRoot host server client root session) ↔
      IsSafe host server client root session.world := by
  by_cases hroot : ∃ properties, root = .object properties
  swap
  · rw [processRoot_of_not_object (not_exists.mp hroot)]
    exact iff_of_false (not_staysOpen_error nofun) fun hsafe => hroot hsafe.root_object
  obtain ⟨properties, rfl⟩ := hroot
  have hproperty (name : String) : JsonElement.tryGetProperty name (.object properties) =
      .ok (properties.reverse.lookup name) := rfl
  obtain ⟨e, haction, ⟨hnull, hstring⟩, hprocess⟩ | ⟨htext, hprocess⟩ :=
    processRoot_object host server client session properties
  · rw [hprocess]
    refine iff_of_false (not_staysOpen_error nofun) fun hsafe => ?_
    obtain rfl | ⟨s, rfl⟩ := hsafe.action_text e (by rw [hproperty, haction])
    · exact hnull rfl
    · exact hstring s rfl
  · have hactionText : ∀ e, JsonElement.tryGetProperty "Action" (.object properties) =
        .ok (some e) → e = .null ∨ ∃ s, e = .string s := by
      intro e he
      rw [hproperty] at he
      exact htext e (by injection he)
    rw [hprocess]
    cases hmapped : mappedOf server (.object properties) with
    | none =>
      refine iff_of_true (staysOpen_ok_iff.mpr hopen)
        ⟨⟨properties, rfl⟩, hactionText, fun found hfound => ?_, fun action mapped hfound => ?_⟩
      · cases hmapped.symm.trans hfound
      · cases hmapped.symm.trans hfound
    | some found =>
      obtain ⟨action, mapped⟩ := found
      dsimp only
      obtain ⟨hid, hread⟩ | ⟨e, fault, hid, hstring, hfault, hread⟩ := readString_cases properties
      · rw [hread, ofExcept_ok_bind, respond_staysOpen_iff hopen]
        refine ⟨fun hreplies => ⟨⟨properties, rfl⟩, hactionText, fun found _ e he => ?_,
          fun action' mapped' hfound => ?_⟩, fun hsafe => hsafe.replies action mapped hmapped⟩
        · rw [hproperty] at he
          exact hid e (by injection he)
        · cases hmapped.symm.trans hfound
          exact hreplies
      · rw [hread, ofExcept_error_bind]
        refine iff_of_false (not_staysOpen_error hfault) fun hsafe => ?_
        obtain ⟨s, rfl⟩ := hsafe.id_string (action, mapped) hmapped e (by rw [hproperty, hid])
        exact hstring s rfl

/-- What a safe message leaves is the work of its handler. -/
theorem world_processRoot {root : JsonElement}
    (hsafe : IsSafe host server client root session.world) :
    (finalState (processRoot host server client root session)).world =
      worldAfter server client root session.world := by
  obtain ⟨properties, rfl⟩ := hsafe.root_object
  have hproperty (name : String) : JsonElement.tryGetProperty name (.object properties) =
      .ok (properties.reverse.lookup name) := rfl
  rw [worldAfter]
  obtain ⟨e, haction, ⟨hnull, hstring⟩, -⟩ | ⟨-, hprocess⟩ :=
    processRoot_object host server client session properties
  · obtain rfl | ⟨s, rfl⟩ := hsafe.action_text e (by rw [hproperty, haction])
    · exact absurd rfl hnull
    · exact absurd rfl (hstring s)
  · rw [hprocess]
    cases hmapped : mappedOf server (.object properties) with
    | none => rfl
    | some found =>
      obtain ⟨action, mapped⟩ := found
      dsimp only [Option.bind_some]
      obtain ⟨-, hread⟩ | ⟨e, fault, hid, hstring, -⟩ := readString_cases properties
      · rw [hread, ofExcept_ok_bind]
        exact world_respond mapped properties _ action
      · obtain ⟨s, rfl⟩ := hsafe.id_string (action, mapped) hmapped e (by rw [hproperty, hid])
        exact absurd rfl (hstring s)

theorem handleText_of_parse_none {text : String} {loop : ReceiveLoop World R}
    (hreading : loop.isReading host client = true) (hparse : host.parse text = none) :
    handleText host server client text loop = ([text], ⟨loop.session, false⟩) := by
  rw [handleText, if_pos hreading, processText, hparse]
  rfl

variable (server) in
/-- The loop reads on after a text just when its request stays in the loop. -/
theorem isReading_handleText_iff {text : String} {root : JsonElement} {loop : ReceiveLoop World R}
    (hreading : loop.isReading host client = true) (hparse : host.parse text = some root) :
    (handleText host server client text loop).2.isReading host client = true ↔
      StaysOpen host client (processRoot host server client root loop.session) := by
  rw [handleText, if_pos hreading, processText, hparse]
  dsimp only [tryCatch, tryCatchThe, MonadExceptOf.tryCatch, EStateM.tryCatch]
  cases processRoot host server client root loop.session with
  | ok a after => exact staysOpen_ok_iff.symm
  | error e after =>
    by_cases hjson : e = .json
    · subst hjson
      refine ⟨fun hopen => ⟨fun e session he => ?_, hopen⟩, fun hstays => hstays.isOpen⟩
      cases he
      rfl
    · refine iff_of_false ?_ (not_staysOpen_error hjson)
      cases e with
      | json => exact absurd rfl hjson
      | _ => exact Bool.false_ne_true

/-- The session is where the loop body left it. -/
theorem session_handleText {text : String} {root : JsonElement} {loop : ReceiveLoop World R}
    (hreading : loop.isReading host client = true) (hparse : host.parse text = some root) :
    (handleText host server client text loop).2.session =
      finalState (processRoot host server client root loop.session) := by
  rw [handleText, if_pos hreading, ← finalState_processText hparse]
  dsimp only
  cases processText host server client text loop.session with
  | ok a after => rfl
  | error e after => rfl

theorem isReading_iff {loop : ReceiveLoop World R} : loop.isReading host client = true ↔
    loop.ended = false ∧ host.isOpen client loop.session.world = true := by
  simp only [ReceiveLoop.isReading, Bool.and_eq_true, Bool.not_eq_true']

theorem isReading_of_receive {loop : ReceiveLoop World R} {result : WebSocketReceiveResult}
    (h : (receive host server client loop result).2.isReading host client = true) :
    loop.isReading host client = true := by
  rw [receive] at h
  cases hkind : result.messageType with
  | close =>
    rw [hkind] at h
    cases h
  | binary =>
    rw [hkind] at h
    exact h
  | text =>
    rw [hkind] at h
    dsimp only at h
    by_contra hreading
    rw [handleText, if_neg hreading] at h
    exact hreading h

end Ends

/-! ### The client's entry -/

section Connections

variable {host : WebSocketHost C World R} {client : C}

/-- An accepted socket: its loop, and `_Clients`, where the client is as long as the loop is
reading. -/
structure Connection (host : WebSocketHost C World R) (client : C) where
  clients : Dictionary String C
  clientId : String
  loop : ReceiveLoop World R
  registered : loop.isReading host client = true → clients.tryGetValue clientId = some client

/-- `AcceptWebSocketAsync` for one result of `ReceiveAsync`: the client is removed when the loop is
over, however it has ended. -/
def Connection.receive (server : WebSocketServer C World Object R)
    (connection : Connection host client) (result : WebSocketReceiveResult) :
    Connection host client :=
  let loop := (WebSocketServer.receive host server client connection.loop result).2
  { clientId := connection.clientId
    loop := loop
    clients :=
      if loop.isReading host client then connection.clients
      else connection.clients.remove connection.clientId
    registered := fun hreading => by
      rw [if_pos hreading]
      exact connection.registered (isReading_of_receive hreading) }

/-- The client is registered after a result just when its loop reads on. -/
theorem Connection.tryGetValue_receive_iff (server : WebSocketServer C World Object R)
    (connection : Connection host client) (result : WebSocketReceiveResult) :
    (connection.receive server result).clients.tryGetValue connection.clientId = some client ↔
      (connection.receive server result).loop.isReading host client = true := by
  refine ⟨fun h => ?_, (connection.receive server result).registered⟩
  by_contra hreading
  have hclients : (connection.receive server result).clients =
      connection.clients.remove connection.clientId := if_neg hreading
  rw [hclients, Dictionary.tryGetValue_remove, if_pos rfl] at h
  cases h

/-- The loops do the same with everything that is received next. -/
def ProcessAlike (host : WebSocketHost C World R) (server : WebSocketServer C World Object R)
    (client : C) (loop loop' : ReceiveLoop World R) : Prop :=
  ∀ results, ∃ requests world replies ended,
    receiveLoopAsync host server client loop results =
      (requests, ⟨⟨world, loop.session.sent ++ replies⟩, ended⟩) ∧
    receiveLoopAsync host server client loop' results =
      (requests, ⟨⟨world, loop'.session.sent ++ replies⟩, ended⟩)

theorem processAlike_of_world {server : WebSocketServer C World Object R}
    {loop loop' : ReceiveLoop World R} (hworld : loop.session.world = loop'.session.world)
    (hended : loop.ended = loop'.ended) : ProcessAlike host server client loop loop' := by
  intro results
  -- Both are the same loop, after sending what each of them has sent.
  let fresh : ReceiveLoop World R := ⟨⟨loop.session.world, []⟩, loop.ended⟩
  have hloop : loop = fresh.afterSending loop.session.sent := by
    simp only [fresh, ReceiveLoop.afterSending, WebSocketSession.afterSending, List.append_nil]
  have hloop' : loop' = fresh.afterSending loop'.session.sent := by
    simp only [fresh, ReceiveLoop.afterSending, WebSocketSession.afterSending, List.append_nil,
      hworld, hended]
  have hrun := receiveLoopAsync_afterSending host server client loop.session.sent fresh results
  have hrun' := receiveLoopAsync_afterSending host server client loop'.session.sent fresh results
  rw [← hloop] at hrun
  rw [← hloop'] at hrun'
  exact ⟨_, _, _, _, hrun, hrun'⟩

/-- The world after the handler of a text, if it has one. -/
def worldAfterText (host : WebSocketHost C World R) (server : WebSocketServer C World Object R)
    (client : C) (text : String) (world : World) : World :=
  match host.parse text with
  | some root => worldAfter server client root world
  | none => world

/-- The message is processed without an exception that escapes, its client is still registered, and
the next messages are processed as if only its handler had run. -/
structure Survives (server : WebSocketServer C World Object R) (connection : Connection host client)
    (text : String) : Prop where
  returns : (connection.receive server ⟨.text, true, utf8Bytes text⟩).loop.ended = false
  registered : (connection.receive server ⟨.text, true, utf8Bytes text⟩).clients.tryGetValue
    connection.clientId = some client
  alike : ProcessAlike host server client
    (connection.receive server ⟨.text, true, utf8Bytes text⟩).loop
    ⟨⟨worldAfterText host server client text connection.loop.session.world,
      connection.loop.session.sent⟩, false⟩

theorem receive_utf8Bytes (host : WebSocketHost C World R)
    (server : WebSocketServer C World Object R) (client : C) (loop : ReceiveLoop World R)
    (text : String) :
    receive host server client loop ⟨.text, true, utf8Bytes text⟩ =
      handleText host server client text loop := by
  change handleText host server client (utf8GetString (utf8Bytes text)) loop = _
  rw [utf8GetString_utf8Bytes]

/-- **A message does not end the session of its client** just when it is not JSON or it is safe. -/
theorem survives_iff (server : WebSocketServer C World Object R)
    (connection : Connection host client) (text : String)
    (hreading : connection.loop.isReading host client = true) :
    Survives server connection text ↔ ∀ root, host.parse text = some root →
      IsSafe host server client root connection.loop.session.world := by
  have hloop : (connection.receive server ⟨.text, true, utf8Bytes text⟩).loop =
      (handleText host server client text connection.loop).2 :=
    congrArg Prod.snd (receive_utf8Bytes host server client connection.loop text)
  have hopen : host.isOpen client connection.loop.session.world = true :=
    (isReading_iff.mp hreading).2
  have hregistered := connection.tryGetValue_receive_iff server ⟨.text, true, utf8Bytes text⟩
  cases hparse : host.parse text with
  | none =>
    refine iff_of_true ?_ nofun
    rw [handleText_of_parse_none hreading hparse] at hloop
    refine ⟨by rw [hloop], hregistered.mpr (by rw [hloop]; exact hopen), ?_⟩
    rw [hloop]
    exact processAlike_of_world (by rw [worldAfterText, hparse]) rfl
  | some root =>
    have hstays := (isReading_handleText_iff server hreading hparse).trans
      (processRoot_staysOpen_iff hopen root)
    rw [← hloop] at hstays
    constructor
    · rintro hsurvives root' hroot
      cases hroot
      exact hstays.mp (hregistered.mp hsurvives.registered)
    · intro hsafe
      have hsafe := hsafe root rfl
      have hreads := hstays.mpr hsafe
      have hended := (isReading_iff.mp hreads).1
      refine ⟨hended, hregistered.mpr hreads, processAlike_of_world ?_ hended⟩
      rw [hloop, session_handleText hreading hparse, world_processRoot hsafe, worldAfterText,
        hparse]

end Connections

/-- A request that asks for no reply. -/
private def silentRequest : String :=
  "\x7b\"Action\":\"log/unsubscribe\",\"ResponseMessageID\":null\x7d"

private def silentRoot : JsonElement :=
  .object [("Action", .string "log/unsubscribe"), ("ResponseMessageID", .null)]

/-- A host whose sockets are open, and that reads this one request. -/
private def silentHost : WebSocketHost Unit Unit Unit where
  parse text := if text = silentRequest then some silentRoot else none
  serialize message := .ok (message.messageID.getD "null")
  isOpen _ _ := true
  utcNow := ⟨0⟩
  now := ⟨0⟩

private theorem parse_silentRequest : silentHost.parse silentRequest = some silentRoot := by
  change (if silentRequest = silentRequest then some silentRoot else none) = _
  exact if_pos rfl

/-- The action is mapped, and its handler succeeds. -/
private def silentServer : WebSocketServer Unit Unit Unit Unit :=
  (mapAction ⟨∅⟩ "log/unsubscribe" fun _ => return .plain .success).1

/-- A client that is the only one. -/
private def silentConnection : Connection silentHost () where
  clients := (∅ : Dictionary String Unit).set "a" ()
  clientId := "a"
  loop := ⟨⟨(), []⟩, false⟩
  registered _ := rfl

/-- Where the action is not mapped, the message to respond to is not read. -/
theorem survives_unmapped :
    Survives (⟨∅⟩ : WebSocketServer Unit Unit Unit Unit) silentConnection silentRequest := by
  refine (survives_iff ⟨∅⟩ silentConnection silentRequest rfl).mpr fun root hroot => ?_
  cases parse_silentRequest.symm.trans hroot
  have hunmapped : mappedOf (⟨∅⟩ : WebSocketServer Unit Unit Unit Unit) silentRoot = none := rfl
  refine ⟨⟨_, rfl⟩, fun e he => ?_, fun found hfound => ?_, fun action mapped hfound => ?_⟩
  · cases he
    exact .inr ⟨_, rfl⟩
  · cases hunmapped.symm.trans hfound
  · cases hunmapped.symm.trans hfound

/-- A message to respond to that is `null` ends the session. -/
theorem survives_fails : ¬ ∀ text, Survives silentServer silentConnection text := by
  intro hall
  have hreturns := (hall silentRequest).returns
  have hended : (handleText silentHost silentServer () silentRequest
      silentConnection.loop).2.ended = true := by
    have hreading : silentConnection.loop.isReading silentHost () = true := rfl
    rw [handleText, if_pos hreading, processText, parse_silentRequest]
    rfl
  have hloop := congrArg Prod.snd
    (receive_utf8Bytes silentHost silentServer () silentConnection.loop silentRequest)
  rw [← hloop] at hended
  cases hended.symm.trans hreturns

end WebSocketServer

end Connect3Dp
