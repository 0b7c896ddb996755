import Connect3Dp.Services.WebSocketServer

/-!
# Replies

Of the ends of the loop body for a request, two send a reply: the handler has returned, or the data
could not be deserialized. The others only log: the action is not mapped, the data is missing or
`null`, or the handler has raised an exception. `processText_replies_iff` lists the requests that
get their reply.
-/

namespace Connect3Dp

namespace WebSocketServer

variable {C World Object R : Type}

/-- A request with an action and a message to respond to. -/
structure IsRequest (root : JsonElement) (action id : String) : Prop where
  action_eq : root.tryGetProperty "Action" = .ok (some (.string action))
  action_notBlank : isNullOrWhiteSpace (some action) = false
  id_eq : root.tryGetProperty "ResponseMessageID" = .ok (some (.string id))
  id_notBlank : isNullOrWhiteSpace (some id) = false

/-- One message was sent, and it is the reply to the message `id`. -/
def Replies (id : NetString) (session session' : WebSocketSession World R) : Prop :=
  ∃ reply, session'.sent = session.sent ++ [reply] ∧ reply.messageID = id

variable (host : WebSocketHost C World R) (client : C)

/-- The message can be written, and the socket is open. -/
def CanSend (message : MessageToClient (ActionResult R)) (world : World) : Prop :=
  (∃ jsonOfMessage, host.serialize message = .ok jsonOfMessage) ∧ host.isOpen client world = true

/-- The handler returns a result that can be sent. -/
def Returns (handler : EStateM Fault World (ActionResult R)) (id : NetString) (action : String)
    (world : World) : Prop :=
  ∃ result world', handler world = .ok result world' ∧
    CanSend host client ⟨id, host.now, action, result⟩ world'

/-- The data cannot be deserialized, which can be sent, or it is an object from which the handler
returns. -/
def AnswersData (requiredDataType : JsonElement → Except String (Option Object))
    (invokeWithDataAsync : C → Object → EStateM Fault World (ActionResult R)) (id : NetString)
    (action : String) (dataProp : JsonElement) (world : World) : Prop :=
  (∃ message, requiredDataType dataProp = .error message ∧
      CanSend host client ⟨id, host.utcNow, action,
        .plain (.failure s!"Failed to Deserialize; {message}")⟩ world) ∨
    ∃ dataObj, requiredDataType dataProp = .ok (some dataObj) ∧
      Returns host client (invokeWithDataAsync client dataObj) id action world

/-- The action has a handler that answers, and its data is there if it takes any. -/
def Answers (mapped : ActionDefinition C World Object R) (root : JsonElement) (id : NetString)
    (action : String) (world : World) : Prop :=
  (∃ invokeAsync, mapped.invokeAsync = some invokeAsync ∧
      Returns host client (invokeAsync client) id action world) ∨
    (mapped.invokeAsync = none ∧ ∃ requiredDataType invokeWithDataAsync,
      mapped.requiredDataType = some requiredDataType ∧
        mapped.invokeWithDataAsync = some invokeWithDataAsync ∧
          ∃ dataProp, root.tryGetProperty "Data" = .ok (some dataProp) ∧
            AnswersData host client requiredDataType invokeWithDataAsync id action dataProp world)

/-- A reply is sent just when `P` holds, and otherwise nothing is sent. -/
structure RepliesWhen (P : Prop) (id : NetString) (session session' : WebSocketSession World R) :
    Prop where
  replies : P → Replies id session session'
  silent : ¬ P → session'.sent = session.sent

variable {host client} {id : NetString} {action : String}
  {session session' : WebSocketSession World R}

theorem RepliesWhen.replies_iff {P : Prop} {id' : NetString}
    (h : RepliesWhen P id' session session') :
    Replies id session session' ↔ P ∧ id' = id := by
  constructor
  · rintro ⟨reply, hsent, hid⟩
    by_cases hP : P
    · obtain ⟨reply', hsent', hid'⟩ := h.replies hP
      have hreply : reply = reply' := by
        rw [hsent'] at hsent
        exact (List.singleton_inj.mp (List.append_cancel_left hsent)).symm
      exact ⟨hP, by rw [← hid', ← hid, hreply]⟩
    · have hlength := congrArg List.length ((h.silent hP).symm.trans hsent)
      rw [List.length_append, List.length_singleton] at hlength
      omega
  · rintro ⟨hP, rfl⟩
    exact h.replies hP

theorem RepliesWhen.congr {P Q : Prop} (h : RepliesWhen P id session session') (hPQ : P ↔ Q) :
    RepliesWhen Q id session session' :=
  ⟨fun hQ => h.replies (hPQ.mpr hQ), fun hQ => h.silent fun hP => hQ (hPQ.mp hP)⟩

theorem RepliesWhen.never {P : Prop} (hP : ¬ P) (h : session'.sent = session.sent) :
    RepliesWhen P id session session' :=
  ⟨fun hP' => absurd hP' hP, fun _ => h⟩

/-! ### The ends of the body -/

theorem sendMessageToClientAsync_replies (host : WebSocketHost C World R) (client : C)
    (message : MessageToClient (ActionResult R)) (session : WebSocketSession World R) :
    RepliesWhen (CanSend host client message session.world) message.messageID session
      (finalState (sendMessageToClientAsync host client message session)) := by
  rw [sendMessageToClientAsync]
  cases hserialize : host.serialize message with
  | error e =>
    rw [ofExcept_error_bind]
    refine .never ?_ rfl
    rintro ⟨⟨json, hjson⟩, -⟩
    cases hserialize.symm.trans hjson
  | ok json =>
    rw [ofExcept_ok_bind]
    change RepliesWhen _ _ _ (finalState ((if host.isOpen client session.world = true then _
      else _ : EStateM Fault (WebSocketSession World R) Unit) session))
    by_cases hopen : host.isOpen client session.world = true
    · rw [if_pos hopen]
      exact ⟨fun _ => ⟨message, rfl, rfl⟩,
        fun hcannot => absurd ⟨⟨json, hserialize⟩, hopen⟩ hcannot⟩
    · rw [if_neg hopen]
      exact .never (fun hcan => hopen hcan.2) rfl

theorem invoke_ok {handler : EStateM Fault World (ActionResult R)} {result : ActionResult R}
    {world' : World} (h : handler session.world = .ok result world') :
    invoke handler session = .ok (some result) { session with world := world' } := by
  have hfield : (onField WebSocketSession.world (fun session world => { session with world })
      handler).run session = .ok result { session with world := world' } := run_onField_ok h
  have hmap : (some <$> onField WebSocketSession.world (fun session world => { session with world })
      handler).run session = .ok (some result) { session with world := world' } := by
    rw [map_eq_pure_bind, run_bind_ok hfield]
    rfl
  exact run_tryCatch_ok hmap

theorem invoke_error {handler : EStateM Fault World (ActionResult R)} {e : Fault} {world' : World}
    (h : handler session.world = .error e world') :
    invoke handler session = .ok none { session with world := world' } := by
  have hfield : (onField WebSocketSession.world (fun session world => { session with world })
      handler).run session = .error e { session with world := world' } := run_onField_error h
  have hmap : (some <$> onField WebSocketSession.world (fun session world => { session with world })
      handler).run session = .error e { session with world := world' } := by
    rw [map_eq_pure_bind, run_bind_error hfield]
  exact run_tryCatch_error hmap

/-- The end of the body, where a handler is invoked. -/
theorem invoke_replies (handler : EStateM Fault World (ActionResult R)) (id : NetString)
    (action : String) (session : WebSocketSession World R) :
    RepliesWhen (Returns host client handler id action session.world) id session
      (finalState ((invoke handler >>= sendResult host client id action) session)) := by
  cases hhandler : handler session.world with
  | error e world' =>
    have hrun : (invoke handler >>= sendResult host client id action) session =
        .ok () { session with world := world' } := run_bind_ok (invoke_error hhandler)
    rw [hrun]
    refine .never ?_ rfl
    rintro ⟨result, after, hreturns, -⟩
    cases hhandler.symm.trans hreturns
  | ok result world' =>
    have hrun : (invoke handler >>= sendResult host client id action) session =
        sendMessageToClientAsync host client ⟨id, host.now, action, result⟩
          { session with world := world' } := run_bind_ok (invoke_ok hhandler)
    have hsend := sendMessageToClientAsync_replies host client ⟨id, host.now, action, result⟩
      { session with world := world' }
    rw [hrun]
    refine RepliesWhen.congr ⟨hsend.replies, hsend.silent⟩
      ⟨fun hcan => ⟨result, world', hhandler, hcan⟩, ?_⟩
    rintro ⟨result', after, hreturns, hcan⟩
    cases hhandler.symm.trans hreturns
    exact hcan

/-- The end of the body, where a handler takes data. -/
theorem invokeWithData_replies (requiredDataType : JsonElement → Except String (Option Object))
    (invokeWithDataAsync : C → Object → EStateM Fault World (ActionResult R)) (id : NetString)
    (action : String) (dataProp : JsonElement) (session : WebSocketSession World R) :
    RepliesWhen
      (AnswersData host client requiredDataType invokeWithDataAsync id action dataProp
        session.world) id session
      (finalState ((invokeWithData host client requiredDataType invokeWithDataAsync id action
        dataProp >>= sendResult host client id action) session)) := by
  rw [invokeWithData]
  cases hread : requiredDataType dataProp with
  | error message =>
    let failed : MessageToClient (ActionResult R) := ⟨id, host.utcNow, action,
      .plain (.failure s!"Failed to Deserialize; {message}")⟩
    have hanswers : CanSend host client failed session.world ↔
        AnswersData host client requiredDataType invokeWithDataAsync id action dataProp
          session.world := by
      refine ⟨fun hcan => .inl ⟨message, hread, hcan⟩, ?_⟩
      rintro (⟨message', hmessage, hcan⟩ | ⟨dataObj, hobject, -⟩)
      · cases hread.symm.trans hmessage
        exact hcan
      · cases hread.symm.trans hobject
    have hfinal : finalState (((do sendMessageToClientAsync host client failed; return none) >>=
        sendResult host client id action : EStateM Fault (WebSocketSession World R) Unit) session) =
          finalState (sendMessageToClientAsync host client failed session) := by
      cases hsend : sendMessageToClientAsync host client failed session with
      | ok sent session' => simp only [bind, EStateM.bind, hsend]; rfl
      | error e session' => simp only [bind, EStateM.bind, hsend]
    have hsend := sendMessageToClientAsync_replies host client failed session
    exact hfinal ▸ hsend.congr hanswers
  | ok dataObj =>
    cases dataObj with
    | none =>
      refine .never ?_ rfl
      rintro (⟨message, hmessage, -⟩ | ⟨dataObj, hobject, -⟩)
      · cases hread.symm.trans hmessage
      · cases hread.symm.trans hobject
    | some dataObj =>
      refine (invoke_replies (invokeWithDataAsync client dataObj) id action session).congr
        ⟨fun hreturns => .inr ⟨dataObj, hread, hreturns⟩, ?_⟩
      rintro (⟨message, hmessage, -⟩ | ⟨dataObj', hobject, hreturns⟩)
      · cases hread.symm.trans hmessage
      · cases hread.symm.trans hobject
        exact hreturns

/-- The end of the body for a mapped action. -/
theorem respond_replies (mapped : ActionDefinition C World Object R) (root : JsonElement)
    (id : NetString) (action : String) (session : WebSocketSession World R) :
    RepliesWhen (Answers host client mapped root id action session.world) id session
      (finalState (respond host client mapped root id action session)) := by
  rw [respond, resultObj]
  cases hinvoke : mapped.invokeAsync with
  | some invokeAsync =>
    refine (invoke_replies (invokeAsync client) id action session).congr
      ⟨fun hreturns => .inl ⟨invokeAsync, hinvoke, hreturns⟩, ?_⟩
    rintro (⟨invokeAsync', hinvoke', hreturns⟩ | ⟨hnone, -⟩)
    · cases hinvoke.symm.trans hinvoke'
      exact hreturns
    · cases hinvoke.symm.trans hnone
  | none =>
    -- Without a handler of its own, the action answers as its handler for data does.
    have hdata : Answers host client mapped root id action session.world ↔
        ∃ requiredDataType invokeWithDataAsync, mapped.requiredDataType = some requiredDataType ∧
          mapped.invokeWithDataAsync = some invokeWithDataAsync ∧
            ∃ dataProp, root.tryGetProperty "Data" = .ok (some dataProp) ∧
              AnswersData host client requiredDataType invokeWithDataAsync id action dataProp
                session.world := by
      simp [Answers, hinvoke]
    refine RepliesWhen.congr ?_ hdata.symm
    cases htype : mapped.requiredDataType with
    | none => exact .never (by simp) rfl
    | some requiredDataType =>
      cases hwith : mapped.invokeWithDataAsync with
      | none => exact .never (by simp) rfl
      | some invokeWithDataAsync =>
        simp only [Option.some.injEq, exists_eq_left', ↓existsAndEq, true_and]
        cases hproperty : root.tryGetProperty "Data" with
        | error e => exact .never (by simp) rfl
        | ok found =>
          cases found with
          | none => exact .never (by simp) rfl
          | some dataProp =>
            refine (invokeWithData_replies requiredDataType invokeWithDataAsync id action dataProp
              session).congr ?_
            simp

/-- What is caught and what is not, the session is where the loop body left it. -/
theorem finalState_processText {server : WebSocketServer C World Object R} {text : String}
    {root : JsonElement} (hparse : host.parse text = some root) :
    finalState (processText host server client text session) =
      finalState (processRoot host server client root session) := by
  rw [processText, hparse]
  dsimp only
  cases hroot : (processRoot host server client root).run session with
  | ok a session' => exact congrArg finalState ((run_tryCatch_ok hroot).trans hroot.symm)
  | error e session' =>
    refine (congrArg finalState (run_tryCatch_error hroot)).trans ?_
    rw [EStateM.run] at hroot
    rw [hroot]
    cases e <;> rfl

theorem readString_eq {root : JsonElement} {id : String}
    (h : root.tryGetProperty "ResponseMessageID" = .ok (some (.string id))) :
    readString root "ResponseMessageID" = .ok (some (trim id)) := by
  rw [readString, h]
  rfl

/-- The body comes to the action, if it is mapped. -/
theorem processRoot_eq {server : WebSocketServer C World Object R} {root : JsonElement}
    {action id : String} (hrequest : IsRequest root action id)
    {mapped : Option (ActionDefinition C World Object R)}
    (hmapped : server.mappedActions.tryGetValue action = mapped) :
    processRoot host server client root session = mapped.elim (.ok () session) fun mapped =>
      respond host client mapped root (some (trim id)) action session := by
  rw [processRoot, hrequest.action_eq, ofExcept_ok_bind]
  change (if isNullOrWhiteSpace (some action) = true then _ else _ :
    EStateM Fault (WebSocketSession World R) Unit) session = _
  rw [hrequest.action_notBlank, if_neg Bool.false_ne_true, readString_eq hrequest.id_eq, hmapped]
  cases mapped with
  | none => rfl
  | some mapped => rfl

/-- **A request gets its reply** just when its action is mapped and has a handler that answers, and
the message to respond to is named without white space around it. -/
theorem processText_replies_iff (host : WebSocketHost C World R)
    (server : WebSocketServer C World Object R) (client : C) (session : WebSocketSession World R)
    (text : String) (root : JsonElement) (action id : String)
    (hparse : host.parse text = some root) (hrequest : IsRequest root action id) :
    Replies (some id) session
        (finalState (processText host server client text session)) ↔
      trim id = id ∧ ∃ mapped, server.mappedActions.tryGetValue action = some mapped ∧
        Answers host client mapped root (some id) action session.world := by
  rw [finalState_processText hparse]
  cases hmapped : server.mappedActions.tryGetValue action with
  | none =>
    have hsilent : RepliesWhen False none session session := .never (fun h => h) rfl
    have hreplies : ¬ Replies (some id) session session := fun h => (hsilent.replies_iff.mp h).1
    rw [processRoot_eq hrequest hmapped]
    refine iff_of_false hreplies ?_
    rintro ⟨-, mapped, hmapped', -⟩
    cases hmapped'
  | some mapped =>
    have hreplies : RepliesWhen (Answers host client mapped root (some (trim id)) action
        session.world) _ session _ := respond_replies mapped root (some (trim id)) action session
    rw [processRoot_eq hrequest hmapped]
    refine hreplies.replies_iff.trans ⟨?_, ?_⟩
    · rintro ⟨hanswers, hid⟩
      have htrim : trim id = id := Option.some.inj hid
      exact ⟨htrim, mapped, rfl, htrim ▸ hanswers⟩
    · rintro ⟨htrim, mapped', hmapped', hanswers⟩
      cases hmapped'
      exact ⟨htrim.symm ▸ hanswers, congrArg some htrim⟩

/-- A request without data. -/
private def logRequest : String :=
  "\x7b\"Action\":\"log/unsubscribe\",\"ResponseMessageID\":\"1\"\x7d"

private def logRoot : JsonElement :=
  .object [("Action", .string "log/unsubscribe"), ("ResponseMessageID", .string "1")]

private theorem isRequest_logRoot : IsRequest logRoot "log/unsubscribe" "1" :=
  ⟨rfl, by decide, rfl, by decide⟩

/-- A host whose sockets are open, and that reads this one request. -/
private def logHost : WebSocketHost Unit Unit Unit where
  parse text := if text = logRequest then some logRoot else none
  serialize message := .ok (message.messageID.getD "null")
  isOpen _ _ := true
  utcNow := ⟨0⟩
  now := ⟨0⟩

private theorem parse_logRequest : logHost.parse logRequest = some logRoot := by
  change (if logRequest = logRequest then some logRoot else none) = _
  exact if_pos rfl

/-- The action is mapped, and its handler succeeds. -/
private def logServer : WebSocketServer Unit Unit Unit Unit :=
  (mapAction ⟨∅⟩ "log/unsubscribe" fun _ => return .plain .success).1

theorem processText_replies_iff_log :
    Replies (some "1") ⟨(), []⟩
      (finalState (processText logHost logServer () logRequest ⟨(), []⟩)) := by
  refine (processText_replies_iff logHost logServer () ⟨(), []⟩ logRequest logRoot
    "log/unsubscribe" "1" parse_logRequest isRequest_logRoot).mpr ⟨by decide, _, rfl, ?_⟩
  exact .inl ⟨_, rfl, .plain .success, (), rfl, ⟨_, rfl⟩, rfl⟩

/-- The action is not mapped. -/
theorem processText_replies_fails :
    ¬ ∀ (server : WebSocketServer Unit Unit Unit Unit) (session : WebSocketSession Unit Unit)
        (text : String) (root : JsonElement) (action id : String), logHost.parse text = some root →
        IsRequest root action id →
          Replies (some id) session (finalState (processText logHost server () text session)) := by
  intro hall
  obtain ⟨reply, hsent, -⟩ := hall ⟨∅⟩ ⟨(), []⟩ logRequest logRoot "log/unsubscribe" "1"
    parse_logRequest isRequest_logRoot
  have hlength := congrArg List.length hsent
  cases hlength

end WebSocketServer

end Connect3Dp
