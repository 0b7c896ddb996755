import Connect3Dp.Runtime.TimeSpanFormat
import Connect3Dp.Services.WebSocketServer
import Connect3Dp.State.MaterialEncoding

/-!
# The interval of a log subscription

`subscribeLogs` of the JavaScript client sends the shortest time between two broadcasts. It writes
it as an ISO 8601 duration, and the server reads a `TimeSpan`, for which the serializer takes the
constant format only.

`intervalArrives_never` says that no interval arrives, and `invokeWithData_subscribeLogs` what the
server answers instead.
-/

namespace Connect3Dp

/-! ### Numbers of JavaScript -/

namespace Double

/-- `Math.floor`. -/
def floor : Double → Double
  | .finite q => .finite ⌊q⌋
  | d => d

/-- The operator `%`, which is exact. -/
def rem : Double → Double → Double
  | .nan, _ | _, .nan => .nan
  | .infinite _, _ => .nan
  | .finite a, .infinite _ => .finite a
  | .finite a, .finite b => if b = 0 then .nan else .finite (a - b * truncate (a / b))

end Double

/-! ### The server -/

/-- `TimeSpan`. -/
def JsonConverter.timeSpan : JsonConverter TimeSpan where
  write t := .string t.format
  read
    | .string s =>
      match TimeSpan.parse s with
      | some t => .ok t
      | none => .error .json
    | _ => .error .json

/-- The converter of a type with properties that are `JsonRequired`. -/
def JsonObjectInfo.requiring {T : Type} (info : JsonObjectInfo T) (options : JsonSerializerOptions)
    (required : List String) : JsonConverter T where
  write := (info.converter options).write
  read
    | .object members =>
      if required.all fun property => members.any fun member => options.isMeant property member.1
      then (info.converter options).read (.object members)
      else .error .json
    | e => (info.converter options).read e

structure SubscribeToLogsPayload where
  minInterval : TimeSpan
  deriving DecidableEq, Inhabited

namespace SubscribeToLogsPayload

def info : JsonObjectInfo SubscribeToLogsPayload where
  create := default
  properties := [.readWrite "MinInterval" .timeSpan minInterval fun _ minInterval => ⟨minInterval⟩]

/-- The payload, as `ReceiveLoopAsync` deserializes it. -/
def converter : JsonConverter SubscribeToLogsPayload :=
  info.requiring WebSocketServer.jsonOptions ["MinInterval"]

/-- The `RequiredDataType` of the action. `message` is that of an exception. -/
def requiredDataType (message : Fault → String) (e : JsonElement) :
    Except String (Option SubscribeToLogsPayload) :=
  match converter.read e with
  | .ok payload => .ok (some payload)
  | .error e => .error (message e)

end SubscribeToLogsPayload

/-! ### The client -/

namespace WebClient

section Client

-- `Number.prototype.toString`
variable (numberToString : Double → String)

def msToDuration (ms : Double) : String :=
  if ms.le (.finite 0) then "PT0S"
  else
    let totalSeconds := (ms.div (.finite 1000)).floor
    let hours := (totalSeconds.div (.finite 3600)).floor
    let minutes := ((totalSeconds.rem (.finite 3600)).div (.finite 60)).floor
    let seconds := totalSeconds.rem (.finite 60)
    let result := "PT"
    let result :=
      if (Double.finite 0).lt hours then result ++ numberToString hours ++ "H" else result
    let result :=
      if (Double.finite 0).lt minutes then result ++ numberToString minutes ++ "M" else result
    if (Double.finite 0).lt seconds || result = "PT" then result ++ numberToString seconds ++ "S"
    else result

/-- The data of the request that `subscribeLogs` makes. -/
def subscribeLogs (minIntervalMs : Double) : JsonElement :=
  .object [("MinInterval", .string (msToDuration numberToString minIntervalMs))]

/-- The server takes the request, and the interval is the one that the client was given. -/
def IntervalArrives (minIntervalMs : ℕ) : Prop :=
  ∃ payload, SubscribeToLogsPayload.converter.read
      (subscribeLogs numberToString (.ofInt minIntervalMs)) = .ok payload ∧
    payload.minInterval.ticks.toInt = minIntervalMs * TimeSpan.ticksPerMillisecond

end Client

/-! ### What arrives -/

/-- Whatever the number is, the text is an ISO 8601 duration. -/
theorem msToDuration_eq (numberToString : Double → String) (ms : Double) :
    ∃ cs, msToDuration numberToString ms = .ofList ('P' :: cs) := by
  have hlist : ∀ s, (∃ cs, String.toList s = 'P' :: cs) → ∃ cs, s = .ofList ('P' :: cs) := by
    rintro s ⟨cs, hs⟩
    exact ⟨cs, by rw [← hs, String.ofList_toList]⟩
  have happend : ∀ s t, (∃ cs, String.toList s = 'P' :: cs) →
      ∃ cs, (s ++ t).toList = 'P' :: cs := by
    rintro s t ⟨cs, hs⟩
    exact ⟨cs ++ t.toList, by rw [String.toList_append, hs, List.cons_append]⟩
  have hstart : ∃ cs, "PT".toList = 'P' :: cs := ⟨['T'], rfl⟩
  refine hlist _ ?_
  rw [msToDuration]
  split
  · exact ⟨['T', '0', 'S'], rfl⟩
  · dsimp only
    -- Each part is put behind what is there already, if at all.
    have hpart : ∀ (c : Bool) s t u, (∃ cs, String.toList s = 'P' :: cs) →
        ∃ cs, (if c then s ++ t ++ u else s).toList = 'P' :: cs := by
      intro c s t u hs
      split
      · exact happend _ _ (happend _ _ hs)
      · exact hs
    exact hpart _ _ _ _ (hpart _ _ _ _ (hpart _ _ _ _ hstart))

/-- A text is read as the serializer reads a `TimeSpan`. -/
theorem read_minInterval (s : String) :
    SubscribeToLogsPayload.converter.read (.object [("MinInterval", .string s)]) =
      SubscribeToLogsPayload.mk <$> JsonConverter.timeSpan.read (.string s) := by
  have hmeant : WebSocketServer.jsonOptions.isMeant "MinInterval" "MinInterval" = true := by
    decide +kernel
  have hmember : ∀ t, SubscribeToLogsPayload.info.readMember WebSocketServer.jsonOptions t
      ("MinInterval", .string s) =
        SubscribeToLogsPayload.mk <$> JsonConverter.timeSpan.read (.string s) := by
    intro t
    have hfind : SubscribeToLogsPayload.info.properties.find? (fun p =>
        WebSocketServer.jsonOptions.isMeant p.name "MinInterval") =
          some (.readWrite "MinInterval" .timeSpan SubscribeToLogsPayload.minInterval
            fun _ minInterval => ⟨minInterval⟩) := List.find?_cons_of_pos hmeant
    rw [JsonObjectInfo.readMember, hfind]
    rfl
  have hread : SubscribeToLogsPayload.converter.read (.object [("MinInterval", .string s)]) =
      (SubscribeToLogsPayload.info.converter WebSocketServer.jsonOptions).read
        (.object [("MinInterval", .string s)]) := by
    refine if_pos ?_
    rw [List.all_cons, List.any_cons, hmeant]
    rfl
  rw [hread, ← hmember default]
  exact List.foldlM_cons.trans (bind_pure _)

/-- An interval in the constant format would be read. -/
theorem read_format (t : TimeSpan) :
    SubscribeToLogsPayload.converter.read (.object [("MinInterval", .string t.format)]) =
      .ok ⟨t⟩ := by
  rw [read_minInterval, JsonConverter.timeSpan]
  dsimp only
  rw [TimeSpan.parse_format]
  rfl

/-- What the client sends is refused. -/
theorem read_subscribeLogs (numberToString : Double → String) (minIntervalMs : Double) :
    SubscribeToLogsPayload.converter.read (subscribeLogs numberToString minIntervalMs) =
      .error .json := by
  obtain ⟨cs, hcs⟩ := msToDuration_eq numberToString minIntervalMs
  rw [subscribeLogs, read_minInterval, hcs, JsonConverter.timeSpan]
  dsimp only
  rw [TimeSpan.parse_cons_eq_none (by decide) (by decide)]
  rfl

/-- **No subscription to the logs is made**: the server answers with a failure, and its handler is
not called. -/
theorem invokeWithData_subscribeLogs {C World R : Type} (host : WebSocketHost C World R)
    (client : C) (message : Fault → String)
    (startLogForwarding : C → SubscribeToLogsPayload → EStateM Fault World (ActionResult R))
    (responseMessageID : NetString) (actionName : String) (numberToString : Double → String)
    (minIntervalMs : Double) :
    WebSocketServer.invokeWithData host client (SubscribeToLogsPayload.requiredDataType message)
        startLogForwarding responseMessageID actionName
        (subscribeLogs numberToString minIntervalMs) = (do
      WebSocketServer.sendMessageToClientAsync host client ⟨responseMessageID, host.utcNow,
        actionName, .plain (.failure s!"Failed to Deserialize; {message .json}")⟩
      return none) := by
  rw [WebSocketServer.invokeWithData, SubscribeToLogsPayload.requiredDataType, read_subscribeLogs]

/-- **No interval arrives.** -/
theorem intervalArrives_never (numberToString : Double → String) (minIntervalMs : ℕ) :
    ¬ IntervalArrives numberToString minIntervalMs := by
  rintro ⟨payload, hread, -⟩
  rw [read_subscribeLogs] at hread
  cases hread

/-- `Number.prototype.toString`, of an integer of at most 21 digits. -/
private def writeInteger : Double → String
  | .finite q => toString q.num
  | .infinite negative => if negative then "-Infinity" else "Infinity"
  | .nan => "NaN"

/-- A second. -/
theorem intervalArrives_fails :
    msToDuration writeInteger (.ofInt 1000) = "PT1S" ∧
      TimeSpan.format ⟨10000000⟩ = "00:00:01" ∧ ¬ IntervalArrives writeInteger 1000 := by
  refine ⟨by decide +kernel, by decide +kernel, ?_⟩
  rintro ⟨payload, hread, -⟩
  rw [read_subscribeLogs] at hread
  cases hread

end WebClient

end Connect3Dp
