import Connect3Dp.Services.WebSocketServer

/-!
# Messages and requests

A text message arrives as one or more results of `ReceiveAsync`, each of them at most as long as the
buffer. The loop takes every result for a request. So its requests are the messages just as long as
every message arrives in one result (`requestsByMessage_eq_iff`).

`SimpleWebSocketClient` collects the results of a message before it decodes them, and gets the
messages however they arrive (`SimpleWebSocketClient.receiveLoopAsync_flatMap_results`).
-/

namespace Connect3Dp

/-! ### Deliveries -/

/-- `new byte[16 * 1024]`. -/
def WebSocketServer.bufferSize : ℕ := 16 * 1024

/-- The results of a text message that arrives in pieces. -/
def textResults : List (List UInt8) → List WebSocketReceiveResult
  | [] => []
  | piece :: pieces => ⟨.text, pieces.isEmpty, piece⟩ :: textResults pieces

/-- A text message, and the pieces in which it is received. -/
structure Delivery where
  text : String
  first : List UInt8
  rest : List (List UInt8)
  flatten_eq : (first :: rest).flatten = utf8Bytes text
  length_le : ∀ piece ∈ first :: rest, piece.length ≤ WebSocketServer.bufferSize

namespace Delivery

def results (d : Delivery) : List WebSocketReceiveResult := textResults (d.first :: d.rest)

/-- A message that arrives in one result is decoded from it. -/
theorem utf8GetString_first {d : Delivery} (h : d.rest = []) : utf8GetString d.first = d.text := by
  have hfirst := d.flatten_eq
  rw [h, List.flatten_singleton] at hfirst
  rw [hfirst, utf8GetString_utf8Bytes]

/-- A message that does not fit into the buffer does not arrive in one result. -/
theorem rest_ne_nil {d : Delivery} (h : WebSocketServer.bufferSize < (utf8Bytes d.text).length) :
    d.rest ≠ [] := by
  intro hrest
  have hlength := d.length_le d.first List.mem_cons_self
  rw [← d.flatten_eq, hrest, List.flatten_singleton] at h
  omega

end Delivery

/-! ### The loop -/

namespace WebSocketServer

variable {C World Object R : Type} (host : WebSocketHost C World R)
  (server : WebSocketServer C World Object R) (client : C)

/-- The requests that are processed out of each message. -/
def requestsByMessage : ReceiveLoop World R → List Delivery → List (List String)
  | _, [] => []
  | loop, d :: ds =>
    let (requests, loop) := receiveLoopAsync host server client loop d.results
    requests :: requestsByMessage loop ds

/-- One request for each message, with its text, until a request ends the loop. -/
def wholeRequests : ReceiveLoop World R → List String → List (List String)
  | _, [] => []
  | loop, text :: texts =>
    let (requests, loop) := handleText host server client text loop
    requests :: wholeRequests loop texts

/-- The message arrives in one result, or its first result reads as all of it and its request ends
the loop. -/
def Arrives (loop : ReceiveLoop World R) (d : Delivery) : Prop :=
  d.rest = [] ∨ utf8GetString d.first = d.text ∧
    (handleText host server client d.text loop).2.isReading host client = false

/-- So does every message that the loop gets to. -/
def Framed : ReceiveLoop World R → List Delivery → Prop
  | _, [] => True
  | loop, d :: ds => loop.isReading host client = true →
    Arrives host server client loop d ∧ Framed (handleText host server client d.text loop).2 ds

variable {host server client} {loop : ReceiveLoop World R}

theorem receiveLoopAsync_append (loop : ReceiveLoop World R)
    (results later : List WebSocketReceiveResult) :
    receiveLoopAsync host server client loop (results ++ later) =
      let (requests, loop) := receiveLoopAsync host server client loop results
      let (requests', loop) := receiveLoopAsync host server client loop later
      (requests ++ requests', loop) := by
  induction results generalizing loop with
  | nil => rfl
  | cons result results ih => simp only [List.cons_append, receiveLoopAsync, ih, List.append_assoc]

/-- The requests of the messages are the requests of the loop, in order. -/
theorem flatten_requestsByMessage (loop : ReceiveLoop World R) (ds : List Delivery) :
    (requestsByMessage host server client loop ds).flatten =
      (receiveLoopAsync host server client loop (ds.flatMap Delivery.results)).1 := by
  induction ds generalizing loop with
  | nil => rfl
  | cons d ds ih =>
    simp only [requestsByMessage, List.flatten_cons, List.flatMap_cons, receiveLoopAsync_append, ih]

/-- They are what the loop processes when every message arrives in a single result. -/
theorem flatten_wholeRequests (loop : ReceiveLoop World R) (texts : List String) :
    (wholeRequests host server client loop texts).flatten =
      (receiveLoopAsync host server client loop
        (texts.map fun text => ⟨.text, true, utf8Bytes text⟩)).1 := by
  induction texts generalizing loop with
  | nil => rfl
  | cons text texts ih =>
    have hreceive : receive host server client loop ⟨.text, true, utf8Bytes text⟩ =
        handleText host server client text loop := by
      change handleText host server client (utf8GetString (utf8Bytes text)) loop = _
      rw [utf8GetString_utf8Bytes]
    simp only [wholeRequests, List.flatten_cons, List.map_cons, receiveLoopAsync, hreceive, ih]

theorem handleText_of_reading (h : loop.isReading host client = true) (text : String) :
    (handleText host server client text loop).1 = [text] := by
  rw [handleText, if_pos h]

theorem handleText_of_not_reading (h : loop.isReading host client = false) (text : String) :
    handleText host server client text loop = ([], loop) := by
  rw [handleText, if_neg (ne_true_of_eq_false h)]

theorem receiveLoopAsync_textResults_cons (loop : ReceiveLoop World R) (piece : List UInt8)
    (pieces : List (List UInt8)) :
    receiveLoopAsync host server client loop (textResults (piece :: pieces)) =
      let (requests, loop) := handleText host server client (utf8GetString piece) loop
      let (later, loop) := receiveLoopAsync host server client loop (textResults pieces)
      (requests ++ later, loop) := rfl

/-- A loop that has ended receives nothing. -/
theorem receiveLoopAsync_of_not_reading (h : loop.isReading host client = false)
    (pieces : List (List UInt8)) :
    receiveLoopAsync host server client loop (textResults pieces) = ([], loop) := by
  induction pieces with
  | nil => rfl
  | cons piece pieces ih =>
    simp only [receiveLoopAsync_textResults_cons, handleText_of_not_reading h, ih, List.append_nil]

/-- Every further result is a request, unless the loop has ended. -/
theorem requests_textResults_eq_nil_iff {pieces : List (List UInt8)} :
    (receiveLoopAsync host server client loop (textResults pieces)).1 = [] ↔
      pieces = [] ∨ loop.isReading host client = false := by
  cases hreading : loop.isReading host client with
  | false => simp [receiveLoopAsync_of_not_reading hreading]
  | true =>
    cases pieces with
    | nil => simp [textResults, receiveLoopAsync]
    | cons piece pieces =>
      simp [receiveLoopAsync_textResults_cons, handleText_of_reading hreading]

theorem framed_of_not_reading (h : loop.isReading host client = false) (ds : List Delivery) :
    Framed host server client loop ds := by
  cases ds with
  | nil => trivial
  | cons d ds => exact fun hreading => absurd hreading (ne_true_of_eq_false h)

/-- **One message**: its requests are its text alone just when it arrives as it should, and then the
loop goes on as it would. -/
theorem receiveLoopAsync_results (h : loop.isReading host client = true) (d : Delivery) :
    ((receiveLoopAsync host server client loop d.results).1 = [d.text] ↔
        Arrives host server client loop d) ∧
      (Arrives host server client loop d →
        (receiveLoopAsync host server client loop d.results).2 =
          (handleText host server client d.text loop).2) := by
  have hrequests : (receiveLoopAsync host server client loop d.results).1 =
      utf8GetString d.first :: (receiveLoopAsync host server client
        (handleText host server client (utf8GetString d.first) loop).2 (textResults d.rest)).1 := by
    rw [Delivery.results, receiveLoopAsync_textResults_cons]
    simp only [handleText_of_reading h, List.singleton_append]
  have hloop : (receiveLoopAsync host server client loop d.results).2 = (receiveLoopAsync host
      server client (handleText host server client (utf8GetString d.first) loop).2
        (textResults d.rest)).2 := rfl
  constructor
  · rw [hrequests, List.cons.injEq, requests_textResults_eq_nil_iff, Arrives]
    constructor
    · rintro ⟨hfirst, hrest | hended⟩
      · exact .inl hrest
      · exact .inr ⟨hfirst, hfirst ▸ hended⟩
    · rintro (hrest | ⟨hfirst, hended⟩)
      · exact ⟨Delivery.utf8GetString_first hrest, .inl hrest⟩
      · exact ⟨hfirst, .inr (hfirst.symm ▸ hended)⟩
  · rw [hloop]
    rintro (hrest | ⟨hfirst, hended⟩)
    · rw [Delivery.utf8GetString_first hrest, hrest]
      rfl
    · rw [hfirst, receiveLoopAsync_of_not_reading hended]

/-- **The requests are the messages** just when every message arrives in one result. -/
theorem requestsByMessage_eq_iff (host : WebSocketHost C World R)
    (server : WebSocketServer C World Object R) (client : C) (loop : ReceiveLoop World R)
    (ds : List Delivery) :
    requestsByMessage host server client loop ds =
        wholeRequests host server client loop (ds.map Delivery.text) ↔
      Framed host server client loop ds := by
  induction ds generalizing loop with
  | nil => exact iff_of_true rfl trivial
  | cons d ds ih =>
    change (receiveLoopAsync host server client loop d.results).1 :: requestsByMessage host server
      client (receiveLoopAsync host server client loop d.results).2 ds =
        (handleText host server client d.text loop).1 :: wholeRequests host server client
          (handleText host server client d.text loop).2 (ds.map Delivery.text) ↔ _
    rw [List.cons.injEq]
    cases hreading : loop.isReading host client with
    | false =>
      -- Nothing is processed any more, of this message or of a later one.
      have hnone : receiveLoopAsync host server client loop d.results = ([], loop) :=
        receiveLoopAsync_of_not_reading hreading _
      have hframed : Framed host server client loop ds := framed_of_not_reading hreading ds
      rw [hnone, handleText_of_not_reading hreading]
      exact iff_of_true ⟨rfl, (ih loop).mpr hframed⟩ (framed_of_not_reading hreading _)
    | true =>
      have hmessage : _ ↔ Arrives host server client loop d :=
        (receiveLoopAsync_results hreading d).1
      have hloop : Arrives host server client loop d → _ := (receiveLoopAsync_results hreading d).2
      rw [handleText_of_reading hreading, hmessage]
      constructor
      · rintro ⟨harrives, hlater⟩ -
        rw [hloop harrives] at hlater
        exact ⟨harrives, (ih _).mp hlater⟩
      · intro hframed
        obtain ⟨harrives, hlater⟩ := hframed hreading
        rw [hloop harrives]
        exact ⟨harrives, (ih _).mpr hlater⟩

/-- A host whose sockets are open, and that reads the empty object alone. -/
private def emptyHost : WebSocketHost Unit Unit Unit where
  parse text := if text = "\x7b\x7d" then some (.object []) else none
  serialize _ := .ok ""
  isOpen _ _ := true
  utcNow := ⟨0⟩
  now := ⟨0⟩

/-- An object in two pieces. -/
private def split : Delivery where
  text := "\x7b\x7d"
  first := [0x7b]
  rest := [[0x7d]]
  flatten_eq := by decide
  length_le := by decide

/-- Each of the two pieces is a request. -/
theorem requestsByMessage_fails :
    ¬ ∀ (server : WebSocketServer Unit Unit Unit Unit) (loop : ReceiveLoop Unit Unit)
        (ds : List Delivery),
      requestsByMessage emptyHost server () loop ds =
        wholeRequests emptyHost server () loop (ds.map Delivery.text) := by
  intro hall
  have heq := hall ⟨∅⟩ ⟨⟨(), []⟩, false⟩ [split]
  have hlength := congrArg (List.map List.length) heq
  revert hlength
  decide

end WebSocketServer

/-! ### The loop that collects -/

namespace SimpleWebSocketClient

/-- The messages of `SimpleWebSocketClient.ReceiveLoopAsync`. -/
def receiveLoopAsync : List UInt8 → List WebSocketReceiveResult → List String
  | _, [] => []
  | ms, result :: results =>
    match result.messageType with
    | .close => []
    | _ =>
      let ms := ms ++ result.buffer
      if result.endOfMessage then utf8GetString ms :: receiveLoopAsync [] results
      else receiveLoopAsync ms results

theorem receiveLoopAsync_textResults_append (ms piece : List UInt8) (pieces : List (List UInt8))
    (results : List WebSocketReceiveResult) :
    receiveLoopAsync ms (textResults (piece :: pieces) ++ results) =
      utf8GetString (ms ++ (piece :: pieces).flatten) :: receiveLoopAsync [] results := by
  induction pieces generalizing ms piece with
  | nil => simp [textResults, receiveLoopAsync]
  | cons next pieces ih =>
    have hcollect : receiveLoopAsync ms (textResults (piece :: next :: pieces) ++ results) =
        receiveLoopAsync (ms ++ piece) (textResults (next :: pieces) ++ results) := rfl
    rw [hcollect, ih, List.flatten_cons (l := piece), List.append_assoc]

/-- **It gets the messages**, in whatever pieces they arrive. -/
theorem receiveLoopAsync_flatMap_results (ds : List Delivery) :
    receiveLoopAsync [] (ds.flatMap Delivery.results) = ds.map Delivery.text := by
  induction ds with
  | nil => rfl
  | cons d ds ih =>
    rw [List.flatMap_cons, Delivery.results, receiveLoopAsync_textResults_append, d.flatten_eq, ih,
      List.nil_append, utf8GetString_utf8Bytes, List.map_cons]

end SimpleWebSocketClient

end Connect3Dp
