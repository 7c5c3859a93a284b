import StudyDemo.Json.RoundTrip
import StudyDemo.SocketComm.Requests

/-! # Requests and replies as JSON texts

The server with the JSON library that it links: a client that prints its requests with
the library and reads the replies with it finds in each reply the number of its request. -/

namespace StudyDemo.SocketComm

open Json

/-- A pointer to a value, where the value `null` is no object at all. -/
def pointer {Double : Type} : Value Double → Option (Value Double)
  | .null => none
  | value => some value

/-- json-c. What is in memory behind the zero of a text makes no difference. -/
def jsonC (doubles : Doubles) : JsonLibrary where
  Object := Value doubles.Double
  tokenerParse text := (jsonTokenerParse doubles (text ++ [0, 0, 0])).bind pointer
  objectGet object key := pointer (jsonObjectObjectGet doubles object (text key.toList))
  getInt := jsonObjectGetInt doubles

def statusKey : Text := text ['s', 't', 'a', 't', 'u', 's']
def sequenceKey : Text := text ['s', 'e', 'q', 'u', 'e', 'n', 'c', 'e']
def descriptionKey : Text := text ['d', 'e', 's', 'c', 'r', 'i', 'p', 't', 'i', 'o', 'n']

/-- The object that `SocketServerSendMessage` builds. -/
def replyValue (doubles : Doubles) (reply : Reply) : Value doubles.Double :=
  let psJsonMessage : Value doubles.Double := .object []
  let psJsonMessage := psJsonMessage.objectAdd statusKey (.int (BitVec.ofInt 64 reply.status))
  let psJsonMessage := psJsonMessage.objectAdd sequenceKey (.int (BitVec.ofInt 64 reply.sequence))
  psJsonMessage.objectAdd descriptionKey (.string (text reply.description.toList))

/-- What it sends of it: `json_object_get_string` prints it, and the zero stays behind. -/
def replyBytes (doubles : Doubles) (reply : Reply) : List UCHAR :=
  jsonObjectToJsonStringExt doubles ⟨true, false, false⟩ (replyValue doubles reply)

/-- A request that the library has printed. -/
structure PrintedRequest (doubles : Doubles) where
  value : Value doubles.Double
  flags : ToStringFlags
  sequence : Int
  readable : value.Readable flags
  fits : Fits jsonTokenerDefaultDepth 0 value
  status : ((jsonC doubles).objectGet value "status").map (jsonC doubles).getInt = some 0
  number : ((jsonC doubles).objectGet value "sequence").map (jsonC doubles).getInt = some sequence
  description : ((jsonC doubles).objectGet value "description").isSome

variable {doubles : Doubles}

def PrintedRequest.bytes (request : PrintedRequest doubles) : List UCHAR :=
  jsonObjectToJsonStringExt doubles request.flags request.value

/-- Behind a request, nothing but white space comes before something that starts no comment. -/
def Harmless (rest : List UCHAR) : Prop := (rest.dropWhile isSpace).head? ≠ some (ascii '/')

instance (rest : List UCHAR) : Decidable (Harmless rest) := inferInstanceAs (Decidable (_ ≠ _))

/-- The string in the buffer begins with the request. What is left there of longer messages
may follow. -/
def Shows (text : List UCHAR) (request : PrintedRequest doubles) : Prop :=
  ∃ rest, text = request.bytes ++ rest ∧ Harmless rest

theorem PrintedRequest.isNumber (request : PrintedRequest doubles) :
    request.value.isNumber = false := by
  have described := request.description
  cases isValue : request.value
  all_goals simp [isValue, jsonC, jsonObjectObjectGet, pointer] at described
  rfl

theorem Harmless.split {rest : List UCHAR} (harmless : Harmless rest) (memory : List UCHAR) :
    ∃ spaces c beyond, rest ++ 0 :: memory = spaces ++ c :: beyond ∧ (∀ x ∈ spaces, isSpace x) ∧
      Visible c := by
  have whole : rest.takeWhile isSpace ++ rest.dropWhile isSpace = rest :=
    List.takeWhile_append_dropWhile
  have isSpaces : ∀ x ∈ rest.takeWhile isSpace, isSpace x :=
    fun x member => List.mem_takeWhile_imp member
  cases left : rest.dropWhile isSpace with
  | nil =>
      rw [left, List.append_nil] at whole
      rw [whole] at isSpaces
      exact ⟨rest, 0, memory, rfl, isSpaces, by decide⟩
  | cons c beyond =>
      rw [left] at whole
      refine ⟨rest.takeWhile isSpace, c, beyond ++ 0 :: memory, ?_, isSpaces, ?_, ?_⟩
      · rw [← List.cons_append, ← List.append_assoc, whole]
      · have notSpace := List.dropWhile_get_zero_not isSpace rest (by simp [left])
        simpa [left] using notSpace
      · rw [Harmless, left] at harmless
        exact fun slash => harmless (congrArg some slash)

theorem pointer_some {value : Value doubles.Double} (described : value ≠ .null) :
    pointer value = some value := by
  cases value <;> first | rfl | exact absurd rfl described

theorem PrintedRequest.parses (request : PrintedRequest doubles) {text : List UCHAR}
    (shows : Shows text request) : (jsonC doubles).tokenerParse text = some request.value := by
  obtain ⟨rest, rfl, harmless⟩ := shows
  obtain ⟨spaces, c, beyond, isRest, isSpaces, visible⟩ := harmless.split [0, 0]
  have read := printed_value_is_read request.value request.readable request.fits isSpaces visible
    (fun isNumber => absurd isNumber (by simp [request.isNumber])) beyond
  have notNull : request.value ≠ .null := by
    intro null
    have described := request.description
    simp [null, jsonC, jsonObjectObjectGet, pointer] at described
  dsimp only [jsonC]
  rw [List.append_assoc, isRest, jsonTokenerParse, PrintedRequest.bytes, read]
  exact pointer_some notNull

theorem handled_request (request : PrintedRequest doubles) {text : List UCHAR}
    (shows : Shows text request) :
    (socketServerHandleRecvMessage (jsonC doubles) text).2 =
      some (socketServerSendMessage .ok "Recv Successfully" request.sequence) := by
  obtain ⟨status, isStatus, zero⟩ := Option.map_eq_some_iff.mp request.status
  obtain ⟨number, isNumber, sequence⟩ := Option.map_eq_some_iff.mp request.number
  obtain ⟨description, isDescription⟩ := Option.isSome_iff_exists.mp request.description
  rw [socketServerHandleRecvMessage, request.parses shows]
  dsimp only
  rw [isStatus]
  dsimp only
  rw [if_pos zero, isNumber]
  dsimp only
  rw [isDescription, sequence]

theorem serve_requests (data : ClientData) {deliveries : List Delivery}
    {requests : List (PrintedRequest doubles)}
    (shown : List.Forall₂ Shows (texts data deliveries) requests) :
    serve (jsonC doubles) data deliveries = requests.map fun request =>
      socketServerSendMessage .ok "Recv Successfully" request.sequence := by
  rw [serve]
  generalize texts data deliveries = strings at shown ⊢
  induction shown with
  | nil => rfl
  | cons shows _ induction =>
      simp only [List.filterMap_cons, handled_request _ shows, induction, List.map_cons]

/-! ## Replies -/

theorem replyValue_eq (reply : Reply) :
    replyValue doubles reply = .object [(statusKey, .int (BitVec.ofInt 64 reply.status)),
      (sequenceKey, .int (BitVec.ofInt 64 reply.sequence)),
      (descriptionKey, .string (text reply.description.toList))] :=
  rfl

theorem reply_fits (reply : Reply) : Fits jsonTokenerDefaultDepth 0 (replyValue doubles reply) := by
  have keys : [statusKey, sequenceKey, descriptionKey].Nodup := by decide
  have noZeros : ∀ key ∈ [statusKey, sequenceKey, descriptionKey], 0 ∉ key := by decide
  rw [replyValue_eq]
  refine ⟨?_, keys, noZeros _ (by simp), trivial, noZeros _ (by simp), trivial,
    noZeros _ (by simp), trivial, trivial⟩
  simp only [Value.height, Value.entriesHeight, jsonTokenerDefaultDepth]
  decide

theorem reply_readable (reply : Reply) (flags : ToStringFlags) :
    (replyValue doubles reply).Readable flags := by
  rw [replyValue_eq]
  exact nofun

/-- Wherever a connection of the server stands, and whatever the other clients do: when the
string that stands in its buffer after each `recv` begins with a request, printed by the
library, then the client is sent one reply for each of them, in order, and the library reads
in each reply the number of its request. -/
theorem requests_and_replies_are_read {iSocketFd : Fd} {before : List Input}
    (running : (reached (jsonC doubles) iSocketFd before).control ≠ .exited)
    {client : SocketClient}
    (listed : client ∈ (reached (jsonC doubles) iSocketFd before).server.clients)
    (later : List Input) (requests : List (PrintedRequest doubles))
    (shown : List.Forall₂ Shows (texts client.csClientData (receivedBy client.addrclient
      (effects (jsonC doubles) (reached (jsonC doubles) iSocketFd before) later))) requests)
    (memory : Text) :
    (sentTo client.addrclient (effects (jsonC doubles) (reached (jsonC doubles) iSocketFd before)
        later)).map
      (fun reply => jsonTokenerParseVerbose doubles (replyBytes doubles reply ++ 0 :: memory)) =
    requests.map fun request => some (.success, .object
      [(statusKey, .int 0), (sequenceKey, .int (BitVec.ofInt 64 request.sequence)),
        (descriptionKey, .string (text "Recv Successfully".toList))]) := by
  have consistent := consistent_reached (jsonC doubles) iSocketFd before running
  rw [sentTo_eq_serve consistent listed, serve_requests _ shown, List.map_map]
  refine List.map_congr_left fun request _ => ?_
  let reply := socketServerSendMessage .ok "Recv Successfully" request.sequence
  exact printed_value_is_read (replyValue doubles reply) (reply_readable reply _) (reply_fits reply)
    (List.forall_mem_nil _) (show Visible 0 by decide) nofun memory

/-! ## Two requests without their zeros -/

def longRequest : PrintedRequest textDoubles where
  value := replyValue textDoubles ⟨0, 12, "a"⟩
  flags := ⟨false, false, false⟩
  sequence := 12
  readable := reply_readable _ _
  fits := reply_fits _
  status := by decide +kernel
  number := by decide +kernel
  description := by decide +kernel

def shortRequest : PrintedRequest textDoubles where
  value := replyValue textDoubles ⟨0, 3, ""⟩
  flags := ⟨false, false, false⟩
  sequence := 3
  readable := reply_readable _ _
  fits := reply_fits _
  status := by decide +kernel
  number := by decide +kernel
  description := by decide +kernel

/-- The end of the long request is still in the buffer behind the short one. -/
theorem requests_and_replies_are_read_over :
    (sentTo 0 (effects (jsonC textDoubles) (reached (jsonC textDoubles) 3 connected)
        (delivered longRequest.bytes ++ delivered shortRequest.bytes))).map
      (fun reply => jsonTokenerParseVerbose textDoubles (replyBytes textDoubles reply ++ [0])) =
    [some (.success, .object [(statusKey, .int 0), (sequenceKey, .int 12),
        (descriptionKey, .string (text "Recv Successfully".toList))]),
      some (.success, .object [(statusKey, .int 0), (sequenceKey, .int 3),
        (descriptionKey, .string (text "Recv Successfully".toList))])] := by
  have listed : (⟨0, 0, emptyMemory⟩ : SocketClient) ∈
      (reached (jsonC textDoubles) 3 connected).server.clients := by decide +kernel
  have strings : texts emptyMemory (receivedBy 0 (effects (jsonC textDoubles)
      (reached (jsonC textDoubles) 3 connected)
      (delivered longRequest.bytes ++ delivered shortRequest.bytes))) =
      [longRequest.bytes ++ [], shortRequest.bytes ++
      longRequest.bytes.drop shortRequest.bytes.length] := by
    decide +kernel
  refine requests_and_replies_are_read (by decide +kernel) listed _ [longRequest, shortRequest] ?_
      []
  rw [strings]
  exact .cons ⟨_, rfl, by decide⟩ (.cons ⟨_, rfl, by decide +kernel⟩ .nil)

end StudyDemo.SocketComm
