import Mathlib.Data.List.ReduceOption
import StudyDemo.Foundation.CMemory
import StudyDemo.SocketComm.Exchanges

/-! # Requests over a byte stream

A client sends its requests one behind the other, and the calls of `recv` cut the stream
as the bytes arrive. Each request gets its reply exactly when the strings in the buffer
begin with the requests in order; for requests without others inside, this is when each
of them begins a result of `recv`. -/

namespace StudyDemo.SocketComm

/-! ## Requests -/

/-- `json_object_get_int` of an integer that does not fit into 32 bits. -/
def clampInt (value : Int) : Int := max (-2147483648) (min 2147483647 value)

/-- The text of a request. The library reads the first value of a string and ignores
what follows it. -/
structure Request (library : JsonLibrary) where
  text : List UCHAR
  object : library.Object
  sequence : Int
  nonempty : text ≠ []
  parses : ∀ rest, library.tokenerParse (text ++ rest) = some object
  status : (library.objectGet object "status").map library.getInt = some 0
  number : (library.objectGet object "sequence").map library.getInt = some (clampInt sequence)
  description : (library.objectGet object "description").isSome
  noNul : (0 : UCHAR) ∉ text
  length_le : text.length ≤ 2047

section Strings

variable (library : JsonLibrary)

/-- The string begins with a request of this number. -/
def Begins (text : List UCHAR) (number : Int) : Prop :=
  ∃ object, library.tokenerParse text = some object ∧
    (library.objectGet object "status").map library.getInt = some 0 ∧
    (library.objectGet object "sequence").map library.getInt = some number ∧
    (library.objectGet object "description").isSome

/-- Those of the strings that begin with a request have these numbers, in order. -/
inductive BeginInOrder : List (List UCHAR) → List Int → Prop
  | nil : BeginInOrder [] []
  | begins {text : List UCHAR} {texts : List (List UCHAR)} {number : Int} {numbers : List Int}
      (here : Begins library text number) (rest : BeginInOrder texts numbers) :
      BeginInOrder (text :: texts) (number :: numbers)
  | other {text : List UCHAR} {texts : List (List UCHAR)} {numbers : List Int}
      (here : ∀ number, ¬Begins library text number) (rest : BeginInOrder texts numbers) :
      BeginInOrder (text :: texts) numbers

/-- In the bytes of each result of `recv` at most one request begins, and if one does,
the string in the buffer begins with a request of its number. The marks tell for each
byte which request begins there. -/
def EachBegins : ClientData → List Delivery → List (Option Int) → Prop
  | _, [], _ => True
  | data, delivery :: deliveries, marks =>
      let begun := (marks.take delivery.bytes.length).reduceOption
      let data := data.store delivery.bytes
      (begun = [] ∨ ∃ number, begun = [number] ∧
          Begins library (data.text delivery.beyond) number) ∧
        EachBegins data deliveries (marks.drop delivery.bytes.length)

end Strings

section Requests

variable {library : JsonLibrary}

/-- A string that begins inside the request never begins with a request: the text has no
object in it, nor white space or comments in front of one. -/
def Request.OnlyAtFront (request : Request library) : Prop :=
  ∀ u8 ∈ request.text.tail, ∀ rest number, ¬Begins library (u8 :: rest) number

/-- For each byte of the request, the number at the first one. -/
def Request.marks (request : Request library) : List (Option Int) :=
  some request.sequence :: List.replicate request.text.tail.length none

/-- One reply for each request, in order and with its number. -/
def Answered (library : JsonLibrary) (thread : Thread) (later : List Input)
    (connection : Nat) (requests : List (Request library)) : Prop :=
  (sentTo connection (effects library thread later)).map Reply.sequence =
    requests.map Request.sequence

/-- Each `recv` returns one whole request, whose number fits into 32 bits. -/
def OneRequestEach (results : List Delivery) (requests : List (Request library)) : Prop :=
  results.map Delivery.bytes = requests.map Request.text ∧
    ∀ request ∈ requests, clampInt request.sequence = request.sequence

/-! ## Strings and replies -/

/-- The number that a string is answered with. -/
def replied (library : JsonLibrary) (text : List UCHAR) : Option Int :=
  (socketServerHandleRecvMessage library text).2.map Reply.sequence

theorem replied_eq_some_iff (text : List UCHAR) (number : Int) :
    replied library text = some number ↔ Begins library text number := by
  rw [replied, socketServerHandleRecvMessage, Begins]
  cases library.tokenerParse text with
  | none => simp
  | some object =>
      cases status : library.objectGet object "status" with
      | none => simp [status]
      | some value =>
          by_cases zero : library.getInt value = 0
          · cases sequence : library.objectGet object "sequence" <;>
              cases description : library.objectGet object "description" <;>
                simp [status, sequence, description, zero, socketServerSendMessage]
          · simp [status, zero]

theorem replied_eq_none_iff (text : List UCHAR) :
    replied library text = none ↔ ∀ number, ¬Begins library text number := by
  rw [Option.eq_none_iff_forall_ne_some]
  exact forall_congr' fun number => not_congr (replied_eq_some_iff text number)

theorem beginInOrder_iff (texts : List (List UCHAR)) (numbers : List Int) :
    BeginInOrder library texts numbers ↔ texts.filterMap (replied library) = numbers := by
  induction texts generalizing numbers with
  | nil =>
      rw [List.filterMap_nil]
      constructor
      · rintro ⟨⟩
        rfl
      · rintro rfl
        exact .nil
  | cons text texts induction =>
      cases isReplied : replied library text with
      | none =>
          rw [List.filterMap_cons_none isReplied, ← induction]
          have none := (replied_eq_none_iff text).mp isReplied
          constructor
          · intro inOrder
            cases inOrder with
            | begins here => exact absurd here (none _)
            | other _ rest => exact rest
          · exact .other none
      | some number =>
          rw [List.filterMap_cons_some isReplied]
          have begins := (replied_eq_some_iff text number).mp isReplied
          constructor
          · intro inOrder
            cases inOrder with
            | @begins _ _ other numbers here rest =>
                rw [(replied_eq_some_iff text other).mpr here] at isReplied
                rw [Option.some.inj isReplied, (induction numbers).mp rest]
            | other here => exact absurd begins (here number)
          · rintro rfl
            exact .begins begins ((induction _).mpr rfl)

theorem answered_serve (data : ClientData) (results : List Delivery) :
    (serve library data results).map Reply.sequence =
      (texts data results).filterMap (replied library) := by
  rw [serve, List.map_filterMap]
  rfl

theorem Request.begins (request : Request library) (rest : List UCHAR) :
    Begins library (request.text ++ rest) (clampInt request.sequence) :=
  ⟨request.object, request.parses rest, request.status, request.number, request.description⟩

/-- A whole request stands in front of the string, whatever was in the buffer. -/
theorem Request.text_store (request : Request library) (data : ClientData)
    (beyond : List UCHAR) :
    ∃ rest, (data.store request.text).text beyond = request.text ++ rest := by
  have full : request.text.length ≤ MXBF := Nat.le_trans request.length_le (by decide)
  refine ⟨((data.val.drop request.text.length).take (MXBF - request.text.length) ++
    beyond).takeWhile (· ≠ 0), ?_⟩
  dsimp only [ClientData.text, ClientData.store]
  rw [List.take_append, List.take_of_length_le full, List.append_assoc]
  exact CMemory.takeWhile_append_of_noNul request.noNul _

theorem OneRequestEach.beginInOrder {results : List Delivery} {requests : List (Request library)}
    (each : OneRequestEach results requests) (data : ClientData) :
    BeginInOrder library (texts data results) (requests.map Request.sequence) := by
  obtain ⟨whole, fit⟩ := each
  induction requests generalizing data results with
  | nil =>
      rw [List.map_eq_nil_iff.mp whole]
      exact .nil
  | cons request requests induction =>
      cases results with
      | nil => cases whole
      | cons delivery results =>
          obtain ⟨bytes, others⟩ := List.cons.inj whole
          obtain ⟨rest, text⟩ := request.text_store data delivery.beyond
          have begins := request.begins rest
          rw [fit request List.mem_cons_self, ← text, ← bytes] at begins
          exact .begins begins
            (induction _ others fun other member => fit other (List.mem_cons_of_mem _ member))

/-! ## Where the requests begin -/

/-- A byte without a mark does not begin a request. -/
def Marked (library : JsonLibrary) (u8 : UCHAR) (mark : Option Int) : Prop :=
  u8 ≠ 0 ∧ (mark = none → ∀ rest number, ¬Begins library (u8 :: rest) number)

theorem marked_inside {bytes : List UCHAR} (noNul : (0 : UCHAR) ∉ bytes)
    (inside : ∀ u8 ∈ bytes, ∀ rest number, ¬Begins library (u8 :: rest) number) :
    List.Forall₂ (Marked library) bytes (List.replicate bytes.length none) := by
  induction bytes with
  | nil => exact .nil
  | cons u8 bytes induction =>
      rw [List.mem_cons, not_or] at noNul
      rw [List.forall_mem_cons] at inside
      exact .cons ⟨Ne.symm noNul.1, fun _ => inside.1⟩ (induction noNul.2 inside.2)

theorem Request.marked (request : Request library) (only : request.OnlyAtFront) :
    List.Forall₂ (Marked library) request.text request.marks := by
  have noNul := request.noNul
  rw [OnlyAtFront] at only
  rw [marks]
  obtain ⟨first, tail, isText⟩ := List.exists_cons_of_ne_nil request.nonempty
  rw [isText, List.tail_cons] at only
  rw [isText, List.mem_cons, not_or] at noNul
  rw [isText, List.tail_cons]
  exact .cons ⟨Ne.symm noNul.1, fun unmarked => by cases unmarked⟩ (marked_inside noNul.2 only)

theorem marked_stream {requests : List (Request library)}
    (only : ∀ request ∈ requests, request.OnlyAtFront) :
    List.Forall₂ (Marked library) (requests.flatMap Request.text)
      (requests.flatMap Request.marks) := by
  induction requests with
  | nil => exact .nil
  | cons request requests induction =>
      rw [List.forall_mem_cons] at only
      exact List.rel_append (request.marked only.1) (induction only.2)

theorem reduceOption_marks (requests : List (Request library)) :
    (requests.flatMap Request.marks).reduceOption = requests.map Request.sequence := by
  induction requests with
  | nil => rfl
  | cons request requests induction =>
      rw [List.flatMap_cons, List.reduceOption_append, induction, Request.marks,
        List.reduceOption_cons_of_some, List.reduceOption_replicate_none]
      rfl

theorem text_store_cons (data : ClientData) (beyond : List UCHAR) {u8 : UCHAR}
    (notNul : u8 ≠ 0) (bytes : List UCHAR) :
    ∃ rest, (data.store (u8 :: bytes)).text beyond = u8 :: rest := by
  dsimp only [ClientData.text, ClientData.store]
  rw [List.cons_append, List.take_cons (by decide), List.cons_append,
    List.takeWhile_cons_of_pos (by simpa using notNul)]
  exact ⟨_, rfl⟩

theorem length_replied_le {bytes : List UCHAR} {marks : List (Option Int)}
    (marked : List.Forall₂ (Marked library) bytes marks) (nonempty : bytes ≠ [])
    (data : ClientData) (beyond : List UCHAR) :
    (replied library ((data.store bytes).text beyond)).toList.length ≤
      marks.reduceOption.length := by
  cases marked with
  | nil => exact absurd rfl nonempty
  | @cons u8 mark bytes marks here =>
      obtain ⟨rest, text⟩ := text_store_cons data beyond here.1 bytes
      rw [text]
      cases isReplied : replied library (u8 :: rest) with
      | none => exact Nat.zero_le _
      | some number =>
          cases mark with
          | none =>
              exact absurd ((replied_eq_some_iff _ number).mp isReplied) (here.2 rfl rest number)
          | some _ =>
              rw [List.reduceOption_cons_of_some]
              exact Nat.succ_le_succ (Nat.zero_le _)

theorem answered_cons (data : ClientData) (delivery : Delivery) (results : List Delivery) :
    (texts data (delivery :: results)).filterMap (replied library) =
      (replied library ((data.store delivery.bytes).text delivery.beyond)).toList ++
        (texts (data.store delivery.bytes) results).filterMap (replied library) := by
  rw [texts, List.filterMap_cons]
  cases replied library ((data.store delivery.bytes).text delivery.beyond) <;> rfl

theorem length_answered_le {results : List Delivery} {marks : List (Option Int)}
    (marked : List.Forall₂ (Marked library) (results.flatMap Delivery.bytes) marks)
    (nonempty : ∀ delivery ∈ results, delivery.bytes ≠ []) (data : ClientData) :
    ((texts data results).filterMap (replied library)).length ≤ marks.reduceOption.length := by
  induction results generalizing data marks with
  | nil => exact Nat.zero_le _
  | cons delivery results induction =>
      rw [List.forall_mem_cons] at nonempty
      rw [List.flatMap_cons] at marked
      have here := length_replied_le (List.forall₂_take_append marks _ _ marked.flip).flip
        nonempty.1 data delivery.beyond
      have later := induction (List.forall₂_drop_append marks _ _ marked.flip).flip nonempty.2
        (data.store delivery.bytes)
      have split := congrArg List.length (List.reduceOption_append
        (marks.take delivery.bytes.length) (marks.drop delivery.bytes.length))
      rw [List.take_append_drop, List.length_append] at split
      rw [answered_cons, List.length_append, split]
      exact Nat.add_le_add here later

/-- The strings begin with the requests in order exactly when each request begins a
result of `recv` and the string there begins with it. -/
theorem beginInOrder_iff_eachBegins {results : List Delivery} {marks : List (Option Int)}
    (marked : List.Forall₂ (Marked library) (results.flatMap Delivery.bytes) marks)
    (nonempty : ∀ delivery ∈ results, delivery.bytes ≠ []) (data : ClientData) :
    BeginInOrder library (texts data results) marks.reduceOption ↔
      EachBegins library data results marks := by
  rw [beginInOrder_iff]
  induction results generalizing data marks with
  | nil =>
      cases marked
      exact iff_of_true rfl trivial
  | cons delivery results induction =>
      rw [List.forall_mem_cons] at nonempty
      rw [List.flatMap_cons] at marked
      have front := (List.forall₂_take_append marks _ _ marked.flip).flip
      have behind := (List.forall₂_drop_append marks _ _ marked.flip).flip
      have here := length_replied_le front nonempty.1 data delivery.beyond
      have later := length_answered_le behind nonempty.2 (data.store delivery.bytes)
      have split := List.reduceOption_append
        (marks.take delivery.bytes.length) (marks.drop delivery.bytes.length)
      rw [List.take_append_drop] at split
      have parts : (texts data (delivery :: results)).filterMap (replied library) =
          marks.reduceOption ↔
          (replied library ((data.store delivery.bytes).text delivery.beyond)).toList =
              (marks.take delivery.bytes.length).reduceOption ∧
            (texts (data.store delivery.bytes) results).filterMap (replied library) =
              (marks.drop delivery.bytes.length).reduceOption := by
        rw [answered_cons, split]
        constructor
        · intro same
          have lengths := congrArg List.length same
          rw [List.length_append, List.length_append] at lengths
          exact List.append_inj same (by omega)
        · rintro ⟨first, rest⟩
          rw [first, rest]
      rw [parts, induction behind nonempty.2, EachBegins]
      refine and_congr_left fun _ => ?_
      generalize (marks.take delivery.bytes.length).reduceOption = begun at here ⊢
      generalize (data.store delivery.bytes).text delivery.beyond = text at here ⊢
      constructor
      · intro same
        cases isReplied : replied library text with
        | none =>
            rw [isReplied] at same
            exact .inl same.symm
        | some number =>
            rw [isReplied] at same
            exact .inr ⟨number, same.symm, (replied_eq_some_iff text number).mp isReplied⟩
      · rintro (none | ⟨number, one, begins⟩)
        · rw [none] at here ⊢
          exact List.length_eq_zero_iff.mp (Nat.le_zero.mp here)
        · rw [one, (replied_eq_some_iff text number).mpr begins]
          rfl

/-! ## The results of `recv` -/

theorem deliveriesFrom_nonempty {server : SocketServer} {socket : Socket}
    (earlier events : List EpollEvent) :
    ∀ delivery ∈ deliveriesFrom server socket earlier events, delivery.bytes ≠ [] := by
  induction events generalizing earlier with
  | nil => exact List.forall_mem_nil _
  | cons event events induction =>
      dsimp only [deliveriesFrom]
      split_ifs with goes some
      · rw [List.singleton_append, List.forall_mem_cons]
        exact ⟨some.2, induction _⟩
      · exact induction _
      · exact List.forall_mem_nil _

theorem deliveries_nonempty (connection : Nat) (thread : Thread) (inputs : List Input) :
    ∀ delivery ∈ deliveries library connection thread inputs, delivery.bytes ≠ [] := by
  induction inputs generalizing thread with
  | nil => exact List.forall_mem_nil _
  | cons input inputs induction =>
      rw [deliveries, List.forall_mem_append]
      refine ⟨?_, induction _⟩
      unfold deliveredIn
      split
      · split_ifs
        · split
          · exact List.forall_mem_nil _
          · exact deliveriesFrom_nonempty _ _
        · exact List.forall_mem_nil _
      · exact List.forall_mem_nil _

/-- A client whose bytes are requests one behind the other, cut in any way by the calls of
`recv`, gets its replies exactly when the strings in its buffer begin with the requests in
order. If the requests have no others inside, this is so exactly when each of them begins
a result of `recv` and the string there begins with it; and it is always so when each
`recv` returns one request. -/
theorem requests_answered_iff {iSocketFd : Fd} {before : List Input}
    (running : (reached library iSocketFd before).control ≠ .exited) {client : SocketClient}
    (listed : client ∈ (reached library iSocketFd before).server.clients)
    (later : List Input) (requests : List (Request library))
    (cut : (deliveries library client.addrclient (reached library iSocketFd before)
      later).flatMap Delivery.bytes = requests.flatMap Request.text) :
    let thread := reached library iSocketFd before
    let results := deliveries library client.addrclient thread later
    (Answered library thread later client.addrclient requests ↔
        BeginInOrder library (texts client.csClientData results)
          (requests.map Request.sequence)) ∧
      ((∀ request ∈ requests, request.OnlyAtFront) →
        (Answered library thread later client.addrclient requests ↔
          EachBegins library client.csClientData results (requests.flatMap Request.marks))) ∧
      (OneRequestEach results requests →
        Answered library thread later client.addrclient requests) := by
  intro thread results
  have consistent := consistent_reached library iSocketFd before running
  have served : ServedBy client.addrclient thread (some client.csClientData) :=
    fun _ => ⟨consistent, client, listed, rfl, rfl⟩
  have inOrder : Answered library thread later client.addrclient requests ↔
      BeginInOrder library (texts client.csClientData results)
        (requests.map Request.sequence) := by
    rw [Answered, sentTo_eq_serve consistent listed, served.receivedBy_effects, answered_serve,
      beginInOrder_iff]
  refine ⟨inOrder, fun only => ?_, fun each => inOrder.mpr (each.beginInOrder _)⟩
  rw [inOrder, ← reduceOption_marks]
  apply beginInOrder_iff_eachBegins
  · rw [cut]
    exact marked_stream only
  · exact deliveries_nonempty _ _ _

end Requests

/-! ## Two requests at once -/

def sampleText (digit : Char) : List UCHAR :=
  ("\x7b\"status\":0,\"sequence\":".toList ++ digit ::
    ",\"description\":\"on\"\x7d".toList).map fun char => BitVec.ofNat 8 char.toNat

/-- The library on strings that begin with one of two requests. An object is the number
of a request, or a value. -/
def sampleLibrary : JsonLibrary where
  Object := Int ⊕ Int
  tokenerParse := fun text =>
    if (sampleText '7').isPrefixOf text then some (.inl 7)
    else if (sampleText '8').isPrefixOf text then some (.inl 8)
    else none
  objectGet := fun object key =>
    match object with
    | .inl number =>
        if key = "status" then some (.inr 0)
        else if key = "sequence" then some (.inr number)
        else if key = "description" then some (.inr 0)
        else none
    | .inr _ => none
  getInt := fun object => object.elim (fun _ => 0) id

theorem parses_seven {text : List UCHAR} (front : sampleText '7' <+: text) :
    sampleLibrary.tokenerParse text = some (.inl 7) :=
  if_pos (List.isPrefixOf_iff_prefix.mpr front)

theorem parses_eight {text : List UCHAR} (front : sampleText '8' <+: text) :
    sampleLibrary.tokenerParse text = some (.inl 8) := by
  have notSeven : ¬sampleText '7' <+: text := fun seven =>
    absurd (List.prefix_of_prefix_length_le seven front (by decide)) (by decide)
  exact (if_neg fun seven => notSeven (List.isPrefixOf_iff_prefix.mp seven)).trans
    (if_pos (List.isPrefixOf_iff_prefix.mpr front))

def requestSeven : Request sampleLibrary where
  text := sampleText '7'
  object := .inl 7
  sequence := 7
  nonempty := by decide
  parses := fun rest => parses_seven (List.prefix_append _ rest)
  status := by decide
  number := by decide
  description := by decide
  noNul := by decide +kernel
  length_le := by decide +kernel

def requestEight : Request sampleLibrary where
  text := sampleText '8'
  object := .inl 8
  sequence := 8
  nonempty := by decide
  parses := fun rest => parses_eight (List.prefix_append _ rest)
  status := by decide
  number := by decide
  description := by decide
  noNul := by decide +kernel
  length_le := by decide +kernel

theorem sample_onlyAtFront : ∀ request ∈ [requestSeven, requestEight], request.OnlyAtFront := by
  have brace : ∀ u8 rest number, Begins sampleLibrary (u8 :: rest) number → u8 = 0x7B := by
    rintro u8 rest number ⟨object, parses, -⟩
    by_cases seven : sampleText '7' <+: u8 :: rest
    · exact (List.cons_prefix_cons.mp seven).1.symm
    · by_cases eight : sampleText '8' <+: u8 :: rest
      · exact (List.cons_prefix_cons.mp eight).1.symm
      · dsimp only [sampleLibrary] at parses
        rw [if_neg fun isPrefix => seven (List.isPrefixOf_iff_prefix.mp isPrefix),
          if_neg fun isPrefix => eight (List.isPrefixOf_iff_prefix.mp isPrefix)] at parses
        cases parses
  have inside : ∀ request ∈ [requestSeven, requestEight], (0x7B : UCHAR) ∉ request.text.tail := by
    decide +kernel
  intro request member u8 isInside rest number begins
  rw [brace u8 rest number begins] at isInside
  exact inside request member isInside

def connected : List Input := [.epollWait (.found [connectEvent 3])]

/-- One `recv` finds these bytes. -/
def delivered (bytes : List UCHAR) : List Input :=
  [.arrive 0 bytes, .epollWait (.found [dataEvent 0])]

/-- Three requests. The second is cut in front of its last brace, which the first has left
in the buffer. -/
def cutRequests : List Input :=
  delivered (sampleText '7') ++ delivered (sampleText '8').dropLast ++ delivered [0x7D] ++
    delivered (sampleText '7')

theorem listed_connected : (⟨0, 0, emptyMemory⟩ : SocketClient) ∈
    (reached sampleLibrary 3 connected).server.clients := by
  decide +kernel

/-- The cut request is answered, and of two requests in one result of `recv` the second is
not. -/
theorem requests_answered_cut :
    Answered sampleLibrary (reached sampleLibrary 3 connected) cutRequests 0
        [requestSeven, requestEight, requestSeven] ∧
      ¬Answered sampleLibrary (reached sampleLibrary 3 connected)
        (delivered (sampleText '7' ++ sampleText '8')) 0 [requestSeven, requestEight] := by
  have only := sample_onlyAtFront
  constructor
  · have results : deliveries sampleLibrary 0 (reached sampleLibrary 3 connected) cutRequests =
        [⟨sampleText '7', []⟩, ⟨(sampleText '8').dropLast, []⟩, ⟨[0x7D], []⟩,
          ⟨sampleText '7', []⟩] := by
      decide +kernel
    have cut := requests_answered_iff (by decide +kernel) listed_connected cutRequests
      [requestSeven, requestEight, requestSeven] (by rw [results]; decide +kernel)
    apply (cut.2.1 ?_).mpr
    · rw [results]
      refine ⟨.inr ⟨7, by decide, .inl 7, parses_seven ?_, by decide⟩,
        .inr ⟨8, by decide, .inl 8, parses_eight ?_, by decide⟩,
        .inl (by decide), .inr ⟨7, by decide, .inl 7, parses_seven ?_, by decide⟩, trivial⟩
      · decide +kernel
      · decide +kernel
      · decide +kernel
    · simp only [List.forall_mem_cons, List.not_mem_nil, false_imp_iff, implies_true] at only ⊢
      exact ⟨only.1, only.2.1, only.1, trivial⟩
  · have results : deliveries sampleLibrary 0 (reached sampleLibrary 3 connected)
        (delivered (sampleText '7' ++ sampleText '8')) =
        [⟨sampleText '7' ++ sampleText '8', []⟩] := by
      decide +kernel
    have cut := requests_answered_iff (by decide +kernel) listed_connected
      (delivered (sampleText '7' ++ sampleText '8')) [requestSeven, requestEight]
      (by rw [results]; decide +kernel)
    rw [cut.2.1 only, results]
    rintro ⟨none | ⟨number, one, -⟩, -⟩
    · revert none
      decide
    · have lengths := congrArg List.length one
      rw [List.length_singleton] at lengths
      revert lengths
      decide

/-- Two requests in one result of `recv` get one reply. -/
theorem requests_not_answered :
    ¬∀ (library : JsonLibrary) (iSocketFd : Fd) (before later : List Input)
      (client : SocketClient) (requests : List (Request library)),
      (reached library iSocketFd before).control ≠ .exited →
      client ∈ (reached library iSocketFd before).server.clients →
      (deliveries library client.addrclient (reached library iSocketFd before)
          later).flatMap Delivery.bytes = requests.flatMap Request.text →
      Answered library (reached library iSocketFd before) later client.addrclient
        requests := by
  intro answered
  have both := answered sampleLibrary 3 connected (delivered (sampleText '7' ++ sampleText '7'))
    ⟨0, 0, emptyMemory⟩ [requestSeven, requestSeven] (by decide +kernel) listed_connected
    (by decide +kernel)
  revert both
  dsimp only [Answered]
  decide +kernel

end StudyDemo.SocketComm
