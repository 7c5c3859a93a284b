import StudyDemo.SocketComm.Requests

/-! # Messages in a used buffer

`recv` writes a message over the start of the client's buffer, and the message is
judged as the string that starts there. Nothing ends the string: it goes on with what
the earlier messages and the memory of the entry left behind the new bytes. -/

namespace StudyDemo.SocketComm

/-! ## Where the bytes of a buffer come from -/

/-- The memory that `malloc` returned for the entry of a connection. -/
def allocatedFor (connection : Nat) (effects : List Effect) : Option ClientData :=
  effects.findSome? fun effect =>
    match effect with
    | .accepted other memory => if other = connection then some memory else none
    | _ => none

/-- The byte at a position of the buffer: that of the latest message that reached so
far, or that of the memory. -/
def standing (memory : ClientData) (earlier : List Delivery) (position : Nat) : UCHAR :=
  match earlier.reverse.find? fun delivery => position < delivery.bytes.length with
  | some delivery => delivery.bytes.getD position 0
  | none => memory.val.getD position 0

section Buffer

variable (data memory : ClientData) (bytes : List UCHAR) {position : Nat}

theorem ClientData.getD_store (inside : position < MXBF) :
    (data.store bytes).val.getD position 0 =
      if position < bytes.length then bytes.getD position 0 else data.val.getD position 0 := by
  rw [store, List.getD_eq_getElem?_getD, List.getElem?_take_of_lt inside]
  split_ifs with reached
  · rw [List.getElem?_append_left reached, List.getD_eq_getElem?_getD]
  · rw [List.getElem?_append_right (Nat.le_of_not_lt reached), List.getElem?_drop,
      Nat.add_sub_cancel' (Nat.le_of_not_lt reached), List.getD_eq_getElem?_getD]

theorem getD_leftBy (earlier : List Delivery) (inside : position < MXBF) :
    (leftBy memory earlier).val.getD position 0 = standing memory earlier position := by
  induction earlier using List.reverseRecOn with
  | nil => rfl
  | append_singleton earlier delivery induction =>
      have last : leftBy memory (earlier ++ [delivery]) =
          (leftBy memory earlier).store delivery.bytes := leftBy_append _ _ _
      rw [last, ClientData.getD_store _ _ inside, induction]
      by_cases reached : position < delivery.bytes.length
      · simp [standing, reached]
      · simp [standing, reached]

theorem ClientData.text_store_iff (beyond : List UCHAR) (noNul : 0 ∉ bytes)
    (short : bytes.length < MXBF) :
    (data.store bytes).text beyond = bytes ↔ data.val.getD bytes.length 0 = 0 := by
  have inside : bytes.length < data.val.length := data.property.symm ▸ short
  obtain ⟨room, more⟩ := Nat.exists_eq_add_of_lt short
  have room : MXBF - bytes.length = room + 1 := by omega
  dsimp only [text, store]
  rw [List.take_append, List.take_of_length_le short.le, List.append_assoc,
    CMemory.takeWhile_append_of_noNul noNul,
    List.append_right_eq_self, room, List.drop_eq_getElem_cons inside, List.take_succ_cons,
    List.cons_append, List.getD_eq_getElem _ _ inside]
  by_cases zero : data.val[bytes.length] = 0
  · rw [List.takeWhile_cons_of_neg (by simp [zero])]
    exact iff_of_true rfl zero
  · rw [List.takeWhile_cons_of_pos (by simpa using zero)]
    exact iff_of_false (List.cons_ne_nil _ _) zero

end Buffer

/-! ## What a run remembers -/

/-- Every buffer in the list holds what the messages of its connection left in the
memory of its entry. -/
structure Remembers (history : List Effect) (server : SocketServer) : Prop where
  buffers : ∀ client ∈ server.clients, ∃ memory,
    allocatedFor client.addrclient history = some memory ∧
      client.csClientData = leftBy memory (receivedBy client.addrclient history)
  fresh : ∀ connection, server.kernel.connections ≤ connection →
    allocatedFor connection history = none ∧ receivedBy connection history = []

theorem allocatedFor_append (connection : Nat) (first second : List Effect) :
    allocatedFor connection (first ++ second) =
      (allocatedFor connection first).or (allocatedFor connection second) :=
  List.findSome?_append

theorem allocatedFor_requestEffects (library : JsonLibrary) (connection : Nat)
    (client : SocketClient) (bytes beyond : List UCHAR) :
    allocatedFor connection (requestEffects library client bytes beyond) = none := by
  simp [allocatedFor, requestEffects]

section Step

variable {library : JsonLibrary} {event : EpollEvent} {server : SocketServer}
  {handled : Handled} {history effects : List Effect}

theorem Consistent.addrclient_lt (consistent : Consistent server) {client : SocketClient}
    (member : client ∈ server.clients) : client.addrclient < server.kernel.connections := by
  obtain ⟨socket, socketMember, key⟩ := consistent.socket member
  have fresh := consistent.fresh socket.key (List.mem_map_of_mem socketMember)
  rwa [key] at fresh

theorem Remembers.quiet (remembers : Remembers history server) {after : SocketServer}
    (allocates : ∀ connection, allocatedFor connection effects = none)
    (receives : ∀ connection, receivedBy connection effects = [])
    (clients : ∀ client ∈ after.clients, client ∈ server.clients)
    (connections : after.kernel.connections = server.kernel.connections) :
    Remembers (history ++ effects) after := by
  constructor
  · intro client member
    rw [allocatedFor_append, allocates, Option.or_none, receivedBy_append, receives,
      List.append_nil]
    exact remembers.buffers client (clients client member)
  · intro connection new
    rw [allocatedFor_append, allocates, Option.or_none, receivedBy_append, receives,
      List.append_nil]
    exact remembers.fresh connection (connections ▸ new)

theorem Remembers.accept (remembers : Remembers history server) (inUse : List Fd)
    (memory : ClientData) :
    Remembers (history ++ [.accepted server.kernel.connections memory])
      (server.addClient inUse memory) := by
  have receives : ∀ connection,
      receivedBy connection (history ++ [.accepted server.kernel.connections memory]) =
        receivedBy connection history := fun connection =>
    (receivedBy_append _ _ _).trans (List.append_nil _)
  constructor
  · intro client member
    rw [receives, allocatedFor_append]
    rcases List.mem_append.mp member with earlier | isNew
    · obtain ⟨first, allocated, buffer⟩ := remembers.buffers client earlier
      exact ⟨first, by rw [allocated, Option.some_or], buffer⟩
    · obtain ⟨allocated, received⟩ := remembers.fresh server.kernel.connections le_rfl
      rw [List.mem_singleton.mp isNew]
      dsimp only
      refine ⟨memory, ?_, ?_⟩
      · rw [allocated]
        simp [allocatedFor]
      · rw [received]
        rfl
  · intro connection new
    have later : server.kernel.connections + 1 ≤ connection := new
    obtain ⟨allocated, received⟩ := remembers.fresh connection (by omega)
    rw [receives, allocatedFor_append, allocated, received]
    have different : server.kernel.connections ≠ connection := by omega
    simp [allocatedFor, different]

theorem Remembers.receive (remembers : Remembers history server)
    (consistent : Consistent server) {client : SocketClient}
    (found : server.client event.fd = some client) {bytes : List UCHAR} {kernel : Kernel}
    (connections : kernel.connections = server.kernel.connections) (beyond : List UCHAR) :
    Remembers (history ++ requestEffects library client bytes beyond)
      (server.store event.fd bytes kernel) := by
  obtain ⟨listed, isFd⟩ := SocketServer.client_fd found
  have allocates : ∀ connection,
      allocatedFor connection (history ++ requestEffects library client bytes beyond) =
        allocatedFor connection history := by
    intro connection
    rw [allocatedFor_append, allocatedFor_requestEffects, Option.or_none]
  constructor
  · intro entry member
    obtain ⟨before, beforeMember, rfl⟩ := List.mem_map.mp member
    obtain ⟨memory, allocated, buffer⟩ := remembers.buffers before beforeMember
    by_cases same : before.iSocketFd = event.fd
    · have isClient : before = client := consistent.client_eq beforeMember listed
        ((consistent.fd_eq_iff beforeMember listed).mp (same.trans isFd.symm))
      subst isClient
      rw [if_pos same]
      refine ⟨memory, (allocates _).trans allocated, ?_⟩
      rw [receivedBy_append, (exchange_request before bytes beyond).1, leftBy_append, ← buffer]
      rfl
    · have other : client.addrclient ≠ before.addrclient := by
        intro equal
        exact same (((consistent.fd_eq_iff listed beforeMember).mpr equal).symm.trans isFd)
      rw [if_neg same]
      refine ⟨memory, (allocates _).trans allocated, ?_⟩
      rw [receivedBy_append, (exchange_other client bytes beyond other).1, List.append_nil]
      exact buffer
  · intro connection new
    have known : server.kernel.connections ≤ connection := connections ▸ new
    have other : client.addrclient ≠ connection :=
      Nat.ne_of_lt ((consistent.addrclient_lt listed).trans_le known)
    rw [allocates, receivedBy_append, (exchange_other client bytes beyond other).1,
      List.append_nil]
    exact remembers.fresh connection known

theorem Handles.remembers (handles : Handles library event server handled)
    (consistent : Consistent server) (remembers : Remembers history server) :
    Remembers (history ++ handled.effects) handled.server := by
  cases handles with
  | accepted inUse memory => exact remembers.accept inUse memory
  | removed =>
      exact remembers.quiet (fun _ => rfl) (fun _ => rfl)
        (fun _ member => (List.mem_filter.mp member).1) rfl
  | received reads client found bytes kernel result =>
      obtain ⟨-, -, -, -, -, rfl⟩ := Kernel.recv_data result
      have connections : (server.kernel.drain event.fd).connections =
          server.kernel.connections := rfl
      exact remembers.receive consistent found connections _
  | _ => exact remembers.quiet (fun _ => rfl) (fun _ => rfl) (fun _ member => member) rfl

theorem handleEvents_remembers (events : List EpollEvent) (consistent : Consistent server)
    (remembers : Remembers history server) :
    Remembers (history ++ (handleEvents library events server).effects)
      (handleEvents library events server).server := by
  induction events generalizing server history with
  | nil =>
      rw [handleEvents, List.append_nil]
      exact remembers
  | cons event events induction =>
      have handles := handles_handleEvent library event server
      have first := handles.remembers consistent remembers
      dsimp only [handleEvents]
      split_ifs
      · rw [← List.append_assoc]
        exact induction (handles.consistent consistent) first
      · exact first

end Step

section Runs

variable {library : JsonLibrary} {thread : Thread} {history : List Effect}

theorem Turns.remembers {turned : Thread × Option (List Effect)}
    (turns : Turns library thread turned) (sound : Sound (Remembers history) thread) :
    Sound (Remembers (history ++ turned.2.getD [])) turned.1 := by
  cases turns with
  | passed kernel eState keys connections =>
      intro running
      obtain ⟨consistent, remembers⟩ := sound running
      obtain ⟨paired, fds, distinct, fresh⟩ := consistent.withKernel keys connections
      refine ⟨⟨paired, fds, distinct, fresh⟩, ?_⟩
      exact remembers.quiet (fun _ => rfl) (fun _ => rfl) (fun _ member => member) connections
  | exited => exact fun running => absurd rfl running
  | idle waiting =>
      obtain ⟨consistent, remembers⟩ := sound (by rw [waiting]; exact nofun)
      rw [Option.getD_some, List.append_nil]
      exact Stable.loop consistent remembers
  | handled waiting events =>
      obtain ⟨consistent, remembers⟩ := sound (by rw [waiting]; exact nofun)
      exact Stable.resume (consistent.afterEvents library events)
        (handleEvents_remembers events consistent remembers)

theorem remembers_run (inputs : List Input) (sound : Sound (Remembers history) thread) :
    Sound (Remembers (history ++ effects library thread inputs))
      (Execution.finalState (socketServerHandleThread library) thread inputs) := by
  induction inputs generalizing thread history with
  | nil =>
      rw [effects, Execution.observations_nil, List.flatten_nil, List.append_nil]
      exact sound
  | cons input inputs induction =>
      rw [effects_cons, ← List.append_assoc]
      exact induction ((turns_socketServerHandleThread library thread input).remembers sound)

theorem remembers_reached (library : JsonLibrary) (iSocketFd : Fd) (inputs : List Input) :
    Sound (Remembers (effects library (Thread.start iSocketFd) inputs))
      (reached library iSocketFd inputs) := by
  have initial : Remembers [] (Thread.start iSocketFd).server :=
    ⟨fun _ member => absurd member List.not_mem_nil, fun _ _ => ⟨rfl, rfl⟩⟩
  exact remembers_run inputs fun _ => ⟨consistent_start iSocketFd, initial⟩

end Runs

/-! ## Receptions -/

/-- The server in a run, after some events of the list that `epoll_wait` found. -/
def serverBefore (library : JsonLibrary) (iSocketFd : Fd) (inputs : List Input)
    (events : List EpollEvent) : SocketServer :=
  (handleEvents library events (reached library iSocketFd inputs).server).server

/-- A run up to a `recv` that returns bytes: the inputs before the list of events, the
events in front of the client's, and what `recv` finds. -/
structure Reception (library : JsonLibrary) where
  iSocketFd : Fd
  inputs : List Input
  events : List EpollEvent
  event : EpollEvent
  client : SocketClient
  bytes : List UCHAR
  kernel : Kernel
  waiting : (reached library iSocketFd inputs).control = .waiting
  next : (handleEvents library events (reached library iSocketFd inputs).server).flow = .next
  reads : event.Reads (serverBefore library iSocketFd inputs events).iSocketFd
  found : (serverBefore library iSocketFd inputs events).client event.fd = some client
  result : (serverBefore library iSocketFd inputs events).kernel.recv event.fd
    event.answers.received = (.data bytes, kernel)

namespace Reception

variable {library : JsonLibrary} (reception : Reception library)

def server : SocketServer :=
  serverBefore library reception.iSocketFd reception.inputs reception.events

def history : List Effect :=
  effects library (Thread.start reception.iSocketFd) reception.inputs ++
    (handleEvents library reception.events
      (reached library reception.iSocketFd reception.inputs).server).effects

def earlier : List Delivery := receivedBy reception.client.addrclient reception.history

/-- The string that `SocketServerHandleRecvMessage` gets. -/
def text : List UCHAR :=
  (reception.client.csClientData.store reception.bytes).text reception.event.answers.beyond

/-- The byte behind the new ones is zero: that of the latest longer message or, if no
message was longer, that of the memory of the entry. -/
def Ended : Prop :=
  ∃ memory, allocatedFor reception.client.addrclient reception.history = some memory ∧
    standing memory reception.earlier reception.bytes.length = 0

theorem handled : handleEvent library reception.event reception.server =
    ⟨.next, reception.server.store reception.event.fd reception.bytes reception.kernel,
      .received reception.client.addrclient reception.bytes reception.event.answers.beyond ::
        (socketServerHandleRecvMessage library reception.text).2.toList.map
          (.sent reception.client.addrclient)⟩ := by
  have found : reception.server.client reception.event.fd = some reception.client :=
    reception.found
  have result : reception.server.kernel.recv reception.event.fd
      reception.event.answers.received = (.data reception.bytes, reception.kernel) :=
    reception.result
  have isFd := (SocketServer.client_fd found).2
  obtain ⟨whole, notListening⟩ : reception.event.Reads reception.server.iSocketFd :=
    reception.reads
  rw [handleEvent, if_neg whole, if_neg notListening, handleClient, found]
  dsimp only
  rw [isFd, result]
  rfl

theorem csClientData_eq : ∃ memory,
    allocatedFor reception.client.addrclient reception.history = some memory ∧
      reception.client.csClientData = leftBy memory reception.earlier := by
  obtain ⟨consistent, remembers⟩ :=
    remembers_reached library reception.iSocketFd reception.inputs
      (by rw [reception.waiting]; exact nofun)
  have after := @handleEvents_remembers library _ _ reception.events consistent remembers
  exact after.buffers reception.client (SocketServer.client_fd reception.found).1

theorem text_eq_iff (noNul : 0 ∉ reception.bytes) (short : reception.bytes.length ≤ 2047) :
    reception.text = reception.bytes ↔ reception.Ended := by
  have inside : reception.bytes.length < MXBF := Nat.lt_succ_of_le short
  obtain ⟨memory, allocated, buffer⟩ := reception.csClientData_eq
  rw [text, ClientData.text_store_iff _ _ _ noNul inside, buffer, getD_leftBy _ _ inside]
  constructor
  · exact fun ends => ⟨memory, allocated, ends⟩
  · rintro ⟨other, same, ends⟩
    rw [allocated] at same
    rw [Option.some.inj same]
    exact ends

end Reception

/-- Two receptions of the same bytes hand over the same string, and that string is the
bytes, exactly if the byte behind them is zero in both buffers. -/
theorem judgedOnOwnBytes_iff (library : JsonLibrary) (first second : Reception library)
    (same : first.bytes = second.bytes) (noNul : 0 ∉ first.bytes)
    (short : first.bytes.length ≤ 2047) :
    first.text = second.text ∧ first.text = first.bytes ↔ first.Ended ∧ second.Ended := by
  rw [← first.text_eq_iff noNul short,
    ← second.text_eq_iff (same ▸ noNul) (same ▸ short), ← same]
  constructor
  · rintro ⟨equal, own⟩
    exact ⟨own, equal.symm.trans own⟩
  · rintro ⟨own, other⟩
    exact ⟨own.trans other.symm, own⟩

/-! ## A short message behind a longer one -/

def onlyMessage : Reception sampleLibrary where
  iSocketFd := 3
  inputs := connected ++ [.arrive 0 [0x31]]
  events := []
  event := dataEvent 0
  client := ⟨0, 0, emptyMemory⟩
  bytes := [0x31]
  kernel := ⟨[⟨0, 0, [], false⟩], 1⟩
  waiting := by decide +kernel
  next := rfl
  reads := by decide +kernel
  found := by decide +kernel
  result := by decide +kernel

/-- The same message behind one of the same length. -/
def secondMessage : Reception sampleLibrary where
  iSocketFd := 3
  inputs := connected ++ delivered [0x32] ++ [.arrive 0 [0x31]]
  events := []
  event := dataEvent 0
  client := ⟨0, 0, emptyMemory.store [0x32]⟩
  bytes := [0x31]
  kernel := ⟨[⟨0, 0, [], false⟩], 1⟩
  waiting := by decide +kernel
  next := rfl
  reads := by decide +kernel
  found := by decide +kernel
  result := by decide +kernel

/-- The same message behind a longer one. -/
def shorterMessage : Reception sampleLibrary where
  iSocketFd := 3
  inputs := connected ++ delivered [0x32, 0x33] ++ [.arrive 0 [0x31]]
  events := []
  event := dataEvent 0
  client := ⟨0, 0, emptyMemory.store [0x32, 0x33]⟩
  bytes := [0x31]
  kernel := ⟨[⟨0, 0, [], false⟩], 1⟩
  waiting := by decide +kernel
  next := rfl
  reads := by decide +kernel
  found := by decide +kernel
  result := by decide +kernel

theorem judgedOnOwnBytes_second : onlyMessage.text = secondMessage.text ∧
    onlyMessage.text = onlyMessage.bytes :=
  (judgedOnOwnBytes_iff sampleLibrary onlyMessage secondMessage rfl (by decide +kernel)
    (by decide +kernel)).mpr ⟨⟨emptyMemory, by decide +kernel, by decide +kernel⟩,
      ⟨emptyMemory, by decide +kernel, by decide +kernel⟩⟩

/-- The message is judged together with the last byte of the longer one. -/
theorem not_judgedOnOwnBytes : ¬∀ (library : JsonLibrary) (first second : Reception library),
    first.bytes = second.bytes → 0 ∉ first.bytes → first.bytes.length ≤ 2047 →
      first.text = second.text ∧ first.text = first.bytes := by
  intro judged
  have same := (judged sampleLibrary onlyMessage shorterMessage rfl (by decide +kernel)
    (by decide +kernel)).1
  revert same
  decide +kernel

end StudyDemo.SocketComm
