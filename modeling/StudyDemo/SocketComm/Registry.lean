import StudyDemo.SocketComm.Thread

/-! # The client list and the sockets

One list of cases says what the handling of an event can do; the invariant of the
client list is derived from it. -/

namespace StudyDemo.SocketComm

/-! ## What one event can do -/

/-- The event makes the server accept a connection. -/
def EpollEvent.Accepts (event : EpollEvent) (iSocketFd : Fd) : Prop :=
  ¬event.Broken ∧ event.fd = iSocketFd ∧ event.answers.allocated.isSome ∧
    event.answers.accepted.isSome

instance (event : EpollEvent) (iSocketFd : Fd) : Decidable (event.Accepts iSocketFd) :=
  inferInstanceAs (Decidable (_ ∧ _))

/-- The event makes the server read from a client, if the descriptor is one's. -/
def EpollEvent.Reads (event : EpollEvent) (iSocketFd : Fd) : Prop :=
  ¬event.Broken ∧ event.fd ≠ iSocketFd

instance (event : EpollEvent) (iSocketFd : Fd) : Decidable (event.Reads iSocketFd) :=
  inferInstanceAs (Decidable (_ ∧ _))

/-- The effects of a request that was read. -/
def requestEffects (library : JsonLibrary) (client : SocketClient)
    (bytes beyond : List UCHAR) : List Effect :=
  .received client.addrclient bytes beyond ::
    (socketServerHandleRecvMessage library
      ((client.csClientData.store bytes).text beyond)).2.toList.map (.sent client.addrclient)

/-- Everything that the handling of an event can do. -/
inductive Handles (library : JsonLibrary) (event : EpollEvent) (server : SocketServer) :
    Handled → Prop
  | skipped (ignored : event.Broken ∨ event.fd = server.iSocketFd ∨
        server.client event.fd = none ∨
        (server.kernel.recv event.fd event.answers.received).1 = .failed)
      (refused : ¬event.Accepts server.iSocketFd) :
      Handles library event server ⟨.next, server, []⟩
  | exhausted (refused : ¬event.Accepts server.iSocketFd) (listens : event.fd = server.iSocketFd) :
      Handles library event server ⟨.done, server, []⟩
  | accepted (inUse : List Fd) (memory : ClientData)
      (accepts : event.Accepts server.iSocketFd) :
      Handles library event server
        ⟨if event.answers.controlled then .leave else .done, server.addClient inUse memory,
          [.accepted server.kernel.connections memory]⟩
  | blocked (reads : event.Reads server.iSocketFd) (client : SocketClient)
      (found : server.client event.fd = some client)
      (result : (server.kernel.recv event.fd event.answers.received).1 = .blocked) :
      Handles library event server ⟨.blocked, server, []⟩
  | removed (reads : event.Reads server.iSocketFd) (client : SocketClient)
      (found : server.client event.fd = some client)
      (result : (server.kernel.recv event.fd event.answers.received).1 = .ended) :
      Handles library event server
        ⟨.next, server.remove event.fd, [.ended client.addrclient true]⟩
  | kept (reads : event.Reads server.iSocketFd) (client : SocketClient)
      (found : server.client event.fd = some client)
      (result : (server.kernel.recv event.fd event.answers.received).1 = .ended) :
      Handles library event server ⟨.done, server, [.ended client.addrclient false]⟩
  | received (reads : event.Reads server.iSocketFd) (client : SocketClient)
      (found : server.client event.fd = some client) (bytes : List UCHAR) (kernel : Kernel)
      (result : server.kernel.recv event.fd event.answers.received = (.data bytes, kernel)) :
      Handles library event server
        ⟨.next, server.store event.fd bytes kernel,
          requestEffects library client bytes event.answers.beyond⟩

theorem SocketServer.client_fd {server : SocketServer} {fd : Fd} {client : SocketClient}
    (found : server.client fd = some client) :
    client ∈ server.clients ∧ client.iSocketFd = fd := by
  have member := List.mem_of_find?_eq_some found
  have same := List.find?_some found
  exact ⟨member, of_decide_eq_true same⟩

theorem handles_handleEvent (library : JsonLibrary) (event : EpollEvent)
    (server : SocketServer) :
    Handles library event server (handleEvent library event server) := by
  rw [handleEvent]
  split_ifs with broken listens
  · exact .skipped (.inl broken) fun accepts => accepts.1 broken
  · rw [handleAccept]
    cases allocated : event.answers.allocated with
    | none =>
        refine .exhausted (fun accepts => ?_) listens
        simpa [allocated] using accepts.2.2.1
    | some memory =>
        cases accepted : event.answers.accepted with
        | none =>
            refine .skipped (.inr (.inl listens)) fun accepts => ?_
            simpa [accepted] using accepts.2.2.2
        | some inUse =>
            exact .accepted inUse memory ⟨broken, listens, by simp [allocated], by simp [accepted]⟩
  · have reads : event.Reads server.iSocketFd := ⟨broken, listens⟩
    have refused : ¬event.Accepts server.iSocketFd := fun accepts => listens accepts.2.1
    rw [handleClient]
    cases found : server.client event.fd with
    | none => exact .skipped (.inr (.inr (.inl found))) refused
    | some client =>
        have same := (SocketServer.client_fd found).2
        simp only [same]
        cases result : server.kernel.recv event.fd event.answers.received with
        | mk received kernel =>
            cases received with
            | failed => exact .skipped (.inr (.inr (.inr (by rw [result])))) refused
            | blocked => exact .blocked reads client found (by rw [result])
            | ended =>
                simp only
                split_ifs
                · exact .removed reads client found (by rw [result])
                · exact .kept reads client found (by rw [result])
            | data bytes => exact .received reads client found bytes kernel result

theorem handleEvents_invariant {library : JsonLibrary} (Invariant : SocketServer → Prop)
    (preserved : ∀ event server handled, Handles library event server handled →
      Invariant server → Invariant handled.server)
    (events : List EpollEvent) {server : SocketServer} (holds : Invariant server) :
    Invariant (handleEvents library events server).server := by
  induction events generalizing server with
  | nil => exact holds
  | cons event events induction =>
      have here := preserved event server _ (handles_handleEvent library event server) holds
      dsimp only [handleEvents]
      split_ifs
      · exact induction here
      · exact here

theorem Handles.eState_eq {library : JsonLibrary} {event : EpollEvent} {server : SocketServer}
    {handled : Handled} (handles : Handles library event server handled) :
    handled.server.eState = server.eState := by
  cases handles <;> rfl

theorem handleEvents_eState (library : JsonLibrary) (events : List EpollEvent)
    (server : SocketServer) :
    (handleEvents library events server).server.eState = server.eState :=
  handleEvents_invariant (fun after => after.eState = server.eState)
    (fun _ _ _ handles same => handles.eState_eq.trans same) events rfl

/-! ## The invariant -/

def Socket.key (socket : Socket) : Fd × Nat := (socket.fd, socket.connection)

def SocketClient.key (client : SocketClient) : Fd × Nat :=
  (client.iSocketFd, client.addrclient)

/-- The connected sockets: their descriptors with their connections. -/
def Kernel.keys (kernel : Kernel) : List (Fd × Nat) := kernel.sockets.map Socket.key

/-- The entries of the list are the connected sockets, with distinct descriptors
and distinct connections. -/
structure Consistent (server : SocketServer) : Prop where
  paired : server.clients.map SocketClient.key = server.kernel.keys
  fds : (server.iSocketFd :: server.kernel.keys.map Prod.fst).Nodup
  connections : (server.kernel.keys.map Prod.snd).Nodup
  fresh : ∀ key ∈ server.kernel.keys, key.2 < server.kernel.connections

namespace Kernel

theorem keys_modify (kernel : Kernel) (fd : Fd) {change : Socket → Socket}
    (same : ∀ socket, (change socket).key = socket.key) :
    (kernel.modify fd change).keys = kernel.keys := by
  rw [keys, keys, modify, List.map_map]
  apply List.map_congr_left
  intro socket _
  by_cases here : socket.fd = fd
  · simp [here, same]
  · simp [here]

theorem keys_arrive (kernel : Kernel) (fd : Fd) (bytes : List UCHAR) :
    (kernel.arrive fd bytes).keys = kernel.keys := by
  apply keys_modify
  intro socket
  split_ifs <;> rfl

theorem keys_endStream (kernel : Kernel) (fd : Fd) :
    (kernel.endStream fd).keys = kernel.keys :=
  kernel.keys_modify fd fun _ => rfl

theorem keys_drain (kernel : Kernel) (fd : Fd) : (kernel.drain fd).keys = kernel.keys :=
  kernel.keys_modify fd fun _ => rfl

theorem keys_accept (kernel : Kernel) (inUse : List Fd) :
    (kernel.accept inUse).keys =
      kernel.keys ++ [(kernel.acceptedFd inUse, kernel.connections)] :=
  List.map_append

theorem keys_close (kernel : Kernel) (fd : Fd) :
    (kernel.close fd).keys = kernel.keys.filter fun key => key.1 ≠ fd := by
  rw [keys, keys, List.filter_map]
  rfl

theorem keys_map_fst (kernel : Kernel) :
    kernel.keys.map Prod.fst = kernel.sockets.map Socket.fd := by
  rw [keys, List.map_map]
  rfl

theorem recv_data {kernel after : Kernel} {fd : Fd} {succeeds : Bool} {bytes : List UCHAR}
    (result : kernel.recv fd succeeds = (.data bytes, after)) :
    succeeds = true ∧ ∃ socket, kernel.socket fd = some socket ∧
      bytes = socket.unread.take MXBF ∧ bytes ≠ [] ∧
      after = kernel.drain fd := by
  rw [recv] at result
  cases found : kernel.socket fd with
  | none => simp [found] at result
  | some socket =>
      simp only [found] at result
      by_cases failed : succeeds = false
      · simp [failed] at result
      · by_cases empty : socket.unread = []
        · cases ended : socket.ended <;> simp [failed, empty, ended] at result
        · rw [if_neg failed, if_neg empty] at result
          cases result
          have some : succeeds = true := by simpa using failed
          refine ⟨some, socket, rfl, rfl, ?_, rfl⟩
          simpa [MXBF] using empty

section Recv

variable {kernel : Kernel} {fd : Fd} {socket : Socket} {succeeds : Bool}
  (found : kernel.socket fd = some socket)

include found

theorem recv_failed_iff : (kernel.recv fd succeeds).1 = .failed ↔ succeeds = false := by
  rw [recv, found]
  cases succeeds with
  | false => simp
  | true =>
      by_cases empty : socket.unread = []
      · cases ended : socket.ended <;> simp [empty, ended]
      · simp [empty]

theorem recv_ended_iff :
    (kernel.recv fd succeeds).1 = .ended ↔
      succeeds = true ∧ socket.unread = [] ∧ socket.ended = true := by
  rw [recv, found]
  cases succeeds with
  | false => simp
  | true =>
      by_cases empty : socket.unread = []
      · cases ended : socket.ended <;> simp [empty, ended]
      · simp [empty]

end Recv

end Kernel

section Preserved

variable {server : SocketServer}

theorem Consistent.withKernel (consistent : Consistent server) {kernel : Kernel}
    (same : kernel.keys = server.kernel.keys)
    (counted : kernel.connections = server.kernel.connections) :
    Consistent { server with kernel := kernel } := by
  refine ⟨?_, ?_, ?_, ?_⟩ <;> simp only [same, counted]
  · exact consistent.paired
  · exact consistent.fds
  · exact consistent.connections
  · exact consistent.fresh

theorem Consistent.addClient (consistent : Consistent server) (inUse : List Fd)
    (memory : ClientData) : Consistent (server.addClient inUse memory) := by
  have free := server.kernel.acceptedFd_not_mem (server.iSocketFd :: inUse)
  rw [List.cons_append, List.mem_cons, List.mem_append, not_or, not_or,
    ← Kernel.keys_map_fst] at free
  have distinct := List.nodup_cons.mp consistent.fds
  constructor
  case paired =>
    simp only [SocketServer.addClient, Kernel.keys_accept, List.map_append, consistent.paired]
    rfl
  case fds =>
    simp only [SocketServer.addClient, Kernel.keys_accept, List.map_append, List.map_cons,
      List.map_nil]
    rw [← List.cons_append, List.nodup_append]
    refine ⟨consistent.fds, List.nodup_singleton _, ?_⟩
    intro fd earlier other isNew equal
    rw [List.mem_singleton] at isNew
    subst equal isNew
    rcases List.mem_cons.mp earlier with listens | client
    · exact free.1 listens
    · exact free.2.2 client
  case connections =>
    simp only [SocketServer.addClient, Kernel.keys_accept, List.map_append, List.map_cons,
      List.map_nil]
    rw [List.nodup_append]
    refine ⟨consistent.connections, List.nodup_singleton _, ?_⟩
    intro connection earlier other isNew equal
    rw [List.mem_singleton] at isNew
    subst equal isNew
    obtain ⟨key, member, number⟩ := List.mem_map.mp earlier
    exact absurd number (Nat.ne_of_lt (consistent.fresh key member))
  case fresh =>
    intro key member
    simp only [SocketServer.addClient, Kernel.keys_accept] at member
    rcases List.mem_append.mp member with earlier | isNew
    · exact Nat.lt_succ_of_lt (consistent.fresh key earlier)
    · rw [List.mem_singleton.mp isNew]
      exact Nat.lt_succ_self _

theorem Consistent.remove (consistent : Consistent server) (fd : Fd) :
    Consistent (server.remove fd) := by
  have kept : (server.kernel.close fd).keys.Sublist server.kernel.keys := by
    rw [Kernel.keys_close]
    exact List.filter_sublist
  constructor
  case paired =>
    simp only [SocketServer.remove, Kernel.keys_close, ← consistent.paired, List.filter_map]
    rfl
  case fds => exact consistent.fds.sublist ((kept.map _).cons_cons _)
  case connections => exact consistent.connections.sublist (kept.map _)
  case fresh => exact fun key member => consistent.fresh key (kept.subset member)

theorem Consistent.store (consistent : Consistent server) {fd : Fd} {succeeds : Bool}
    {bytes : List UCHAR} {kernel : Kernel}
    (result : server.kernel.recv fd succeeds = (.data bytes, kernel)) :
    Consistent (server.store fd bytes kernel) := by
  obtain ⟨-, -, -, -, -, rfl⟩ := Kernel.recv_data result
  have same := consistent.withKernel (server.kernel.keys_drain fd) rfl
  refine ⟨Eq.trans ?_ same.paired, same.fds, same.connections, same.fresh⟩
  rw [SocketServer.store, List.map_map]
  apply List.map_congr_left
  intro client _
  rw [Function.comp_apply]
  split_ifs <;> rfl

theorem Handles.consistent {library : JsonLibrary} {event : EpollEvent} {handled : Handled}
    (handles : Handles library event server handled) (consistent : Consistent server) :
    Consistent handled.server := by
  cases handles with
  | skipped => exact consistent
  | exhausted => exact consistent
  | accepted inUse memory => exact consistent.addClient inUse memory
  | blocked => exact consistent
  | removed => exact consistent.remove event.fd
  | kept => exact consistent
  | received reads client found bytes kernel result => exact consistent.store result

end Preserved

/-! ## Sockets and entries -/

section Entries

variable {server : SocketServer}

theorem Consistent.entry (consistent : Consistent server) {socket : Socket}
    (member : socket ∈ server.kernel.sockets) :
    ∃ client ∈ server.clients, client.key = socket.key := by
  have key : socket.key ∈ server.kernel.keys := List.mem_map_of_mem member
  rw [← consistent.paired] at key
  exact List.mem_map.mp key

theorem Consistent.socket (consistent : Consistent server) {client : SocketClient}
    (member : client ∈ server.clients) :
    ∃ socket ∈ server.kernel.sockets, socket.key = client.key := by
  have key : client.key ∈ server.clients.map SocketClient.key := List.mem_map_of_mem member
  rw [consistent.paired] at key
  exact List.mem_map.mp key

theorem Consistent.fd_ne (consistent : Consistent server) {socket : Socket}
    (member : socket ∈ server.kernel.sockets) : socket.fd ≠ server.iSocketFd := by
  intro same
  apply (List.nodup_cons.mp consistent.fds).1
  rw [← same, Kernel.keys_map_fst]
  exact List.mem_map_of_mem member

theorem Consistent.socket_unique (consistent : Consistent server) {left right : Socket}
    (leftMember : left ∈ server.kernel.sockets) (rightMember : right ∈ server.kernel.sockets)
    (same : left.fd = right.fd) : left = right := by
  have distinct := (List.nodup_cons.mp consistent.fds).2
  rw [Kernel.keys_map_fst] at distinct
  exact List.inj_on_of_nodup_map distinct leftMember rightMember same

theorem Consistent.connection_unique (consistent : Consistent server) {left right : Socket}
    (leftMember : left ∈ server.kernel.sockets) (rightMember : right ∈ server.kernel.sockets)
    (same : left.connection = right.connection) : left = right := by
  have distinct := consistent.connections
  rw [Kernel.keys, List.map_map] at distinct
  exact List.inj_on_of_nodup_map distinct leftMember rightMember same

theorem Consistent.kernel_socket (consistent : Consistent server) {socket : Socket}
    (member : socket ∈ server.kernel.sockets) :
    server.kernel.socket socket.fd = some socket := by
  rw [Kernel.socket]
  cases found : server.kernel.sockets.find? fun other => other.fd = socket.fd with
  | none =>
      have absent := List.find?_eq_none.mp found socket member
      simp at absent
  | some other =>
      have isFd := List.find?_some found
      have same := of_decide_eq_true isFd
      rw [consistent.socket_unique (List.mem_of_find?_eq_some found) member same]

theorem Consistent.client_of_socket (consistent : Consistent server) {socket : Socket}
    (member : socket ∈ server.kernel.sockets) :
    ∃ client, server.client socket.fd = some client ∧ client.key = socket.key := by
  obtain ⟨entry, entryMember, key⟩ := consistent.entry member
  cases found : server.client socket.fd with
  | none =>
      have absent := List.find?_eq_none.mp found entry entryMember
      have same : entry.iSocketFd = socket.fd := congrArg Prod.fst key
      simp [same] at absent
  | some client =>
      obtain ⟨clientMember, isFd⟩ := SocketServer.client_fd found
      obtain ⟨other, otherMember, otherKey⟩ := consistent.socket clientMember
      have fd : other.fd = socket.fd := (congrArg Prod.fst otherKey).trans isFd
      have same := consistent.socket_unique otherMember member fd
      exact ⟨client, rfl, otherKey.symm.trans (congrArg Socket.key same)⟩

end Entries

/-! ## Connections that are gone -/

/-- The connection was accepted, and its descriptor is closed. -/
def Departed (connection : Nat) (kernel : Kernel) : Prop :=
  connection < kernel.connections ∧ ∀ key ∈ kernel.keys, key.2 ≠ connection

theorem Departed.of_keys {connection : Nat} {before after : Kernel}
    (departed : Departed connection before) (keys : after.keys = before.keys)
    (connections : after.connections = before.connections) : Departed connection after := by
  rw [Departed, keys, connections]
  exact departed

theorem Consistent.departed_remove {server : SocketServer} (consistent : Consistent server)
    {socket : Socket} (member : socket ∈ server.kernel.sockets) :
    Departed socket.connection (server.remove socket.fd).kernel := by
  refine ⟨consistent.fresh socket.key (List.mem_map_of_mem member), ?_⟩
  intro key left equal
  simp only [SocketServer.remove, Kernel.keys_close] at left
  obtain ⟨before, otherFd⟩ := List.mem_filter.mp left
  obtain ⟨other, otherMember, rfl⟩ := List.mem_map.mp before
  rw [consistent.connection_unique otherMember member equal] at otherFd
  simp [Socket.key] at otherFd

/-! ## The thread -/

/-- Everything that one input can do to the thread. -/
inductive Turns (library : JsonLibrary) (thread : Thread) :
    Thread × Option (List Effect) → Prop
  | passed (kernel : Kernel) (eState : ThreadState) (keys : kernel.keys = thread.server.kernel.keys)
      (connections : kernel.connections = thread.server.kernel.connections) :
      Turns library thread
        ({ thread with server := { thread.server with kernel := kernel, eState := eState } }, none)
  | exited (waiting : thread.control = .waiting) :
      Turns library thread (Thread.exit thread.server, some [])
  | idle (waiting : thread.control = .waiting) :
      Turns library thread (Thread.loop thread.server, some [])
  | handled (waiting : thread.control = .waiting) (events : List EpollEvent) :
      Turns library thread (Thread.resume (handleEvents library events thread.server),
        some (handleEvents library events thread.server).effects)

theorem turns_socketServerHandleThread (library : JsonLibrary) (thread : Thread) (input : Input) :
    Turns library thread (socketServerHandleThread library thread input) := by
  cases input with
  | arrive fd bytes => exact .passed _ _ (thread.server.kernel.keys_arrive fd bytes) rfl
  | endStream fd => exact .passed _ _ (thread.server.kernel.keys_endStream fd) rfl
  | finished => exact .passed thread.server.kernel .stopped rfl rfl
  | epollWait result =>
      dsimp only [socketServerHandleThread]
      split_ifs with waiting
      · cases result with
        | error => exact .exited waiting
        | timeout => exact .idle waiting
        | found events => exact .handled waiting events
      · exact .passed thread.server.kernel thread.server.eState rfl rfl

/-- What events preserve, and what does not depend on the bytes on their way. -/
structure Stable (library : JsonLibrary) (Invariant : SocketServer → Prop) : Prop where
  handled : ∀ event server handled, Handles library event server handled →
    Consistent server → Invariant server → Invariant handled.server
  outside : ∀ (server : SocketServer) kernel eState, kernel.keys = server.kernel.keys →
    kernel.connections = server.kernel.connections →
    Invariant server → Invariant { server with kernel := kernel, eState := eState }

/-- Until the thread ends, its list is consistent and the invariant holds. -/
def Sound (Invariant : SocketServer → Prop) (thread : Thread) : Prop :=
  thread.control ≠ .exited → Consistent thread.server ∧ Invariant thread.server

theorem Consistent.afterEvents {server : SocketServer} (consistent : Consistent server)
    (library : JsonLibrary) (events : List EpollEvent) :
    Consistent (handleEvents library events server).server :=
  handleEvents_invariant Consistent (fun _ _ _ handles => handles.consistent) events consistent

namespace Stable

variable {library : JsonLibrary} {Invariant : SocketServer → Prop}

theorem afterEvents (stable : Stable library Invariant) {server : SocketServer}
    (consistent : Consistent server) (holds : Invariant server) (events : List EpollEvent) :
    Consistent (handleEvents library events server).server ∧
      Invariant (handleEvents library events server).server :=
  handleEvents_invariant (fun server => Consistent server ∧ Invariant server)
    (fun _ _ _ handles both =>
      ⟨handles.consistent both.1, stable.handled _ _ _ handles both.1 both.2⟩)
    events ⟨consistent, holds⟩

theorem loop {server : SocketServer} (consistent : Consistent server)
    (holds : Invariant server) : Sound Invariant (Thread.loop server) := by
  intro running
  rw [Thread.loop] at *
  split_ifs at *
  · exact absurd rfl running
  · exact ⟨consistent, holds⟩

theorem resume {handled : Handled} (consistent : Consistent handled.server)
    (holds : Invariant handled.server) : Sound Invariant (Thread.resume handled) := by
  dsimp only [Thread.resume]
  cases handled.flow with
  | next => exact loop consistent holds
  | leave => exact loop consistent holds
  | done => exact fun running => absurd rfl running
  | blocked => exact fun _ => ⟨consistent, holds⟩

theorem step (stable : Stable library Invariant) {thread : Thread}
    (sound : Sound Invariant thread) {turned : Thread × Option (List Effect)}
    (turns : Turns library thread turned) : Sound Invariant turned.1 := by
  cases turns with
  | passed kernel eState keys connections =>
      intro running
      obtain ⟨consistent, holds⟩ := sound running
      obtain ⟨paired, fds, distinct, fresh⟩ := consistent.withKernel keys connections
      exact ⟨⟨paired, fds, distinct, fresh⟩, stable.outside _ _ _ keys connections holds⟩
  | exited => exact fun running => absurd rfl running
  | idle waiting =>
      obtain ⟨consistent, holds⟩ := sound (by rw [waiting]; exact nofun)
      exact loop consistent holds
  | handled waiting events =>
      obtain ⟨consistent, holds⟩ := sound (by rw [waiting]; exact nofun)
      have after := stable.afterEvents consistent holds events
      exact resume after.1 after.2

end Stable

theorem departed_stable (library : JsonLibrary) (connection : Nat) :
    Stable library fun server => Departed connection server.kernel where
  handled := by
    rintro event server handled handles consistent ⟨known, absent⟩
    cases handles with
    | accepted inUse memory =>
        refine ⟨Nat.lt_succ_of_lt known, ?_⟩
        intro key member
        simp only [SocketServer.addClient, Kernel.keys_accept] at member
        rcases List.mem_append.mp member with earlier | isNew
        · exact absent key earlier
        · rw [List.mem_singleton.mp isNew]
          exact Nat.ne_of_gt known
    | removed =>
        refine ⟨known, fun key member => absent key ?_⟩
        simp only [SocketServer.remove, Kernel.keys_close] at member
        exact (List.mem_filter.mp member).1
    | received reads client found bytes kernel result =>
        obtain ⟨-, -, -, -, -, rfl⟩ := Kernel.recv_data result
        refine ⟨known, fun key member => absent key ?_⟩
        rwa [← server.kernel.keys_drain event.fd]
    | _ => exact ⟨known, absent⟩
  outside := fun _ _ _ keys connections departed => departed.of_keys keys connections

/-- The thread after a run. -/
def reached (library : JsonLibrary) (iSocketFd : Fd) (inputs : List Input) : Thread :=
  Execution.finalState (socketServerHandleThread library) (Thread.start iSocketFd) inputs

theorem consistent_start (iSocketFd : Fd) : Consistent (Thread.start iSocketFd).server :=
  ⟨rfl, List.nodup_singleton _, List.nodup_nil, fun _ member => nomatch member⟩

theorem Stable.reached {library : JsonLibrary} {Invariant : SocketServer → Prop}
    (stable : Stable library Invariant) {iSocketFd : Fd}
    (initial : Invariant (Thread.start iSocketFd).server) (inputs : List Input) :
    Sound Invariant (reached library iSocketFd inputs) :=
  Execution.invariant_finalState (fun _ _ => True) (Sound Invariant)
    (fun _ _ _ sound => stable.step sound (turns_socketServerHandleThread _ _ _))
    (fun _ _ _ _ => trivial)
    (fun _ => ⟨consistent_start iSocketFd, initial⟩)

theorem consistent_reached (library : JsonLibrary) (iSocketFd : Fd) (inputs : List Input)
    (running : (reached library iSocketFd inputs).control ≠ .exited) :
    Consistent (reached library iSocketFd inputs).server := by
  have trivially : Stable library fun _ => True :=
    ⟨fun _ _ _ _ _ _ => trivial, fun _ _ _ _ _ _ => trivial⟩
  exact (trivially.reached trivial inputs running).1

end StudyDemo.SocketComm
