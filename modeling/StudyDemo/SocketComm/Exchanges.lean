import StudyDemo.SocketComm.Departures

/-! # The server as one client sees it

The server takes every result of `recv` for one message: it answers the texts that stand
in the client's buffer after each `recv`, where the bytes of longer results before it are
still behind the new ones. The results of `recv` in a run follow from the bytes in the
client's socket and from the events in front of which each list finds them. -/

namespace StudyDemo.SocketComm

/-! ## One client's view -/

/-- One result of `recv`, with what stood behind the buffer then. -/
structure Delivery where
  bytes : List UCHAR
  beyond : List UCHAR
  deriving DecidableEq

/-- What was received on a connection. -/
def receivedBy (connection : Nat) (effects : List Effect) : List Delivery :=
  effects.filterMap fun effect =>
    match effect with
    | .received other bytes beyond => if other = connection then some ⟨bytes, beyond⟩ else none
    | _ => none

/-- What was sent on a connection. -/
def sentTo (connection : Nat) (effects : List Effect) : List Reply :=
  effects.filterMap fun effect =>
    match effect with
    | .sent other reply => if other = connection then some reply else none
    | _ => none

/-- The strings that stand in the buffer after each result of `recv`. -/
def texts : ClientData → List Delivery → List (List UCHAR)
  | _, [] => []
  | data, delivery :: deliveries =>
      (data.store delivery.bytes).text delivery.beyond ::
        texts (data.store delivery.bytes) deliveries

/-- The buffer after all results of `recv`. -/
def leftBy (data : ClientData) (deliveries : List Delivery) : ClientData :=
  deliveries.foldl (fun data delivery => data.store delivery.bytes) data

/-- The replies to the strings that stood in the buffer. -/
def serve (library : JsonLibrary) (data : ClientData) (deliveries : List Delivery) :
    List Reply :=
  (texts data deliveries).filterMap fun text => (socketServerHandleRecvMessage library text).2

section Append

variable (connection : Nat) (first second : List Effect) (data : ClientData)

theorem receivedBy_append :
    receivedBy connection (first ++ second) =
      receivedBy connection first ++ receivedBy connection second :=
  List.filterMap_append

theorem sentTo_append :
    sentTo connection (first ++ second) = sentTo connection first ++ sentTo connection second :=
  List.filterMap_append

theorem texts_append (earlier later : List Delivery) :
    texts data (earlier ++ later) = texts data earlier ++ texts (leftBy data earlier) later := by
  induction earlier generalizing data with
  | nil => rfl
  | cons delivery earlier induction =>
      rw [List.cons_append, texts, texts, induction]
      rfl

theorem leftBy_append (earlier later : List Delivery) :
    leftBy data (earlier ++ later) = leftBy (leftBy data earlier) later :=
  List.foldl_append

theorem serve_append (library : JsonLibrary) (earlier later : List Delivery) :
    serve library data (earlier ++ later) =
      serve library data earlier ++ serve library (leftBy data earlier) later := by
  rw [serve, texts_append, List.filterMap_append]
  rfl

end Append

/-! ## What the server does for one client -/

/-- A client is served from the buffer of its entry, until its connection is gone. -/
def Serving (connection : Nat) (server : SocketServer) : Option ClientData → Prop
  | some data => ∃ client ∈ server.clients,
      client.addrclient = connection ∧ client.csClientData = data
  | none => Departed connection server.kernel

/-- What is sent to a client answers what was received from it. -/
inductive Exchange (library : JsonLibrary) (connection : Nat) :
    Option ClientData → List Effect → Option ClientData → Prop
  | stays (data : ClientData) (effects : List Effect)
      (sent : sentTo connection effects = serve library data (receivedBy connection effects)) :
      Exchange library connection (some data) effects
        (some (leftBy data (receivedBy connection effects)))
  | leaves (data : ClientData) (effects : List Effect)
      (sent : sentTo connection effects = serve library data (receivedBy connection effects)) :
      Exchange library connection (some data) effects none
  | silent (effects : List Effect) (received : receivedBy connection effects = [])
      (sent : sentTo connection effects = []) :
      Exchange library connection none effects none

namespace Exchange

variable {library : JsonLibrary} {connection : Nat} {first second : List Effect}
  {before between after : Option ClientData}

theorem nothing (library : JsonLibrary) (connection : Nat) (session : Option ClientData) :
    Exchange library connection session [] session := by
  cases session with
  | none => exact .silent [] rfl rfl
  | some data => exact .stays data [] rfl

theorem append (earlier : Exchange library connection before first between)
    (later : Exchange library connection between second after) :
    Exchange library connection before (first ++ second) after := by
  cases earlier with
  | stays data _ sent =>
      have both : serve library data (receivedBy connection (first ++ second)) =
          sentTo connection first ++
            serve library (leftBy data (receivedBy connection first))
              (receivedBy connection second) := by
        rw [receivedBy_append, serve_append, sent]
      cases later with
      | stays _ _ rest =>
          rw [← leftBy_append, ← receivedBy_append]
          apply Exchange.stays
          rw [both, sentTo_append, rest]
      | leaves _ _ rest =>
          apply Exchange.leaves
          rw [both, sentTo_append, rest]
  | leaves data _ sent =>
      cases later with
      | silent _ received rest =>
          apply Exchange.leaves
          rw [receivedBy_append, sentTo_append, received, rest, List.append_nil,
            List.append_nil, sent]
  | silent _ received sent =>
      cases later with
      | silent _ laterReceived rest =>
          apply Exchange.silent
          · rw [receivedBy_append, received, laterReceived, List.append_nil]
          · rw [sentTo_append, sent, rest, List.append_nil]

end Exchange

section Events

variable {library : JsonLibrary} {event : EpollEvent} {server : SocketServer}
  {handled : Handled} {connection : Nat}

theorem exchange_request (client : SocketClient) (bytes beyond : List UCHAR) :
    receivedBy client.addrclient (requestEffects library client bytes beyond) =
        [⟨bytes, beyond⟩] ∧
      sentTo client.addrclient (requestEffects library client bytes beyond) =
        serve library client.csClientData [⟨bytes, beyond⟩] := by
  dsimp only [requestEffects, serve, texts]
  cases reply : (socketServerHandleRecvMessage library
      ((client.csClientData.store bytes).text beyond)).2 <;>
    simp [receivedBy, sentTo, reply]

theorem exchange_other (client : SocketClient) (bytes beyond : List UCHAR)
    (other : client.addrclient ≠ connection) :
    receivedBy connection (requestEffects library client bytes beyond) = [] ∧
      sentTo connection (requestEffects library client bytes beyond) = [] := by
  dsimp only [requestEffects]
  cases (socketServerHandleRecvMessage library
      ((client.csClientData.store bytes).text beyond)).2 <;>
    simp [receivedBy, sentTo, other]

theorem Exchange.quiet {effects : List Effect} (received : receivedBy connection effects = [])
    (sent : sentTo connection effects = []) (session : Option ClientData) :
    Exchange library connection session effects session := by
  cases session with
  | none => exact .silent effects received sent
  | some data =>
      have stays := @Exchange.stays library connection data effects (by rw [sent, received]; rfl)
      rw [received] at stays
      exact stays

theorem Consistent.client_eq (consistent : Consistent server) {left right : SocketClient}
    (leftMember : left ∈ server.clients) (rightMember : right ∈ server.clients)
    (same : left.addrclient = right.addrclient) : left = right :=
  List.inj_on_of_nodup_map consistent.clientFds leftMember rightMember
    ((consistent.fd_eq_iff leftMember rightMember).mpr same)

theorem Handles.exchange (handles : Handles library event server handled)
    (consistent : Consistent server) {session : Option ClientData}
    (serving : Serving connection server session) :
    ∃ after, Exchange library connection session handled.effects after ∧
      Serving connection handled.server after := by
  have departed : session = none → Serving connection handled.server none := by
    rintro rfl
    exact (departed_stable library connection).handled _ _ _ handles consistent serving
  cases handles with
  | accepted inUse memory accepts =>
      refine ⟨session, .quiet rfl rfl session, ?_⟩
      cases session with
      | none => exact departed rfl
      | some data =>
          obtain ⟨client, member, served⟩ := serving
          exact ⟨client, List.mem_append_left _ member, served⟩
  | removed reads other found result =>
      obtain ⟨otherMember, isFd⟩ := SocketServer.client_fd found
      cases session with
      | none => exact ⟨none, .quiet rfl rfl none, departed rfl⟩
      | some data =>
          obtain ⟨client, member, isConnection, buffer⟩ := serving
          by_cases same : client.iSocketFd = event.fd
          · obtain ⟨socket, socketMember, key⟩ := consistent.socket member
            obtain ⟨socketFd, socketConnection⟩ := Prod.mk.inj key
            have gone := consistent.departed_remove socketMember
            rw [socketFd, socketConnection, same, isConnection] at gone
            exact ⟨none, .leaves data _ rfl, gone⟩
          · refine ⟨some data, .quiet rfl rfl _, client, ?_, isConnection, buffer⟩
            exact List.mem_filter.mpr ⟨member, by simpa using same⟩
  | kept => exact ⟨session, .quiet rfl rfl session, serving⟩
  | received reads other found bytes kernel result =>
      obtain ⟨otherMember, isFd⟩ := SocketServer.client_fd found
      by_cases isOther : other.addrclient = connection
      · subst isOther
        cases session with
        | none => exact absurd rfl (consistent.unlisted serving other otherMember)
        | some data =>
            obtain ⟨client, member, isConnection, rfl⟩ := serving
            obtain rfl := consistent.client_eq member otherMember isConnection
            have request := @exchange_request library client bytes event.answers.beyond
            have stays := @Exchange.stays library _ client.csClientData
              (requestEffects library client bytes event.answers.beyond)
              (request.2.trans (congrArg _ request.1.symm))
            rw [request.1] at stays
            refine ⟨_, stays, _, List.mem_map_of_mem member, ?_⟩
            rw [if_pos isFd]
            exact ⟨rfl, rfl⟩
      · have quiet := @exchange_other library _ other bytes event.answers.beyond isOther
        refine ⟨session, .quiet quiet.1 quiet.2 session, ?_⟩
        cases session with
        | none => exact departed rfl
        | some data =>
            obtain ⟨client, member, isConnection, buffer⟩ := serving
            have apart : client.iSocketFd ≠ event.fd := by
              intro same
              apply isOther
              rw [← isConnection]
              exact (consistent.fd_eq_iff otherMember member).mp (isFd.trans same.symm)
            refine ⟨_, List.mem_map_of_mem member, ?_⟩
            rw [if_neg apart]
            exact ⟨isConnection, buffer⟩
  | _ => exact ⟨session, .nothing library connection session, serving⟩

theorem handleEvents_exchange (events : List EpollEvent) (consistent : Consistent server)
    {session : Option ClientData} (serving : Serving connection server session) :
    ∃ after, Exchange library connection session (handleEvents library events server).effects
        after ∧
      Serving connection (handleEvents library events server).server after := by
  induction events generalizing server session with
  | nil => exact ⟨session, .nothing library connection session, serving⟩
  | cons event events induction =>
      have handles := handles_handleEvent library event server
      obtain ⟨between, first, still⟩ := handles.exchange consistent serving
      dsimp only [handleEvents]
      split_ifs
      · obtain ⟨after, rest, last⟩ := induction (handles.consistent consistent) still
        exact ⟨after, first.append rest, last⟩
      · exact ⟨between, first, still⟩

end Events

/-! ## Runs -/

/-- Until the thread ends, it serves the client. -/
def ServedBy (connection : Nat) (thread : Thread) (session : Option ClientData) : Prop :=
  thread.control ≠ .exited →
    Consistent thread.server ∧ Serving connection thread.server session

section Runs

variable {library : JsonLibrary} {connection : Nat} {session : Option ClientData}

theorem Serving.withKernel {server : SocketServer} (serving : Serving connection server session)
    {kernel : Kernel} (eState : ThreadState) (keys : kernel.keys = server.kernel.keys)
    (connections : kernel.connections = server.kernel.connections) :
    Serving connection { server with kernel := kernel, eState := eState } session := by
  cases session with
  | none => exact Departed.of_keys serving keys connections
  | some data => exact serving

theorem ServedBy.step {thread : Thread} (served : ServedBy connection thread session)
    {turned : Thread × Option (List Effect)} (turns : Turns library thread turned) :
    ∃ after, Exchange library connection session (turned.2.getD []) after ∧
      ServedBy connection turned.1 after := by
  have nothing := Exchange.nothing library connection session
  cases turns with
  | passed kernel eState keys connections =>
      refine ⟨session, nothing, fun running => ?_⟩
      obtain ⟨consistent, serving⟩ := served running
      obtain ⟨paired, fds, distinct, fresh⟩ := consistent.withKernel keys connections
      exact ⟨⟨paired, fds, distinct, fresh⟩, serving.withKernel eState keys connections⟩
  | exited => exact ⟨session, nothing, fun running => absurd rfl running⟩
  | idle waiting =>
      obtain ⟨consistent, serving⟩ := served (by rw [waiting]; exact nofun)
      exact ⟨session, nothing,
        @Stable.loop (fun server => Serving connection server session) _ consistent serving⟩
  | handled waiting events =>
      obtain ⟨consistent, serving⟩ := served (by rw [waiting]; exact nofun)
      obtain ⟨after, exchange, still⟩ :=
        @handleEvents_exchange library _ _ events consistent _ serving
      exact ⟨after, exchange, @Stable.resume (fun server => Serving connection server after) _
        (consistent.afterEvents library events) still⟩

def effects (library : JsonLibrary) (thread : Thread) (inputs : List Input) : List Effect :=
  (Execution.observations (socketServerHandleThread library) thread inputs).flatten

theorem effects_cons (library : JsonLibrary) (thread : Thread) (input : Input)
    (inputs : List Input) :
    effects library thread (input :: inputs) =
      (socketServerHandleThread library thread input).2.getD [] ++
        effects library (socketServerHandleThread library thread input).1 inputs := by
  rw [effects, Execution.observations_cons, List.flatten_append]
  cases (socketServerHandleThread library thread input).2 with
  | none => rfl
  | some now => simp [effects]

theorem ServedBy.run {thread : Thread} (served : ServedBy connection thread session)
    (inputs : List Input) :
    ∃ after, Exchange library connection session (effects library thread inputs) after := by
  induction inputs generalizing thread session with
  | nil => exact ⟨session, .nothing library connection session⟩
  | cons input inputs induction =>
      obtain ⟨between, first, still⟩ :=
        served.step (turns_socketServerHandleThread library thread input)
      obtain ⟨after, rest⟩ := induction still
      refine ⟨after, ?_⟩
      rw [effects_cons]
      exact first.append rest

theorem sentTo_eq_serve {thread : Thread} (consistent : Consistent thread.server)
    {client : SocketClient} (member : client ∈ thread.server.clients) (inputs : List Input) :
    sentTo client.addrclient (effects library thread inputs) =
      serve library client.csClientData
        (receivedBy client.addrclient (effects library thread inputs)) := by
  have served : ServedBy client.addrclient thread (some client.csClientData) :=
    fun _ => ⟨consistent, client, member, rfl, rfl⟩
  obtain ⟨after, exchange⟩ := served.run inputs
  cases exchange with
  | stays _ _ sent => exact sent
  | leaves _ _ sent => exact sent

end Runs

/-! ## What `recv` delivers -/

/-- The results of `recv` on a socket for a list of events, behind those in front. -/
def deliveriesFrom (server : SocketServer) (socket : Socket) :
    List EpollEvent → List EpollEvent → List Delivery
  | _, [] => []
  | earlier, event :: events =>
      if GoesOn server earlier event then
        let bytes := (socket.leftAt earlier).take MXBF
        let now :=
          if event.ReadsFrom socket.fd ∧ bytes ≠ [] then [⟨bytes, event.answers.beyond⟩] else []
        now ++ deliveriesFrom server socket (earlier ++ [event]) events
      else
        []

/-- The results of `recv` on a connection in one turn of the thread. -/
def deliveredIn (connection : Nat) (thread : Thread) : Input → List Delivery
  | .epollWait (.found events) =>
      if thread.control = .waiting then
        match thread.server.kernel.sockets.find? fun socket => socket.connection = connection with
        | none => []
        | some socket => deliveriesFrom thread.server socket [] events
      else
        []
  | _ => []

/-- The results of `recv` on a connection in a run. -/
def deliveries (library : JsonLibrary) (connection : Nat) : Thread → List Input → List Delivery
  | _, [] => []
  | thread, input :: inputs =>
      deliveredIn connection thread input ++
        deliveries library connection (socketServerHandleThread library thread input).1 inputs

section Deliveries

variable {library : JsonLibrary} {event : EpollEvent} {server : SocketServer}
  {socket left : Socket} {connection : Nat} {session : Option ClientData}

theorem deliveriesFrom_cons (consistent : Consistent server)
    (next : (handleEvent library event server).flow = .next)
    (isLeft : socket.after event = some left) (earlier events : List EpollEvent) :
    deliveriesFrom server socket (event :: earlier) events =
      deliveriesFrom (handleEvent library event server).server left earlier events := by
  have fd : left.fd = socket.fd := congrArg Prod.fst (Socket.after_eq_some isLeft).1
  induction events generalizing earlier with
  | nil => rfl
  | cons later events induction =>
      simp only [deliveriesFrom, goesOn_cons consistent next, Socket.leftAt_cons isLeft, fd]
      rw [List.cons_append, induction]

theorem deliveriesFrom_silent (gone : socket.after event = none) (earlier events : List EpollEvent) :
    deliveriesFrom server socket (event :: earlier) events = [] := by
  induction events generalizing earlier with
  | nil => rfl
  | cons later events induction =>
      have rest := induction (earlier ++ [later])
      have empty := Socket.leftAt_of_after_none gone earlier
      simp [deliveriesFrom, empty, rest]

theorem receivedBy_handleEvent (consistent : Consistent server)
    (member : socket ∈ server.kernel.sockets)
    (next : (handleEvent library event server).flow = .next) :
    receivedBy socket.connection (handleEvent library event server).effects =
      if event.ReadsFrom socket.fd ∧ (socket.leftAt []).take MXBF ≠ [] then
        [⟨(socket.leftAt []).take MXBF, event.answers.beyond⟩]
      else
        [] := by
  have all : socket.leftAt [] = socket.unread := List.drop_zero
  have recv := consistent.kernel_socket member
  have handles := handles_handleEvent library event server
  rw [all]
  generalize handleEvent library event server = handled at next handles ⊢
  cases handles with
  | skipped ignored => rw [if_neg fun both => consistent.not_readsFrom member ignored both.1]; rfl
  | accepted => split_ifs at next
  | removed reads client found result =>
      rw [if_neg]
      · rfl
      · rintro ⟨readsFrom, some⟩
        rw [readsFrom.2.1, Kernel.recv_ended_iff recv] at result
        exact some (by rw [result.2.1, List.take_nil])
  | received reads client found bytes kernel result =>
      obtain ⟨clientMember, isFd⟩ := SocketServer.client_fd found
      obtain ⟨succeeds, other, isOther, isBytes, nonempty, -⟩ := Kernel.recv_data result
      by_cases same : event.fd = socket.fd
      · rw [same, recv] at isOther
        obtain rfl := Option.some.inj isOther
        obtain ⟨entry, isEntry, key⟩ := consistent.client_of_socket member
        rw [← same, found] at isEntry
        obtain rfl := Option.some.inj isEntry
        have own : client.addrclient = socket.connection := congrArg Prod.snd key
        rw [if_pos ⟨⟨reads.1, same, succeeds⟩, isBytes ▸ nonempty⟩, ← own, ← isBytes]
        exact (exchange_request client bytes event.answers.beyond).1
      · rw [if_neg fun both => same both.1.2.1]
        apply (exchange_other client bytes event.answers.beyond ?_).1
        intro own
        obtain ⟨left, leftMember, key⟩ := consistent.socket clientMember
        have equal := consistent.connection_unique leftMember member
          ((congrArg Prod.snd key).trans own)
        rw [← equal] at same
        exact same (isFd.symm.trans (congrArg Prod.fst key).symm)
  | _ => cases next

theorem receivedBy_last (stops : (handleEvent library event server).flow ≠ .next) :
    receivedBy connection (handleEvent library event server).effects = [] := by
  have handles := handles_handleEvent library event server
  generalize handleEvent library event server = handled at stops handles ⊢
  cases handles with
  | received => exact absurd rfl stops
  | removed => exact absurd rfl stops
  | _ => rfl

theorem receivedBy_of_departed (departed : Departed connection server.kernel)
    (consistent : Consistent server) (events : List EpollEvent) :
    receivedBy connection (handleEvents library events server).effects = [] := by
  obtain ⟨after, exchange, -⟩ := @handleEvents_exchange library _ _ events consistent none departed
  cases exchange with
  | silent _ received => exact received

theorem receivedBy_handleEvents (events : List EpollEvent) (consistent : Consistent server)
    (member : socket ∈ server.kernel.sockets) :
    receivedBy socket.connection (handleEvents library events server).effects =
      deliveriesFrom server socket [] events := by
  induction events generalizing server socket with
  | nil => rfl
  | cons event events induction =>
      dsimp only [handleEvents, deliveriesFrom]
      by_cases continues : (handleEvent library event server).flow = .next
      · have after := (handles_handleEvent library event server).consistent consistent
        rw [if_pos continues, if_pos ((flow_next_iff consistent).mp continues), receivedBy_append,
          receivedBy_handleEvent consistent member continues, List.nil_append]
        congr 1
        cases isLeft : socket.after event with
        | none =>
            rw [deliveriesFrom_silent isLeft]
            exact receivedBy_of_departed
              (departed_of_after_none consistent member isLeft continues) after events
        | some left =>
            have leftMember := (mem_sockets_handleEvent consistent continues).mpr
              ⟨socket, member, isLeft⟩
            have own : left.connection = socket.connection :=
              congrArg Prod.snd (Socket.after_eq_some isLeft).1
            rw [deliveriesFrom_cons consistent continues isLeft, ← own]
            exact induction after leftMember
      · rw [if_neg continues, if_neg fun goes => continues ((flow_next_iff consistent).mpr goes)]
        exact receivedBy_last continues

theorem ServedBy.receivedBy_turn {thread : Thread} (served : ServedBy connection thread session)
    (input : Input) :
    receivedBy connection ((socketServerHandleThread library thread input).2.getD []) =
      deliveredIn connection thread input := by
  cases input with
  | epollWait result =>
      dsimp only [socketServerHandleThread]
      split_ifs with waiting
      · cases result with
        | error => rfl
        | timeout => rfl
        | found events =>
            obtain ⟨consistent, serving⟩ := served (by rw [waiting]; exact nofun)
            dsimp only [deliveredIn]
            rw [if_pos waiting]
            cases isSocket : thread.server.kernel.sockets.find? fun socket =>
                socket.connection = connection with
            | some socket =>
                have member := List.mem_of_find?_eq_some isSocket
                have isOwn := List.find?_some isSocket
                have own : socket.connection = connection := of_decide_eq_true isOwn
                rw [← own]
                exact receivedBy_handleEvents events consistent member
            | none =>
                cases session with
                | none => exact receivedBy_of_departed serving consistent events
                | some data =>
                    obtain ⟨client, member, own, -⟩ := serving
                    obtain ⟨socket, socketMember, key⟩ := consistent.socket member
                    have absent := List.find?_eq_none.mp isSocket socket socketMember
                    have same : socket.connection = connection :=
                      (congrArg Prod.snd key).trans own
                    simp [same] at absent
      · cases result with
        | error => rfl
        | timeout => rfl
        | found events =>
            dsimp only [deliveredIn]
            rw [if_neg waiting]
            rfl
  | _ => rfl

theorem ServedBy.receivedBy_effects {thread : Thread}
    (served : ServedBy connection thread session) (inputs : List Input) :
    receivedBy connection (effects library thread inputs) =
      deliveries library connection thread inputs := by
  induction inputs generalizing thread session with
  | nil => rfl
  | cons input inputs induction =>
      obtain ⟨after, -, still⟩ := served.step (turns_socketServerHandleThread library thread input)
      rw [effects_cons, receivedBy_append, served.receivedBy_turn, induction still]
      rfl

end Deliveries

end StudyDemo.SocketComm
