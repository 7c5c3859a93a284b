import StudyDemo.SocketComm.ReadResults

/-! # Clients that disconnect

A connection can end in three shapes: `recv` returns 0, or the event carries a hang-up
or an error. Only the first leads to the code that closes the descriptor and takes
the entry out of the list. -/

namespace StudyDemo.SocketComm

/-- The connection's descriptor is closed, and it has no entry in the list. -/
structure Gone (connection : Nat) (thread : Thread) : Prop where
  closed : Departed connection thread.server.kernel
  unlisted : ∀ client ∈ thread.server.clients, client.addrclient ≠ connection

/-- The loop over the events comes to an event at which `recv` returns 0 on the
descriptor. -/
def ReadsEnd (server : SocketServer) (events : List EpollEvent) (fd : Fd) (event : EpollEvent) :
    Prop :=
  ∃ earlier rest, events = earlier ++ event :: rest ∧ GoesThrough server earlier ∧
    ∃ socket ∈ server.kernel.sockets, socket.fd = fd ∧ socket.EndsAt earlier event

/-- The list of events carries a hang-up or an error of the client, or `recv` returns 0
on it in the loop over them. -/
def Disconnects (server : SocketServer) (events : List EpollEvent) (client : SocketClient) :
    Prop :=
  (∃ event ∈ events, event.fd = client.iSocketFd ∧ event.Broken) ∨
    ∃ event, ReadsEnd server events client.iSocketFd event

/-- From the list of events on in which they disconnect, clients are gone. -/
def DeadClientsLeave (library : JsonLibrary) (iSocketFd : Fd) (inputs : List Input) : Prop :=
  ∀ before events after, inputs = before ++ .epollWait (.found events) :: after →
    (reached library iSocketFd before).control = .waiting →
    ∀ client ∈ (reached library iSocketFd before).server.clients,
      Disconnects (reached library iSocketFd before).server events client →
      ∀ later rest, after = later ++ rest →
        Gone client.addrclient
          (reached library iSocketFd (before ++ .epollWait (.found events) :: later))

/-- On every client that disconnects `recv` returns 0, and the call that takes its
descriptor from the interest list succeeds. -/
def EndsByRecv (thread : Thread) (input : Input) : Prop :=
  ∀ events, input = .epollWait (.found events) → thread.control = .waiting →
    ∀ client ∈ thread.server.clients, Disconnects thread.server events client →
      ∃ event, ReadsEnd thread.server events client.iSocketFd event ∧
        event.answers.controlled = true

/-! ## What a list of events removes -/

section Events

variable {library : JsonLibrary} {event : EpollEvent} {server : SocketServer}
  {handled : Handled} {connection : Nat}

theorem Consistent.unlisted (consistent : Consistent server)
    (departed : Departed connection server.kernel) :
    ∀ client ∈ server.clients, client.addrclient ≠ connection := by
  intro client member
  obtain ⟨socket, socketMember, key⟩ := consistent.socket member
  have absent := departed.2 socket.key (List.mem_map_of_mem socketMember)
  rwa [key] at absent

theorem Consistent.not_departed (consistent : Consistent server) {client : SocketClient}
    (member : client ∈ server.clients) : ¬Departed client.addrclient server.kernel :=
  fun departed => consistent.unlisted departed client member rfl

theorem requestEffects_not_ended (client : SocketClient) (bytes beyond : List UCHAR)
    (deleted : Bool) :
    Effect.ended connection deleted ∉ requestEffects library client bytes beyond := by
  simp [requestEffects]

theorem Consistent.fd_eq_iff (consistent : Consistent server) {left right : SocketClient}
    (leftMember : left ∈ server.clients) (rightMember : right ∈ server.clients) :
    left.iSocketFd = right.iSocketFd ↔ left.addrclient = right.addrclient := by
  obtain ⟨first, firstMember, firstKey⟩ := consistent.socket leftMember
  obtain ⟨second, secondMember, secondKey⟩ := consistent.socket rightMember
  obtain ⟨rightFd, rightConnection⟩ := Prod.mk.inj secondKey
  obtain ⟨leftFd, leftConnection⟩ := Prod.mk.inj firstKey
  rw [← leftFd, ← rightFd, ← leftConnection, ← rightConnection]
  constructor
  · exact fun same => congrArg _ (consistent.socket_unique firstMember secondMember same)
  · exact fun same => congrArg _ (consistent.connection_unique firstMember secondMember same)

theorem Handles.departs_or_stays (handles : Handles library event server handled)
    (consistent : Consistent server) {client : SocketClient}
    (member : client ∈ server.clients) :
    (.ended client.addrclient true ∈ handled.effects ∧
        Departed client.addrclient handled.server.kernel) ∨
      (.ended client.addrclient true ∉ handled.effects ∧
        ∃ entry ∈ handled.server.clients, entry.key = client.key) := by
  cases handles with
  | accepted inUse memory =>
      exact .inr ⟨by simp, client, List.mem_append_left _ member, rfl⟩
  | removed reads other found result =>
      obtain ⟨otherMember, isFd⟩ := SocketServer.client_fd found
      have unique := consistent.fd_eq_iff member otherMember
      rw [isFd] at unique
      by_cases same : client.iSocketFd = event.fd
      · left
        obtain ⟨socket, socketMember, key⟩ := consistent.socket member
        obtain ⟨socketFd, socketConnection⟩ := Prod.mk.inj key
        have departed := consistent.departed_remove socketMember
        rw [socketFd, socketConnection, same] at departed
        exact ⟨by simp [unique.mp same], departed⟩
      · right
        refine ⟨?_, client, List.mem_filter.mpr ⟨member, by simpa using same⟩, rfl⟩
        simpa using fun equal => same (unique.mpr equal)
  | kept => exact .inr ⟨by simp, client, member, rfl⟩
  | received reads other found bytes kernel result =>
      refine .inr ⟨requestEffects_not_ended _ _ _ _, ?_⟩
      refine ⟨_, List.mem_map_of_mem member, ?_⟩
      split_ifs <;> rfl
  | _ => exact .inr ⟨List.not_mem_nil, client, member, rfl⟩

theorem handleEvents_departs_or_stays (events : List EpollEvent)
    (consistent : Consistent server) {client : SocketClient}
    (member : client ∈ server.clients) :
    (.ended client.addrclient true ∈ (handleEvents library events server).effects ∧
        Departed client.addrclient (handleEvents library events server).server.kernel) ∨
      (.ended client.addrclient true ∉ (handleEvents library events server).effects ∧
        ∃ entry ∈ (handleEvents library events server).server.clients,
          entry.key = client.key) := by
  induction events generalizing server client with
  | nil => exact .inr ⟨List.not_mem_nil, client, member, rfl⟩
  | cons event events induction =>
      have handles := handles_handleEvent library event server
      have first := handles.departs_or_stays consistent member
      have after := handles.consistent consistent
      dsimp only [handleEvents]
      by_cases continues : (handleEvent library event server).flow = .next
      · rw [if_pos continues]
        rcases first with ⟨ended, departed⟩ | ⟨notEnded, entry, entryMember, key⟩
        · have stays := (departed_stable library client.addrclient).afterEvents after departed
            events
          exact .inl ⟨List.mem_append_left _ ended, stays.2⟩
        · have same : entry.addrclient = client.addrclient := congrArg Prod.snd key
          have rest := induction after entryMember
          rw [same, key] at rest
          rcases rest with ⟨ended, departed⟩ | ⟨stillOpen, listed⟩
          · exact .inl ⟨List.mem_append_right _ ended, departed⟩
          · exact .inr ⟨fun ended => (List.mem_append.mp ended).elim notEnded stillOpen, listed⟩
      · rw [if_neg continues]
        exact first

/-- A connection is closed by a list of events exactly when `recv` returned 0 on it
and its descriptor was taken from the interest list. -/
theorem departed_handleEvents_iff (events : List EpollEvent)
    (consistent : Consistent server) {client : SocketClient}
    (member : client ∈ server.clients) :
    Departed client.addrclient (handleEvents library events server).server.kernel ↔
      .ended client.addrclient true ∈ (handleEvents library events server).effects := by
  have outcome := @handleEvents_departs_or_stays library _ events consistent client member
  rcases outcome with ⟨ended, departed⟩ | ⟨notEnded, entry, entryMember, key⟩
  · exact iff_of_true departed ended
  · have same : entry.addrclient = client.addrclient := congrArg Prod.snd key
    have present := (consistent.afterEvents library events).not_departed entryMember
    rw [same] at present
    exact iff_of_false present notEnded

section OneEvent

variable {socket : Socket} (consistent : Consistent server)
  (member : socket ∈ server.kernel.sockets)

include consistent member

theorem endsAt_of_recv (reads : event.Reads server.iSocketFd) (isFd : event.fd = socket.fd)
    (result : (server.kernel.recv event.fd event.answers.received).1 = .ended) :
    socket.EndsAt [] event := by
  rw [isFd, Kernel.recv_ended_iff (consistent.kernel_socket member)] at result
  obtain ⟨succeeds, empty, ended⟩ := result
  exact ⟨⟨reads.1, isFd, succeeds⟩, ended, by simp [empty], by simp [empty, reads_nil, MXBF]⟩

theorem recv_of_endsAt (ends : socket.EndsAt [] event) :
    (server.kernel.recv event.fd event.answers.received).1 = .ended := by
  obtain ⟨readsFrom, ended, empty, -⟩ := ends
  rw [readsFrom.2.1, Kernel.recv_ended_iff (consistent.kernel_socket member)]
  exact ⟨readsFrom.2.2, by simpa [reads_nil] using empty, ended⟩

theorem fd_of_client {client : SocketClient} (found : server.client event.fd = some client)
    (same : client.addrclient = socket.connection) : event.fd = socket.fd := by
  obtain ⟨clientMember, clientFd⟩ := SocketServer.client_fd found
  obtain ⟨other, otherMember, key⟩ := consistent.socket clientMember
  have connection := consistent.connection_unique otherMember member
    ((congrArg Prod.snd key).trans same)
  rw [← clientFd, ← connection]
  exact (congrArg Prod.fst key).symm

theorem connection_of_endsAt (ends : socket.EndsAt [] event) {client : SocketClient}
    (found : server.client event.fd = some client) : client.addrclient = socket.connection := by
  obtain ⟨other, isOther, key⟩ := consistent.client_of_socket member
  rw [← ends.1.2.1, found] at isOther
  obtain rfl := Option.some.inj isOther
  exact congrArg Prod.snd key

theorem flow_of_endsAt (ends : socket.EndsAt [] event) :
    (handleEvent library event server).flow = .next ↔ event.answers.controlled = true := by
  have notBlocks : ¬socket.BlocksAt [] event := by
    intro blocks
    have both := blocks.2.1.symm.trans ends.2.1
    cases both
  rw [flow_next_iff consistent, goesOn_of_readsFrom consistent member ends.1.2.1]
  simp [notBlocks, ends]

theorem ended_handleEvent_iff (deleted : Bool) :
    Effect.ended socket.connection deleted ∈ (handleEvent library event server).effects ↔
      socket.EndsAt [] event ∧ event.answers.controlled = deleted := by
  have goes := @flow_of_endsAt library event server socket consistent member
  have handles := handles_handleEvent library event server
  generalize handleEvent library event server = handled at goes handles ⊢
  cases handles with
  | removed reads client found result =>
      constructor
      · intro isEffect
        obtain ⟨same, rfl⟩ := by simpa using isEffect
        have isFd := fd_of_client consistent member found same.symm
        have ends := endsAt_of_recv consistent member reads isFd result
        exact ⟨ends, (goes ends).mp rfl⟩
      · rintro ⟨ends, rfl⟩
        simp [connection_of_endsAt consistent member ends found, (goes ends).mp rfl]
  | kept reads client found result =>
      have controlled : socket.EndsAt [] event → event.answers.controlled = false := by
        intro ends
        by_contra controlled
        have wrong := (goes ends).mpr (by simpa using controlled)
        cases wrong
      constructor
      · intro isEffect
        obtain ⟨same, rfl⟩ := by simpa using isEffect
        have isFd := fd_of_client consistent member found same.symm
        have ends := endsAt_of_recv consistent member reads isFd result
        exact ⟨ends, controlled ends⟩
      · rintro ⟨ends, rfl⟩
        simp [connection_of_endsAt consistent member ends found, controlled ends]
  | received reads client found bytes kernel result =>
      refine iff_of_false (requestEffects_not_ended _ _ _ _) fun ends => ?_
      have ended := recv_of_endsAt consistent member ends.1
      rw [result] at ended
      cases ended
  | skipped ignored =>
      refine iff_of_false List.not_mem_nil fun ends => ?_
      exact consistent.not_readsFrom member ignored ends.1.1
  | exhausted _ listens =>
      refine iff_of_false List.not_mem_nil fun ends => ?_
      exact consistent.fd_ne member (ends.1.1.2.1.symm.trans listens)
  | accepted _ _ accepts =>
      refine iff_of_false (by simp) fun ends => ?_
      exact consistent.fd_ne member (ends.1.1.2.1.symm.trans accepts.2.1)
  | blocked _ _ _ result =>
      refine iff_of_false List.not_mem_nil fun ends => ?_
      have ended := recv_of_endsAt consistent member ends.1
      rw [result] at ended
      cases ended

end OneEvent

theorem Departed.not_ended (departed : Departed connection server.kernel)
    (consistent : Consistent server) (events : List EpollEvent) (deleted : Bool) :
    Effect.ended connection deleted ∉ (handleEvents library events server).effects := by
  induction events generalizing server with
  | nil => exact List.not_mem_nil
  | cons event events induction =>
      have handles := handles_handleEvent library event server
      have stays := (departed_stable library connection).handled _ _ _ handles consistent departed
      have here : Effect.ended connection deleted ∉ (handleEvent library event server).effects := by
        generalize handleEvent library event server = handled at handles
        have known : ∀ client, server.client event.fd = some client →
            connection ≠ client.addrclient := fun client found =>
          (consistent.unlisted departed client (SocketServer.client_fd found).1).symm
        cases handles with
        | removed reads client found result => simp [known client found]
        | kept reads client found result => simp [known client found]
        | received => exact requestEffects_not_ended _ _ _ _
        | _ => simp
      dsimp only [handleEvents]
      split_ifs
      · rw [List.mem_append, not_or]
        exact ⟨here, induction stays (handles.consistent consistent)⟩
      · exact here

theorem departed_of_after_none (consistent : Consistent server) {socket : Socket}
    (member : socket ∈ server.kernel.sockets) (gone : socket.after event = none)
    (next : (handleEvent library event server).flow = .next) :
    Departed socket.connection (handleEvent library event server).server.kernel := by
  obtain ⟨client, clientMember, key⟩ := consistent.entry member
  have handles := handles_handleEvent library event server
  have connection : client.addrclient = socket.connection := congrArg Prod.snd key
  rcases handles.departs_or_stays consistent clientMember with
    ⟨-, departed⟩ | ⟨-, entry, entryMember, entryKey⟩
  · rwa [connection] at departed
  · obtain ⟨left, leftMember, leftKey⟩ := (handles.consistent consistent).socket entryMember
    obtain ⟨other, otherMember, isLeft⟩ := (mem_sockets_handleEvent consistent next).mp leftMember
    have same : other.key = socket.key :=
      (Socket.after_eq_some isLeft).1.symm.trans (leftKey.trans (entryKey.trans key))
    rw [consistent.connection_unique otherMember member (congrArg Prod.snd same), gone] at isLeft
    cases isLeft

/-- The loop over the events comes to one at which `recv` returns 0 on the socket. -/
def EndsIn (server : SocketServer) (events : List EpollEvent) (socket : Socket)
    (deleted : Bool) : Prop :=
  ∃ earlier event rest, events = earlier ++ event :: rest ∧ GoesThrough server earlier ∧
    socket.EndsAt earlier event ∧ event.answers.controlled = deleted

theorem not_endsIn_nil (socket : Socket) (deleted : Bool) : ¬EndsIn server [] socket deleted := by
  rintro ⟨earlier, event, rest, split, -⟩
  exact List.append_ne_nil_of_right_ne_nil _ (List.cons_ne_nil _ _) split.symm

theorem endsIn_cons (consistent : Consistent server) {events : List EpollEvent} {socket : Socket}
    {deleted : Bool} (continues : (handleEvent library event server).flow = .next) :
    EndsIn server (event :: events) socket deleted ↔
      (socket.EndsAt [] event ∧ event.answers.controlled = deleted) ∨
        ∃ left, socket.after event = some left ∧
          EndsIn (handleEvent library event server).server events left deleted := by
  constructor
  · rintro ⟨earlier, later, rest, split, through, ends, controlled⟩
    cases earlier with
    | nil =>
        obtain ⟨rfl, -⟩ := List.cons.inj split
        exact .inl ⟨ends, controlled⟩
    | cons first earlier =>
        obtain ⟨rfl, behind⟩ := List.cons.inj split
        right
        cases isLeft : socket.after event with
        | none => exact absurd ends (Socket.not_endsAt_of_after_none isLeft)
        | some left =>
            exact ⟨left, rfl, earlier, later, rest, behind,
              (goesThrough_cons consistent continues).mp through,
              (Socket.endsAt_cons isLeft).mp ends, controlled⟩
  · rintro (⟨ends, controlled⟩ |
      ⟨left, isLeft, earlier, later, rest, rfl, through, ends, controlled⟩)
    · exact ⟨[], event, events, rfl, goesThrough_nil server, ends, controlled⟩
    · exact ⟨event :: earlier, later, rest, rfl,
        (goesThrough_cons consistent continues).mpr through,
        (Socket.endsAt_cons isLeft).mpr ends, controlled⟩

theorem endsIn_cons_last (consistent : Consistent server) {events : List EpollEvent}
    {socket : Socket} {deleted : Bool}
    (stops : (handleEvent library event server).flow ≠ .next) :
    EndsIn server (event :: events) socket deleted ↔
      socket.EndsAt [] event ∧ event.answers.controlled = deleted := by
  constructor
  · rintro ⟨earlier, later, rest, split, through, ends, controlled⟩
    cases earlier with
    | nil =>
        obtain ⟨rfl, -⟩ := List.cons.inj split
        exact ⟨ends, controlled⟩
    | cons first earlier =>
        obtain ⟨rfl, -⟩ := List.cons.inj split
        exact absurd ((flow_next_iff consistent).mpr (through [] event earlier rfl)) stops
  · rintro ⟨ends, controlled⟩
    exact ⟨[], event, events, rfl, goesThrough_nil server, ends, controlled⟩

theorem ended_handleEvents_iff (events : List EpollEvent) (consistent : Consistent server)
    {socket : Socket} (member : socket ∈ server.kernel.sockets) (deleted : Bool) :
    Effect.ended socket.connection deleted ∈ (handleEvents library events server).effects ↔
      EndsIn server events socket deleted := by
  induction events generalizing server socket with
  | nil => exact iff_of_false List.not_mem_nil (not_endsIn_nil socket deleted)
  | cons event events induction =>
      have here := @ended_handleEvent_iff library event server socket consistent member deleted
      dsimp only [handleEvents]
      by_cases continues : (handleEvent library event server).flow = .next
      · have after := (handles_handleEvent library event server).consistent consistent
        rw [if_pos continues, List.mem_append, here, endsIn_cons consistent continues]
        apply or_congr_right
        cases isLeft : socket.after event with
        | none =>
            have departed := departed_of_after_none consistent member isLeft continues
            exact iff_of_false (departed.not_ended after events deleted) (by simp)
        | some left =>
            have connection : left.connection = socket.connection :=
              congrArg Prod.snd (Socket.after_eq_some isLeft).1
            have leftMember := (mem_sockets_handleEvent consistent continues).mpr
              ⟨socket, member, isLeft⟩
            rw [← connection, induction after leftMember]
            simp
      · rw [if_neg continues, here, endsIn_cons_last consistent continues]

theorem ended_iff_readsEnd (events : List EpollEvent) (consistent : Consistent server)
    {client : SocketClient} (member : client ∈ server.clients) (deleted : Bool) :
    Effect.ended client.addrclient deleted ∈ (handleEvents library events server).effects ↔
      ∃ event, ReadsEnd server events client.iSocketFd event ∧
        event.answers.controlled = deleted := by
  obtain ⟨socket, socketMember, key⟩ := consistent.socket member
  obtain ⟨fd, connection⟩ := Prod.mk.inj key
  rw [← connection, ended_handleEvents_iff events consistent socketMember]
  constructor
  · rintro ⟨earlier, event, rest, split, through, ends, controlled⟩
    exact ⟨event, ⟨earlier, rest, split, through, socket, socketMember, fd, ends⟩, controlled⟩
  · rintro ⟨event, ⟨earlier, rest, split, through, other, otherMember, otherFd, ends⟩, controlled⟩
    rw [consistent.socket_unique otherMember socketMember (otherFd.trans fd.symm)] at ends
    exact ⟨earlier, event, rest, split, through, ends, controlled⟩

end Events

/-! ## Runs -/

section Turns

variable {library : JsonLibrary} {thread : Thread} {connection : Nat}

theorem Departed.gone_exit {server : SocketServer}
    (departed : Departed connection server.kernel) : Gone connection (Thread.exit server) :=
  ⟨departed, fun _ member => nomatch member⟩

theorem Departed.gone_loop {server : SocketServer}
    (departed : Departed connection server.kernel) (consistent : Consistent server) :
    Gone connection (Thread.loop server) := by
  rw [Thread.loop]
  split_ifs
  · exact departed.gone_exit
  · exact ⟨departed, consistent.unlisted departed⟩

theorem Departed.gone_resume {handled : Handled}
    (departed : Departed connection handled.server.kernel)
    (consistent : Consistent handled.server) : Gone connection (Thread.resume handled) := by
  dsimp only [Thread.resume]
  cases handled.flow with
  | next => exact departed.gone_loop consistent
  | leave => exact departed.gone_loop consistent
  | done => exact departed.gone_exit
  | blocked => exact ⟨departed, consistent.unlisted departed⟩

theorem loop_kernel (server : SocketServer) :
    (Thread.loop server).server.kernel = server.kernel := by
  rw [Thread.loop]
  split_ifs <;> rfl

/-- The loop over the events decides which sockets are open afterwards. -/
theorem resume_kernel (handled : Handled) :
    (Thread.resume handled).server.kernel = handled.server.kernel := by
  dsimp only [Thread.resume]
  cases handled.flow with
  | next => exact loop_kernel _
  | leave => exact loop_kernel _
  | done => rfl
  | blocked => rfl

theorem Gone.step (gone : Gone connection thread)
    (consistent : thread.control ≠ .exited → Consistent thread.server)
    {turned : Thread × Option (List Effect)} (turns : Turns library thread turned) :
    Gone connection turned.1 := by
  cases turns with
  | passed kernel eState keys connections =>
      exact ⟨gone.closed.of_keys keys connections, gone.unlisted⟩
  | exited => exact gone.closed.gone_exit
  | idle waiting => exact gone.closed.gone_loop (consistent (by rw [waiting]; exact nofun))
  | handled waiting events =>
      have before := consistent (by rw [waiting]; exact nofun)
      have after := (departed_stable library connection).afterEvents before gone.closed events
      exact after.2.gone_resume after.1

end Turns

section Runs

variable (library : JsonLibrary) (iSocketFd : Fd)

theorem reached_append (before : List Input) (input : Input) :
    reached library iSocketFd (before ++ [input]) =
      (socketServerHandleThread library (reached library iSocketFd before) input).1 := by
  rw [reached, Execution.finalState_append]
  rfl

theorem Gone.later {library : JsonLibrary} {iSocketFd : Fd} {connection : Nat}
    {before : List Input} (gone : Gone connection (reached library iSocketFd before))
    (later : List Input) : Gone connection (reached library iSocketFd (before ++ later)) := by
  induction later generalizing before with
  | nil =>
      rw [List.append_nil]
      exact gone
  | cons input later induction =>
      have next := gone.step (consistent_reached library iSocketFd before)
        (turns_socketServerHandleThread library _ input)
      rw [← reached_append] at next
      have rest := induction next
      rwa [List.append_assoc] at rest

theorem gone_after_iff {before : List Input} {events : List EpollEvent}
    (waiting : (reached library iSocketFd before).control = .waiting) {client : SocketClient}
    (member : client ∈ (reached library iSocketFd before).server.clients) :
    Gone client.addrclient
        (reached library iSocketFd (before ++ [.epollWait (.found events)])) ↔
      ∃ event, ReadsEnd (reached library iSocketFd before).server events client.iSocketFd event ∧
        event.answers.controlled = true := by
  have consistent := consistent_reached library iSocketFd before (by rw [waiting]; exact nofun)
  rw [← @ended_iff_readsEnd library _ events consistent _ member true,
    ← departed_handleEvents_iff events consistent member, reached_append]
  dsimp only [socketServerHandleThread]
  rw [if_pos waiting]
  constructor
  · intro gone
    have closed := gone.closed
    dsimp only [handleResult] at closed
    rwa [resume_kernel] at closed
  · intro departed
    exact departed.gone_resume (consistent.afterEvents library events)

/-- Clients that disconnect leave, throughout a run, exactly when on each of them
`recv` returns 0 and its descriptor is taken from the interest list. -/
theorem deadClientsLeave_iff (inputs : List Input) :
    DeadClientsLeave library iSocketFd inputs ↔
      Execution.EachCall (socketServerHandleThread library) EndsByRecv
        (Thread.start iSocketFd) inputs := by
  constructor
  · rintro leave before input after split events rfl waiting client member disconnects
    have gone := leave before events after split waiting client member disconnects [] after rfl
    exact (gone_after_iff library iSocketFd waiting member).mp gone
  · rintro ends before events after split waiting client member disconnects later rest -
    have ended := ends before _ after split events rfl waiting client member disconnects
    have gone := ((gone_after_iff library iSocketFd waiting member).mpr ended).later later
    rwa [List.append_assoc] at gone

end Runs

def hangUpEvent (fd : Fd) : EpollEvent :=
  { dataEvent fd with events := epollIn ||| epollHup }

theorem deadClients_stay :
    ¬∀ (library : JsonLibrary) (iSocketFd : Fd) (inputs : List Input),
      DeadClientsLeave library iSocketFd inputs := by
  intro leave
  let library : JsonLibrary := ⟨Unit, fun _ => none, fun _ _ => none, fun _ => 0⟩
  have gone := leave library 3
    [.epollWait (.found [connectEvent 3]), .epollWait (.found [hangUpEvent 0])]
    [_] [hangUpEvent 0] [] rfl (by decide +kernel) ⟨0, 0, emptyMemory⟩ (by decide +kernel)
    (.inl ⟨hangUpEvent 0, List.mem_singleton.mpr rfl, rfl, by decide⟩) [] [] rfl
  have unlisted := gone.unlisted ⟨0, 0, emptyMemory⟩ (by decide +kernel)
  exact unlisted rfl

end StudyDemo.SocketComm
