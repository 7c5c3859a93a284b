import StudyDemo.SocketComm.Counter

/-! # Reported data that stays unread

A client is registered edge-triggered, so bytes that were reported and not read are
not reported again. One event reads at most one buffer, and the events behind an
accepted connection are dropped. This file says which bytes are left. -/

namespace StudyDemo.SocketComm

/-- The events up to the first accepted connection. -/
def examined (iSocketFd : Fd) (events : List EpollEvent) : List EpollEvent :=
  events.takeWhile fun event => ¬event.Accepts iSocketFd

/-- The event is one of the descriptor's on which `recv` is called and succeeds. -/
def EpollEvent.ReadsFrom (event : EpollEvent) (fd : Fd) : Prop :=
  ¬event.Broken ∧ event.fd = fd ∧ event.answers.received = true

instance (event : EpollEvent) (fd : Fd) : Decidable (event.ReadsFrom fd) :=
  inferInstanceAs (Decidable (_ ∧ _))

/-- How many of the events read from the descriptor. -/
def reads (fd : Fd) (events : List EpollEvent) : Nat :=
  events.countP fun event => event.ReadsFrom fd

/-- Nothing is left of the bytes in the sockets whose events were in the list. -/
def DrainsReported (library : JsonLibrary) (thread : Thread) (input : Input) : Prop :=
  ∀ events, input = .epollWait (.found events) → thread.control = .waiting →
    (socketServerHandleThread library thread input).1.control = .waiting →
    ∀ event ∈ events, ¬event.Broken →
    ∀ client ∈ thread.server.clients, client.iSocketFd = event.fd →
    ∀ socket ∈ (socketServerHandleThread library thread input).1.server.kernel.sockets,
      socket.connection = client.addrclient → socket.unread = []

/-- Every socket with an event in the list has at most one buffer of bytes for each
of its events in front of the first accepted connection. -/
def ReadsEnough (library : JsonLibrary) (thread : Thread) (input : Input) : Prop :=
  ∀ events, input = .epollWait (.found events) → thread.control = .waiting →
    (socketServerHandleThread library thread input).1.control = .waiting →
    ∀ event ∈ events, ¬event.Broken →
    ∀ socket ∈ thread.server.kernel.sockets, socket.fd = event.fd →
      socket.unread.length ≤ MXBF * reads event.fd (examined thread.server.iSocketFd events)

/-! ## What an event reads -/

/-- What so many reads leave of a socket: the bytes behind them, or no socket
because its end was read. -/
def DrainedBy (count : Nat) (socket : Socket) (kernel : Kernel) : Prop :=
  (∃ left ∈ kernel.sockets, left.key = socket.key ∧
    left.unread = socket.unread.drop (MXBF * count)) ∨
  Departed socket.connection kernel ∧ socket.unread.length ≤ MXBF * count

section Drained

variable {library : JsonLibrary} {event : EpollEvent} {server : SocketServer}
  {handled : Handled} {socket : Socket}

theorem drainedBy_zero {kernel : Kernel} (member : socket ∈ kernel.sockets) :
    DrainedBy 0 socket kernel :=
  .inl ⟨socket, member, rfl, rfl⟩

theorem DrainedBy.add {first second : Nat} {left : Socket} {kernel : Kernel}
    (key : left.key = socket.key) (unread : left.unread = socket.unread.drop (MXBF * first))
    (drained : DrainedBy second left kernel) : DrainedBy (first + second) socket kernel := by
  have connection : left.connection = socket.connection := congrArg Prod.snd key
  rcases drained with ⟨last, member, sameKey, rest⟩ | ⟨departed, short⟩
  · refine .inl ⟨last, member, sameKey.trans key, ?_⟩
    rw [rest, unread, List.drop_drop, Nat.mul_add]
  · refine .inr ⟨connection ▸ departed, ?_⟩
    rw [unread, List.length_drop] at short
    rw [Nat.mul_add]
    omega

theorem Handles.iSocketFd_eq (handles : Handles library event server handled) :
    handled.server.iSocketFd = server.iSocketFd := by
  cases handles <;> rfl

theorem Handles.refused (handles : Handles library event server handled)
    (next : handled.flow = .next) : ¬event.Accepts server.iSocketFd := by
  cases handles with
  | skipped _ refused => exact refused
  | accepted => split_ifs at next
  | removed reads => exact fun accepts => reads.2 accepts.2.1
  | received reads => exact fun accepts => reads.2 accepts.2.1
  | _ => cases next

theorem Consistent.not_readsFrom (consistent : Consistent server)
    (member : socket ∈ server.kernel.sockets)
    (ignored : event.Broken ∨ event.fd = server.iSocketFd ∨ server.client event.fd = none ∨
      (server.kernel.recv event.fd event.answers.received).1 = .failed) :
    ¬event.ReadsFrom socket.fd := by
  rintro ⟨whole, isFd, succeeds⟩
  rw [isFd] at ignored
  rcases ignored with broken | listens | unknown | failed
  · exact whole broken
  · exact consistent.fd_ne member listens
  · obtain ⟨client, found, -⟩ := consistent.client_of_socket member
    rw [unknown] at found
    cases found
  · rw [Kernel.recv_failed_iff (consistent.kernel_socket member), succeeds] at failed
    cases failed

theorem Handles.drainedBy (handles : Handles library event server handled)
    (consistent : Consistent server) (member : socket ∈ server.kernel.sockets)
    (next : handled.flow = .next) :
    DrainedBy (if event.ReadsFrom socket.fd then 1 else 0) socket handled.server.kernel := by
  cases handles with
  | skipped ignored =>
      rw [if_neg (consistent.not_readsFrom member ignored)]
      exact drainedBy_zero member
  | accepted => split_ifs at next
  | removed reads client found result =>
      by_cases isFd : event.fd = socket.fd
      · have recv := consistent.kernel_socket member
        rw [isFd, Kernel.recv_ended_iff recv] at result
        obtain ⟨succeeds, empty, -⟩ := result
        rw [if_pos ⟨reads.1, isFd, succeeds⟩]
        rw [isFd]
        exact .inr ⟨consistent.departed_remove member, by simp [empty]⟩
      · rw [if_neg fun from_ => isFd from_.2.1]
        apply drainedBy_zero
        refine List.mem_filter.mpr ⟨member, ?_⟩
        simpa using Ne.symm isFd
  | received reads client found bytes kernel result =>
      obtain ⟨succeeds, -, -, -, -, rfl⟩ := Kernel.recv_data result
      by_cases isFd : event.fd = socket.fd
      · rw [if_pos ⟨reads.1, isFd, succeeds⟩]
        refine .inl ⟨{ socket with unread := socket.unread.drop MXBF }, ?_, rfl, rfl⟩
        refine List.mem_map.mpr ⟨socket, member, ?_⟩
        rw [if_pos isFd.symm]
      · rw [if_neg fun from_ => isFd from_.2.1]
        apply drainedBy_zero
        refine List.mem_map.mpr ⟨socket, member, ?_⟩
        rw [if_neg (Ne.symm isFd)]
  | _ => cases next

theorem Handles.mem_sockets_leave (handles : Handles library event server handled)
    (leave : handled.flow = .leave) (member : socket ∈ server.kernel.sockets) :
    socket ∈ handled.server.kernel.sockets := by
  cases handles with
  | accepted => exact List.mem_append_left _ member
  | _ => cases leave

theorem handleEvents_drainedBy (events : List EpollEvent) (consistent : Consistent server)
    (member : socket ∈ server.kernel.sockets)
    (returns : (handleEvents library events server).flow = .next ∨
      (handleEvents library events server).flow = .leave) :
    DrainedBy (reads socket.fd (examined server.iSocketFd events)) socket
      (handleEvents library events server).server.kernel := by
  induction events generalizing server socket with
  | nil => exact drainedBy_zero member
  | cons event events induction =>
      have handles := handles_handleEvent library event server
      dsimp only [handleEvents] at returns ⊢
      by_cases continues : (handleEvent library event server).flow = .next
      · rw [if_pos continues] at returns ⊢
        have first := handles.drainedBy consistent member continues
        have after := handles.consistent consistent
        have passed : examined server.iSocketFd (event :: events) =
            event :: examined server.iSocketFd events :=
          List.takeWhile_cons_of_pos (by simpa using handles.refused continues)
        have count : reads socket.fd (examined server.iSocketFd (event :: events)) =
            (if event.ReadsFrom socket.fd then 1 else 0) +
              reads socket.fd (examined server.iSocketFd events) := by
          rw [passed, reads, List.countP_cons, Nat.add_comm]
          simp [reads]
        rw [count]
        rcases first with ⟨left, leftMember, key, unread⟩ | ⟨departed, short⟩
        · have rest := induction after leftMember returns
          have fd : left.fd = socket.fd := congrArg Prod.fst key
          rw [handles.iSocketFd_eq, fd] at rest
          exact rest.add key unread
        · have stays := (departed_stable library socket.connection).afterEvents after departed
            events
          refine .inr ⟨stays.2, Nat.le_trans short ?_⟩
          exact Nat.mul_le_mul_left MXBF (Nat.le_add_right _ _)
      · rw [if_neg continues] at returns ⊢
        have leave := returns.resolve_left continues
        have accepts := (handles.leave_iff.mp leave).1
        have passed : examined server.iSocketFd (event :: events) = [] :=
          List.takeWhile_cons_of_neg (by simpa using accepts)
        rw [passed]
        apply drainedBy_zero
        exact handles.mem_sockets_leave leave member

end Drained

/-! ## Runs -/

section Turns

variable {library : JsonLibrary} {thread : Thread} {events : List EpollEvent}

theorem turned_server (waiting : thread.control = .waiting)
    (returns : (socketServerHandleThread library thread
      (.epollWait (.found events))).1.control = .waiting) :
    (socketServerHandleThread library thread (.epollWait (.found events))).1.server =
        (handleEvents library events thread.server).server ∧
      ((handleEvents library events thread.server).flow = .next ∨
        (handleEvents library events thread.server).flow = .leave) := by
  dsimp only [socketServerHandleThread] at *
  rw [if_pos waiting] at *
  have resumed := Thread.resume_waiting returns
  exact ⟨resumed.1, resumed.2.2⟩

theorem drainsReported_iff_readsEnough (consistent : thread.control = .waiting →
    Consistent thread.server) (input : Input) :
    DrainsReported library thread input ↔ ReadsEnough library thread input := by
  constructor
  · rintro drains events rfl waiting returns event listed whole socket member isFd
    obtain ⟨same, ends⟩ := turned_server waiting returns
    have left := drains events rfl waiting returns event listed whole
    rw [same] at left
    have drained := handleEvents_drainedBy events (consistent waiting) member ends
    rw [← isFd]
    rcases drained with ⟨rest, restMember, key, unread⟩ | ⟨-, short⟩
    · obtain ⟨client, clientMember, clientKey⟩ := (consistent waiting).entry member
      have fd : client.iSocketFd = socket.fd := congrArg Prod.fst clientKey
      have connection : rest.connection = client.addrclient :=
        congrArg Prod.snd (key.trans clientKey.symm)
      have empty := left client clientMember (fd.trans isFd) rest restMember connection
      rw [unread] at empty
      exact List.drop_eq_nil_iff.mp empty
    · exact short
  · rintro enough events rfl waiting returns event listed whole client clientMember isFd left
      leftMember isConnection
    obtain ⟨same, ends⟩ := turned_server waiting returns
    obtain ⟨socket, member, key⟩ := (consistent waiting).socket clientMember
    have fd : socket.fd = event.fd := (congrArg Prod.fst key).trans isFd
    have connection : left.connection = socket.connection :=
      isConnection.trans (congrArg Prod.snd key).symm
    have short := enough events rfl waiting returns event listed whole socket member fd
    rw [← fd] at short
    rw [same] at leftMember
    have drained := handleEvents_drainedBy events (consistent waiting) member ends
    rcases drained with ⟨rest, restMember, restKey, unread⟩ | ⟨departed, -⟩
    · have after := (consistent waiting).afterEvents library events
      have equal := after.connection_unique leftMember restMember
        (connection.trans (congrArg Prod.snd restKey).symm)
      rw [equal, unread]
      exact List.drop_eq_nil_iff.mpr short
    · exact absurd connection (departed.2 left.key (List.mem_map_of_mem leftMember))

end Turns

section Runs

variable (library : JsonLibrary) (iSocketFd : Fd)

/-- No reported byte stays unread in a run exactly when every reported socket has at
most one buffer of bytes for each of its events that is examined. -/
theorem reportedData_drained_iff (inputs : List Input) :
    Execution.EachCall (socketServerHandleThread library) (DrainsReported library)
        (Thread.start iSocketFd) inputs ↔
      Execution.EachCall (socketServerHandleThread library) (ReadsEnough library)
        (Thread.start iSocketFd) inputs := by
  have consistent : ∀ before : List Input, (reached library iSocketFd before).control =
      .waiting → Consistent (reached library iSocketFd before).server := by
    intro before waiting
    exact consistent_reached library iSocketFd before (by rw [waiting]; exact nofun)
  constructor
  · intro drains before input after split
    exact (drainsReported_iff_readsEnough (consistent before) input).mp
      (drains before input after split)
  · intro enough before input after split
    exact (drainsReported_iff_readsEnough (consistent before) input).mpr
      (enough before input after split)

end Runs

def dataEvent (fd : Fd) : EpollEvent where
  fd := fd
  events := epollIn
  answers := {
    allocated := none
    accepted := none
    controlled := true
    received := true
    beyond := [] }

/-- One client has sent a byte when a second one connects: the event behind the
accepted connection is dropped. -/
def interruptedBatch : List Input :=
  [.epollWait (.found [connectEvent 3]), .arrive 0 [0x7B],
    .epollWait (.found [connectEvent 3, dataEvent 0])]

theorem reportedData_not_drained :
    ¬∀ (library : JsonLibrary) (iSocketFd : Fd) (inputs : List Input),
      Execution.EachCall (socketServerHandleThread library) (DrainsReported library)
        (Thread.start iSocketFd) inputs := by
  intro drains
  let library : JsonLibrary := ⟨Unit, fun _ => none, fun _ _ => none, fun _ => 0⟩
  have here := drains library 3 interruptedBatch [_, _] _ [] rfl _ rfl (by decide +kernel)
    (by decide +kernel) (dataEvent 0) (by decide +kernel) (by decide)
  revert here
  decide +kernel

end StudyDemo.SocketComm
