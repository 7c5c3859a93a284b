import StudyDemo.SocketComm.Draining

/-! # What the calls of `recv` return

For a list of events the results of `recv` follow from the events, from the answers of
the system calls and from the sockets in front of the list: one call after the other
takes the next buffer of a socket's bytes, and behind them it finds the end of the stream
or nothing. -/

namespace StudyDemo.SocketComm

/-! ## Sockets and events -/

namespace Socket

variable (socket : Socket) (earlier : List EpollEvent) (event : EpollEvent)

/-- The bytes that the events in front have left. -/
def leftAt : List UCHAR := socket.unread.drop (MXBF * reads socket.fd earlier)

/-- `recv` finds no bytes, and the peer has not closed its end. -/
def BlocksAt : Prop :=
  event.ReadsFrom socket.fd ∧ socket.ended = false ∧
    socket.unread.length ≤ MXBF * reads socket.fd earlier

instance : Decidable (socket.BlocksAt earlier event) :=
  inferInstanceAs (Decidable (_ ∧ _))

/-- `recv` is the first behind all bytes of a stream that has ended: it returns 0. -/
def EndsAt : Prop :=
  event.ReadsFrom socket.fd ∧ socket.ended = true ∧
    socket.unread.length ≤ MXBF * reads socket.fd earlier ∧
    MXBF * reads socket.fd earlier < socket.unread.length + MXBF

instance : Decidable (socket.EndsAt earlier event) :=
  inferInstanceAs (Decidable (_ ∧ _))

/-- What an event leaves of a socket when the loop goes on behind it. -/
def after : Option Socket :=
  if event.ReadsFrom socket.fd then
    if socket.unread = [] then none
    else some { socket with unread := socket.unread.drop MXBF }
  else some socket

end Socket

/-- The loop over the events goes on behind the event: `accept` fails, no `recv` waits,
and a descriptor on which it returns 0 is taken from the interest list. -/
def GoesOn (server : SocketServer) (earlier : List EpollEvent) (event : EpollEvent) : Prop :=
  (¬event.Broken → event.fd = server.iSocketFd →
      event.answers.allocated.isSome ∧ event.answers.accepted = none) ∧
    (∀ socket ∈ server.kernel.sockets, ¬socket.BlocksAt earlier event) ∧
    ∀ socket ∈ server.kernel.sockets, socket.EndsAt earlier event →
      event.answers.controlled = true

instance (server : SocketServer) (earlier : List EpollEvent) (event : EpollEvent) :
    Decidable (GoesOn server earlier event) :=
  inferInstanceAs (Decidable (_ ∧ _))

/-- The loop over the events gets to the end of these. -/
def GoesThrough (server : SocketServer) (events : List EpollEvent) : Prop :=
  ∀ earlier event rest, events = earlier ++ event :: rest → GoesOn server earlier event

theorem goesThrough_nil (server : SocketServer) : GoesThrough server [] := by
  intro earlier event rest split
  exact absurd split.symm (List.append_ne_nil_of_right_ne_nil _ (List.cons_ne_nil _ _))

/-! ## One event -/

section Event

variable {library : JsonLibrary} {event : EpollEvent} {server : SocketServer} {socket : Socket}

theorem reads_nil (fd : Fd) : reads fd [] = 0 := rfl

theorem reads_cons (fd : Fd) (events : List EpollEvent) :
    reads fd (event :: events) = (if event.ReadsFrom fd then 1 else 0) + reads fd events := by
  rw [reads, List.countP_cons, Nat.add_comm]
  simp [reads]

/-- An event that reads from no client leaves the loop only at the listening socket. -/
theorem goesOn_of_not_readsFrom {earlier : List EpollEvent}
    (elsewhere : ∀ socket ∈ server.kernel.sockets, ¬event.ReadsFrom socket.fd)
    (listening : ¬event.Broken → event.fd = server.iSocketFd →
      event.answers.allocated.isSome ∧ event.answers.accepted = none) :
    GoesOn server earlier event :=
  ⟨listening, fun socket member blocks => elsewhere socket member blocks.1,
    fun socket member ends => absurd ends.1 (elsewhere socket member)⟩

theorem goesOn_of_readsFrom (consistent : Consistent server)
    (member : socket ∈ server.kernel.sockets) (isFd : event.fd = socket.fd) :
    GoesOn server [] event ↔
      ¬socket.BlocksAt [] event ∧ (socket.EndsAt [] event → event.answers.controlled = true) := by
  have notListening : event.fd ≠ server.iSocketFd := isFd ▸ consistent.fd_ne member
  have same : ∀ other ∈ server.kernel.sockets, event.ReadsFrom other.fd → other = socket :=
    fun other otherMember readsFrom =>
      consistent.socket_unique otherMember member (readsFrom.2.1.symm.trans isFd)
  constructor
  · rintro ⟨-, reading, ending⟩
    exact ⟨reading socket member, ending socket member⟩
  · rintro ⟨reading, ending⟩
    refine ⟨fun _ listens => absurd listens notListening, ?_, ?_⟩
    · intro other otherMember blocks
      rw [same other otherMember blocks.1] at blocks
      exact reading blocks
    · intro other otherMember ends
      rw [same other otherMember ends.1] at ends
      exact ending ends

theorem flow_next_iff (consistent : Consistent server) :
    (handleEvent library event server).flow = .next ↔ GoesOn server [] event := by
  rw [handleEvent]
  split_ifs with broken listens
  · refine iff_of_true rfl (goesOn_of_not_readsFrom ?_ fun whole => absurd broken whole)
    exact fun socket _ readsFrom => readsFrom.1 broken
  · have elsewhere : ∀ socket ∈ server.kernel.sockets, ¬event.ReadsFrom socket.fd :=
      fun socket member readsFrom =>
        consistent.fd_ne member (readsFrom.2.1.symm.trans listens)
    have answers : GoesOn server [] event ↔
        event.answers.allocated.isSome ∧ event.answers.accepted = none :=
      ⟨fun goes => goes.1 broken listens,
        fun answers => goesOn_of_not_readsFrom elsewhere fun _ _ => answers⟩
    rw [answers, handleAccept]
    cases allocated : event.answers.allocated with
    | none => simp
    | some memory =>
        cases accepted : event.answers.accepted with
        | none => simp
        | some inUse => cases event.answers.controlled <;> simp
  · rw [handleClient]
    cases found : server.client event.fd with
    | none =>
        refine iff_of_true rfl (goesOn_of_not_readsFrom ?_ fun _ listening =>
          absurd listening listens)
        intro socket member readsFrom
        obtain ⟨client, isClient, -⟩ := consistent.client_of_socket member
        rw [← readsFrom.2.1, found] at isClient
        cases isClient
    | some client =>
        obtain ⟨clientMember, isFd⟩ := SocketServer.client_fd found
        obtain ⟨socket, member, key⟩ := consistent.socket clientMember
        have sameFd : socket.fd = event.fd := (congrArg Prod.fst key).trans isFd
        rw [goesOn_of_readsFrom consistent member sameFd.symm]
        dsimp only
        rw [isFd, ← sameFd, Kernel.recv, consistent.kernel_socket member]
        have readsFrom : event.ReadsFrom socket.fd ↔ event.answers.received = true :=
          ⟨fun readsFrom => readsFrom.2.2, fun received => ⟨broken, sameFd.symm, received⟩⟩
        rw [Socket.BlocksAt, Socket.EndsAt, readsFrom]
        cases received : event.answers.received <;> cases ended : socket.ended <;>
          cases controlled : event.answers.controlled <;> cases unread : socket.unread <;>
            simp [reads, MXBF, ended, unread]

theorem sockets_handleEvent (consistent : Consistent server)
    (next : (handleEvent library event server).flow = .next) :
    (handleEvent library event server).server.kernel.sockets =
      server.kernel.sockets.filterMap fun socket => socket.after event := by
  have goes := (flow_next_iff consistent).mp next
  have handles := handles_handleEvent library event server
  generalize handleEvent library event server = handled at next handles ⊢
  have whole : ∀ change : Socket → Socket,
      (∀ socket ∈ server.kernel.sockets, socket.after event = some (change socket)) →
      server.kernel.sockets.map change =
        server.kernel.sockets.filterMap fun socket => socket.after event := by
    intro change same
    rw [← List.filterMap_eq_map]
    exact List.filterMap_congr fun socket member => (same socket member).symm
  cases handles with
  | skipped ignored =>
      have kept := whole id fun socket member => by
        rw [Socket.after, if_neg (consistent.not_readsFrom member ignored)]
        rfl
      rw [← kept, List.map_id]
  | accepted => split_ifs at next
  | removed reads client found result =>
      have removed : ∀ socket ∈ server.kernel.sockets, socket.after event =
          Option.guard (fun socket : Socket => socket.fd ≠ event.fd) socket := by
        intro socket member
        rw [Option.guard_apply]
        by_cases isFd : event.fd = socket.fd
        · have recv := consistent.kernel_socket member
          rw [isFd, Kernel.recv_ended_iff recv] at result
          obtain ⟨succeeds, empty, -⟩ := result
          rw [Socket.after, if_pos ⟨reads.1, isFd, succeeds⟩, if_pos empty]
          simp [isFd]
        · rw [Socket.after, if_neg fun readsFrom => isFd readsFrom.2.1]
          simp [Ne.symm isFd]
      rw [List.filterMap_congr removed, List.filterMap_eq_filter]
      rfl
  | received reads client found bytes kernel result =>
      obtain ⟨succeeds, socket, isSocket, isBytes, nonempty, rfl⟩ := Kernel.recv_data result
      apply whole
      intro other member
      by_cases isFd : other.fd = event.fd
      · have same := consistent.kernel_socket member
        rw [isFd, isSocket] at same
        obtain rfl := Option.some.inj same
        have unread : socket.unread ≠ [] := fun empty => nonempty (by rw [isBytes, empty]; rfl)
        rw [Socket.after, if_pos ⟨reads.1, isFd.symm, succeeds⟩, if_neg unread, if_pos isFd]
      · rw [Socket.after, if_neg fun readsFrom => isFd readsFrom.2.1.symm, if_neg isFd]
  | _ => cases next

end Event

/-! ## The events behind it -/

section Later

variable {library : JsonLibrary} {event later : EpollEvent} {earlier events : List EpollEvent}
  {server : SocketServer} {socket left : Socket}

namespace Socket

theorem after_eq_some (isLeft : socket.after event = some left) :
    left.key = socket.key ∧ left.ended = socket.ended ∧
      left.unread = socket.unread.drop (MXBF * if event.ReadsFrom socket.fd then 1 else 0) ∧
      (event.ReadsFrom socket.fd → socket.unread ≠ []) := by
  rw [after] at isLeft
  split_ifs at isLeft with readsFrom empty
  · obtain rfl := Option.some.inj isLeft
    rw [if_pos readsFrom, Nat.mul_one]
    exact ⟨rfl, rfl, rfl, fun _ => empty⟩
  · obtain rfl := Option.some.inj isLeft
    rw [if_neg readsFrom, Nat.mul_zero, List.drop_zero]
    exact ⟨rfl, rfl, rfl, fun absurdly => absurd absurdly readsFrom⟩

theorem after_eq_none (gone : socket.after event = none) :
    event.ReadsFrom socket.fd ∧ socket.unread = [] := by
  rw [after] at gone
  split_ifs at gone with readsFrom empty
  exact ⟨readsFrom, empty⟩

theorem leftAt_cons (isLeft : socket.after event = some left) :
    socket.leftAt (event :: earlier) = left.leftAt earlier := by
  obtain ⟨key, -, unread, -⟩ := after_eq_some isLeft
  have fd : left.fd = socket.fd := congrArg Prod.fst key
  rw [leftAt, leftAt, unread, List.drop_drop, fd, reads_cons, Nat.mul_add]

theorem blocksAt_cons (isLeft : socket.after event = some left) :
    socket.BlocksAt (event :: earlier) later ↔ left.BlocksAt earlier later := by
  obtain ⟨key, ended, unread, -⟩ := after_eq_some isLeft
  have fd : left.fd = socket.fd := congrArg Prod.fst key
  rw [BlocksAt, BlocksAt, fd, ended, unread, List.length_drop, reads_cons, Nat.mul_add,
    Nat.sub_le_iff_le_add']

theorem endsAt_cons (isLeft : socket.after event = some left) :
    socket.EndsAt (event :: earlier) later ↔ left.EndsAt earlier later := by
  obtain ⟨key, ended, unread, nonempty⟩ := after_eq_some isLeft
  have fd : left.fd = socket.fd := congrArg Prod.fst key
  rw [EndsAt, EndsAt, fd, ended, unread, List.length_drop, reads_cons]
  generalize reads socket.fd earlier = count
  by_cases readsFrom : event.ReadsFrom socket.fd
  · have positive := List.length_pos_iff.mpr (nonempty readsFrom)
    rw [if_pos readsFrom, MXBF]
    refine and_congr_right fun _ => and_congr_right fun _ => ?_
    omega
  · rw [if_neg readsFrom, Nat.mul_zero, Nat.zero_add, Nat.sub_zero]

theorem leftAt_of_after_none (gone : socket.after event = none) (earlier : List EpollEvent) :
    socket.leftAt (event :: earlier) = [] := by
  rw [leftAt, (after_eq_none gone).2, List.drop_nil]

theorem not_endsAt_of_after_none (gone : socket.after event = none) :
    ¬socket.EndsAt (event :: earlier) later := by
  obtain ⟨readsFrom, empty⟩ := after_eq_none gone
  rintro ⟨-, -, -, first⟩
  rw [empty, reads_cons, if_pos readsFrom, List.length_nil, MXBF] at first
  omega

end Socket

theorem GoesOn.ended_of_after_none (goes : GoesOn server [] event)
    (member : socket ∈ server.kernel.sockets) (gone : socket.after event = none) :
    socket.ended = true := by
  obtain ⟨readsFrom, empty⟩ := Socket.after_eq_none gone
  by_contra stillOpen
  apply goes.2.1 socket member
  exact ⟨readsFrom, by simpa using stillOpen, by simp [empty]⟩

variable (consistent : Consistent server)

include consistent

theorem mem_sockets_handleEvent (next : (handleEvent library event server).flow = .next) :
    left ∈ (handleEvent library event server).server.kernel.sockets ↔
      ∃ socket ∈ server.kernel.sockets, socket.after event = some left := by
  rw [sockets_handleEvent consistent next, List.mem_filterMap]

theorem goesOn_cons (next : (handleEvent library event server).flow = .next) :
    GoesOn server (event :: earlier) later ↔
      GoesOn (handleEvent library event server).server earlier later := by
  have goes := (flow_next_iff consistent).mp next
  have listens := (handles_handleEvent library event server).iSocketFd_eq
  rw [GoesOn, GoesOn, listens]
  refine and_congr_right fun _ => and_congr ?_ ?_
  · constructor
    · intro reading left member
      obtain ⟨socket, socketMember, isLeft⟩ := (mem_sockets_handleEvent consistent next).mp member
      rw [← Socket.blocksAt_cons isLeft]
      exact reading socket socketMember
    · intro reading socket member blocks
      cases isLeft : socket.after event with
      | some left =>
          rw [Socket.blocksAt_cons isLeft] at blocks
          exact reading left ((mem_sockets_handleEvent consistent next).mpr
            ⟨socket, member, isLeft⟩) blocks
      | none =>
          have ended := goes.ended_of_after_none member isLeft
          rw [blocks.2.1] at ended
          cases ended
  · constructor
    · intro ending left member
      obtain ⟨socket, socketMember, isLeft⟩ := (mem_sockets_handleEvent consistent next).mp member
      rw [← Socket.endsAt_cons isLeft]
      exact ending socket socketMember
    · intro ending socket member ends
      cases isLeft : socket.after event with
      | some left =>
          rw [Socket.endsAt_cons isLeft] at ends
          exact ending left ((mem_sockets_handleEvent consistent next).mpr
            ⟨socket, member, isLeft⟩) ends
      | none => exact absurd ends (Socket.not_endsAt_of_after_none isLeft)

theorem goesThrough_cons (next : (handleEvent library event server).flow = .next) :
    GoesThrough server (event :: events) ↔
      GoesThrough (handleEvent library event server).server events := by
  constructor
  · rintro through earlier later rest rfl
    rw [← goesOn_cons consistent next]
    exact through (event :: earlier) later rest rfl
  · intro through earlier later rest split
    cases earlier with
    | nil =>
        obtain ⟨rfl, -⟩ := List.cons.inj split
        exact (flow_next_iff consistent).mp next
    | cons first earlier =>
        obtain ⟨rfl, behind⟩ := List.cons.inj split
        rw [goesOn_cons consistent next]
        exact through earlier later rest behind

end Later

end StudyDemo.SocketComm
