import StudyDemo.SocketComm.Registry

/-! # The connection counter

The counter has 8 bits and the client list no bound. Both are stepped together, so
the counter is the length modulo 256, and it is the length exactly as long as no
connection is accepted while 255 clients are in the list. -/

namespace StudyDemo.SocketComm

/-- In `epoll_wait`, the counter is the number of entries of the list. -/
def CountsClients (thread : Thread) : Prop :=
  thread.control = .waiting →
    thread.server.u8NumConnClient.toNat = thread.server.clients.length

/-- The counter is the number of entries modulo 256. -/
def Counted (server : SocketServer) : Prop :=
  server.u8NumConnClient = BitVec.ofNat 8 server.clients.length

/-- Whenever a connection is accepted, fewer than 255 entries are in the list. -/
def HasRoom (library : JsonLibrary) : List EpollEvent → SocketServer → Prop
  | [], _ => True
  | event :: events, server =>
      (event.Accepts server.iSocketFd → event.answers.controlled →
        server.clients.length < 255) ∧
      ((handleEvent library event server).flow = .next →
        HasRoom library events (handleEvent library event server).server)

/-- The call handles events and accepts only where there is room. -/
def AcceptsWithRoom (library : JsonLibrary) (thread : Thread) (input : Input) : Prop :=
  ∀ events, input = .epollWait (.found events) → thread.control = .waiting →
    thread.server.eState ≠ .stopped → HasRoom library events thread.server

section Events

variable {library : JsonLibrary} {event : EpollEvent} {server : SocketServer}
  {handled : Handled}

theorem Consistent.clientFds (consistent : Consistent server) :
    (server.clients.map SocketClient.iSocketFd).Nodup := by
  have fds := congrArg (List.map Prod.fst) consistent.paired
  rw [List.map_map] at fds
  have distinct := (List.nodup_cons.mp consistent.fds).2
  rw [← fds] at distinct
  exact distinct

theorem Consistent.length_remove (consistent : Consistent server) {fd : Fd}
    {client : SocketClient} (found : server.client fd = some client) :
    (server.remove fd).clients.length + 1 = server.clients.length := by
  obtain ⟨member, isFd⟩ := SocketServer.client_fd found
  have present : fd ∈ server.clients.map SocketClient.iSocketFd :=
    isFd ▸ List.mem_map_of_mem member
  have erased := List.length_erase_of_mem present
  have positive := List.length_pos_of_mem present
  rw [consistent.clientFds.erase_eq_filter, List.filter_map, List.length_map,
    List.length_map] at erased
  rw [List.length_map] at positive
  have same : (server.remove fd).clients.length = server.clients.length - 1 := by
    rw [← erased]
    apply congrArg
    apply List.filter_congr
    intro client _
    by_cases same : client.iSocketFd = fd <;> simp [same]
  omega

theorem Handles.counted (handles : Handles library event server handled)
    (consistent : Consistent server) (counted : Counted server) : Counted handled.server := by
  cases handles with
  | skipped => exact counted
  | exhausted => exact counted
  | accepted inUse memory =>
      rw [Counted, SocketServer.addClient, List.length_append, List.length_singleton,
        BitVec.ofNat_add]
      simp only
      rw [counted]
      rfl
  | blocked => exact counted
  | removed reads client found =>
      have length := consistent.length_remove found
      rw [Counted, ← length, BitVec.ofNat_add] at counted
      rw [Counted, SocketServer.remove]
      simp only
      rw [counted]
      exact BitVec.add_sub_cancel _ _
  | kept => exact counted
  | received =>
      rw [Counted, SocketServer.store, List.length_map]
      exact counted

theorem Handles.length_le (handles : Handles library event server handled)
    (next : handled.flow = .next) :
    handled.server.clients.length ≤ server.clients.length := by
  cases handles with
  | accepted => split_ifs at next
  | removed => exact List.length_filter_le _ _
  | received => exact Nat.le_of_eq (List.length_map _)
  | _ => exact Nat.le_refl _

theorem Handles.leave_iff (handles : Handles library event server handled) :
    handled.flow = .leave ↔
      event.Accepts server.iSocketFd ∧ event.answers.controlled = true := by
  have other : ∀ reads : event.Reads server.iSocketFd, ¬event.Accepts server.iSocketFd :=
    fun reads accepts => reads.2 accepts.2.1
  cases handles with
  | skipped _ refused => simp [refused]
  | exhausted refused => simp [refused]
  | accepted inUse memory accepts => cases event.answers.controlled <;> simp [accepts]
  | blocked reads => simp [other reads]
  | removed reads => simp [other reads]
  | kept reads => simp [other reads]
  | received reads => simp [other reads]

theorem Handles.length_leave (handles : Handles library event server handled)
    (leave : handled.flow = .leave) :
    handled.server.clients.length = server.clients.length + 1 := by
  cases handles with
  | accepted => rw [SocketServer.addClient, List.length_append, List.length_singleton]
  | _ => cases leave

end Events

section Loop

variable (library : JsonLibrary) (events : List EpollEvent)

theorem handleEvents_length_le (server : SocketServer)
    (next : (handleEvents library events server).flow = .next) :
    (handleEvents library events server).server.clients.length ≤ server.clients.length := by
  induction events generalizing server with
  | nil => exact Nat.le_refl _
  | cons event events induction =>
      have handles := handles_handleEvent library event server
      dsimp only [handleEvents] at next ⊢
      split_ifs at next ⊢ with continues
      · exact Nat.le_trans (induction _ next) (handles.length_le continues)
      · exact absurd next continues

theorem hasRoom_iff (server : SocketServer) :
    HasRoom library events server ↔
      ((handleEvents library events server).flow = .leave →
        (handleEvents library events server).server.clients.length ≤ 255) := by
  induction events generalizing server with
  | nil => exact iff_of_true trivial nofun
  | cons event events induction =>
      have handles := handles_handleEvent library event server
      dsimp only [HasRoom, handleEvents]
      by_cases continues : (handleEvent library event server).flow = .next
      · have stays : ¬(event.Accepts server.iSocketFd ∧ event.answers.controlled = true) := by
          rw [← handles.leave_iff, continues]
          exact nofun
        rw [if_pos continues, ← induction]
        constructor
        · exact fun room => room.2 continues
        · exact fun room => ⟨fun accepts controlled => absurd ⟨accepts, controlled⟩ stays,
            fun _ => room⟩
      · rw [if_neg continues, handles.leave_iff]
        constructor
        · rintro ⟨room, -⟩ leaves
          rw [handles.length_leave (handles.leave_iff.mpr leaves)]
          exact room leaves.1 leaves.2
        · intro room
          refine ⟨fun accepts controlled => ?_, fun next => absurd next continues⟩
          have after := room ⟨accepts, controlled⟩
          rw [handles.length_leave (handles.leave_iff.mpr ⟨accepts, controlled⟩)] at after
          exact after

end Loop

/-! ## Runs -/

theorem Counted.toNat_eq_iff {server : SocketServer} (counted : Counted server) :
    server.u8NumConnClient.toNat = server.clients.length ↔ server.clients.length ≤ 255 := by
  rw [counted, BitVec.toNat_ofNat]
  omega

theorem counted_stable (library : JsonLibrary) : Stable library Counted where
  handled := fun _ _ _ handles => handles.counted
  outside := fun _ _ _ _ _ counted => counted

theorem Thread.loop_waiting {server : SocketServer}
    (waiting : (Thread.loop server).control = .waiting) :
    (Thread.loop server).server = server ∧ server.eState ≠ .stopped := by
  rw [Thread.loop] at *
  split_ifs at * with stopped
  · cases waiting
  · exact ⟨rfl, stopped⟩

/-- The thread is back in `epoll_wait` only where the loop over the events ended. -/
theorem Thread.resume_waiting {handled : Handled}
    (waiting : (Thread.resume handled).control = .waiting) :
    (Thread.resume handled).server = handled.server ∧ handled.server.eState ≠ .stopped ∧
      (handled.flow = .next ∨ handled.flow = .leave) := by
  dsimp only [Thread.resume] at *
  cases flow : handled.flow with
  | next =>
      rw [flow] at waiting
      exact ⟨(Thread.loop_waiting waiting).1, (Thread.loop_waiting waiting).2, .inl rfl⟩
  | leave =>
      rw [flow] at waiting
      exact ⟨(Thread.loop_waiting waiting).1, (Thread.loop_waiting waiting).2, .inr rfl⟩
  | done => simp [flow, Thread.exit] at waiting
  | blocked => simp [flow] at waiting

section Runs

variable (library : JsonLibrary) (iSocketFd : Fd)

theorem counted_reached (inputs : List Input) :
    Sound Counted (reached library iSocketFd inputs) :=
  (counted_stable library).reached rfl inputs

theorem countsClients_iff (inputs : List Input) :
    CountsClients (reached library iSocketFd inputs) ↔
      ((reached library iSocketFd inputs).control = .waiting →
        (reached library iSocketFd inputs).server.clients.length ≤ 255) := by
  have sound := counted_reached library iSocketFd inputs
  constructor
  · intro counts waiting
    have running := sound (by rw [waiting]; exact nofun)
    exact running.2.toNat_eq_iff.mp (counts waiting)
  · intro few waiting
    have running := sound (by rw [waiting]; exact nofun)
    exact running.2.toNat_eq_iff.mpr (few waiting)

theorem AcceptsWithRoom.length_le {thread : Thread} {input : Input}
    (room : AcceptsWithRoom library thread input)
    (few : thread.control = .waiting → thread.server.clients.length ≤ 255)
    (waiting : (socketServerHandleThread library thread input).1.control = .waiting) :
    (socketServerHandleThread library thread input).1.server.clients.length ≤ 255 := by
  cases input with
  | arrive => exact few waiting
  | endStream => exact few waiting
  | finished => exact few waiting
  | epollWait result =>
      by_cases before : thread.control = .waiting
      · have short := few before
        dsimp only [socketServerHandleThread] at *
        rw [if_pos before] at *
        cases result with
        | error => cases waiting
        | timeout =>
            dsimp only [handleResult] at *
            rw [(Thread.loop_waiting waiting).1]
            exact short
        | found events =>
            dsimp only [handleResult] at *
            obtain ⟨same, running, ends⟩ := Thread.resume_waiting waiting
            rw [handleEvents_eState] at running
            have room := (hasRoom_iff library events thread.server).mp
              (room events rfl before running)
            rw [same]
            rcases ends with next | leave
            · exact Nat.le_trans (handleEvents_length_le library events _ next) short
            · exact room leave
      · dsimp only [socketServerHandleThread] at *
        rw [if_neg before] at *
        exact absurd waiting before

/-- The counter counts the connections throughout a run exactly when every
connection is accepted while fewer than 255 clients are in the list. -/
theorem connectionCounter_iff (inputs : List Input) :
    (∀ before after, inputs = before ++ after →
        CountsClients (reached library iSocketFd before)) ↔
      Execution.EachCall (socketServerHandleThread library) (AcceptsWithRoom library)
        (Thread.start iSocketFd) inputs := by
  constructor
  · rintro counts before input after split events rfl waiting running
    rw [hasRoom_iff]
    intro leave
    have next := counts (before ++ [.epollWait (.found events)]) after (by simp [split])
    rw [countsClients_iff, reached, Execution.finalState_append] at next
    have turned : (socketServerHandleThread library (reached library iSocketFd before)
        (.epollWait (.found events))).1 =
        Thread.loop (handleEvents library events
          (reached library iSocketFd before).server).server := by
      dsimp only [socketServerHandleThread, reached]
      rw [if_pos waiting]
      dsimp only [handleResult, Thread.resume]
      rw [leave]
    have stays : (handleEvents library events
        (reached library iSocketFd before).server).server.eState ≠ .stopped := by
      rw [handleEvents_eState]
      exact running
    dsimp only [reached, Execution.finalState_cons, Execution.finalState_nil] at *
    rw [turned, Thread.loop, if_neg stays] at next
    exact next rfl
  · intro room before after split
    rw [countsClients_iff]
    rw [split] at room
    exact Execution.invariant_finalState (AcceptsWithRoom library)
      (fun thread => thread.control = .waiting → thread.server.clients.length ≤ 255)
      (fun _ _ here few => here.length_le library few)
      (Execution.eachCall_of_append room) (fun _ => Nat.zero_le _)

/-! ## Too many clients -/

def emptyMemory : ClientData := ⟨List.replicate MXBF 0, List.length_replicate⟩

def connectEvent (iSocketFd : Fd) : EpollEvent where
  fd := iSocketFd
  events := epollIn
  answers := {
    allocated := some emptyMemory
    accepted := some []
    controlled := true
    received := true
    beyond := [] }

theorem connected_turn (thread : Thread) (waiting : thread.control = .waiting)
    (running : thread.server.eState = .running) :
    (socketServerHandleThread library thread
        (.epollWait (.found [connectEvent thread.server.iSocketFd]))).1 =
      { thread with
        server := thread.server.addClient [] emptyMemory } := by
  dsimp only [socketServerHandleThread, handleResult]
  rw [if_pos waiting]
  have whole : ¬(connectEvent thread.server.iSocketFd).Broken := by
    dsimp only [EpollEvent.Broken, connectEvent]
    decide
  have handled : handleEvent library (connectEvent thread.server.iSocketFd) thread.server =
      ⟨.leave, thread.server.addClient [] emptyMemory,
        [.accepted thread.server.kernel.connections emptyMemory]⟩ := by
    have listens : (connectEvent thread.server.iSocketFd).fd = thread.server.iSocketFd := rfl
    rw [handleEvent, if_neg whole, if_pos listens]
    rfl
  simp only [handleEvents, handled]
  rw [if_neg fun ended => by cases ended]
  dsimp only [Thread.resume, Thread.loop]
  rw [if_neg (by simp [SocketServer.addClient, running]), waiting]

theorem connected_run (count : Nat) (thread : Thread) (waiting : thread.control = .waiting)
    (running : thread.server.eState = .running) :
    let after := Execution.finalState (socketServerHandleThread library) thread
      (List.replicate count (.epollWait (.found [connectEvent thread.server.iSocketFd])))
    after.control = .waiting ∧
      after.server.clients.length = thread.server.clients.length + count := by
  induction count generalizing thread with
  | zero => exact ⟨waiting, rfl⟩
  | succ count induction =>
      rw [List.replicate_succ, Execution.finalState_cons,
        connected_turn library thread waiting running]
      have rest := induction { thread with server := thread.server.addClient [] emptyMemory }
        waiting running
      refine ⟨rest.1, rest.2.trans ?_⟩
      simp only [SocketServer.addClient, List.length_append, List.length_singleton]
      omega

theorem connected_countsClients (count : Nat)
    (counts : CountsClients (reached library iSocketFd
      (List.replicate count (.epollWait (.found [connectEvent iSocketFd]))))) :
    count ≤ 255 := by
  obtain ⟨waiting, length⟩ := connected_run library count (Thread.start iSocketFd) rfl rfl
  have short := (countsClients_iff library iSocketFd _).mp counts waiting
  calc
    count = 0 + count := (Nat.zero_add count).symm
    _ = _ := length.symm
    _ ≤ 255 := short

/-- 256 clients connect and stay. -/
theorem connectionCounter_wraps :
    ¬∀ (library : JsonLibrary) (iSocketFd : Fd) (inputs before after : List Input),
      inputs = before ++ after → CountsClients (reached library iSocketFd before) := by
  intro counts
  let library : JsonLibrary := ⟨Unit, fun _ => none, fun _ _ => none, fun _ => 0⟩
  have few := connected_countsClients library 3 256
    (counts library 3 _ _ [] (List.append_nil _).symm)
  exact absurd few (by decide)

end Runs

end StudyDemo.SocketComm
