import Mathlib.Data.Fintype.EquivFin
import StudyDemo.SocketComm.ClientRecords
import StudyDemo.SocketComm.Counter
import StudyDemo.SocketComm.Requests

/-! # The client list never leaves its records

The thread with its records in memory does what the thread with a plain client list
does, and never looks at a record that is not its own any more. -/

namespace StudyDemo.SocketComm

open StudyDemo.Lists Rings

theorem adjacent_malloc {memory : Lists.Memory} {record left right : Address}
    (adjacent : memory.Adjacent left right) : (memory.malloc record).Adjacent left right := by
  rw [Memory.adjacent_iff] at adjacent ⊢
  simp [Memory.malloc, adjacent]

section Events

variable {library : JsonLibrary} {list : Address}
variable {refused nodes : List Address} {concrete : RecordServer} {server : SocketServer}

/-- The handling of an event in memory does what it does to the plain list. -/
structure Follows (list : Address) (refused : List Address) (handled : RecordHandled)
    (plain : Handled) : Prop where
  flow : handled.flow = plain.flow
  effects : connectionEffects handled.effects = plain.effects
  server : ∃ nodes, Represents list (refused ++ refusedRecords handled.effects) nodes
    handled.server plain.server

theorem Follows.unchanged (represents : Represents list refused nodes concrete server)
    (flow : Flow) : Follows list refused ⟨flow, concrete, []⟩ ⟨flow, server, []⟩ where
  flow := rfl
  effects := rfl
  server := ⟨nodes, by simpa [refusedRecords] using represents⟩

theorem Represents.refuse (represents : Represents list refused nodes concrete server)
    (allocator : Allocator) :
    Represents list (refused ++ [allocator.fresh concrete.memory.allocated]) nodes
      { concrete with
        memory := concrete.memory.malloc (allocator.fresh concrete.memory.allocated) }
      server where
  iSocketFd := represents.iSocketFd
  eState := represents.eState
  number := represents.number
  kernel := represents.kernel
  ring := represents.ring.kept fun _ _ _ _ => adjacent_malloc
  clients := represents.clients
  distinct := by
    have unused := allocator.unused concrete.memory.allocated
    rw [represents.allocated] at unused
    have distinct := represents.distinct
    simp only [List.nodup_cons, List.nodup_append, List.mem_append, List.mem_cons] at *
    grind
  allocated := by
    intro address
    simp only [Memory.malloc, Finset.mem_insert, represents.allocated, List.mem_cons,
      List.mem_append]
    tauto

theorem Represents.add (represents : Represents list refused nodes concrete server)
    (allocator : Allocator) (inUse : List Fd) (content : ClientData) {record : Address}
    (isRecord : allocator.fresh concrete.memory.allocated = record) :
    ∃ memory, dlListAddTail list record (concrete.memory.malloc record) = some memory ∧
      Represents list refused (nodes ++ [record])
        { concrete with
          u8NumConnClient := concrete.u8NumConnClient + 1
          memory := memory
          records := Function.update concrete.records record {
            iSocketFd := concrete.kernel.acceptedFd (concrete.iSocketFd :: inUse)
            addrclient := concrete.kernel.connections
            csClientData := content }
          kernel := concrete.kernel.accept (concrete.iSocketFd :: inUse) }
        (server.addClient inUse content) := by
  have refuse := represents.refuse allocator
  rw [isRecord] at refuse
  have distinct := refuse.distinct
  have unused : record ∉ list :: (nodes ++ refused) := by
    simp only [List.nodup_cons, List.nodup_append, List.mem_append, List.mem_cons] at distinct ⊢
    grind
  simp only [List.mem_cons, List.mem_append, not_or] at unused
  have allocated : record ∈ (concrete.memory.malloc record).allocated := by simp [Memory.malloc]
  have last := lastOf_mem list nodes
  rw [List.mem_cons] at last
  have whole : Ring (concrete.memory.malloc record).Adjacent list (nodes ++ []) := by
    rw [List.append_nil]
    exact refuse.ring
  refine ⟨_, dlListAddTail_eq refuse.ring.links_head.2 allocated (by grind) unused.1, ?_⟩
  constructor
  · exact represents.iSocketFd
  · exact represents.eState
  · simp [SocketServer.addClient, represents.number]
  · simp [SocketServer.addClient, represents.kernel, represents.iSocketFd]
  · exact ring_linked whole allocated (by simp; tauto)
  · have same : ∀ node ∈ nodes, node ≠ record := fun node member equal =>
      unused.2.1 (equal ▸ member)
    simp only [SocketServer.addClient, represents.clients, represents.kernel,
      represents.iSocketFd, List.map_append, List.map_cons, List.map_nil, Function.update_self]
    congr 1
    exact List.map_congr_left fun node member => by rw [Function.update_of_ne (same node member)]
  · simp only [List.nodup_cons, List.nodup_append, List.mem_append, List.mem_cons] at distinct ⊢
    grind
  · intro address
    have before := represents.allocated address
    simp only [Memory.linked, Memory.malloc, Finset.mem_insert, before, List.mem_cons,
      List.mem_append]
    grind

theorem acceptRecord_follows (represents : Represents list refused nodes concrete server)
    (allocator : Allocator) (event : EpollEvent) :
    ∃ handled, acceptRecord allocator list event concrete = some handled ∧
      Follows list refused handled (handleAccept event server) := by
  rw [acceptRecord, handleAccept]
  cases event.answers.allocated with
  | none => exact ⟨_, rfl, Follows.unchanged represents .done⟩
  | some content =>
      cases event.answers.accepted with
      | none =>
          exact ⟨_, rfl, rfl, rfl, nodes, represents.refuse allocator⟩
      | some inUse =>
          obtain ⟨memory, added, after⟩ := represents.add allocator inUse content rfl
          simp only [added, Option.bind_eq_bind, Option.bind_some, after.length_eq]
          refine ⟨_, rfl, rfl, ?_, nodes ++ [allocator.fresh concrete.memory.allocated], ?_⟩
          · simp [connectionEffects, represents.kernel]
          · simpa [refusedRecords] using after

theorem Represents.client_eq (represents : Represents list refused nodes concrete server)
    (consistent : Consistent server) {record : Address} (listed : record ∈ nodes) :
    server.client (concrete.records record).iSocketFd = some (concrete.records record) := by
  have member : concrete.records record ∈ server.clients := by
    rw [represents.clients]
    exact List.mem_map_of_mem listed
  cases found : server.client (concrete.records record).iSocketFd with
  | none =>
      have none_ := List.find?_eq_none.mp found _ member
      simp at none_
  | some client =>
      obtain ⟨isClient, same⟩ := SocketServer.client_fd found
      rw [List.inj_on_of_nodup_map consistent.clientFds isClient member same]

theorem Represents.remove {before after : List Address} {record : Address}
    (represents : Represents list refused (before ++ record :: after) concrete server)
    (consistent : Consistent server) :
    ∃ deleted, dlListDel record concrete.memory = some deleted ∧
      deleted.free record = some (deleted.without record) ∧
      Represents list refused (before ++ after)
        { concrete with
          u8NumConnClient := concrete.u8NumConnClient - 1
          memory := deleted.without record
          kernel := concrete.kernel.close (concrete.records record).iSocketFd }
        (server.remove (concrete.records record).iSocketFd) := by
  obtain ⟨deleted, isDeleted, freed, allocated, ring⟩ := ring_released represents.ring
  refine ⟨deleted, isDeleted, freed, represents.iSocketFd, represents.eState, ?_, ?_, ring, ?_,
    ?_, ?_⟩
  · simp [SocketServer.remove, represents.number]
  · simp [SocketServer.remove, represents.kernel]
  · have fds := consistent.clientFds
    simp only [represents.clients, List.map_append, List.map_cons, List.nodup_append,
      List.nodup_cons, List.mem_map, List.mem_cons] at fds
    simp only [SocketServer.remove, represents.clients, List.map_append, List.map_cons,
      List.filter_append, ne_eq, decide_not]
    rw [List.filter_cons_of_neg (by simp)]
    congr 1
    · refine List.filter_eq_self.mpr fun client member => ?_
      obtain ⟨node, isNode, rfl⟩ := List.mem_map.mp member
      have other := fds.2.2 _ ⟨_, ⟨node, isNode, rfl⟩, rfl⟩ _ (Or.inl rfl)
      simpa using other
    · refine List.filter_eq_self.mpr fun client member => ?_
      obtain ⟨node, isNode, rfl⟩ := List.mem_map.mp member
      have other : ¬(concrete.records node).iSocketFd = (concrete.records record).iSocketFd :=
        fun same => fds.2.1.1 ⟨_, ⟨node, isNode, rfl⟩, same⟩
      simpa using other
  · have distinct := represents.distinct
    simp only [List.nodup_cons, List.nodup_append, List.mem_append, List.mem_cons] at distinct ⊢
    grind
  · intro address
    have distinct := represents.distinct
    have before := represents.allocated address
    simp only [List.nodup_cons, List.nodup_append, List.mem_append, List.mem_cons] at distinct
    simp only [Lists.Memory.without, Finset.mem_erase, allocated, before, List.mem_cons,
      List.mem_append]
    grind

theorem Represents.store (represents : Represents list refused nodes concrete server)
    (consistent : Consistent server) {record : Address} (listed : record ∈ nodes)
    (bytes : List UCHAR) (kernel : Kernel) :
    Represents list refused nodes
      { concrete with
        records := Function.update concrete.records record
          { concrete.records record with
            csClientData := (concrete.records record).csClientData.store bytes }
        kernel := kernel }
      (server.store (concrete.records record).iSocketFd bytes kernel) where
  iSocketFd := represents.iSocketFd
  eState := represents.eState
  number := represents.number
  kernel := rfl
  ring := represents.ring
  clients := by
    simp only [SocketServer.store, represents.clients, List.map_map]
    refine List.map_congr_left fun node member => ?_
    have fds := consistent.clientFds
    rw [represents.clients, List.map_map] at fds
    by_cases same : node = record
    · subst same
      simp
    · have other : (concrete.records node).iSocketFd ≠ (concrete.records record).iSocketFd :=
        fun equal => same (List.inj_on_of_nodup_map fds member listed equal)
      simp [other, Function.update_of_ne same]
  distinct := represents.distinct
  allocated := represents.allocated

theorem clientTurn_follows (library : JsonLibrary)
    (represents : Represents list refused nodes concrete server)
    (consistent : Consistent server) {event : EpollEvent} {record : Address}
    (listed : record ∈ nodes) (same : (concrete.records record).iSocketFd = event.fd) :
    ∃ handled, clientTurn library event record ⟨.next, concrete, []⟩ = some (true, handled) ∧
      Follows list refused handled (handleClient library event server) := by
  have isAllocated : record ∈ concrete.memory.allocated :=
    Memory.allocated_of_ring represents.ring (List.mem_cons_of_mem list listed)
  have found := represents.client_eq consistent listed
  rw [same] at found
  simp only [clientTurn, Lists.Memory.read, isAllocated, if_true, Option.bind_eq_bind,
    Option.bind_some, same, represents.kernel, handleClient, found]
  cases result : server.kernel.recv event.fd event.answers.received with
  | mk received kernel =>
      cases received with
      | failed => exact ⟨_, rfl, Follows.unchanged represents .next⟩
      | blocked => exact ⟨_, rfl, Follows.unchanged represents .blocked⟩
      | ended =>
          cases event.answers.controlled with
          | false =>
              exact ⟨_, rfl, rfl, rfl, nodes, by simpa [refusedRecords] using represents⟩
          | true =>
              obtain ⟨before, after, rfl⟩ := List.append_of_mem listed
              obtain ⟨deleted, isDeleted, freed, removed⟩ := represents.remove consistent
              simp only [isDeleted, freed, Option.bind_some, if_true]
              refine ⟨_, rfl, rfl, rfl, before ++ after, ?_⟩
              simpa [refusedRecords, same, represents.kernel] using removed
      | data bytes =>
          refine ⟨_, rfl, rfl, ?_, nodes, ?_⟩
          · simp [connectionEffects]
          · have stored := represents.store consistent listed bytes kernel
            simpa [refusedRecords, same] using stored

theorem findRecord_follows (library : JsonLibrary)
    (represents : Represents list refused nodes concrete server)
    (consistent : Consistent server) (few : server.clients.length < 2 ^ 32)
    (event : EpollEvent) :
    ∃ handled, findRecord library list event concrete = some handled ∧
      Follows list refused handled (handleClient library event server) := by
  have start := represents.find?_clients event.fd
  simp only [findRecord, represents.length_eq, Option.bind_eq_bind, Option.bind_some]
  split_ifs with empty
  · have noClients : server.clients = [] := by
      have zero := congrArg BitVec.toNat empty
      rw [BitVec.toNat_ofNat, Nat.mod_eq_of_lt few] at zero
      exact List.eq_nil_of_length_eq_zero zero
    refine ⟨_, rfl, ?_⟩
    have absent : server.client event.fd = none := by simp [SocketServer.client, noClients]
    rw [handleClient, absent]
    exact Follows.unchanged represents .next
  · have start' : Ring (RecordHandled.server ⟨.next, concrete, []⟩).memory.Adjacent list nodes :=
      represents.ring
    rw [dlListForEachSafe_finds (fun node => (concrete.records node).iSocketFd = event.fd)
      (fun node => ((clientTurn library event node ⟨.next, concrete, []⟩).map Prod.snd).getD
        ⟨.next, concrete, []⟩) start' ?_ ?_ represents.enough]
    · refine ⟨_, rfl, ?_⟩
      cases found : nodes.find? fun node => (concrete.records node).iSocketFd = event.fd with
      | none =>
          rw [found, Option.map_none] at start
          rw [handleClient, start]
          exact Follows.unchanged represents .next
      | some node =>
          have member := List.mem_of_find?_eq_some found
          have same : (concrete.records node).iSocketFd = event.fd := by
            simpa using List.find?_some found
          obtain ⟨handled, ran, follows⟩ :=
            clientTurn_follows library represents consistent member same
          simpa [ran] using follows
    · intro node member other
      have isAllocated : node ∈ concrete.memory.allocated :=
        Memory.allocated_of_ring represents.ring (List.mem_cons_of_mem list member)
      have different : event.fd ≠ (concrete.records node).iSocketFd :=
        fun same => of_decide_eq_false other same.symm
      simp [clientTurn, Lists.Memory.read, isAllocated, different]
    · intro node member matched
      obtain ⟨handled, ran, -⟩ :=
        clientTurn_follows library represents consistent member (of_decide_eq_true matched)
      simp [ran]

theorem handleRecord_follows (library : JsonLibrary) (allocator : Allocator)
    (represents : Represents list refused nodes concrete server)
    (consistent : Consistent server) (few : server.clients.length < 2 ^ 32)
    (event : EpollEvent) :
    ∃ handled, handleRecord library allocator list event concrete = some handled ∧
      Follows list refused handled (handleEvent library event server) := by
  rw [handleRecord, handleEvent, represents.iSocketFd]
  split_ifs
  · exact ⟨_, rfl, Follows.unchanged represents .next⟩
  · exact acceptRecord_follows represents allocator event
  · exact findRecord_follows library represents consistent few event

theorem handleRecords_follows (library : JsonLibrary) (allocator : Allocator)
    (represents : Represents list refused nodes concrete server)
    (consistent : Consistent server) (few : server.clients.length < 2 ^ 32)
    (events : List EpollEvent) :
    ∃ handled, handleRecords library allocator list events concrete = some handled ∧
      Follows list refused handled (handleEvents library events server) := by
  induction events generalizing refused nodes concrete server with
  | nil => exact ⟨_, rfl, Follows.unchanged represents .next⟩
  | cons event events induction =>
      obtain ⟨handled, ran, follows⟩ :=
        handleRecord_follows library allocator represents consistent few event
      obtain ⟨nodes, represents⟩ := follows.server
      have handles := handles_handleEvent library event server
      simp only [handleRecords, handleEvents, ran, Option.bind_eq_bind, Option.bind_some]
      rw [← follows.flow]
      split_ifs with next
      · have shorter := handles.length_le (follows.flow.symm.trans next)
        obtain ⟨rest, later, after⟩ :=
          induction represents (handles.consistent consistent) (by omega)
        simp only [later, Option.bind_some]
        obtain ⟨nodes, represents⟩ := after.server
        refine ⟨_, rfl, after.flow, ?_, nodes, ?_⟩
        · simp [connectionEffects, List.filterMap_append, ← follows.effects, ← after.effects]
        · simpa [refusedRecords, List.filterMap_append] using represents
      · exact ⟨_, rfl, follows⟩

end Events

/-! ## Whole runs -/

section Runs

variable {library : JsonLibrary} {allocator : Allocator} {list : Address}
variable {refused : List Address}

/-- The thread with its records in memory stands where the plain one does. -/
structure Agrees (list : Address) (refused : List Address) (concrete : RecordThread)
    (thread : Thread) : Prop where
  control : concrete.control = thread.control
  server : ∃ nodes, Represents list refused nodes concrete.server thread.server

theorem exit_agrees {nodes : List Address} {concrete : RecordServer} {server : SocketServer}
    (represents : Represents list refused nodes concrete server) :
    ∃ thread, RecordThread.exit list concrete = some thread ∧
      Agrees list refused thread (Thread.exit server) := by
  obtain ⟨memory, released, ring, allocated⟩ := release_list represents.ring represents.enough
  simp only [RecordThread.exit, released, Option.bind_eq_bind, Option.bind_some]
  refine ⟨_, rfl, rfl, [], represents.iSocketFd, represents.eState, represents.number,
    represents.kernel, ring, rfl, ?_, ?_⟩
  · have distinct := represents.distinct
    simp only [List.nodup_cons, List.nodup_append, List.mem_append, List.nil_append] at distinct ⊢
    grind
  · intro address
    have distinct := represents.distinct
    have before := represents.allocated address
    simp only [List.nodup_cons, List.nodup_append, List.mem_append] at distinct
    simp only [allocated, Finset.mem_sdiff, before, List.mem_toFinset, List.mem_cons,
      List.mem_append, List.nil_append]
    grind

theorem loop_agrees {nodes : List Address} {concrete : RecordServer} {server : SocketServer}
    (represents : Represents list refused nodes concrete server) :
    ∃ thread, RecordThread.loop list concrete = some thread ∧
      Agrees list refused thread (Thread.loop server) := by
  rw [RecordThread.loop, Thread.loop, represents.eState]
  split_ifs
  · exact exit_agrees represents
  · exact ⟨_, rfl, rfl, nodes, represents⟩

theorem resume_agrees {handled : RecordHandled} {plain : Handled}
    (follows : Follows list refused handled plain) :
    ∃ thread, RecordThread.resume list handled = some thread ∧
      Agrees list (refused ++ refusedRecords handled.effects) thread (Thread.resume plain) := by
  obtain ⟨nodes, represents⟩ := follows.server
  rw [RecordThread.resume, Thread.resume, ← follows.flow]
  cases handled.flow with
  | next => exact loop_agrees represents
  | leave => exact loop_agrees represents
  | done => exact exit_agrees represents
  | blocked => exact ⟨_, rfl, rfl, nodes, represents⟩

theorem Represents.withKernel {nodes : List Address} {concrete : RecordServer}
    {server : SocketServer} (represents : Represents list refused nodes concrete server)
    (kernel : Kernel) :
    Represents list refused nodes { concrete with kernel := kernel }
      { server with kernel := kernel } :=
  ⟨represents.iSocketFd, represents.eState, represents.number, rfl, represents.ring,
    represents.clients, represents.distinct, represents.allocated⟩

theorem Represents.withState {nodes : List Address} {concrete : RecordServer}
    {server : SocketServer} (represents : Represents list refused nodes concrete server)
    (eState : ThreadState) :
    Represents list refused nodes { concrete with eState := eState }
      { server with eState := eState } :=
  ⟨represents.iSocketFd, rfl, represents.number, represents.kernel, represents.ring,
    represents.clients, represents.distinct, represents.allocated⟩

/-- What an input lets the plain thread do to the connections. -/
def plainEffects (library : JsonLibrary) (thread : Thread) (input : Input) : List Effect :=
  (socketServerHandleThread library thread input).2.getD []

theorem turn_agrees (library : JsonLibrary) (allocator : Allocator) {concrete : RecordThread}
    {thread : Thread} (agrees : Agrees list refused concrete thread)
    (consistent : thread.control ≠ .exited → Consistent thread.server)
    (few : thread.server.clients.length < 2 ^ 32) (input : Input) :
    ∃ after effects, RecordThread.turn list library allocator concrete input =
        some (after, effects) ∧
      connectionEffects effects = plainEffects library thread input ∧
      Agrees list (refused ++ refusedRecords effects) after
        (socketServerHandleThread library thread input).1 := by
  obtain ⟨nodes, represents⟩ := agrees.server
  have unchanged : refused ++ refusedRecords [] = refused := List.append_nil refused
  cases input with
  | arrive fd bytes =>
      refine ⟨_, [], rfl, rfl, ?_⟩
      rw [unchanged, represents.kernel]
      exact ⟨agrees.control, nodes, represents.withKernel _⟩
  | endStream fd =>
      refine ⟨_, [], rfl, rfl, ?_⟩
      rw [unchanged, represents.kernel]
      exact ⟨agrees.control, nodes, represents.withKernel _⟩
  | finished =>
      refine ⟨_, [], rfl, rfl, ?_⟩
      rw [unchanged]
      exact ⟨agrees.control, nodes, represents.withState .stopped⟩
  | epollWait result =>
      dsimp only [RecordThread.turn, socketServerHandleThread, plainEffects]
      rw [agrees.control]
      split_ifs with waiting
      · cases result with
        | error =>
            obtain ⟨after, ran, exited⟩ := exit_agrees represents
            exact ⟨after, [], by simp [ran], rfl, by rw [unchanged]; exact exited⟩
        | timeout =>
            obtain ⟨after, ran, looped⟩ := loop_agrees represents
            exact ⟨after, [], by simp [ran], rfl, by rw [unchanged]; exact looped⟩
        | found events =>
            have here := consistent (by rw [waiting]; exact nofun)
            obtain ⟨handled, ran, follows⟩ :=
              handleRecords_follows library allocator represents here few events
            obtain ⟨after, resumed, agree⟩ := resume_agrees follows
            exact ⟨after, handled.effects, by simp [ran, resumed], follows.effects, agree⟩
      · exact ⟨concrete, [], rfl, rfl, by rw [unchanged]; exact agrees⟩

/-- Whenever an input comes there are fewer clients than the length of a list counts. -/
def FewClients (library : JsonLibrary) (thread : Thread) (inputs : List Input) : Prop :=
  Execution.EachCall (socketServerHandleThread library)
    (fun thread _ => thread.server.clients.length < 2 ^ 32) thread inputs

instance (library : JsonLibrary) (thread : Thread) (inputs : List Input) :
    Decidable (FewClients library thread inputs) :=
  inferInstanceAs (Decidable (Execution.EachCall _ _ _ _))

theorem run_agrees (allocator : Allocator) {concrete : RecordThread} {thread : Thread}
    (agrees : Agrees list refused concrete thread)
    (sound : Sound (fun _ => True) thread) {inputs : List Input}
    (few : FewClients library thread inputs) :
    ∃ after done, RecordThread.run list library allocator inputs concrete = some (after, done) ∧
      connectionEffects done = effects library thread inputs ∧
      Agrees list (refused ++ refusedRecords done) after
        (Execution.finalState (socketServerHandleThread library) thread inputs) := by
  induction inputs generalizing refused concrete thread with
  | nil =>
      refine ⟨concrete, [], rfl, rfl, ?_⟩
      rw [show refusedRecords [] = [] from rfl, List.append_nil]
      exact agrees
  | cons input inputs induction =>
      obtain ⟨short, few⟩ := Execution.eachCall_cons.mp few
      have trivially : Stable library fun _ => True :=
        ⟨fun _ _ _ _ _ _ => trivial, fun _ _ _ _ _ _ => trivial⟩
      obtain ⟨middle, first, ran, here, agree⟩ := turn_agrees library allocator agrees
        (fun running => (sound running).1) short input
      obtain ⟨after, later, rest, there, final⟩ := induction agree
        (trivially.step sound (turns_socketServerHandleThread library thread input)) few
      refine ⟨after, first ++ later, by simp [RecordThread.run, ran, rest], ?_, ?_⟩
      · rw [effects_cons, ← there, connectionEffects, List.filterMap_append]
        exact congrArg (· ++ connectionEffects later) here
      · rw [refusedRecords, List.filterMap_append, ← List.append_assoc]
        exact final

/-- A thread that has exited serves no client. -/
def Emptied (thread : Thread) : Prop :=
  thread.control = .exited → thread.server.clients = []

theorem emptied_loop (server : SocketServer) : Emptied (Thread.loop server) := by
  intro exited
  rw [Thread.loop] at exited ⊢
  split_ifs at exited ⊢
  rfl

theorem emptied_turn {thread : Thread} (emptied : Emptied thread)
    {turned : Thread × Option (List Effect)} (turns : Turns library thread turned) :
    Emptied turned.1 := by
  cases turns with
  | passed => exact emptied
  | exited => exact fun _ => rfl
  | idle => exact emptied_loop thread.server
  | handled _ events =>
      intro exited
      rw [Thread.resume] at exited ⊢
      cases flow : (handleEvents library events thread.server).flow <;>
        simp only [flow] at exited ⊢
      · exact emptied_loop _ exited
      · exact emptied_loop _ exited
      · rfl
      · cases exited

theorem emptied_reached (library : JsonLibrary) (iSocketFd : Fd) (inputs : List Input) :
    Emptied (reached library iSocketFd inputs) :=
  Execution.invariant_finalState (fun _ _ => True) Emptied
    (fun _ _ _ emptied => emptied_turn emptied (turns_socketServerHandleThread _ _ _))
    (fun _ _ _ _ => trivial) (fun exited => nomatch exited)

theorem start_agrees (list : Address) (iSocketFd : Fd) (records : Address → SocketClient)
    (links : Address → DlList) :
    ∃ start, RecordThread.start list iSocketFd records links = some start ∧
      Agrees list [] start (Thread.start iSocketFd) := by
  have allocated : list ∈ (⟨links, {list}⟩ : Lists.Memory).allocated := by simp
  simp only [RecordThread.start, dlListInit_eq allocated, Option.bind_eq_bind, Option.bind_some]
  refine ⟨_, rfl, rfl, [], rfl, rfl, rfl, rfl, ring_initialised allocated, rfl, ?_, ?_⟩
  · simp
  · simp [Memory.initialised]

/-- Whatever the peers do, the thread never follows a link that is not there and frees no
record twice. It does to the connections what the thread with a plain list does, the list
holds the clients' records, and only the records of refused connections are left besides:
at the end, every record of a client is freed. -/
theorem records_safe (library : JsonLibrary) (allocator : Allocator) (list : Address)
    (iSocketFd : Fd) (records : Address → SocketClient) (links : Address → DlList)
    (inputs : List Input) (few : FewClients library (Thread.start iSocketFd) inputs) :
    ∃ start after done nodes,
      RecordThread.start list iSocketFd records links = some start ∧
      RecordThread.run list library allocator inputs start = some (after, done) ∧
      connectionEffects done = effects library (Thread.start iSocketFd) inputs ∧
      after.control = (reached library iSocketFd inputs).control ∧
      Represents list (refusedRecords done) nodes after.server
        (reached library iSocketFd inputs).server ∧
      (after.control = .exited → nodes = []) := by
  obtain ⟨start, started, agrees⟩ := start_agrees list iSocketFd records links
  obtain ⟨after, done, ran, same, control, nodes, represents⟩ :=
    run_agrees allocator agrees (fun _ => ⟨consistent_start iSocketFd, trivial⟩) few
  refine ⟨start, after, done, nodes, started, ran, same, control, represents, fun exited => ?_⟩
  have empty := emptied_reached library iSocketFd inputs (control.symm.trans exited)
  exact List.map_eq_nil_iff.mp (represents.clients.symm.trans empty)

def firstUnused : Allocator where
  fresh used := Nat.find (Infinite.exists_notMem_finset used)
  unused used := Nat.find_spec (Infinite.exists_notMem_finset used)

/-- A library that reads no message. -/
def readsNothing : JsonLibrary where
  Object := Unit
  tokenerParse _ := none
  objectGet _ _ := none
  getInt _ := 0

/-- One client is accepted, another one is refused, the first one leaves, and the thread
is stopped. -/
def acceptAndRefuse : List Input :=
  let event (fd : Fd) (accepted : Option (List Fd)) : EpollEvent :=
    ⟨fd, epollIn, ⟨some emptyMemory, accepted, true, true, []⟩⟩
  [.epollWait (.found [event 3 (some [])]), .epollWait (.found [event 3 none]), .endStream 0,
    .epollWait (.found [event 0 none]), .finished, .epollWait .timeout]

theorem records_safe_refusing :
    ∃ start after done, RecordThread.start 0 3 (fun _ => ⟨0, 0, emptyMemory⟩)
    (fun _ => ⟨none, none⟩) =
        some start ∧
      RecordThread.run 0 readsNothing firstUnused acceptAndRefuse start = some (after, done) ∧
      after.control = .exited ∧
      ∀ address, address ∈ after.server.memory.allocated ↔
        address ∈ 0 :: ([] ++ refusedRecords done) := by
  obtain ⟨start, after, done, nodes, started, ran, -, control, represents, ended⟩ :=
    records_safe readsNothing firstUnused 0 3 (fun _ => ⟨0, 0, emptyMemory⟩) (fun _ => ⟨none, none⟩)
      acceptAndRefuse (by decide)
  have exited : after.control = .exited := control.trans (by decide)
  obtain rfl := ended exited
  exact ⟨start, after, done, started, ran, exited, represents.allocated⟩

end Runs

end StudyDemo.SocketComm
