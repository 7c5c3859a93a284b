import StudyDemo.Lists.Traversal
import StudyDemo.SocketComm.Registry

/-! # The clients' records in memory

`SocketServerHandleThread` once more, with its client list as the code keeps it: records
from `malloc`, linked to each other and to the list head on the thread's stack. A turn
that follows a link of a freed record, or frees one twice, has no result. -/

namespace StudyDemo.SocketComm

open StudyDemo.Lists

/-- `malloc` may choose any address that is not in use. -/
structure Allocator where
  fresh : Finset Address → Address
  unused : ∀ used, fresh used ∉ used

/-- `tsSocketServer` with the sockets and the memory of the thread. -/
structure RecordServer where
  iSocketFd : Fd
  eState : ThreadState
  u8NumConnClient : BitVec 8
  memory : Lists.Memory
  records : Address → SocketClient
  kernel : Kernel

/-- What the thread does to the connections, and the records of refused ones. -/
inductive RecordEffect
  | connection (effect : Effect)
  | refused (record : Address)

structure RecordHandled where
  flow : Flow
  server : RecordServer
  effects : List RecordEffect

/-! ## The loop over the events -/

/-- The loops of the lists end within this many turns. -/
def RecordServer.turns (server : RecordServer) : Nat := server.memory.allocated.card

section Handling

variable (library : JsonLibrary) (allocator : Allocator) (list : Address)

def acceptRecord (event : EpollEvent) (server : RecordServer) : Option RecordHandled :=
  match event.answers.allocated with
  | none => some ⟨.done, server, []⟩
  | some content =>
      let record := allocator.fresh server.memory.allocated
      let memory := server.memory.malloc record
      match event.answers.accepted with
      | none => some ⟨.next, { server with memory := memory }, [.refused record]⟩
      | some inUse => do
          let client : SocketClient := {
            iSocketFd := server.kernel.acceptedFd (server.iSocketFd :: inUse)
            addrclient := server.kernel.connections
            csClientData := content }
          let memory ← dlListAddTail list record memory
          let server := { server with
            u8NumConnClient := server.u8NumConnClient + 1
            memory := memory
            records := Function.update server.records record client
            kernel := server.kernel.accept (server.iSocketFd :: inUse) }
          -- the length is printed
          let _ ← dlListLen server.turns list memory
          some ⟨if event.answers.controlled then .leave else .done, server,
            [.connection (.accepted client.addrclient content)]⟩

/-- The body of `dl_list_for_each_safe`: what happens to the client it stands at. -/
def clientTurn (event : EpollEvent) (record : Address) (handled : RecordHandled) :
    Option (Bool × RecordHandled) := do
  let server := handled.server
  let _ ← server.memory.read record
  let client := server.records record
  if event.fd = client.iSocketFd then
    match server.kernel.recv client.iSocketFd event.answers.received with
    | (.failed, _) => some (true, handled)
    | (.blocked, _) => some (true, ⟨.blocked, server, []⟩)
    | (.ended, _) =>
        if event.answers.controlled then do
          let memory ← dlListDel record server.memory
          let memory ← memory.free record
          some (true, ⟨.next, { server with
            u8NumConnClient := server.u8NumConnClient - 1
            memory := memory
            kernel := server.kernel.close client.iSocketFd },
            [.connection (.ended client.addrclient true)]⟩)
        else
          some (true, ⟨.done, server, [.connection (.ended client.addrclient false)]⟩)
    | (.data bytes, kernel) =>
        let data := client.csClientData.store bytes
        let sent := socketServerHandleRecvMessage library (data.text event.answers.beyond)
        some (true, ⟨.next, { server with
          records := Function.update server.records record { client with csClientData := data }
          kernel := kernel },
          (.received client.addrclient bytes event.answers.beyond ::
            sent.2.toList.map (.sent client.addrclient)).map .connection⟩)
  else
    some (false, handled)

def findRecord (event : EpollEvent) (server : RecordServer) : Option RecordHandled := do
  let length ← dlListLen server.turns list server.memory
  if length = 0 then
    some ⟨.next, server, []⟩
  else
    dlListForEachSafe (fun handled => handled.server.memory) (clientTurn library event)
      server.turns list ⟨.next, server, []⟩

def handleRecord (event : EpollEvent) (server : RecordServer) : Option RecordHandled :=
  if event.Broken then
    some ⟨.next, server, []⟩
  else if event.fd = server.iSocketFd then
    acceptRecord allocator list event server
  else
    findRecord library list event server

def handleRecords : List EpollEvent → RecordServer → Option RecordHandled
  | [], server => some ⟨.next, server, []⟩
  | event :: events, server => do
      let handled ← handleRecord library allocator list event server
      if handled.flow = .next then
        let rest ← handleRecords events handled.server
        some ⟨rest.flow, rest.server, handled.effects ++ rest.effects⟩
      else
        some handled

end Handling

/-! ## The thread -/

structure RecordThread where
  control : Control
  server : RecordServer

namespace RecordThread

variable (list : Address)

/-- What stands behind `done:`. -/
def exit (server : RecordServer) : Option RecordThread := do
  let memory ← dlListForEachSafe id releaseTurn server.turns list server.memory
  some ⟨.exited, { server with memory := memory }⟩

def loop (server : RecordServer) : Option RecordThread :=
  if server.eState = .stopped then exit list server else some ⟨.waiting, server⟩

def resume (handled : RecordHandled) : Option RecordThread :=
  match handled.flow with
  | .next => loop list handled.server
  | .leave => loop list handled.server
  | .done => exit list handled.server
  | .blocked => some ⟨.blocked, handled.server⟩

def start (iSocketFd : Fd) (records : Address → SocketClient) (links : Address → DlList) :
    Option RecordThread := do
  let memory ← dlListInit list ⟨links, {list}⟩
  some ⟨.waiting, ⟨iSocketFd, .running, 0, memory, records, ⟨[], 0⟩⟩⟩

def turn (library : JsonLibrary) (allocator : Allocator) (thread : RecordThread) :
    Input → Option (RecordThread × List RecordEffect)
  | .arrive fd bytes => some
      ({ thread with server := { thread.server with
        kernel := thread.server.kernel.arrive fd bytes } }, [])
  | .endStream fd => some
      ({ thread with server := { thread.server with
        kernel := thread.server.kernel.endStream fd } }, [])
  | .finished => some ({ thread with server := { thread.server with eState := .stopped } }, [])
  | .epollWait result =>
      if thread.control = .waiting then
        match result with
        | .error => do
            let thread ← exit list thread.server
            some (thread, [])
        | .timeout => do
            let thread ← loop list thread.server
            some (thread, [])
        | .found events => do
            let handled ← handleRecords library allocator list events thread.server
            let thread ← resume list handled
            some (thread, handled.effects)
      else
        some (thread, [])

def run (library : JsonLibrary) (allocator : Allocator) :
    List Input → RecordThread → Option (RecordThread × List RecordEffect)
  | [], thread => some (thread, [])
  | input :: inputs, thread => do
      let (thread, effects) ← turn list library allocator thread input
      let (thread, later) ← run library allocator inputs thread
      some (thread, effects ++ later)

end RecordThread

/-! ## The records show the client list -/

/-- The records on the list are the clients of the server; the rest of the memory holds
the records of refused connections. -/
structure Represents (list : Address) (refused : List Address) (nodes : List Address)
    (concrete : RecordServer) (server : SocketServer) : Prop where
  iSocketFd : concrete.iSocketFd = server.iSocketFd
  eState : concrete.eState = server.eState
  number : concrete.u8NumConnClient = server.u8NumConnClient
  kernel : concrete.kernel = server.kernel
  ring : Rings.Ring concrete.memory.Adjacent list nodes
  clients : server.clients = nodes.map concrete.records
  distinct : (list :: (nodes ++ refused)).Nodup
  allocated : ∀ address, address ∈ concrete.memory.allocated ↔
    address ∈ list :: (nodes ++ refused)

/-- The records that stay behind. -/
def refusedRecords (effects : List RecordEffect) : List Address :=
  effects.filterMap fun
    | .connection _ => none
    | .refused record => some record

/-- What the thread does to the connections. -/
def connectionEffects (effects : List RecordEffect) : List Effect :=
  effects.filterMap fun
    | .connection effect => some effect
    | .refused _ => none

namespace Represents

variable {library : JsonLibrary} {allocator : Allocator} {list : Address}
variable {refused nodes : List Address} {concrete : RecordServer} {server : SocketServer}

theorem turns_eq (represents : Represents list refused nodes concrete server) :
    concrete.turns = 1 + (nodes.length + refused.length) := by
  have equal : concrete.memory.allocated = (list :: (nodes ++ refused)).toFinset := by
    ext address
    rw [represents.allocated, List.mem_toFinset]
  rw [RecordServer.turns, equal, List.toFinset_card_of_nodup represents.distinct]
  simp [Nat.add_comm]

theorem enough (represents : Represents list refused nodes concrete server) :
    nodes.length ≤ concrete.turns := by
  rw [represents.turns_eq]
  omega

theorem length_eq (represents : Represents list refused nodes concrete server) :
    dlListLen concrete.turns list concrete.memory =
      some (BitVec.ofNat 32 server.clients.length) := by
  rw [represents.clients, List.length_map]
  exact (observed_of_ring represents.ring).length _ represents.enough

theorem find?_clients (represents : Represents list refused nodes concrete server) (fd : Fd) :
    server.client fd = (nodes.find? fun node => (concrete.records node).iSocketFd = fd).map
      concrete.records := by
  rw [SocketServer.client, represents.clients, List.find?_map]
  rfl

end Represents

end StudyDemo.SocketComm
