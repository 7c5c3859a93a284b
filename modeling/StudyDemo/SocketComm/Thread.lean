import Mathlib.Data.BitVec
import StudyDemo.Foundation.Execution
import StudyDemo.SocketComm.Kernel

/-! # The server thread

`SocketServerHandleThread` accepts clients, reads their requests and answers them,
one list of events of `epoll_wait` after the other. The system calls it makes while
it handles an event answer as the event says. -/

namespace StudyDemo.SocketComm

/-! ## Messages -/

/-- What the server uses of the JSON library. -/
structure JsonLibrary where
  Object : Type
  /-- `json_tokener_parse`; `none` is `NULL`. -/
  tokenerParse : List UCHAR → Option Object
  /-- `json_object_object_get`; `none` is `NULL`. -/
  objectGet : Object → String → Option Object
  /-- `json_object_get_int`. -/
  getInt : Object → Int

inductive SocketStatus
  | ok
  | errorFormat
  deriving DecidableEq

inductive SocketHandle
  | ok
  | error
  deriving DecidableEq

/-- The number of an enumeration constant. -/
def SocketHandle.value : SocketHandle → Int
  | .ok => 0
  | .error => 1

/-- The object that `SocketServerSendMessage` sends. -/
structure Reply where
  status : Int
  sequence : Int
  description : String
  deriving DecidableEq

def socketServerSendMessage (eSocketHandle : SocketHandle) (psMessage : String)
    (iSequenceNo : Int) : Reply where
  status := eSocketHandle.value
  sequence := iSequenceNo
  description := psMessage

/-- `SocketServerHandleRecvMessage`: the status it returns, and what it sends. -/
def socketServerHandleRecvMessage (library : JsonLibrary) (psRecvMessage : List UCHAR) :
    SocketStatus × Option Reply :=
  match library.tokenerParse psRecvMessage with
  | none => (.errorFormat, none)
  | some psJsonRecvMessage =>
      match library.objectGet psJsonRecvMessage "status" with
      | none => (.ok, none)
      | some status =>
          if library.getInt status = 0 then
            match library.objectGet psJsonRecvMessage "sequence" with
            | none => (.ok, none)
            | some sequence =>
                match library.objectGet psJsonRecvMessage "description" with
                | none => (.ok, none)
                | some _ => (.ok, some (socketServerSendMessage .ok "Recv Successfully"
                    (library.getInt sequence)))
          else
            (.ok, none)

/-! ## The client list -/

/-- `csClientData`: as many bytes as the buffer holds, whatever they are. -/
abbrev ClientData := { bytes : List UCHAR // bytes.length = MXBF }

/-- Received bytes stand over those that were there. -/
def ClientData.store (data : ClientData) (bytes : List UCHAR) : ClientData where
  val := (bytes ++ data.val.drop bytes.length).take MXBF
  property := by
    have full := data.property
    rw [List.length_take, List.length_append, List.length_drop]
    omega

/-- The string that starts in the buffer. Nothing ends it there, so it may go on
in the bytes that stand behind the buffer. -/
def ClientData.text (data : ClientData) (beyond : List UCHAR) : List UCHAR :=
  (data.val ++ beyond).takeWhile (· ≠ 0)

/-- `tsSocketClient`. The address that `accept` stores tells the connections apart. -/
structure SocketClient where
  iSocketFd : Fd
  addrclient : Nat
  csClientData : ClientData
  deriving DecidableEq

/-- `teState`. -/
inductive ThreadState
  | stopped
  | running
  | stopping
  deriving DecidableEq

/-- `tsSocketServer` with the thread's client list and the sockets. -/
structure SocketServer where
  iSocketFd : Fd
  eState : ThreadState
  u8NumConnClient : BitVec 8
  clients : List SocketClient
  kernel : Kernel
  deriving DecidableEq

/-! ## Events -/

def epollIn : BitVec 32 := 0x001
def epollErr : BitVec 32 := 0x008
def epollHup : BitVec 32 := 0x010

/-- The answers of the system calls that the handling of one event makes: the
memory `malloc` returns, the descriptors in use elsewhere when `accept` succeeds,
whether `epoll_ctl` and `recv` succeed, and what stands behind the buffer. -/
structure Answers where
  allocated : Option ClientData
  accepted : Option (List Fd)
  controlled : Bool
  received : Bool
  beyond : List UCHAR
  deriving DecidableEq

structure EpollEvent where
  fd : Fd
  events : BitVec 32
  answers : Answers
  deriving DecidableEq

/-- `events & EPOLLERR` or `events & EPOLLHUP`. -/
def EpollEvent.Broken (event : EpollEvent) : Prop :=
  event.events &&& epollErr ≠ 0 ∨ event.events &&& epollHup ≠ 0

instance (event : EpollEvent) : Decidable event.Broken :=
  inferInstanceAs (Decidable (_ ∨ _))

/-- How the handling of an event leaves the body of the loop. -/
inductive Flow
  | next
  | leave
  | done
  | blocked
  deriving DecidableEq

/-- What the thread does to the connections. -/
inductive Effect
  | accepted (connection : Nat) (memory : ClientData)
  | received (connection : Nat) (bytes beyond : List UCHAR)
  | sent (connection : Nat) (reply : Reply)
  | ended (connection : Nat) (deleted : Bool)
  deriving DecidableEq

structure Handled where
  flow : Flow
  server : SocketServer
  effects : List Effect

namespace SocketServer

/-- The entry of an accepted connection goes to the end of the list. -/
def addClient (server : SocketServer) (inUse : List Fd) (memory : ClientData) : SocketServer :=
  { server with
    u8NumConnClient := server.u8NumConnClient + 1
    clients := server.clients ++ [{
      iSocketFd := server.kernel.acceptedFd (server.iSocketFd :: inUse)
      addrclient := server.kernel.connections
      csClientData := memory }]
    kernel := server.kernel.accept (server.iSocketFd :: inUse) }

def remove (server : SocketServer) (fd : Fd) : SocketServer :=
  { server with
    u8NumConnClient := server.u8NumConnClient - 1
    clients := server.clients.filter fun client => client.iSocketFd ≠ fd
    kernel := server.kernel.close fd }

/-- Received bytes go to the buffer of the client with the descriptor. -/
def store (server : SocketServer) (fd : Fd) (bytes : List UCHAR) (kernel : Kernel) :
    SocketServer :=
  { server with
    clients := server.clients.map fun client =>
      if client.iSocketFd = fd then
        { client with csClientData := client.csClientData.store bytes }
      else
        client
    kernel := kernel }

def client (server : SocketServer) (fd : Fd) : Option SocketClient :=
  server.clients.find? fun client => client.iSocketFd = fd

end SocketServer

/-! ## The loop over the events -/

def handleAccept (event : EpollEvent) (server : SocketServer) : Handled :=
  match event.answers.allocated with
  | none => ⟨.done, server, []⟩
  | some memory =>
      match event.answers.accepted with
      | none => ⟨.next, server, []⟩
      | some inUse =>
          ⟨if event.answers.controlled then .leave else .done, server.addClient inUse memory,
            [.accepted server.kernel.connections memory]⟩

def handleClient (library : JsonLibrary) (event : EpollEvent) (server : SocketServer) :
    Handled :=
  match server.client event.fd with
  | none => ⟨.next, server, []⟩
  | some client =>
      match server.kernel.recv client.iSocketFd event.answers.received with
      | (.failed, _) => ⟨.next, server, []⟩
      | (.blocked, _) => ⟨.blocked, server, []⟩
      | (.ended, _) =>
          if event.answers.controlled then
            ⟨.next, server.remove client.iSocketFd, [.ended client.addrclient true]⟩
          else
            ⟨.done, server, [.ended client.addrclient false]⟩
      | (.data bytes, kernel) =>
          let data := client.csClientData.store bytes
          let handled := socketServerHandleRecvMessage library (data.text event.answers.beyond)
          ⟨.next, server.store client.iSocketFd bytes kernel,
            .received client.addrclient bytes event.answers.beyond ::
              handled.2.toList.map (.sent client.addrclient)⟩

def handleEvent (library : JsonLibrary) (event : EpollEvent) (server : SocketServer) :
    Handled :=
  if event.Broken then
    ⟨.next, server, []⟩
  else if event.fd = server.iSocketFd then
    handleAccept event server
  else
    handleClient library event server

/-- The loop over the events that `epoll_wait` found. -/
def handleEvents (library : JsonLibrary) : List EpollEvent → SocketServer → Handled
  | [], server => ⟨.next, server, []⟩
  | event :: events, server =>
      let handled := handleEvent library event server
      if handled.flow = .next then
        let rest := handleEvents library events handled.server
        ⟨rest.flow, rest.server, handled.effects ++ rest.effects⟩
      else
        handled

/-! ## The thread -/

/-- What `epoll_wait` returns. -/
inductive EpollResult
  | error
  | timeout
  | found (events : List EpollEvent)

/-- Where the thread stands: in `epoll_wait`, in a `recv` that does not return, or
at its end. -/
inductive Control
  | waiting
  | blocked
  | exited
  deriving DecidableEq

structure Thread where
  control : Control
  server : SocketServer
  deriving DecidableEq

/-- What happens: a peer sends or closes, `SocketServerFinished` stops the thread,
or `epoll_wait` returns. -/
inductive Input
  | arrive (fd : Fd) (bytes : List UCHAR)
  | endStream (fd : Fd)
  | finished
  | epollWait (result : EpollResult)

namespace Thread

def start (iSocketFd : Fd) : Thread where
  control := .waiting
  server := {
    iSocketFd := iSocketFd
    eState := .running
    u8NumConnClient := 0
    clients := []
    kernel := { sockets := [], connections := 0 } }

/-- `done:` frees the list; the clients' sockets stay open. -/
def exit (server : SocketServer) : Thread where
  control := .exited
  server := { server with clients := [] }

/-- `while(sSocketServer.eState)`. -/
def loop (server : SocketServer) : Thread :=
  if server.eState = .stopped then exit server else { control := .waiting, server := server }

/-- What follows the loop over the events. -/
def resume (handled : Handled) : Thread :=
  match handled.flow with
  | .next => loop handled.server
  | .leave => loop handled.server
  | .done => exit handled.server
  | .blocked => { control := .blocked, server := handled.server }

def withKernel (thread : Thread) (kernel : Kernel) : Thread :=
  { thread with server := { thread.server with kernel := kernel } }

end Thread

/-- One turn of `SocketServerHandleThread`. -/
def handleResult (library : JsonLibrary) (server : SocketServer) :
    EpollResult → Thread × List Effect
  | .error => (Thread.exit server, [])
  | .timeout => (Thread.loop server, [])
  | .found events =>
      let handled := handleEvents library events server
      (Thread.resume handled, handled.effects)

def socketServerHandleThread (library : JsonLibrary) :
    Execution.Step Thread Input (List Effect) :=
  fun thread input =>
    match input with
    | .arrive fd bytes => (thread.withKernel (thread.server.kernel.arrive fd bytes), none)
    | .endStream fd => (thread.withKernel (thread.server.kernel.endStream fd), none)
    | .finished =>
        ({ thread with server := { thread.server with eState := .stopped } }, none)
    | .epollWait result =>
        if thread.control = .waiting then
          let turned := handleResult library thread.server result
          (turned.1, some turned.2)
        else
          (thread, none)

end StudyDemo.SocketComm
