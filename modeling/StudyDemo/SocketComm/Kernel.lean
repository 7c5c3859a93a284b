import Mathlib.Data.List.Dedup
import Mathlib.Data.List.Sort
import StudyDemo.Foundation.Gaps

/-! # Connected sockets

What the operating system keeps for the server: the connected sockets with the
bytes that were not read yet. The calls the server makes on them are functions
of this state. -/

namespace StudyDemo.SocketComm

abbrev UCHAR := BitVec 8
abbrev Fd := Nat

/-- `MXBF`, the size of a client's receive buffer. -/
def MXBF : Nat := 2048

/-- One connected socket. Connections are numbered in the order of their
acceptance; `ended` says that the peer has closed its end. -/
structure Socket where
  fd : Fd
  connection : Nat
  unread : List UCHAR
  ended : Bool
  deriving DecidableEq

/-- What `recv` returns: -1, nothing yet, 0, or bytes. -/
inductive Received
  | failed
  | blocked
  | ended
  | data (bytes : List UCHAR)
  deriving DecidableEq

structure Kernel where
  sockets : List Socket
  connections : Nat
  deriving DecidableEq

namespace Kernel

def socket (kernel : Kernel) (fd : Fd) : Option Socket :=
  kernel.sockets.find? fun socket => socket.fd = fd

/-- Replace the socket behind a descriptor. -/
def modify (kernel : Kernel) (fd : Fd) (change : Socket → Socket) : Kernel :=
  { kernel with
    sockets := kernel.sockets.map fun socket =>
      if socket.fd = fd then change socket else socket }

def arrive (kernel : Kernel) (fd : Fd) (bytes : List UCHAR) : Kernel :=
  kernel.modify fd fun socket =>
    if socket.ended then socket else { socket with unread := socket.unread ++ bytes }

def endStream (kernel : Kernel) (fd : Fd) : Kernel :=
  kernel.modify fd fun socket => { socket with ended := true }

/-- `accept` returns the lowest descriptor that neither a socket nor the rest of
the process uses. -/
def acceptedFd (kernel : Kernel) (inUse : List Fd) : Fd :=
  Gaps.firstGap 0
    ((inUse ++ kernel.sockets.map Socket.fd).insertionSort (· ≤ ·)).dedup

def accept (kernel : Kernel) (inUse : List Fd) : Kernel where
  sockets := kernel.sockets ++ [{
    fd := kernel.acceptedFd inUse
    connection := kernel.connections
    unread := []
    ended := false }]
  connections := kernel.connections + 1

def drain (kernel : Kernel) (fd : Fd) : Kernel :=
  kernel.modify fd fun socket => { socket with unread := socket.unread.drop MXBF }

/-- `recv(fd, buffer, MXBF, 0)` on a blocking socket. -/
def recv (kernel : Kernel) (fd : Fd) (succeeds : Bool) : Received × Kernel :=
  match kernel.socket fd with
  | none => (.failed, kernel)
  | some socket =>
      if succeeds = false then
        (.failed, kernel)
      else if socket.unread = [] then
        (if socket.ended then .ended else .blocked, kernel)
      else
        (.data (socket.unread.take MXBF), kernel.drain fd)

def close (kernel : Kernel) (fd : Fd) : Kernel :=
  { kernel with sockets := kernel.sockets.filter fun socket => socket.fd ≠ fd }

theorem acceptedFd_not_mem (kernel : Kernel) (inUse : List Fd) :
    kernel.acceptedFd inUse ∉ inUse ++ kernel.sockets.map Socket.fd := by
  generalize taken : inUse ++ kernel.sockets.map Socket.fd = fds
  have sorted : ((fds.insertionSort (· ≤ ·)).dedup).Pairwise (· < ·) := by
    have ordered := (fds.pairwise_insertionSort (· ≤ ·)).sublist (List.dedup_sublist _)
    have distinct := List.nodup_dedup (fds.insertionSort (· ≤ ·))
    exact ordered.imp₂ (fun _ _ below different => Nat.lt_of_le_of_ne below different) distinct
  have least := Gaps.firstGap_isLeast sorted (fun _ _ => Nat.zero_le _)
  have free := least.1.2
  rw [List.mem_dedup, List.mem_insertionSort] at free
  rw [acceptedFd, taken]
  exact free

end Kernel

end StudyDemo.SocketComm
