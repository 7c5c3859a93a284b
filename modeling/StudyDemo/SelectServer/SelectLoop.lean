import Mathlib.Data.Finset.Card
import StudyDemo.Foundation.Execution

/-! # The select loop

`TcpServerThread` keeps its connections in a table of slots, and the descriptors it
waits for in a set. `select` says which of them are ready; the loop accepts a
connection, and reads from the slots until it has seen as many ready descriptors as
`select` counted. -/

namespace StudyDemo.SelectServer

/-- `FD_SETSIZE`, the number of slots and of descriptors that a set has room for. -/
@[irreducible] def fdSetSize : Nat := 1024

/-! ## Sets of descriptors -/

structure FdSet where
  members : Finset Nat
  bounded : ∀ fd ∈ members, fd < fdSetSize

namespace FdSet

/-- `FD_ZERO`. -/
def zero : FdSet := ⟨∅, fun _ member => absurd member (Finset.notMem_empty _)⟩

/-- `FD_SET`. A descriptor that the set has no room for is written behind it. -/
def set (fdSet : FdSet) (fd : Nat) : FdSet :=
  if within : fd < fdSetSize then
    ⟨insert fd fdSet.members, by
      intro other member
      rcases Finset.mem_insert.mp member with same | earlier
      · exact same ▸ within
      · exact fdSet.bounded other earlier⟩
  else
    fdSet

/-- `FD_CLR`. -/
def clr (fdSet : FdSet) (fd : Nat) : FdSet :=
  ⟨fdSet.members.erase fd, fun other member => fdSet.bounded other (Finset.mem_of_mem_erase member)⟩

/-- `FD_ISSET`. -/
def IsSet (fdSet : FdSet) (fd : Nat) : Prop := fd ∈ fdSet.members

instance (fdSet : FdSet) (fd : Nat) : Decidable (fdSet.IsSet fd) :=
  inferInstanceAs (Decidable (_ ∈ _))

/-- What `select` leaves of a set. -/
def select (fdSet : FdSet) (ready : Finset Nat) : FdSet :=
  ⟨fdSet.members ∩ ready,
    fun fd member => fdSet.bounded fd (Finset.mem_of_mem_inter_left member)⟩

theorem isSet_zero (fd : Nat) : ¬zero.IsSet fd := Finset.notMem_empty fd

theorem isSet_set (fdSet : FdSet) {fd : Nat} (within : fd < fdSetSize) (other : Nat) :
    (fdSet.set fd).IsSet other ↔ other = fd ∨ fdSet.IsSet other := by
  rw [set, dif_pos within]
  exact Finset.mem_insert

theorem isSet_clr (fdSet : FdSet) (fd other : Nat) :
    (fdSet.clr fd).IsSet other ↔ other ≠ fd ∧ fdSet.IsSet other :=
  Finset.mem_erase

theorem IsSet.lt {fdSet : FdSet} {fd : Nat} (isSet : fdSet.IsSet fd) : fd < fdSetSize :=
  fdSet.bounded fd isSet

end FdSet

/-! ## The loop -/

/-- The variables of the thread, and the sockets it has open. `client i` is
`client[i].fd`; from the index `fdSetSize` on it is what stands behind the table. -/
structure TcpServer where
  listenfd : Nat
  client : Nat → Int
  maxi : Int
  maxfd : Int
  allset : FdSet
  openFds : Finset Nat

/-- What the system calls of one iteration return: the descriptors that `select`
finds ready and how many it counts, what `accept` returns (`none` is -1), and what
`recv` returns on the socket of a slot. -/
structure Turn where
  ready : Finset Nat
  nready : Int
  accepted : Option Nat
  received : Nat → Int

namespace TcpServer

/-- The tables in front of the loop. -/
def start (listenfd : Nat) (behind : Nat → Int) : TcpServer where
  listenfd := listenfd
  client := fun i => if i < fdSetSize then -1 else behind i
  maxi := -1
  maxfd := listenfd
  allset := FdSet.zero.set listenfd
  openFds := {listenfd}

/-- The index at which the search for a free slot ends. -/
def freeSlot (server : TcpServer) : Nat :=
  ((List.range fdSetSize).find? fun i => server.client i < 0).getD fdSetSize

/-- `accept` returns no descriptor that is open. -/
def accept (server : TcpServer) (turn : Turn) : Option Nat :=
  turn.accepted.filter fun fd => fd ∉ server.openFds

/-- The updates for an accepted connection. The search that finds no free slot prints
"Too many clients" and goes on. -/
def addClient (server : TcpServer) (connectfd : Nat) : TcpServer where
  listenfd := server.listenfd
  client :=
    if server.freeSlot = fdSetSize then server.client
    else Function.update server.client server.freeSlot connectfd
  maxi := if (server.freeSlot : Int) > server.maxi then server.freeSlot else server.maxi
  maxfd := if (connectfd : Int) > server.maxfd then connectfd else server.maxfd
  allset := server.allset.set connectfd
  openFds := insert connectfd server.openFds

def closeClient (server : TcpServer) (i : Nat) (sockfd : Nat) : TcpServer :=
  { server with
    client := Function.update server.client i (-1)
    allset := server.allset.clr sockfd
    openFds := server.openFds.erase sockfd }

/-- The loop over the slots, `count` iterations from `i` on. -/
def scan (turn : Turn) (rset : FdSet) : Nat → Nat → Int → TcpServer → TcpServer
  | 0, _, _, server => server
  | count + 1, i, nready, server =>
      let sockfd := server.client i
      if sockfd < 0 then
        scan turn rset count (i + 1) nready server
      else if rset.IsSet sockfd.toNat then
        let after :=
          if turn.received i = 0 then server.closeClient i sockfd.toNat else server
        if nready - 1 ≤ 0 then after else scan turn rset count (i + 1) (nready - 1) after
      else
        scan turn rset count (i + 1) nready server

/-- `for (i = 0; i <= maxi; i++)`. -/
def scanClients (turn : Turn) (rset : FdSet) (nready : Int) (server : TcpServer) : TcpServer :=
  scan turn rset (server.maxi + 1).toNat 0 nready server

def rset (server : TcpServer) (turn : Turn) : FdSet := server.allset.select turn.ready

/-- One iteration of `while (1)`. -/
def iterate (server : TcpServer) (turn : Turn) : TcpServer :=
  if (server.rset turn).IsSet server.listenfd then
    match server.accept turn with
    | none => server
    | some connectfd =>
        let added := server.addClient connectfd
        if turn.nready - 1 ≤ 0 then added
        else added.scanClients turn (server.rset turn) (turn.nready - 1)
  else
    server.scanClients turn (server.rset turn) turn.nready

end TcpServer

/-- `TcpServerThread`, from one call of `select` to the next. -/
def tcpServerThread : Execution.Step TcpServer Turn Unit :=
  fun server turn => (server.iterate turn, none)

/-- The thread at a call of `select`. -/
def reached (listenfd : Nat) (behind : Nat → Int) (turns : List Turn) : TcpServer :=
  Execution.finalState tcpServerThread (.start listenfd behind) turns

/-! ## What the loops do -/

namespace TcpServer

section Slots

variable {server : TcpServer}

theorem freeSlot_spec (server : TcpServer) :
    server.freeSlot < fdSetSize ∧ server.client server.freeSlot < 0 ∨
      server.freeSlot = fdSetSize ∧ ∀ i < fdSetSize, 0 ≤ server.client i := by
  cases found : (List.range fdSetSize).find? fun i => decide (server.client i < 0) with
  | some i =>
      have slot : server.freeSlot = i := by
        rw [freeSlot, found, Option.getD_some]
      obtain ⟨free, inside, -⟩ := List.find?_range_eq_some.mp found
      rw [slot]
      exact .inl ⟨List.mem_range.mp inside, of_decide_eq_true free⟩
  | none =>
      have slot : server.freeSlot = fdSetSize := by
        rw [freeSlot, found, Option.getD_none]
      refine .inr ⟨slot, fun i inside => ?_⟩
      have occupied := List.find?_range_eq_none.mp found i inside
      simpa using occupied

theorem freeSlot_of_free {i : Nat} (inside : i < fdSetSize) (free : server.client i < 0) :
    server.freeSlot < fdSetSize ∧ server.client server.freeSlot < 0 := by
  rcases server.freeSlot_spec with found | ⟨-, full⟩
  · exact found
  · exact absurd (full i inside) (Int.not_le.mpr free)

end Slots

section Scan

variable {turn : Turn} {rset : FdSet} {Keeps : TcpServer → Prop} {limit : Nat}
  (closes : ∀ (server : TcpServer) (i : Nat) (fd : Nat), i < limit → server.client i = fd →
    rset.IsSet fd → Keeps server → Keeps (server.closeClient i fd))

include closes

theorem scan_keeps (count : Nat) {i : Nat} (inside : i + count ≤ limit) (nready : Int)
    {server : TcpServer} (holds : Keeps server) : Keeps (scan turn rset count i nready server) := by
  induction count generalizing i nready server with
  | zero => exact holds
  | succ count induction =>
      have next : i + 1 + count ≤ limit := by omega
      dsimp only [scan]
      by_cases free : server.client i < 0
      · rw [if_pos free]
        exact induction next nready holds
      · rw [if_neg free]
        by_cases ready : rset.IsSet (server.client i).toNat
        · have sockfd : server.client i = (server.client i).toNat := by omega
          have after : Keeps (if turn.received i = 0 then
              server.closeClient i (server.client i).toNat else server) := by
            split_ifs
            · exact closes server i _ (by omega) sockfd ready holds
            · exact holds
          rw [if_pos ready]
          by_cases last : nready - 1 ≤ 0
          · rw [if_pos last]
            exact after
          · rw [if_neg last]
            exact induction next _ after
        · rw [if_neg ready]
          exact induction next nready holds

end Scan

end TcpServer

end StudyDemo.SelectServer
