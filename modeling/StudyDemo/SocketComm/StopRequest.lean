import StudyDemo.SocketComm.Requests
import StudyDemo.SocketComm.Stopping

/-! # The stop request

`SocketServerFinished` sets the flag to stopped and waits for the thread. A thread that
has only been created sets it to running afterwards, and nobody stops it any more. -/

namespace StudyDemo.SocketComm

/-- The step in which a call of `SocketServerFinished` sets `eState` to stopped. -/
def Program.Stops (program : Program) : Move → Prop
  | .finished call => program.finished[call]? = some .entered ∧ program.terminated = false
  | _ => False

instance (program : Program) : (move : Move) → Decidable (program.Stops move)
  | .finished _ => inferInstanceAs (Decidable (_ ∧ _))
  | .init _ => isFalse id
  | .call => isFalse id
  | .thread _ => isFalse id
  | .epollWait _ => isFalse id
  | .recvFailed _ => isFalse id
  | .arrive _ _ => isFalse id
  | .endStream _ => isFalse id

/-- `SocketServerFinished` is called after `SocketServerInit` has returned. -/
def Program.InOrder (program : Program) : Move → Prop
  | .call => program.Initialized
  | _ => True

/-- The flag is set to stopped after the thread has set it to running. -/
def Program.StopsStarted (program : Program) (move : Move) : Prop :=
  program.Stops move → program.thread ≠ some .entered

instance (program : Program) : Decidable program.Initialized :=
  match init : program.init with
  | .returned failed => isTrue ⟨failed, init⟩
  | .entered => isFalse fun ⟨_, returned⟩ => by simp [init] at returned
  | .calling _ => isFalse fun ⟨_, returned⟩ => by simp [init] at returned
  | .created => isFalse fun ⟨_, returned⟩ => by simp [init] at returned

instance (program : Program) : (move : Move) → Decidable (program.InOrder move)
  | .call => inferInstanceAs (Decidable program.Initialized)
  | .init _ => isTrue trivial
  | .finished _ => isTrue trivial
  | .thread _ => isTrue trivial
  | .epollWait _ => isTrue trivial
  | .recvFailed _ => isTrue trivial
  | .arrive _ _ => isTrue trivial
  | .endStream _ => isTrue trivial

instance (program : Program) (move : Move) : Decidable (program.StopsStarted move) :=
  inferInstanceAs (Decidable (_ → _))

/-- Behind the stop request nobody sets the flag to running, and the test of the loop
finds it stopped. -/
def Sticks (seen : List Access) : Prop :=
  seen.Pairwise fun earlier later => earlier = .wrote .finished .stopped →
    (∀ party, later ≠ .wrote party .running) ∧
      ∀ eState, later = .tested eState → eState = .stopped

/-- Every call of `SocketServerFinished` in a run comes after `SocketServerInit`. -/
def CalledAfterInit (library : JsonLibrary) (server : SocketServer) (moves : List Move) : Prop :=
  Execution.EachCall (programStep library) Program.InOrder (.start server) moves


/-- The stop requests of a run stick, also if the thread goes on alone for any number of
steps at any moment of the run. -/
def StopHolds (library : JsonLibrary) (server : SocketServer) (moves : List Move) : Prop :=
  ∀ before after later, moves = before ++ after → (∀ move ∈ later, move.OfThread) →
    Sticks (accesses library server (before ++ later))

section Stop

variable {library : JsonLibrary} {server : SocketServer} {program : Program} {move : Move}
  {moves : List Move}

theorem stops_of_wrote
    (wrote : (programStep library program move).2 = some (.wrote .finished .stopped)) :
    program.Stops move := by
  have moves := moves_programStep library program move
  generalize programStep library program move = result at *
  cases moves with
  | init answer => cases (initStep_spec program answer).2 _ wrote
  | finished call alive => exact ⟨entered_of_wrote program wrote, alive⟩
  | thread succeeds => exact absurd wrote (threadStep_not_wrote program succeeds _)
  | _ => cases wrote

/-- A call of `SocketServerFinished` began after `SocketServerInit` had returned. -/
def CallsInitialized (program : Program) : Prop :=
  0 < program.finished.length → program.Initialized

theorem initialized_programStep (library : JsonLibrary) (move : Move)
    (initialized : program.Initialized) :
    (programStep library program move).1.Initialized := by
  have same := programStep_init program library move initialized
  rw [Program.Initialized, same]
  exact initialized

theorem callsInitialized_programStep (inOrder : program.InOrder move)
    (holds : CallsInitialized program) :
    CallsInitialized (programStep library program move).1 := by
  intro called
  by_cases new : move = .call
  · subst new
    exact initialized_programStep library .call inOrder
  · rw [programStep_finished program library move new] at called
    exact initialized_programStep library move (holds called)

/-- What stays after a stop request: the thread will not set the flag again. -/
structure Stopped (program : Program) : Prop where
  initialized : program.Initialized
  past : program.thread ≠ some .entered
  flag : program.server.eState = .stopped

/-- What an access has to do with the states behind it. -/
def StoppedBy (seen : Access) (program : Program) : Prop :=
  seen = .wrote .finished .stopped → Stopped program

/-- The condition on a step, with what the earlier ones guarantee. -/
def Orderly (program : Program) (move : Move) : Prop :=
  (program.InOrder move ∧ program.StopsStarted move) ∧ CallsInitialized program

theorem stopped_of_wrote (orderly : Orderly program move)
    (wrote : (programStep library program move).2 = some (.wrote .finished .stopped)) :
    Stopped (programStep library program move).1 := by
  have stops := stops_of_wrote wrote
  have past := orderly.1.2 stops
  have initialized : program.Initialized := by
    cases move with
    | finished call =>
        apply orderly.2
        obtain ⟨inside, -⟩ := List.getElem?_eq_some_iff.mp stops.1
        exact Nat.zero_lt_of_lt inside
    | _ => exact stops.elim
  have after := initialized_programStep library move initialized
  have settles := settles_programStep library move initialized past
  generalize programStep library program move = result at *
  cases settles with
  | quiet next seen same thread tests => cases tests _ wrote
  | stored next stopped thread => exact ⟨after, thread, stopped⟩

theorem Stopped.step (stopped : Stopped program) :
    Stopped (programStep library program move).1 ∧
      ∀ access ∈ (programStep library program move).2, access = .tested .stopped ∨
        access = .wrote .finished .stopped := by
  obtain ⟨initialized, past, flag⟩ := stopped
  have after := initialized_programStep library move initialized
  have settles := settles_programStep library move initialized past
  generalize programStep library program move = result at *
  cases settles with
  | quiet next seen same thread tests =>
      exact ⟨⟨after, thread, same.trans flag⟩, fun access member =>
        Or.inl (flag ▸ tests access member)⟩
  | stored next stopped thread =>
      exact ⟨⟨after, thread, stopped⟩, fun access member => Or.inr (Option.mem_some.mp member).symm⟩

/-- A run in which the thread has always started when it is stopped. -/
theorem sticks_of_stopsStarted (inOrder : CalledAfterInit library server moves)
    (started : Execution.EachCall (programStep library) Program.StopsStarted (.start server)
      moves) : Sticks (accesses library server moves) := by
  have both : Execution.EachCall (programStep library)
      (fun program move => program.InOrder move ∧ program.StopsStarted move) (.start server)
      moves :=
    fun before move after split => ⟨inOrder before move after split, started before move after split⟩
  have orderly : Execution.EachCall (programStep library) Orderly (.start server) moves :=
    Execution.eachCall_invariant _ CallsInitialized
      (fun _ _ condition holds => callsInitialized_programStep condition.1 holds) both
      (fun called => absurd called (Nat.lt_irrefl 0))
  have establishes : ∀ program move, Orderly program move →
      ∀ seen ∈ (programStep library program move).2,
        StoppedBy seen (programStep library program move).1 := by
    intro program move condition seen member wrote
    exact stopped_of_wrote condition (wrote ▸ member)
  have preserved : ∀ seen program move, Orderly program move → StoppedBy seen program →
      StoppedBy seen (programStep library program move).1 := by
    intro seen program move _ related wrote
    exact (related wrote).step.1
  apply Execution.pairwise_observations establishes preserved _ orderly
  · intro seen program move _ related later member wrote
    rcases (related wrote).step.2 later member with tested | stored
    · exact ⟨fun party => by simp [tested], fun eState same => by
        rw [tested] at same
        exact (Access.tested.inj same).symm⟩
    · exact ⟨fun party => by simp [stored], fun eState same => by simp [stored] at same⟩

theorem eachCall_ofThread (library : JsonLibrary) (program : Program) {later : List Move}
    (ofThread : ∀ move ∈ later, move.OfThread) :
    Execution.EachCall (programStep library) Program.InOrder program later ∧
      Execution.EachCall (programStep library) Program.StopsStarted program later := by
  constructor
  · intro before move after split
    have own := ofThread move (split ▸ List.mem_append_right before List.mem_cons_self)
    cases move <;> first | exact own.elim | trivial
  · intro before move after split stops
    have own := ofThread move (split ▸ List.mem_append_right before List.mem_cons_self)
    cases move <;> first | exact own.elim | exact stops.elim

/-- A thread that has not started sets the flag to running again. -/
theorem not_sticks_of_entered {before : List Move}
    (stops : (Execution.finalState (programStep library) (.start server) before).Stops move)
    (entered : (Execution.finalState (programStep library) (.start server) before).thread =
      some .entered) :
    ¬Sticks (accesses library server (before ++ [move] ++ [.thread true])) := by
  rw [accesses, List.append_assoc, Execution.observations_append]
  generalize Execution.finalState (programStep library) (.start server) before = program at *
  intro sticks
  have tail := (List.pairwise_append.mp sticks).2.1
  cases move with
  | finished call =>
      obtain ⟨stands, alive⟩ := stops
      simp [programStep, alive, Program.finishedStep, stands, Program.threadStep,
        Program.setState, Program.setFinished, entered] at tail
  | _ => exact stops

/-- The stop request sticks, however long the thread goes on at any moment of the run,
exactly if the thread has set the flag to running each time it is set to stopped. -/
theorem stopHolds_iff (inOrder : CalledAfterInit library server moves) :
    StopHolds library server moves ↔
      Execution.EachCall (programStep library) Program.StopsStarted (.start server) moves := by
  constructor
  · intro holds before move after split stops entered
    apply not_sticks_of_entered stops entered
    apply holds (before ++ [move]) after [.thread true] (by rw [split]; simp)
    intro own member
    rw [List.mem_singleton.mp member]
    trivial
  · rintro started before after later rfl ofThread
    obtain ⟨laterInOrder, laterStarted⟩ := eachCall_ofThread library
      (Execution.finalState (programStep library) (.start server) before) ofThread
    exact sticks_of_stopsStarted
      (Execution.eachCall_append (Execution.eachCall_of_append inOrder) laterInOrder)
      (Execution.eachCall_append (Execution.eachCall_of_append started) laterStarted)

end Stop

/-! ## A thread that starts late -/

/-- What stands in `sSocketServer` when the program starts. -/
def loadedServer : SocketServer where
  iSocketFd := 0
  eState := .stopped
  u8NumConnClient := 0
  clients := []
  kernel := { sockets := [], connections := 0 }

/-- `SocketServerInit` from its start to its end. -/
def initMoves : List Move := List.replicate 7 (.init (some 3))

theorem stopHolds_started :
    StopHolds sampleLibrary loadedServer
      (initMoves ++ [.thread true, .thread true, .call, .finished 0, .finished 0]) :=
  (stopHolds_iff (by unfold CalledAfterInit; decide +kernel)).mpr (by decide +kernel)

/-- The signal arrives when the thread has not run yet. After that the thread finds the
flag running. -/
theorem not_sticks : ¬∀ (library : JsonLibrary) (server : SocketServer) (moves : List Move),
    CalledAfterInit library server moves → Sticks (accesses library server moves) := by
  intro sticks
  have here := sticks sampleLibrary loadedServer
    (initMoves ++ [.call, .finished 0, .thread true, .thread true, .thread true, .thread true,
      .finished 0, .thread true])
    (by unfold CalledAfterInit; decide +kernel)
  have seen : accesses sampleLibrary loadedServer
      (initMoves ++ [.call, .finished 0, .thread true, .thread true, .thread true, .thread true,
        .finished 0, .thread true]) =
      [.wrote .init .stopped, .wrote .finished .stopped, .wrote .thread .running,
        .tested .running] := by
    decide +kernel
  rw [seen] at here
  simp [Sticks] at here

end StudyDemo.SocketComm
