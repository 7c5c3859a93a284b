import StudyDemo.SocketComm.Registry

/-! # Stopping the server

`SocketServerInit` creates the thread, `SocketServerHandleThread` sets `eState` to
running when it begins, and `SocketServerFinished` sets it to stopped, from a signal
handler at any time. Each of them goes on in steps of its own, and every access to
`eState` is one step. -/

namespace StudyDemo.SocketComm

/-! ## The parties -/

/-- The calls of `SocketServerInit` that can fail. -/
inductive InitCall
  | socket
  | setsockopt
  | bind
  | listen
  | pthreadCreate
  deriving DecidableEq

/-- Where `SocketServerInit` stands: before `memset`, before one of its calls, behind
`pthread_create`, or at its end. What it returns is `E_SOCK_OK`, or the error of the
call that failed. -/
inductive InitControl
  | entered
  | calling (call : InitCall)
  | created
  | returned (failed : Option InitCall)
  deriving DecidableEq

/-- Where `SocketServerHandleThread` stands: before its first assignment, before
`signal`, `epoll_create`, `epoll_ctl`, at the test of the loop, in `epoll_wait`, in a
`recv` that does not return, or at its end. -/
inductive HandlerControl
  | entered
  | running
  | signalled
  | polling
  | testing
  | waiting
  | blocked
  | exited
  deriving DecidableEq

/-- Where a call of `SocketServerFinished` stands: before its assignment, before
`pthread_kill`, in `pthread_join`, or at its end. -/
inductive FinishedControl
  | entered
  | stored
  | joining
  | returned
  deriving DecidableEq

/-- The process. A signal handler can be interrupted by another one, so that there
may be several calls of `SocketServerFinished`. `handled` says whether the thread has
installed its handler of `THREAD_SIGNAL`, which ends the process otherwise. -/
structure Program where
  server : SocketServer
  init : InitControl
  thread : Option HandlerControl
  finished : List FinishedControl
  handled : Bool
  terminated : Bool
  deriving DecidableEq

inductive Party
  | init
  | thread
  | finished
  deriving DecidableEq

inductive Access
  | wrote (party : Party) (eState : ThreadState)
  | tested (eState : ThreadState)
  deriving DecidableEq

/-- The next step: of `SocketServerInit`, whose call succeeds with a descriptor or
fails; a new call of `SocketServerFinished`, or a step of an earlier one; a step of the
thread, with the answer of the system; or bytes and ends of the peers. -/
inductive Move
  | init (answer : Option Fd)
  | call
  | finished (call : Nat)
  | thread (succeeds : Bool)
  | epollWait (result : EpollResult)
  | recvFailed (rest : List EpollEvent)
  | arrive (fd : Fd) (bytes : List UCHAR)
  | endStream (fd : Fd)

def Move.OfThread : Move → Prop
  | .thread _ => True
  | .epollWait _ => True
  | .recvFailed _ => True
  | _ => False

namespace Program

def start (server : SocketServer) : Program where
  server := server
  init := .entered
  thread := none
  finished := []
  handled := false
  terminated := false

def setState (program : Program) (eState : ThreadState) : Program :=
  { program with server := { program.server with eState := eState } }

def withKernel (program : Program) (kernel : Kernel) : Program :=
  { program with server := { program.server with kernel := kernel } }

/-- `memset(&sSocketServer, 0, sizeof(sSocketServer))`. -/
def clear (program : Program) : Program :=
  { program with
    server := { program.server with iSocketFd := 0, eState := .stopped, u8NumConnClient := 0 }
    init := .calling .socket }

/-- What follows a call of `SocketServerInit` that succeeds. -/
def initNext (program : Program) (fd : Fd) : InitCall → Program
  | .socket =>
      { program with
        server := { program.server with iSocketFd := fd }
        init := .calling .setsockopt }
  | .setsockopt => { program with init := .calling .bind }
  | .bind => { program with init := .calling .listen }
  | .listen => { program with init := .calling .pthreadCreate }
  | .pthreadCreate => { program with init := .created, thread := some .entered }

def initStep (program : Program) (answer : Option Fd) : Program × Option Access :=
  match program.init with
  | .entered => (program.clear, some (.wrote .init .stopped))
  | .calling call =>
      match answer with
      | none => ({ program with init := .returned (some call) }, none)
      | some fd => (program.initNext fd call, none)
  | .created => ({ program with init := .returned none }, none)
  | .returned _ => (program, none)

/-- Go on with a call of `SocketServerFinished`. -/
def setFinished (program : Program) (call : Nat) (control : FinishedControl) : Program :=
  { program with finished := program.finished.set call control }

/-- `pthread_kill`: without a thread, or a handler of its own, the process ends. -/
def kill (program : Program) : Program :=
  match program.thread with
  | none => { program with terminated := true }
  | some .exited => program
  | some _ => if program.handled then program else { program with terminated := true }

def finishedStep (program : Program) (call : Nat) : Program × Option Access :=
  match program.finished[call]? with
  | some .entered =>
      ((program.setState .stopped).setFinished call .stored, some (.wrote .finished .stopped))
  | some .stored => (program.kill.setFinished call .joining, none)
  | some .joining =>
      if program.thread = some .exited then (program.setFinished call .returned, none)
      else (program, none)
  | some .returned => (program, none)
  | none => (program, none)

def setThread (program : Program) (control : HandlerControl) : Program :=
  { program with thread := some control }

def exitThread (program : Program) : Program :=
  { program with
    server := { program.server with clients := [] }
    thread := some .exited }

/-- The steps of the thread outside the loop over the events. -/
def threadStep (program : Program) (succeeds : Bool) : Program × Option Access :=
  match program.thread with
  | some .entered =>
      ((program.setState .running).setThread .running, some (.wrote .thread .running))
  | some .running =>
      ({ program.setThread .signalled with
        server := { program.server with clients := [] }
        handled := true }, none)
  | some .signalled =>
      (if succeeds then program.setThread .polling else program.setThread .exited, none)
  | some .polling =>
      (if succeeds then program.setThread .testing else program.exitThread, none)
  | some .testing =>
      (if program.server.eState = .stopped then program.exitThread
        else program.setThread .waiting, some (.tested program.server.eState))
  | _ => (program, none)

/-- The loop over the events that are left. -/
def handle (library : JsonLibrary) (program : Program) (events : List EpollEvent) : Program :=
  let handled := handleEvents library events program.server
  let program := { program with server := handled.server }
  match handled.flow with
  | .next => program.setThread .testing
  | .leave => program.setThread .testing
  | .done => program.exitThread
  | .blocked => program.setThread .blocked

def epollWait (library : JsonLibrary) (program : Program) : EpollResult → Program
  | .error => program.exitThread
  | .timeout => program.setThread .testing
  | .found events => program.handle library events

end Program

def programStep (library : JsonLibrary) : Execution.Step Program Move Access :=
  fun program move =>
    if program.terminated then
      (program, none)
    else
      match move with
      | .init answer => program.initStep answer
      | .call => ({ program with finished := program.finished ++ [.entered] }, none)
      | .finished call => program.finishedStep call
      | .thread succeeds => program.threadStep succeeds
      | .epollWait result =>
          if program.thread = some .waiting then (program.epollWait library result, none)
          else (program, none)
      | .recvFailed rest =>
          if program.thread = some .blocked then (program.handle library rest, none)
          else (program, none)
      | .arrive fd bytes => (program.withKernel (program.server.kernel.arrive fd bytes), none)
      | .endStream fd => (program.withKernel (program.server.kernel.endStream fd), none)

/-- The accesses to `eState` in a run, in order. -/
def accesses (library : JsonLibrary) (server : SocketServer) (moves : List Move) :
    List Access :=
  Execution.observations (programStep library) (.start server) moves

/-! ## The loop of the thread -/

/-- Where the loop leaves the thread. -/
def Control.handler : Control → HandlerControl
  | .waiting => .waiting
  | .blocked => .blocked
  | .exited => .exited

section Turn

variable (library : JsonLibrary) {program : Program}

theorem threadStep_testing (program : Program) (testing : program.thread = some .testing) :
    (program.threadStep true).1.thread = some (Thread.loop program.server).control.handler ∧
      (program.threadStep true).1.server = (Thread.loop program.server).server := by
  simp only [Program.threadStep, testing, Thread.loop]
  split_ifs
  · exact ⟨rfl, rfl⟩
  · exact ⟨rfl, rfl⟩

theorem epollWait_terminated (result : EpollResult) :
    (program.epollWait library result).terminated = program.terminated := by
  cases result with
  | error => rfl
  | timeout => rfl
  | found events =>
      simp only [Program.epollWait, Program.handle]
      generalize handleEvents library events program.server = handled
      obtain ⟨flow, server, effects⟩ := handled
      cases flow <;> rfl

theorem turn_programStep (alive : program.terminated = false)
    (waiting : program.thread = some .waiting) (result : EpollResult) :
    let after := Execution.finalState (programStep library) program
      [.epollWait result, .thread true]
    let turned := (handleResult library program.server result).1
    after.thread = some turned.control.handler ∧ after.server = turned.server := by
  have still := (epollWait_terminated library result).trans alive
  simp only [Execution.finalState_cons, Execution.finalState_nil, programStep, alive, waiting,
    still, Bool.false_eq_true, if_false, if_true]
  cases result with
  | error => exact ⟨rfl, rfl⟩
  | timeout => exact threadStep_testing (program.setThread .testing) rfl
  | found events =>
      simp only [Program.epollWait, Program.handle, handleResult, Thread.resume]
      generalize handleEvents library events program.server = handled
      obtain ⟨flow, server, effects⟩ := handled
      cases flow with
      | next => exact threadStep_testing _ rfl
      | leave => exact threadStep_testing _ rfl
      | done => exact ⟨rfl, rfl⟩
      | blocked => exact ⟨rfl, rfl⟩

end Turn

/-! ## The steps of the parties -/

/-- What a step can be: nothing, a step of one party, or a change of the sockets. -/
inductive Moves (library : JsonLibrary) (program : Program) :
    Move → Program × Option Access → Prop
  | idle (move : Move) : Moves library program move (program, none)
  | init (answer : Option Fd) : Moves library program (.init answer) (program.initStep answer)
  | call : Moves library program .call
      ({ program with finished := program.finished ++ [.entered] }, none)
  | finished (call : Nat) (alive : program.terminated = false) :
      Moves library program (.finished call) (program.finishedStep call)
  | thread (succeeds : Bool) : Moves library program (.thread succeeds)
      (program.threadStep succeeds)
  | epollWait (result : EpollResult) : Moves library program (.epollWait result)
      (program.epollWait library result, none)
  | recvFailed (rest : List EpollEvent) : Moves library program (.recvFailed rest)
      (program.handle library rest, none)
  | peer (move : Move) (kernel : Kernel) (other : move ≠ .call) :
      Moves library program move (program.withKernel kernel, none)

theorem moves_programStep (library : JsonLibrary) (program : Program) (move : Move) :
    Moves library program move (programStep library program move) := by
  dsimp only [programStep]
  by_cases terminated : program.terminated
  · rw [if_pos terminated]
    exact .idle move
  rw [if_neg terminated]
  cases move with
  | init answer => exact .init answer
  | call => exact .call
  | finished call => exact .finished call (by simpa using terminated)
  | thread succeeds => exact .thread succeeds
  | epollWait result =>
      simp only
      split_ifs
      · exact .epollWait result
      · exact .idle _
  | recvFailed rest =>
      simp only
      split_ifs
      · exact .recvFailed rest
      · exact .idle _
  | arrive fd bytes => exact .peer _ _ (by simp)
  | endStream fd => exact .peer _ _ (by simp)

/-! ## What the steps do to the flag -/

/-- `SocketServerInit` has returned. -/
def Program.Initialized (program : Program) : Prop := ∃ failed, program.init = .returned failed

namespace Program

section Steps

variable (program : Program)

/-- `pthread_kill` can only end the process. -/
theorem kill_eq :
    program.kill = program ∨ program.kill = { program with terminated := true } := by
  rw [kill]
  cases program.thread with
  | none => exact Or.inr rfl
  | some control =>
      cases control with
      | exited => exact Or.inl rfl
      | _ => cases program.handled <;> simp

@[simp] theorem kill_server : program.kill.server = program.server := by
  rcases program.kill_eq with same | same <;> rw [same]

@[simp] theorem kill_init : program.kill.init = program.init := by
  rcases program.kill_eq with same | same <;> rw [same]

@[simp] theorem kill_thread : program.kill.thread = program.thread := by
  rcases program.kill_eq with same | same <;> rw [same]

@[simp] theorem kill_finished : program.kill.finished = program.finished := by
  rcases program.kill_eq with same | same <;> rw [same]

variable (library : JsonLibrary)

/-- The loop over the events changes neither the flag nor the other parties, and does
not go back to the beginning of the thread. -/
theorem handle_spec (events : List EpollEvent) :
    (program.handle library events).server.eState = program.server.eState ∧
      (program.handle library events).init = program.init ∧
      (program.handle library events).finished = program.finished ∧
      (program.handle library events).thread ≠ some .entered := by
  have same := handleEvents_eState library events program.server
  rw [handle]
  cases (handleEvents library events program.server).flow with
  | next => exact ⟨same, rfl, rfl, by simp [setThread]⟩
  | leave => exact ⟨same, rfl, rfl, by simp [setThread]⟩
  | done => exact ⟨same, rfl, rfl, by simp [exitThread]⟩
  | blocked => exact ⟨same, rfl, rfl, by simp [setThread]⟩

theorem epollWait_spec (result : EpollResult) :
    (program.epollWait library result).server.eState = program.server.eState ∧
      (program.epollWait library result).init = program.init ∧
      (program.epollWait library result).finished = program.finished ∧
      (program.epollWait library result).thread ≠ some .entered := by
  cases result with
  | error => exact ⟨rfl, rfl, rfl, by simp [epollWait, exitThread]⟩
  | timeout => exact ⟨rfl, rfl, rfl, by simp [epollWait, setThread]⟩
  | found events => exact program.handle_spec library events

end Steps

end Program

/-- What a step does to the flag, once `SocketServerInit` has returned and the thread is
past its beginning. -/
inductive Settles (program : Program) : Program × Option Access → Prop
  | quiet (next : Program) (seen : Option Access) (same : next.server.eState = program.server.eState)
      (thread : next.thread ≠ some .entered)
      (tests : ∀ access ∈ seen, access = .tested program.server.eState) :
      Settles program (next, seen)
  | stored (next : Program) (stopped : next.server.eState = .stopped)
      (thread : next.thread ≠ some .entered) :
      Settles program (next, some (.wrote .finished .stopped))

section Settles

variable {program : Program}

theorem settles_same (past : program.thread ≠ some .entered) :
    Settles program (program, none) :=
  .quiet program none rfl past (by simp)

theorem settles_finishedStep (call : Nat) (past : program.thread ≠ some .entered) :
    Settles program (program.finishedStep call) := by
  rw [Program.finishedStep]
  cases program.finished[call]? with
  | none => exact settles_same past
  | some control =>
      cases control with
      | entered => exact .stored _ rfl past
      | stored =>
          exact .quiet _ _ (by simp [Program.setFinished])
            (by simpa [Program.setFinished] using past) (by simp)
      | joining =>
          simp only
          split_ifs
          · exact .quiet _ _ rfl past (by simp)
          · exact settles_same past
      | returned => exact settles_same past

theorem settles_threadStep (succeeds : Bool) (past : program.thread ≠ some .entered) :
    Settles program (program.threadStep succeeds) := by
  rw [Program.threadStep]
  cases stands : program.thread with
  | none => exact settles_same past
  | some control =>
      cases control with
      | entered => exact absurd stands past
      | running => exact .quiet _ _ rfl (by simp [Program.setThread]) (by simp)
      | signalled =>
          cases succeeds with
          | true => exact .quiet _ _ rfl (by simp [Program.setThread]) (by simp)
          | false => exact .quiet _ _ rfl (by simp [Program.setThread]) (by simp)
      | polling =>
          cases succeeds with
          | true => exact .quiet _ _ rfl (by simp [Program.setThread]) (by simp)
          | false => exact .quiet _ _ rfl (by simp [Program.exitThread]) (by simp)
      | testing =>
          simp only
          split_ifs
          · exact .quiet _ _ rfl (by simp [Program.exitThread]) (by simp)
          · exact .quiet _ _ rfl (by simp [Program.setThread]) (by simp)
      | waiting => exact settles_same past
      | blocked => exact settles_same past
      | exited => exact settles_same past

theorem settles_programStep (library : JsonLibrary) (move : Move)
    (initialized : program.Initialized) (past : program.thread ≠ some .entered) :
    Settles program (programStep library program move) := by
  obtain ⟨failed, returned⟩ := initialized
  have moves := moves_programStep library program move
  generalize programStep library program move = result at *
  cases moves with
  | idle => exact settles_same past
  | init answer =>
      simp only [Program.initStep, returned]
      exact settles_same past
  | call => exact .quiet _ _ rfl past (by simp)
  | finished call => exact settles_finishedStep call past
  | thread succeeds => exact settles_threadStep succeeds past
  | epollWait result =>
      obtain ⟨same, -, -, thread⟩ := program.epollWait_spec library result
      exact .quiet _ _ same thread (by simp)
  | recvFailed rest =>
      obtain ⟨same, -, -, thread⟩ := program.handle_spec library rest
      exact .quiet _ _ same thread (by simp)
  | peer _ kernel => exact .quiet _ _ rfl past (by simp)

end Settles

/-! ## The order of the parties -/

section Order

variable (program : Program)

theorem initStep_spec (answer : Option Fd) :
    (program.initStep answer).1.finished = program.finished ∧
      ∀ access ∈ (program.initStep answer).2, access = .wrote .init .stopped := by
  rw [Program.initStep]
  cases program.init with
  | entered => exact ⟨rfl, by simp⟩
  | calling call =>
      cases answer with
      | none => exact ⟨rfl, by simp⟩
      | some fd => cases call <;> exact ⟨rfl, by simp⟩
  | created => exact ⟨rfl, by simp⟩
  | returned failed => exact ⟨rfl, by simp⟩

theorem finishedStep_parties (call : Nat) :
    (program.finishedStep call).1.init = program.init ∧
      (program.finishedStep call).1.finished.length = program.finished.length := by
  rw [Program.finishedStep]
  cases program.finished[call]? with
  | none => exact ⟨rfl, rfl⟩
  | some control =>
      cases control with
      | entered => exact ⟨rfl, List.length_set⟩
      | stored => simp [Program.setFinished]
      | joining =>
          simp only
          split_ifs
          · exact ⟨rfl, List.length_set⟩
          · exact ⟨rfl, rfl⟩
      | returned => exact ⟨rfl, rfl⟩

theorem threadStep_parties (succeeds : Bool) :
    (program.threadStep succeeds).1.init = program.init ∧
      (program.threadStep succeeds).1.finished = program.finished := by
  rw [Program.threadStep]
  cases program.thread with
  | none => exact ⟨rfl, rfl⟩
  | some control =>
      cases control with
      | testing =>
          simp only
          split_ifs <;> exact ⟨rfl, rfl⟩
      | _ => cases succeeds <;> exact ⟨rfl, rfl⟩

theorem threadStep_not_wrote (succeeds : Bool) (eState : ThreadState) :
    (program.threadStep succeeds).2 ≠ some (.wrote .finished eState) := by
  rw [Program.threadStep]
  cases program.thread with
  | none => exact Option.some_ne_none _ |>.symm
  | some control => cases control <;> simp

theorem entered_of_wrote {call : Nat} {eState : ThreadState}
    (wrote : (program.finishedStep call).2 = some (.wrote .finished eState)) :
    program.finished[call]? = some .entered := by
  rw [Program.finishedStep] at wrote
  cases stands : program.finished[call]? with
  | none => simp [stands] at wrote
  | some control =>
      cases control with
      | entered => rfl
      | joining =>
          rw [stands] at wrote
          simp only at wrote
          split_ifs at wrote
      | _ => simp [stands] at wrote

variable (library : JsonLibrary) (move : Move)

theorem programStep_init (initialized : program.Initialized) :
    (programStep library program move).1.init = program.init := by
  obtain ⟨failed, returned⟩ := initialized
  have moves := moves_programStep library program move
  generalize programStep library program move = result at *
  cases moves with
  | idle => rfl
  | init answer => simp only [Program.initStep, returned]
  | call => rfl
  | finished call => exact (finishedStep_parties program call).1
  | thread succeeds => exact (threadStep_parties program succeeds).1
  | epollWait result => exact (program.epollWait_spec library result).2.1
  | recvFailed rest => exact (program.handle_spec library rest).2.1
  | peer => rfl

theorem programStep_finished (old : move ≠ .call) :
    (programStep library program move).1.finished.length = program.finished.length := by
  have moves := moves_programStep library program move
  generalize programStep library program move = result at *
  cases moves with
  | idle => rfl
  | init answer => exact congrArg List.length (initStep_spec program answer).1
  | call => exact absurd rfl old
  | finished call => exact (finishedStep_parties program call).2
  | thread succeeds => exact congrArg List.length (threadStep_parties program succeeds).2
  | epollWait result =>
      exact congrArg List.length (program.epollWait_spec library result).2.2.1
  | recvFailed rest => exact congrArg List.length (program.handle_spec library rest).2.2.1
  | peer => rfl

end Order

end StudyDemo.SocketComm
