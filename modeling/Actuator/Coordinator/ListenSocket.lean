import Mathlib.Data.List.Nodup

/-!
# The listening socket

`InterSatComm::initialize`, `start` and `stop`, as far as they open and close
the socket that the module listens on. `stop` leaves a module alone that was not
started, so the socket of such a module is nobody's when the module goes. Of one
that was started it joins the thread that waits in `accept`, and returns only if
`accept` does.
-/

namespace Actuator.Coordinator

/-! ## The operating system -/

structure OpenSocket where
  fd : Nat
  /-- It listens on the port of the module. -/
  listening : Bool

/-- The sockets that `initializeSocket` has opened and the process holds. -/
structure Sockets where
  opened : List OpenSocket := []
  /-- A descriptor was closed that was not open. -/
  strayClose : Bool := false

namespace Sockets

def fds (sockets : Sockets) : List Nat := sockets.opened.map (·.fd)

/-- Nothing listens on the port. -/
def Free (sockets : Sockets) : Prop := ∀ socket ∈ sockets.opened, socket.listening = false

def socket (sockets : Sockets) (fd : Nat) : Sockets :=
  { sockets with opened := { fd, listening := false } :: sockets.opened }

def listen (sockets : Sockets) (fd : Nat) : Sockets := { sockets with
  opened := sockets.opened.map fun socket => if socket.fd = fd then { socket with listening := true } else socket }

def closesocket (sockets : Sockets) (fd : Nat) : Sockets where
  opened := sockets.opened.eraseP fun socket => socket.fd = fd
  strayClose := sockets.strayClose || !sockets.fds.contains fd

/-- Closing the socket that was opened last leaves the others as they were. -/
theorem closesocket_head {socket : OpenSocket} {others : List OpenSocket} {strayClose : Bool} :
    closesocket ⟨socket :: others, strayClose⟩ socket.fd = ⟨others, strayClose⟩ := by
  simp [closesocket, fds]

end Sockets

/-- What `socket`, `bind` and `listen` return: the descriptor, and whether they succeed. -/
structure SocketAnswers where
  socketFd : Option Nat
  bound : Bool
  listening : Bool

namespace SocketAnswers

/-- A new socket gets a descriptor that is not in use, and `bind` fails for a port on which another socket listens. -/
structure Possible (answers : SocketAnswers) (sockets : Sockets) : Prop where
  fresh : ∀ fd, answers.socketFd = some fd → fd ∉ sockets.fds
  exclusive : answers.bound = true → sockets.Free

def succeed (answers : SocketAnswers) : Bool := answers.socketFd.isSome && answers.bound && answers.listening

end SocketAnswers

/-! ## The module -/

/-- The members of `InterSatComm` that its start and its end depend on. -/
structure CommLife where
  /-- `listen_socket_`, or `none` for `INVALID_SOCKET_VALUE`. -/
  listenSocket : Option Nat := none
  initialized : Bool := false
  running : Bool := false

namespace CommLife

def bindSocket (answers : SocketAnswers) (fd : Nat) (sockets : Sockets) : Bool × Sockets :=
  if answers.bound then
    if answers.listening then (true, sockets.listen fd) else (false, sockets)
  else (false, sockets)

/-- `initializeSocket`: a socket that cannot be bound stays open. -/
def initializeSocket (comm : CommLife) (answers : SocketAnswers) (sockets : Sockets) : Bool × CommLife × Sockets :=
  match answers.socketFd with
  | none => (false, { comm with listenSocket := none }, sockets)
  | some fd =>
    let (ok, sockets) := bindSocket answers fd (sockets.socket fd)
    (ok, { comm with listenSocket := some fd }, sockets)

def initializeComm (comm : CommLife) (answers : SocketAnswers) (sockets : Sockets) : Bool × CommLife × Sockets :=
  if comm.initialized then (true, comm, sockets)
  else
    match comm.initializeSocket answers sockets with
    | (true, comm, sockets) => (true, { comm with initialized := true }, sockets)
    | failed => failed

def start (comm : CommLife) (answers : SocketAnswers) (sockets : Sockets) : Bool × CommLife × Sockets :=
  if comm.running then (true, comm, sockets)
  else
    match comm.initializeComm answers sockets with
    | (true, comm, sockets) => (true, { comm with running := true }, sockets)
    | failed => failed

/-- What `stop` does before it joins the threads. -/
def closeListen (comm : CommLife) (sockets : Sockets) : CommLife × Sockets :=
  let closed := { comm with running := false, listenSocket := none }
  match comm.listenSocket with
  | some fd => (closed, sockets.closesocket fd)
  | none => (closed, sockets)

/-- `stop`, and the destructor, with whether it returns. A thread in `accept` may stay there when its socket is closed,
as on Linux, and is then joined for ever. Behind the joins `cleanupSocket` finds the socket closed. -/
def stop (comm : CommLife) (acceptReturns : Bool) (sockets : Sockets) : Bool × CommLife × Sockets :=
  if comm.running then
    let (closed, sockets) := comm.closeListen sockets
    if acceptReturns then (true, { closed with initialized := false }, sockets) else (false, closed, sockets)
  else (true, comm, sockets)

/-- A module that does not run is left alone. -/
theorem stop_resting {comm : CommLife} (resting : comm.running = false) (acceptReturns : Bool) (sockets : Sockets) :
    comm.stop acceptReturns sockets = (true, comm, sockets) := by
  unfold stop
  rw [if_neg (by simp [resting])]

theorem closeListen_initialized (comm : CommLife) (sockets : Sockets) :
    (comm.closeListen sockets).1.initialized = comm.initialized := by
  unfold closeListen
  cases comm.listenSocket <;> rfl

theorem closeListen_running (comm : CommLife) (sockets : Sockets) : (comm.closeListen sockets).1.running = false := by
  unfold closeListen
  cases comm.listenSocket <;> rfl

end CommLife

/-! ## A new module -/

/-- The sockets behind the calls of `initializeSocket`. -/
def SocketAnswers.leave (answers : SocketAnswers) (sockets : Sockets) : Sockets :=
  match answers.socketFd with
  | none => sockets
  | some fd => if answers.succeed then (sockets.socket fd).listen fd else sockets.socket fd

theorem initializeComm_new (answers : SocketAnswers) (sockets : Sockets) :
    ({} : CommLife).initializeComm answers sockets =
      (answers.succeed, { listenSocket := answers.socketFd, initialized := answers.succeed }, answers.leave sockets) := by
  obtain ⟨socketFd, bound, listening⟩ := answers
  cases socketFd with
  | none => rfl
  | some fd =>
    cases bound with
    | false => rfl
    | true => cases listening <;> rfl

theorem SocketAnswers.succeed_iff (answers : SocketAnswers) :
    answers.succeed = true ↔ (∃ fd, answers.socketFd = some fd) ∧ answers.bound = true ∧ answers.listening = true := by
  simp [SocketAnswers.succeed, Option.isSome_iff_exists, and_assoc]

/-- The new socket comes in front of the others, and listens if all calls succeed. -/
theorem SocketAnswers.Possible.leave_opened {answers : SocketAnswers} {sockets : Sockets}
    (possible : answers.Possible sockets) {fd : Nat} (assigned : answers.socketFd = some fd) :
    answers.leave sockets = { sockets with opened := { fd, listening := answers.succeed } :: sockets.opened } := by
  have others : ∀ socket ∈ sockets.opened, socket.fd ≠ fd := fun socket mem same =>
    possible.fresh fd assigned (List.mem_map.2 ⟨socket, mem, same⟩)
  unfold SocketAnswers.leave
  rw [assigned]
  dsimp only
  split
  · rename_i succeeded
    have untouched : sockets.opened.map (fun socket =>
        if socket.fd = fd then { socket with listening := true } else socket) = sockets.opened :=
      (List.map_congr_left fun socket mem => if_neg (others socket mem)).trans (List.map_id _)
    simp [Sockets.socket, Sockets.listen, untouched, succeeded]
  · rename_i failed
    simp [Sockets.socket, failed]

end Actuator.Coordinator
