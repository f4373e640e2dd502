import ServiceRouting.Loader

/-!
# Loading from several threads

Threads share one table behind a lock.  A call takes the lock, works on the table in steps between
which other threads may take theirs, and gives the lock back.  Only the holder of the lock can work,
so the calls answer as if they were made one after the other in the order in which they took it.
A schedule is a list of thread numbers; it decides which thread takes the next step, and a thread
that cannot go on wastes its turn.
-/

set_option autoImplicit false

namespace ServiceRouting

/-! ## Calls -/

inductive LoaderCall where
  | load (id : ProviderId)
  | status (id : ProviderId)
  | attempts (id : ProviderId)
  deriving DecidableEq

inductive LoaderAnswer where
  | loaded (outcome : Except Unavailable LoadedModule)
  | status (status : LoadStatus)
  | attempts (count : Nat)

/-- A call that nobody interrupts. -/
def Loader.call (loader : Loader) (table : LoadTable) : LoaderCall → LoaderAnswer × LoadTable
  | .load id =>
    let loading := loader.load id table
    (.loaded loading.1, loading.2)
  | .status id => (.status (table.status id), table)
  | .attempts id => (.attempts (table.attempts id), table)

/-- Calls one after the other. -/
def Loader.callAll (loader : Loader) (table : LoadTable) :
    List LoaderCall → List LoaderAnswer × LoadTable
  | [] => ([], table)
  | call :: rest =>
    let first := loader.call table call
    let later := loader.callAll first.2 rest
    (first.1 :: later.1, later.2)

/-! ## Steps of a call -/

/-- How far a thread is with its current call. -/
inductive CallPhase where
  /-- The lock is not taken yet. -/
  | outside
  | entered
  /-- The attempt is counted and the source is being asked. -/
  | asking (id : ProviderId) (serial : Nat)
  /-- The source's answer is examined, the slot has no outcome yet. -/
  | asked (id : ProviderId) (serial : Nat) (outcome : Except LoadFailure Module)
  /-- The answer is there, the lock is still held. -/
  | answered (answer : LoaderAnswer)

/-- What a call does first under the lock. -/
def Loader.enter (loader : Loader) (table : LoadTable) : LoaderCall → CallPhase × LoadTable
  | .load id =>
    match (table.slot id).state with
    | .notAttempted =>
      let begun := table.begin id
      (.asking id begun.opened.length, begun)
    | _ => (.answered (loader.call table (.load id)).1, table)
  | other => (.answered (loader.call table other).1, table)

/-- One step of a call under the lock. -/
def Loader.advance (loader : Loader) (call : LoaderCall) (table : LoadTable) :
    CallPhase → CallPhase × LoadTable
  | .outside => (.outside, table)
  | .entered => loader.enter table call
  | .asking id serial =>
    let opening := loader.openModule id table
    (.asked id serial opening.1, opening.2)
  | .asked id serial outcome =>
    let concluded := loader.conclude id serial outcome table
    (.answered (.loaded concluded.1), concluded.2)
  | .answered answer => (.answered answer, table)

/-! ## Threads -/

structure LoaderThread where
  /-- The calls that are not over, the current one first. -/
  calls : List LoaderCall
  phase : CallPhase := .outside
  answers : List LoaderAnswer := []

/-- The table, the thread that holds its lock, and all threads. -/
structure SharedLoader where
  table : LoadTable
  holder : Option Nat
  threads : List LoaderThread
  /-- The calls that took the lock so far, with their threads. -/
  order : List (Nat × LoaderCall)

namespace SharedLoader

def start (table : LoadTable) (programs : List (List LoaderCall)) : SharedLoader :=
  ⟨table, none, programs.map fun calls => { calls := calls }, []⟩

def setThread (shared : SharedLoader) (index : Nat) (thread : LoaderThread) : SharedLoader :=
  { shared with threads := shared.threads.set index thread }

/-- Takes the lock if it is free. -/
def acquire (shared : SharedLoader) (index : Nat) (thread : LoaderThread) (call : LoaderCall) :
    SharedLoader :=
  match shared.holder with
  | some _ => shared
  | none =>
    { shared.setThread index { thread with phase := .entered } with
      holder := some index
      order := shared.order ++ [(index, call)] }

/-- Gives the lock back and the answer to the caller. -/
def release (shared : SharedLoader) (index : Nat) (thread : LoaderThread)
    (answer : LoaderAnswer) : SharedLoader :=
  { shared.setThread index
      { calls := thread.calls.tail, answers := thread.answers ++ [answer] } with
    holder := none }

def work (loader : Loader) (shared : SharedLoader) (index : Nat) (thread : LoaderThread)
    (call : LoaderCall) : SharedLoader :=
  let done := loader.advance call shared.table thread.phase
  { shared.setThread index { thread with phase := done.1 } with table := done.2 }

/-- One step of a thread with a call to make. -/
def stepCall (loader : Loader) (shared : SharedLoader) (index : Nat) (thread : LoaderThread)
    (call : LoaderCall) : SharedLoader :=
  match thread.phase with
  | .outside => shared.acquire index thread call
  | .answered answer => shared.release index thread answer
  | _ => work loader shared index thread call

def step (loader : Loader) (shared : SharedLoader) (index : Nat) : SharedLoader :=
  match shared.threads[index]? with
  | none => shared
  | some thread =>
    match thread.calls with
    | [] => shared
    | call :: _ => stepCall loader shared index thread call

def run (loader : Loader) (shared : SharedLoader) (schedule : List Nat) : SharedLoader :=
  schedule.foldl (step loader) shared

/-! ## What can be seen from outside -/

/-- The ids for which a thread is asking the source. -/
def asking (shared : SharedLoader) : List ProviderId :=
  shared.threads.filterMap fun thread =>
    match thread.phase with
    | .asking id _ => some id
    | _ => none

/-- The ids for which the source has been asked, or is being asked. -/
def started (shared : SharedLoader) : List ProviderId :=
  shared.table.opened ++ shared.asking

/-- Each thread in turn, often enough for every thread to finish a call. -/
def inTurn (threads : Nat) : List Nat :=
  (List.replicate (5 * threads) (List.range threads)).flatten

/-- Loads one id from several threads at once. -/
def loadTogether (loader : Loader) (id : ProviderId) (threads : Nat) (table : LoadTable) :
    SharedLoader :=
  run loader (start table (List.replicate threads [.load id])) (inTurn threads)

end SharedLoader

end ServiceRouting
