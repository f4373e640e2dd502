import ServiceRouting.Proofs.Loader.Interleaving

/-!
# Threads that take turns

A turn takes its thread a step closer to the end of its calls, unless the thread is stuck
(`SharedLoader.Turn.left_lt_or_stuck`).  Whoever holds the lock can go on, and if nobody holds it everybody
can, so a round of turns gets on as long as there is a call to make.  After enough rounds all calls are over
(`calls_over_in_turn`), and threads that load one id together all have the answer of one load
(`loads_together`).
-/

set_option autoImplicit false

namespace ServiceRouting

/-! ## Steps that are left -/

/-- The most steps that a call takes from this phase on. -/
def CallPhase.left : CallPhase → Nat
  | outside => 5
  | entered => 4
  | asking _ _ => 3
  | asked _ _ _ => 2
  | answered _ => 1

theorem CallPhase.left_pos (phase : CallPhase) : 0 < phase.left := by
  cases phase <;> simp [left]

theorem CallPhase.ne_outside_of_left_lt {first second : CallPhase} (less : first.left < second.left) :
    first ≠ .outside := by
  rintro rfl
  cases second <;> simp [left] at less

theorem Loader.left_advance_lt (loader : Loader) (call : LoaderCall) (table : LoadTable)
    {phase : CallPhase} (inside : phase ≠ .outside)
    (unfinished : ∀ answer, phase ≠ .answered answer) :
    (loader.advance call table phase).1.left < phase.left := by
  cases phase with
  | outside => exact absurd rfl inside
  | answered answer => exact absurd rfl (unfinished answer)
  | asking id serial => simp [advance, CallPhase.left]
  | asked id serial outcome => simp [advance, CallPhase.left]
  | entered =>
    rw [advance]
    cases call with
    | status id => simp [enter, CallPhase.left]
    | attempts id => simp [enter, CallPhase.left]
    | load id =>
      rw [enter]
      split <;> simp [CallPhase.left]

namespace LoaderThread

/-- The most turns in which a thread gets on before its calls are over. -/
def left (thread : LoaderThread) : Nat :=
  match thread.calls with
  | [] => 0
  | _ :: rest => thread.phase.left + 5 * rest.length

theorem left_of_calls {thread : LoaderThread} {call : LoaderCall} {rest : List LoaderCall}
    (current : thread.calls = call :: rest) (phase : CallPhase) :
    left { thread with phase := phase } = phase.left + 5 * rest.length := by
  simp only [left, current]

theorem left_outside (calls : List LoaderCall) (answers : List LoaderAnswer) :
    left { calls := calls, answers := answers } = 5 * calls.length := by
  cases calls with
  | nil => rfl
  | cons call rest =>
    simp only [left, CallPhase.left, List.length_cons]
    omega

theorem left_eq_zero_iff {thread : LoaderThread} : thread.left = 0 ↔ thread.calls = [] := by
  rw [left]
  cases thread.calls with
  | nil => simp
  | cons call rest =>
    have more := thread.phase.left_pos
    simp
    omega

/-- The calls of a thread, over or not. -/
def total (thread : LoaderThread) : Nat :=
  thread.answers.length + thread.calls.length

end LoaderThread

namespace SharedLoader

def leftOf : List LoaderThread → Nat
  | [] => 0
  | thread :: rest => thread.left + leftOf rest

def left (shared : SharedLoader) : Nat :=
  leftOf shared.threads

theorem leftOf_set_lt {threads : List LoaderThread} {index : Nat} {thread next : LoaderThread}
    (here : threads[index]? = some thread) (less : next.left < thread.left) :
    leftOf (threads.set index next) < leftOf threads := by
  induction threads generalizing index with
  | nil => cases here
  | cons first rest ih =>
    cases index with
    | zero =>
      obtain rfl : first = thread := by simpa using here
      exact Nat.add_lt_add_right less _
    | succ index =>
      exact Nat.add_lt_add_left (ih (by simpa using here)) _

theorem left_eq_zero_iff {shared : SharedLoader} :
    shared.left = 0 ↔ ∀ thread ∈ shared.threads, thread.calls = [] := by
  rw [left]
  induction shared.threads with
  | nil => simp [leftOf]
  | cons thread rest ih =>
    rw [leftOf, Nat.add_eq_zero_iff, LoaderThread.left_eq_zero_iff, ih, List.forall_mem_cons]

theorem left_start (table : LoadTable) (programs : List (List LoaderCall)) :
    (start table programs).left = 5 * programs.flatten.length := by
  rw [left, start]
  induction programs with
  | nil => rfl
  | cons calls rest ih =>
    rw [List.map_cons, leftOf, ih, LoaderThread.left_outside, List.flatten_cons, List.length_append]
    omega

/-! ## Turns that get on -/

variable {loader : Loader} {shared next : SharedLoader} {index : Nat}

/-- A turn in which the thread gets on takes one of its steps away. -/
theorem Turn.left_lt_or_stuck (turn : Turn loader shared index next) :
    next.left < shared.left ∨ next = shared ∧ shared.Stuck index := by
  cases turn with
  | stays stuck => exact .inr ⟨rfl, stuck⟩
  | @enters thread call rest here current outside free =>
    refine .inl (leftOf_set_lt here ?_)
    rw [LoaderThread.left_of_calls current, LoaderThread.left, current, outside]
    simp [CallPhase.left]
  | @works thread call rest here current inside unfinished =>
    refine .inl (leftOf_set_lt here ?_)
    rw [LoaderThread.left_of_calls current, LoaderThread.left, current]
    exact Nat.add_lt_add_right (loader.left_advance_lt call shared.table inside unfinished) _
  | @leaves thread call rest answer here current answered =>
    refine .inl (leftOf_set_lt here ?_)
    rw [LoaderThread.left_outside, LoaderThread.left, current, answered, List.tail_cons]
    simp [CallPhase.left]

/-- Whoever holds the lock has a call to make and is not outside. -/
def Held (shared : SharedLoader) : Prop :=
  ∀ index, shared.holder = some index → ∃ thread, shared.threads[index]? = some thread ∧
    thread.calls ≠ [] ∧ thread.phase ≠ .outside

theorem Held.turn (held : shared.Held) (turn : Turn loader shared index next) : next.Held := by
  cases turn with
  | stays stuck => exact held
  | @enters thread call rest here current outside free =>
    rintro _ ⟨⟩
    have bound : index < shared.threads.length := (List.getElem?_eq_some_iff.mp here).1
    exact ⟨_, List.getElem?_set_self bound, by simp [current], by simp⟩
  | @works thread call rest here current inside unfinished =>
    intro holding taken
    by_cases same : index = holding
    · subst same
      have bound : index < shared.threads.length := (List.getElem?_eq_some_iff.mp here).1
      have less := loader.left_advance_lt call shared.table inside unfinished
      exact ⟨_, List.getElem?_set_self bound, by simp [current],
        CallPhase.ne_outside_of_left_lt less⟩
    · obtain ⟨other, there, calls, inside⟩ := held holding taken
      exact ⟨other, (List.getElem?_set_ne same).trans there, calls, inside⟩
  | leaves here current answered => rintro _ ⟨⟩

/-- If nobody can go on, there is no call to make. -/
theorem Held.left_eq_zero (held : shared.Held)
    (stuck : ∀ index < shared.threads.length, shared.Stuck index) : shared.left = 0 := by
  rw [left_eq_zero_iff]
  intro thread member
  obtain ⟨index, here⟩ := List.mem_iff_getElem?.mp member
  have bound {index : Nat} {thread : LoaderThread} (here : shared.threads[index]? = some thread) :
      index < shared.threads.length := (List.getElem?_eq_some_iff.mp here).1
  cases taken : shared.holder with
  | none =>
    rcases stuck index (bound here) thread here with ended | ⟨_, waits⟩
    · exact ended
    · exact absurd taken waits
  | some holding =>
    obtain ⟨holder, there, calls, inside⟩ := held holding taken
    rcases stuck holding (bound there) holder there with ended | ⟨outside, _⟩
    · exact absurd ended calls
    · exact absurd outside inside

theorem Held.free (held : shared.Held) (ended : shared.left = 0) : shared.holder = none := by
  refine Option.eq_none_iff_forall_ne_some.mpr ?_
  intro index taken
  obtain ⟨thread, here, calls, _⟩ := held index taken
  exact calls (left_eq_zero_iff.mp ended thread (List.mem_of_getElem? here))

/-! ## What turns keep -/

theorem Turn.totals (turn : Turn loader shared index next) :
    next.threads.map LoaderThread.total = shared.threads.map LoaderThread.total := by
  have kept {thread moved : LoaderThread} (here : shared.threads[index]? = some thread)
      (same : moved.total = thread.total) :
      (shared.threads.set index moved).map LoaderThread.total =
        shared.threads.map LoaderThread.total := by
    obtain ⟨bound, rfl⟩ := List.getElem?_eq_some_iff.mp here
    rw [List.map_set, same, ← List.map_set, List.set_getElem_self]
  cases turn with
  | stays stuck => rfl
  | enters here current outside free => exact kept here rfl
  | works here current inside unfinished => exact kept here rfl
  | leaves here current answered =>
    refine kept here ?_
    simp only [LoaderThread.total, current, List.length_append, List.length_cons, List.length_nil,
      List.tail_cons]
    omega

/-- All calls, to be made or under way or over, are of one kind. -/
structure Only (allowed : LoaderCall → Prop) (shared : SharedLoader) : Prop where
  calls : ∀ thread ∈ shared.threads, ∀ call ∈ thread.calls, allowed call
  order : ∀ entry ∈ shared.order, allowed entry.2

theorem Only.turn {allowed : LoaderCall → Prop} (only : shared.Only allowed)
    (turn : Turn loader shared index next) : next.Only allowed := by
  have calls {thread moved : LoaderThread} (here : shared.threads[index]? = some thread)
      (fewer : moved.calls ⊆ thread.calls) :
      ∀ other ∈ shared.threads.set index moved, ∀ call ∈ other.calls, allowed call := by
    intro other member call made
    rcases List.mem_or_eq_of_mem_set member with old | rfl
    · exact only.calls other old call made
    · exact only.calls thread (List.mem_of_getElem? here) call (fewer made)
  cases turn with
  | stays stuck => exact only
  | @enters thread call rest here current outside free =>
    refine ⟨calls here (List.Subset.refl _), ?_⟩
    intro entry member
    rcases List.mem_append.mp member with old | new
    · exact only.order entry old
    · obtain rfl := List.mem_singleton.mp new
      exact only.calls thread (List.mem_of_getElem? here) call (by simp [current])
  | works here current inside unfinished => exact ⟨calls here (List.Subset.refl _), only.order⟩
  | leaves here current answered => exact ⟨calls here fun _ => List.mem_of_mem_tail, only.order⟩

theorem only_start (table : LoadTable) {allowed : LoaderCall → Prop}
    {programs : List (List LoaderCall)}
    (calls : ∀ program ∈ programs, ∀ call ∈ program, allowed call) :
    (start table programs).Only allowed := by
  refine ⟨?_, fun entry member => absurd member List.not_mem_nil⟩
  intro thread member
  obtain ⟨program, inside, rfl⟩ := List.mem_map.mp member
  exact calls program inside

/-! ## Rounds of turns -/

theorem run_append (loader : Loader) (shared : SharedLoader) (first rest : List Nat) :
    run loader shared (first ++ rest) = run loader (run loader shared first) rest :=
  List.foldl_append

/-- What every turn keeps is kept by a whole schedule. -/
theorem run_keeps {Good : SharedLoader → Prop}
    (kept : ∀ {before after : SharedLoader} {index : Nat}, Turn loader before index after →
      Good before → Good after)
    (schedule : List Nat) (good : Good shared) : Good (run loader shared schedule) := by
  induction schedule generalizing shared with
  | nil => exact good
  | cons index rest ih => exact ih (kept (turn_step loader shared index) good)

theorem totals_run (loader : Loader) (shared : SharedLoader) (schedule : List Nat) :
    (run loader shared schedule).threads.map LoaderThread.total =
      shared.threads.map LoaderThread.total :=
  run_keeps (fun turn same => turn.totals.trans same) schedule rfl

theorem length_threads_run (loader : Loader) (shared : SharedLoader) (schedule : List Nat) :
    (run loader shared schedule).threads.length = shared.threads.length := by
  simpa using congrArg List.length (totals_run loader shared schedule)

theorem Held.run (held : shared.Held) (loader : Loader) (schedule : List Nat) :
    (run loader shared schedule).Held :=
  run_keeps (fun turn held => held.turn turn) schedule held

theorem run_left_lt_or_stuck (loader : Loader) (shared : SharedLoader) (turns : List Nat) :
    (run loader shared turns).left < shared.left ∨
      run loader shared turns = shared ∧ ∀ index ∈ turns, shared.Stuck index := by
  induction turns generalizing shared with
  | nil => exact .inr ⟨rfl, by simp⟩
  | cons index rest ih =>
    have turn := turn_step loader shared index
    rcases turn.left_lt_or_stuck with less | ⟨same, stuck⟩
    · rcases ih (step loader shared index) with later | ⟨stays, _⟩
      · exact .inl (Nat.lt_trans later less)
      · exact .inl (stays.symm ▸ less)
    · have run_eq : run loader shared (index :: rest) = run loader shared rest :=
        congrArg (run loader · rest) same
      rw [run_eq, List.forall_mem_cons]
      exact (ih shared).imp id fun ⟨stays, others⟩ => ⟨stays, stuck, others⟩

/-- A round takes a step away while there is one. -/
theorem Held.left_round_le (held : shared.Held) (loader : Loader) :
    (SharedLoader.run loader shared (List.range shared.threads.length)).left ≤
      shared.left - 1 := by
  rcases run_left_lt_or_stuck loader shared (List.range shared.threads.length) with
    less | ⟨same, stuck⟩
  · omega
  · have ended := held.left_eq_zero fun index bound => stuck index (List.mem_range.mpr bound)
    rw [same]
    omega

theorem Held.left_rounds_le (held : shared.Held) (loader : Loader) (rounds : Nat) :
    (SharedLoader.run loader shared
        (List.replicate rounds (List.range shared.threads.length)).flatten).left ≤
      shared.left - rounds := by
  induction rounds generalizing shared with
  | zero => exact Nat.le_refl _
  | succ rounds ih =>
    have first := held.left_round_le loader
    have later := ih (held.run loader (List.range shared.threads.length))
    rw [length_threads_run] at later
    rw [List.replicate_succ, List.flatten_cons, run_append]
    omega

theorem held_start (table : LoadTable) (programs : List (List LoaderCall)) :
    (start table programs).Held := by
  rintro index ⟨⟩

theorem totals_start (table : LoadTable) (programs : List (List LoaderCall)) :
    (start table programs).threads.map LoaderThread.total = programs.map List.length := by
  rw [start, List.map_map]
  refine List.map_congr_left ?_
  intro calls _
  simp [LoaderThread.total]

end SharedLoader

/-- Whatever threads have to call, and on whatever table: when each has had its turn five times for every
call that there is, all calls have got their answers and nobody holds the lock. -/
theorem calls_over_in_turn (loader : Loader) (table : LoadTable) (programs : List (List LoaderCall))
    (rounds : Nat) (enough : 5 * programs.flatten.length ≤ rounds) :
    let schedule := (List.replicate rounds (List.range programs.length)).flatten
    let shared := SharedLoader.run loader (.start table programs) schedule
    shared.holder = none ∧ (∀ thread ∈ shared.threads, thread.calls = []) ∧
      shared.threads.map (fun thread => thread.answers.length) = programs.map List.length := by
  intro schedule shared
  have held := SharedLoader.held_start table programs
  have threads : (SharedLoader.start table programs).threads.length = programs.length := by
    simp [SharedLoader.start]
  have left := held.left_rounds_le loader rounds
  rw [threads, SharedLoader.left_start, Nat.sub_eq_zero_of_le enough, Nat.le_zero] at left
  have ended := SharedLoader.left_eq_zero_iff.mp left
  refine ⟨(held.run loader schedule).free left, ended, ?_⟩
  rw [← SharedLoader.totals_start table, ← SharedLoader.totals_run loader _ schedule]
  refine List.map_congr_left ?_
  intro thread member
  simp [LoaderThread.total, ended thread member]

/-! ## Loads of one id -/

namespace Loader

variable (loader : Loader) {id : ProviderId} {entries : List (Nat × LoaderCall)}

theorem serialTable_loads (only : ∀ entry ∈ entries, entry.2 = .load id) :
    loader.serialTable entries = .empty ∨
      loader.serialTable entries = (loader.load id .empty).2 := by
  induction entries using List.reverseRecOn with
  | nil => exact .inl rfl
  | append_singleton before entry ih =>
    obtain ⟨early, last⟩ := List.forall_mem_append.mp only
    obtain ⟨index, call⟩ := entry
    obtain rfl : call = .load id := last _ (List.mem_singleton_self _)
    rw [serialTable_concat, call]
    rcases ih early with untouched | loaded
    · rw [untouched]
      exact .inr rfl
    · rw [loaded, loader.load_of_answer (loader.answer?_load id .empty)]
      exact .inr rfl

theorem served_loads (only : ∀ entry ∈ entries, entry.2 = .load id) {index : Nat}
    {answer : LoaderAnswer} (member : ((index, .load id), answer) ∈ loader.served entries) :
    answer = .loaded (loader.load id .empty).1 := by
  obtain ⟨outcome, rfl, kept⟩ := loader.served_load member
  rcases loader.serialTable_loads only with untouched | loaded
  · rw [untouched] at kept
    cases kept
  · rw [loaded, loader.answer?_load] at kept
    rw [Option.some.inj kept]

end Loader

/-- Threads that load one id together all get an answer, whatever was loaded before. -/
theorem loadTogether_over (loader : Loader) (id : ProviderId) (threads : Nat) (table : LoadTable) :
    let shared := SharedLoader.loadTogether loader id threads table
    shared.holder = none ∧
      ∀ thread ∈ shared.threads, thread.calls = [] ∧ thread.answers.length = 1 := by
  intro shared
  have done := calls_over_in_turn loader table (List.replicate threads [.load id]) (5 * threads)
    (by simp)
  rw [List.length_replicate] at done
  obtain ⟨free, ended, answers⟩ := done
  refine ⟨free, fun thread member => ⟨ended thread member, ?_⟩⟩
  have given : thread.answers.length ∈
      (List.replicate threads [LoaderCall.load id]).map List.length :=
    answers ▸ List.mem_map_of_mem member
  rw [List.map_replicate] at given
  exact List.eq_of_mem_replicate given

/-- On a fresh table each of them gets the answer of a single load. -/
theorem loads_together (loader : Loader) (id : ProviderId) (threads : Nat) :
    let shared := SharedLoader.loadTogether loader id threads .empty
    ∀ index < threads, ∃ thread, shared.threads[index]? = some thread ∧
      thread.answers = [.loaded (loader.load id .empty).1] := by
  intro shared index bound
  let programs : List (List LoaderCall) := List.replicate threads [.load id]
  have only : shared.Only (· = .load id) :=
    SharedLoader.run_keeps (fun turn only => only.turn turn) (SharedLoader.inTurn threads)
      (SharedLoader.only_start .empty (by simp))
  obtain ⟨done, orderly⟩ :=
    (SharedLoader.orderly_start loader programs).run (SharedLoader.inTurn threads)
  obtain ⟨free, ended⟩ := loadTogether_over loader id threads .empty
  have order : shared.order = done := by
    have completed : shared.completed = done := orderly.lock.completed
    rwa [SharedLoader.completed, free] at completed
  obtain ⟨thread, here, split, answers⟩ :=
    orderly.told index [.load id] (by simp [programs, bound])
  rw [(ended thread (List.mem_of_getElem? here)).1, List.append_nil] at split
  obtain ⟨⟨_, answer⟩, exchange, rfl⟩ := List.map_eq_singleton_iff.mp split.symm
  have served : ((index, .load id), answer) ∈ loader.served done := by
    rw [← loader.mem_exchanges, exchange]
    exact List.mem_singleton_self _
  have told : answer = .loaded (loader.load id .empty).1 :=
    loader.served_loads (order ▸ only.order) served
  refine ⟨thread, here, ?_⟩
  rw [answers, exchange, told]
  rfl

end ServiceRouting
