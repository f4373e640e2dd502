import ServiceRouting.Proofs.Loader.Serial

/-!
# Threads that share a loader

Threads take their steps in any order; a turn comes to one of four things (`SharedLoader.Turn`).  The
invariant `SharedLoader.Orderly`, which every turn keeps, says that a reachable state is the state after
the completed calls, made one after the other in the order in which they took the lock, together with at
most one call that is under way under the lock (`Loader.Underway`).  From it follows what the threads see
of each other: `threads_serialize`.
-/

set_option autoImplicit false

namespace ServiceRouting

/-- The id for which the source is being asked in this phase. -/
def CallPhase.asking? : CallPhase → Option ProviderId
  | asking id _ => some id
  | _ => none

/-! ## A call under the lock -/

/-- How far a call is that took the lock over the table `before`, and what it has made of it. -/
inductive Loader.Underway (loader : Loader) (before : LoadTable) :
    LoaderCall → CallPhase → LoadTable → Prop where
  | entered (call : LoaderCall) : Underway loader before call .entered before
  /-- The slot is torn here: the attempt is counted and there is no outcome. -/
  | asking (id : ProviderId) (fresh : before.answer? id = none) :
    Underway loader before (.load id)
      (.asking id (before.begin id).opened.length) (before.begin id)
  | asked (id : ProviderId) (fresh : before.answer? id = none) :
    Underway loader before (.load id)
      (.asked id (before.begin id).opened.length (loader.openModule id (before.begin id)).1)
      (loader.openModule id (before.begin id)).2
  | answered (call : LoaderCall) :
    Underway loader before call (.answered (loader.call before call).1)
      (loader.call before call).2

namespace Loader

variable (loader : Loader)

theorem enter_of_fresh {table : LoadTable} {id : ProviderId} (fresh : table.answer? id = none) :
    loader.enter table (.load id) =
      (.asking id (table.begin id).opened.length, table.begin id) := by
  rw [enter, LoadState.answer?_eq_none_iff.mp fresh]

theorem enter_of_answer {table : LoadTable} {id : ProviderId}
    {answer : Except Unavailable LoadedModule} (kept : table.answer? id = some answer) :
    loader.enter table (.load id) = (.answered (.loaded answer), table) := by
  rw [enter, LoadState.eq_ofAnswer kept, call, loader.load_of_answer kept]
  cases answer <;> rfl

/-- A step under the lock takes the call further. -/
theorem Underway.advance {loader : Loader} {before table : LoadTable} {call : LoaderCall}
    {phase : CallPhase} (underway : loader.Underway before call phase table)
    (unfinished : ∀ answer, phase ≠ .answered answer) :
    loader.Underway before call (loader.advance call table phase).1
      (loader.advance call table phase).2 := by
  cases underway with
  | entered =>
    rw [Loader.advance]
    cases call with
    | status id => exact .answered (.status id)
    | attempts id => exact .answered (.attempts id)
    | load id =>
      cases kept : before.answer? id with
      | none =>
        rw [loader.enter_of_fresh kept]
        exact .asking id kept
      | some answer =>
        have loaded : loader.call before (.load id) = (.loaded answer, before) := by
          rw [Loader.call, loader.load_of_answer kept]
        have done : loader.Underway before (.load id) _ _ := .answered (.load id)
        rw [loaded] at done
        rw [loader.enter_of_answer kept]
        exact done
  | asking id fresh => exact .asked id fresh
  | asked id fresh =>
    have attempted : loader.call before (.load id) =
        (.loaded (loader.attempt id before).1, (loader.attempt id before).2) := by
      rw [Loader.call, loader.load_of_fresh fresh]
    have done : loader.Underway before (.load id) _ _ := .answered (.load id)
    rw [attempted] at done
    exact done
  | answered => exact absurd rfl (unfinished _)

/-- A call under way has asked the source for no more than the finished call asks for. -/
theorem Underway.started {loader : Loader} {before table : LoadTable} {call : LoaderCall}
    {phase : CallPhase} (underway : loader.Underway before call phase table)
    (settled : before.Settled) : (table.opened ++ phase.asking?.toList).Nodup := by
  cases underway with
  | entered => simpa [CallPhase.asking?] using settled.opened_nodup
  | asking id fresh =>
    have after := (loader.load_settled id settled).opened_nodup
    rw [loader.load_of_fresh fresh, (loader.attempt_spec id before).2.1] at after
    simpa [CallPhase.asking?] using after
  | asked id fresh =>
    have after := (loader.load_settled id settled).opened_nodup
    rw [loader.load_of_fresh fresh, (loader.attempt_spec id before).2.1] at after
    simpa [CallPhase.asking?] using after
  | answered => simpa [CallPhase.asking?] using (loader.call_settled settled call).opened_nodup

theorem Underway.untouched {loader : Loader} {before table : LoadTable} {call : LoaderCall}
    (underway : loader.Underway before call .entered table) : table = before := by
  cases underway with
  | entered => rfl

theorem Underway.answer {loader : Loader} {before table : LoadTable} {call : LoaderCall}
    {answer : LoaderAnswer} (underway : loader.Underway before call (.answered answer) table) :
    answer = (loader.call before call).1 ∧ table = (loader.call before call).2 := by
  cases underway with
  | answered => exact ⟨rfl, rfl⟩

/-- A step under the lock takes back no opening. -/
theorem advance_started (call : LoaderCall) (table : LoadTable) (phase : CallPhase) :
    table.opened ++ phase.asking?.toList <+:
      (loader.advance call table phase).2.opened ++
        (loader.advance call table phase).1.asking?.toList := by
  cases phase with
  | outside => exact List.prefix_refl _
  | answered answer => exact List.prefix_refl _
  | asking id serial => simp [advance, CallPhase.asking?]
  | asked id serial outcome =>
    have same := (loader.conclude_spec id serial outcome table).2.1
    simp [advance, CallPhase.asking?, same]
  | entered =>
    rw [advance]
    cases call with
    | status id => exact List.prefix_refl _
    | attempts id => exact List.prefix_refl _
    | load id =>
      cases kept : table.answer? id with
      | none =>
        rw [loader.enter_of_fresh kept]
        simp [CallPhase.asking?]
      | some answer =>
        rw [loader.enter_of_answer kept]
        exact List.prefix_refl _

end Loader

namespace SharedLoader

/-! ## One turn -/

/-- A thread has no call to make, or another one has the lock that it needs. -/
def Stuck (shared : SharedLoader) (index : Nat) : Prop :=
  ∀ thread, shared.threads[index]? = some thread →
    thread.calls = [] ∨ thread.phase = .outside ∧ shared.holder ≠ none

/-- What a turn of a thread comes to. -/
inductive Turn (loader : Loader) (shared : SharedLoader) (index : Nat) : SharedLoader → Prop where
  | stays (stuck : shared.Stuck index) : Turn loader shared index shared
  | enters {thread : LoaderThread} {call : LoaderCall} {rest : List LoaderCall}
    (here : shared.threads[index]? = some thread) (current : thread.calls = call :: rest)
    (outside : thread.phase = .outside) (free : shared.holder = none) :
    Turn loader shared index
      { shared.setThread index { thread with phase := .entered } with
        holder := some index
        order := shared.order ++ [(index, call)] }
  | works {thread : LoaderThread} {call : LoaderCall} {rest : List LoaderCall}
    (here : shared.threads[index]? = some thread) (current : thread.calls = call :: rest)
    (inside : thread.phase ≠ .outside) (unfinished : ∀ answer, thread.phase ≠ .answered answer) :
    Turn loader shared index (work loader shared index thread call)
  | leaves {thread : LoaderThread} {call : LoaderCall} {rest : List LoaderCall}
    {answer : LoaderAnswer} (here : shared.threads[index]? = some thread)
    (current : thread.calls = call :: rest) (answered : thread.phase = .answered answer) :
    Turn loader shared index (shared.release index thread answer)

theorem turn_step (loader : Loader) (shared : SharedLoader) (index : Nat) :
    Turn loader shared index (step loader shared index) := by
  rw [step]
  cases here : shared.threads[index]? with
  | none =>
    refine .stays ?_
    intro thread there
    rw [here] at there
    cases there
  | some thread =>
    have found {other : LoaderThread} (there : shared.threads[index]? = some other) :
        thread = other := Option.some.inj (here.symm.trans there)
    cases current : thread.calls with
    | nil =>
      simp only [current]
      exact .stays fun other there => .inl (found there ▸ current)
    | cons call rest =>
      simp only [current, stepCall]
      cases phase : thread.phase with
      | outside =>
        rw [acquire]
        cases free : shared.holder with
        | none => exact .enters here current phase free
        | some holder =>
          exact .stays fun other there => .inr ⟨found there ▸ phase, by simp [free]⟩
      | answered answer => exact .leaves here current phase
      | entered => exact .works here current (by simp [phase]) (by simp [phase])
      | asking id serial => exact .works here current (by simp [phase]) (by simp [phase])
      | asked id serial outcome => exact .works here current (by simp [phase]) (by simp [phase])

/-! ## Reachable states -/

/-- The calls that took the lock and gave it back, in the order in which they took it. -/
def completed (shared : SharedLoader) : List (Nat × LoaderCall) :=
  match shared.holder with
  | none => shared.order
  | some _ => shared.order.dropLast

/-- All threads but one are outside the lock. -/
def Alone (threads : List LoaderThread) (index : Nat) : Prop :=
  ∀ (other : Nat) idle, other ≠ index → threads[other]? = some idle → idle.phase = .outside

/-- Who holds the lock, when the calls in `done` are completed. -/
inductive Lock (loader : Loader) (shared : SharedLoader) (done : List (Nat × LoaderCall)) :
    Prop where
  | free (holder : shared.holder = none) (order : shared.order = done)
    (table : shared.table = loader.serialTable done)
    (outside : ∀ (index : Nat) thread, shared.threads[index]? = some thread →
      thread.phase = .outside)
  | held (index : Nat) (thread : LoaderThread) (call : LoaderCall) (rest : List LoaderCall)
    (holder : shared.holder = some index) (order : shared.order = done ++ [(index, call)])
    (here : shared.threads[index]? = some thread) (current : thread.calls = call :: rest)
    (underway : loader.Underway (loader.serialTable done) call thread.phase shared.table)
    (alone : Alone shared.threads index)

/-- Every thread has the answers to those of its calls that are in `done`, as they are when the
calls in `done` are made one after the other, and the calls that are not over. -/
def Told (loader : Loader) (programs : List (List LoaderCall)) (threads : List LoaderThread)
    (done : List (Nat × LoaderCall)) : Prop :=
  ∀ index program, programs[index]? = some program →
    ∃ thread, threads[index]? = some thread ∧
      program = (loader.exchanges done index).map Prod.fst ++ thread.calls ∧
      thread.answers = (loader.exchanges done index).map Prod.snd

structure Orderly (loader : Loader) (programs : List (List LoaderCall)) (shared : SharedLoader)
    (done : List (Nat × LoaderCall)) : Prop where
  told : Told loader programs shared.threads done
  lock : shared.Lock loader done

variable {loader : Loader} {programs : List (List LoaderCall)} {shared : SharedLoader}
  {done : List (Nat × LoaderCall)}

theorem Lock.completed (lock : shared.Lock loader done) : shared.completed = done := by
  cases lock with
  | free holder order => simp [SharedLoader.completed, holder, order]
  | held index thread call rest holder order => simp [SharedLoader.completed, holder, order]

theorem orderly_start (loader : Loader) (programs : List (List LoaderCall)) :
    (start .empty programs).Orderly loader programs [] where
  told index program here := by
    refine ⟨{ calls := program }, ?_, ?_, ?_⟩
    · simp [start, here]
    · simp [Loader.exchanges, Loader.served]
    · simp [Loader.exchanges, Loader.served]
  lock := by
    refine .free rfl rfl rfl ?_
    intro index thread here
    obtain ⟨program, _, rfl⟩ := List.mem_map.mp (List.mem_of_getElem? here)
    rfl

theorem Alone.set {threads : List LoaderThread} {index : Nat} (alone : Alone threads index)
    (thread : LoaderThread) : Alone (threads.set index thread) index := by
  intro other idle different there
  rw [List.getElem?_set_ne (Ne.symm different)] at there
  exact alone other idle different there

/-- A thread that moves on within its current call has been told nothing new. -/
theorem Told.set {threads : List LoaderThread} (told : Told loader programs threads done)
    {index : Nat} {old thread : LoaderThread} (here : threads[index]? = some old)
    (calls : thread.calls = old.calls) (answers : thread.answers = old.answers) :
    Told loader programs (threads.set index thread) done := by
  intro other program known
  obtain ⟨found, there, split, given⟩ := told other program known
  by_cases same : other = index
  · subst same
    obtain rfl : old = found := Option.some.inj (here.symm.trans there)
    have bound : other < threads.length := (List.getElem?_eq_some_iff.mp here).1
    exact ⟨thread, List.getElem?_set_self bound, calls ▸ split, answers.trans given⟩
  · exact ⟨found, (List.getElem?_set_ne (Ne.symm same)).trans there, split, given⟩

/-- A thread that leaves the lock has been told the answer to its current call. -/
theorem Told.finish {threads : List LoaderThread} (told : Told loader programs threads done)
    {index : Nat} {thread : LoaderThread} {call : LoaderCall} {rest : List LoaderCall}
    (here : threads[index]? = some thread) (current : thread.calls = call :: rest) :
    let answer := (loader.call (loader.serialTable done) call).1
    Told loader programs
      (threads.set index { calls := thread.calls.tail, answers := thread.answers ++ [answer] })
      (done ++ [(index, call)]) := by
  intro answer other program known
  obtain ⟨found, there, split, given⟩ := told other program known
  by_cases same : other = index
  · subst same
    obtain rfl : thread = found := Option.some.inj (here.symm.trans there)
    have bound : other < threads.length := (List.getElem?_eq_some_iff.mp here).1
    refine ⟨_, List.getElem?_set_self bound, ?_, ?_⟩
    · rw [split, current, Loader.exchanges_concat_self]
      simp
    · rw [given, Loader.exchanges_concat_self]
      simp [answer]
  · refine ⟨found, (List.getElem?_set_ne (Ne.symm same)).trans there, ?_⟩
    rw [loader.exchanges_concat_of_ne done call (Ne.symm same)]
    exact ⟨split, given⟩

/-- A thread that is not outside holds the lock. -/
theorem Lock.of_inside (lock : shared.Lock loader done) {index : Nat} {thread : LoaderThread}
    (here : shared.threads[index]? = some thread) (inside : thread.phase ≠ .outside) :
    ∃ call rest, shared.holder = some index ∧ shared.order = done ++ [(index, call)] ∧
      thread.calls = call :: rest ∧
      loader.Underway (loader.serialTable done) call thread.phase shared.table ∧
      Alone shared.threads index := by
  cases lock with
  | free holder order table outside => exact absurd (outside index thread here) inside
  | held holding held call rest holder order there current underway alone =>
    have same : index = holding := by
      by_contra different
      exact inside (alone index thread different here)
    subst same
    obtain rfl : thread = held := Option.some.inj (here.symm.trans there)
    exact ⟨call, rest, holder, order, current, underway, alone⟩

/-! ## Steps -/

theorem Orderly.enter (orderly : shared.Orderly loader programs done) {index : Nat}
    {thread : LoaderThread} {call : LoaderCall} {rest : List LoaderCall}
    (here : shared.threads[index]? = some thread) (current : thread.calls = call :: rest)
    (free : shared.holder = none) :
    Orderly loader programs
      { shared.setThread index { thread with phase := .entered } with
        holder := some index
        order := shared.order ++ [(index, call)] } done := by
  cases orderly.lock with
  | held holding held other more holder => exact absurd (free.symm.trans holder) (by simp)
  | free holder order table outside =>
    have bound : index < shared.threads.length := (List.getElem?_eq_some_iff.mp here).1
    -- The call is appended to the order but not completed yet.
    refine ⟨orderly.told.set here rfl rfl, ?_⟩
    refine .held index { thread with phase := .entered } call rest rfl ?_
      (List.getElem?_set_self bound) current ?_ ?_
    · exact congrArg (· ++ [(index, call)]) order
    · exact table ▸ .entered call
    · exact Alone.set (fun other idle _ there => outside other idle there) _

theorem Orderly.work (orderly : shared.Orderly loader programs done) {index : Nat}
    {thread : LoaderThread} {call : LoaderCall} {rest : List LoaderCall}
    (here : shared.threads[index]? = some thread) (current : thread.calls = call :: rest)
    (inside : thread.phase ≠ .outside) (unfinished : ∀ answer, thread.phase ≠ .answered answer) :
    (SharedLoader.work loader shared index thread call).Orderly loader programs done := by
  obtain ⟨mine, more, holder, order, calls, underway, alone⟩ := orderly.lock.of_inside here inside
  obtain ⟨rfl, rfl⟩ := List.cons.inj (current.symm.trans calls)
  have bound : index < shared.threads.length := (List.getElem?_eq_some_iff.mp here).1
  refine ⟨orderly.told.set here rfl rfl, ?_⟩
  exact .held index _ call rest holder order (List.getElem?_set_self bound) current
    (underway.advance unfinished) (alone.set _)

theorem Orderly.release (orderly : shared.Orderly loader programs done) {index : Nat}
    {thread : LoaderThread} {call : LoaderCall} {rest : List LoaderCall} {answer : LoaderAnswer}
    (here : shared.threads[index]? = some thread) (current : thread.calls = call :: rest)
    (answered : thread.phase = .answered answer) :
    (shared.release index thread answer).Orderly loader programs (done ++ [(index, call)]) := by
  have inside : thread.phase ≠ .outside := by simp [answered]
  obtain ⟨mine, more, holder, order, calls, underway, alone⟩ := orderly.lock.of_inside here inside
  obtain ⟨rfl, rfl⟩ := List.cons.inj (current.symm.trans calls)
  -- Only now the call counts as completed, with the answer that a call on its own gives.
  rw [answered] at underway
  obtain ⟨rfl, table⟩ := underway.answer
  have bound : index < shared.threads.length := (List.getElem?_eq_some_iff.mp here).1
  refine ⟨orderly.told.finish here current, ?_⟩
  refine .free rfl order (table.trans (loader.serialTable_concat done index call).symm) ?_
  intro other idle there
  by_cases same : other = index
  · subst same
    rw [SharedLoader.release, SharedLoader.setThread, List.getElem?_set_self bound] at there
    cases there
    rfl
  · exact alone.set _ other idle same there

theorem Orderly.turn (orderly : shared.Orderly loader programs done) {index : Nat}
    {after : SharedLoader} (turn : Turn loader shared index after) :
    ∃ next, after.Orderly loader programs next := by
  cases turn with
  | stays stuck => exact ⟨done, orderly⟩
  | enters here current outside free => exact ⟨done, orderly.enter here current free⟩
  | works here current inside unfinished => exact ⟨done, orderly.work here current inside unfinished⟩
  | leaves here current answered => exact ⟨_, orderly.release here current answered⟩

theorem Orderly.run (orderly : shared.Orderly loader programs done) (schedule : List Nat) :
    ∃ next, (run loader shared schedule).Orderly loader programs next := by
  induction schedule generalizing shared done with
  | nil => exact ⟨done, orderly⟩
  | cons index rest ih =>
    obtain ⟨next, stepped⟩ := orderly.turn (turn_step loader shared index)
    exact ih stepped

/-! ## Openings -/

theorem asking_eq (shared : SharedLoader) :
    shared.asking = shared.threads.filterMap fun thread => thread.phase.asking? := rfl

theorem asking_of_alone {threads : List LoaderThread} {index : Nat} {thread : LoaderThread}
    (here : threads[index]? = some thread) (alone : Alone threads index) :
    (threads.filterMap fun thread => thread.phase.asking?) = thread.phase.asking?.toList := by
  induction threads generalizing index with
  | nil => cases here
  | cons first rest ih =>
    cases index with
    | zero =>
      obtain rfl : first = thread := by simpa using here
      have idle : (rest.filterMap fun thread => thread.phase.asking?) = [] := by
        refine List.filterMap_eq_nil_iff.mpr ?_
        intro other member
        obtain ⟨position, there⟩ := List.mem_iff_getElem?.mp member
        rw [alone (position + 1) other (Nat.succ_ne_zero position) there]
        rfl
      rw [List.filterMap_cons, idle]
      cases first.phase.asking? <;> rfl
    | succ index =>
      have outside : first.phase = .outside :=
        alone 0 first (Nat.succ_ne_zero index).symm rfl
      rw [List.filterMap_cons, outside]
      refine ih here ?_
      intro other idle different there
      exact alone (other + 1) idle (by omega) there

theorem Lock.asking_of_free (outside : ∀ (index : Nat) thread,
    shared.threads[index]? = some thread → thread.phase = .outside) : shared.asking = [] := by
  rw [asking_eq]
  refine List.filterMap_eq_nil_iff.mpr ?_
  intro thread member
  obtain ⟨index, here⟩ := List.mem_iff_getElem?.mp member
  rw [outside index thread here]
  rfl

theorem Orderly.asking_le (orderly : shared.Orderly loader programs done) :
    shared.asking.length ≤ 1 := by
  cases orderly.lock with
  | free holder order table outside => simp [Lock.asking_of_free outside]
  | held index thread call rest holder order here current underway alone =>
    rw [asking_eq, asking_of_alone here alone]
    cases thread.phase.asking? <;> simp

theorem Orderly.started_nodup (orderly : shared.Orderly loader programs done) :
    shared.started.Nodup := by
  have settled := loader.serialTable_settled done
  cases orderly.lock with
  | free holder order table outside =>
    rw [started, Lock.asking_of_free outside, table, List.append_nil]
    exact settled.opened_nodup
  | held index thread call rest holder order here current underway alone =>
    rw [started, asking_eq, asking_of_alone here alone]
    exact underway.started settled

/-- The openings around a step of the thread that holds the lock. -/
theorem Orderly.started_inside (orderly : shared.Orderly loader programs done) {index : Nat}
    {thread : LoaderThread} (here : shared.threads[index]? = some thread)
    (inside : thread.phase ≠ .outside) (next : LoaderThread) :
    shared.started = shared.table.opened ++ thread.phase.asking?.toList ∧
      (shared.setThread index next).asking = next.phase.asking?.toList := by
  obtain ⟨_, _, _, _, _, _, alone⟩ := orderly.lock.of_inside here inside
  have bound : index < shared.threads.length := (List.getElem?_eq_some_iff.mp here).1
  constructor
  · rw [started, asking_eq, asking_of_alone here alone]
  · rw [asking_eq]
    exact asking_of_alone (List.getElem?_set_self bound) (alone.set next)

theorem Orderly.started_enter (orderly : shared.Orderly loader programs done) {index : Nat}
    {thread : LoaderThread} (here : shared.threads[index]? = some thread) (free : shared.holder = none)
    (order : List (Nat × LoaderCall)) :
    started { shared.setThread index { thread with phase := .entered } with
      holder := some index
      order := order } = shared.started := by
  cases orderly.lock with
  | held holding held other more holder => exact absurd (free.symm.trans holder) (by simp)
  | free holder order table outside =>
    have bound : index < shared.threads.length := (List.getElem?_eq_some_iff.mp here).1
    have alone : Alone shared.threads index := fun other idle _ there => outside other idle there
    rw [started, started, Lock.asking_of_free outside, asking_eq]
    exact congrArg (shared.table.opened ++ ·)
      (asking_of_alone (List.getElem?_set_self bound) (alone.set _))

theorem Orderly.started_work (orderly : shared.Orderly loader programs done) {index : Nat}
    {thread : LoaderThread} (here : shared.threads[index]? = some thread)
    (inside : thread.phase ≠ .outside) (call : LoaderCall) :
    shared.started <+: (SharedLoader.work loader shared index thread call).started := by
  let moved := loader.advance call shared.table thread.phase
  obtain ⟨before, after⟩ := orderly.started_inside here inside { thread with phase := moved.1 }
  have later : (SharedLoader.work loader shared index thread call).started =
      moved.2.opened ++ moved.1.asking?.toList :=
    congrArg (moved.2.opened ++ ·) after
  rw [before, later]
  exact loader.advance_started call shared.table thread.phase

theorem Orderly.started_release (orderly : shared.Orderly loader programs done) {index : Nat}
    {thread : LoaderThread} {answer : LoaderAnswer}
    (here : shared.threads[index]? = some thread) (answered : thread.phase = .answered answer) :
    (shared.release index thread answer).started = shared.started := by
  have inside : thread.phase ≠ .outside := by simp [answered]
  obtain ⟨before, after⟩ := orderly.started_inside here inside
    { calls := thread.calls.tail, answers := thread.answers ++ [answer] }
  rw [before, answered]
  exact congrArg (shared.table.opened ++ ·) after

/-- No turn takes back an opening, be it over or in progress. -/
theorem Orderly.started_turn (orderly : shared.Orderly loader programs done) {index : Nat}
    {after : SharedLoader} (turn : Turn loader shared index after) :
    shared.started <+: after.started := by
  cases turn with
  | stays stuck => exact List.prefix_refl _
  | enters here current outside free =>
    rewrite [orderly.started_enter here free]
    exact List.prefix_refl _
  | @works thread call rest here current inside unfinished =>
    exact orderly.started_work here inside call
  | leaves here current answered =>
    rewrite [orderly.started_release here answered]
    exact List.prefix_refl _

theorem Orderly.started_run (orderly : shared.Orderly loader programs done)
    (schedule : List Nat) :
    shared.started <+: (SharedLoader.run loader shared schedule).started := by
  induction schedule generalizing shared done with
  | nil => exact List.prefix_refl _
  | cons index rest ih =>
    have turn := turn_step loader shared index
    obtain ⟨next, stepped⟩ := orderly.turn turn
    exact (orderly.started_turn turn).trans (ih stepped)

/-! ## What threads see -/

/-- A call that has just taken the lock finds every slot whole. -/
theorem Orderly.whole_of_entered (orderly : shared.Orderly loader programs done) {index : Nat}
    {thread : LoaderThread} (here : shared.threads[index]? = some thread)
    (entered : thread.phase = .entered) (id : ProviderId) : (shared.table.slot id).Whole := by
  obtain ⟨_, _, _, _, _, underway, _⟩ := orderly.lock.of_inside here (by simp [entered])
  rw [entered] at underway
  rw [underway.untouched]
  exact (loader.serialTable_settled done).whole id

theorem loads_agree (entries : List (Nat × LoaderCall)) {index other : Nat}
    {id : ProviderId} {answer answer' : LoaderAnswer}
    (here : (.load id, answer) ∈ loader.exchanges entries index)
    (there : (.load id, answer') ∈ loader.exchanges entries other) : answer = answer' := by
  obtain ⟨outcome, rfl, kept⟩ := loader.served_load (loader.mem_exchanges.mp here)
  obtain ⟨outcome', rfl, kept'⟩ := loader.served_load (loader.mem_exchanges.mp there)
  rw [Option.some.inj (kept.symm.trans kept')]

end SharedLoader

/-- For any threads with any calls, any source and any schedule: at most one opening is in progress,
no id is ever opened twice, and what was opened stays so.  Every completed call answers as if the
completed calls were made one after the other in the order in which they took the lock; all
completed loads of an id give one answer; a call that comes to read the table finds every slot
either untouched or filled by one attempt; and while the lock is free no slot is left half-way. -/
theorem threads_serialize (loader : Loader) (programs : List (List LoaderCall))
    (schedule : List Nat) :
    let shared := SharedLoader.run loader (.start .empty programs) schedule
    let exchanges := loader.exchanges shared.completed
    shared.asking.length ≤ 1 ∧
    shared.started.Nodup ∧
    (∀ more, shared.started <+: (SharedLoader.run loader shared more).started) ∧
    (∀ index program, programs[index]? = some program →
      ∃ thread, shared.threads[index]? = some thread ∧
        program = (exchanges index).map Prod.fst ++ thread.calls ∧
        thread.answers = (exchanges index).map Prod.snd) ∧
    (∀ index other id answer answer', (LoaderCall.load id, answer) ∈ exchanges index →
      (LoaderCall.load id, answer') ∈ exchanges other → answer = answer') ∧
    (∀ (index : Nat) thread, shared.threads[index]? = some thread → thread.phase = .entered →
      ∀ id, (shared.table.slot id).Whole) ∧
    (shared.holder = none → shared.table.Settled) := by
  intro shared exchanges
  obtain ⟨done, orderly⟩ :=
    (SharedLoader.orderly_start loader programs).run schedule
  have completed : shared.completed = done := orderly.lock.completed
  refine ⟨orderly.asking_le, orderly.started_nodup, orderly.started_run, ?_, ?_, ?_, ?_⟩
  · intro index program here
    simp only [exchanges, completed]
    exact orderly.told index program here
  · intro index other id answer answer' here there
    exact SharedLoader.loads_agree _ here there
  · intro index thread here entered id
    exact orderly.whole_of_entered here entered id
  · intro unheld
    cases orderly.lock with
    | free holder order table outside => exact table ▸ loader.serialTable_settled done
    | held index thread call rest holder => exact absurd (holder.symm.trans unheld) (by simp)

end ServiceRouting
