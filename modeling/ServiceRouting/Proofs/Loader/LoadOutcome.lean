import ServiceRouting.Proofs.Loader.Examination

/-!
# How a first load comes out

The examination of the source's answer decides what the caller of a first load is told and what is noted
(`Loader.LoadsTo`).  `loadsTo_iff` says that every first load comes out as exactly one of the cases gives,
that it counts as one attempt, and that its answer is final.
-/

set_option autoImplicit false

namespace ServiceRouting

/-! ## What is noted -/

def loadingRecord (id : ProviderId) : LogRecord :=
  ⟨.debug, .loader, s!"loading provider module '{id}'"⟩

def unlistedRecord (id : ProviderId) (service : String) : LogRecord :=
  ⟨.warn, .loader, s!"provider '{id}' offers '{service}', which its manifest does not list"⟩

def loadedRecord (id : ProviderId) : LogRecord :=
  ⟨.info, .loader, s!"provider module '{id}' loaded"⟩

def failedRecord (id : ProviderId) (reason : LoadFailure) : LogRecord :=
  let why := reason.describe
  ⟨.warn, .loader, s!"provider module '{id}' failed to load: {why}"⟩

def outcomeRecord (id : ProviderId) : Except LoadFailure Module → LogRecord
  | .ok _ => loadedRecord id
  | .error reason => failedRecord id reason

namespace LoadTable

@[simp] theorem log_settle (table : LoadTable) (id : ProviderId) (state : LoadState) :
    (table.settle id state).log = table.log := rfl

@[simp] theorem log_note (table : LoadTable) (level : LogLevel) (component : Component)
    (message : String) :
    (table.note level component message).log = table.log ++ [⟨level, component, message⟩] := by
  simp [note, record, log]

theorem log_begin (table : LoadTable) (id : ProviderId) :
    (table.begin id).log = table.log ++ [loadingRecord id] :=
  log_note _ _ _ _

end LoadTable

namespace Loader

variable (loader : Loader) (id : ProviderId) (table : LoadTable)

theorem log_openModule :
    (loader.openModule id table).2.log = table.log ++
      (loader.examine id (loader.source.answer table.opened id)).unlisted.map
        (unlistedRecord id) := by
  simp only [openModule, LoadTable.record, LoadTable.log, List.filterMap_append,
    List.filterMap_cons, List.filterMap_map]
  congr 1
  exact congrFun List.filterMap_eq_map _

theorem log_conclude (serial : Nat) (outcome : Except LoadFailure Module) :
    (loader.conclude id serial outcome table).2.log = table.log ++ [outcomeRecord id outcome] := by
  cases outcome with
  | ok content => simp [conclude, outcomeRecord, loadedRecord]
  | error reason => simp [conclude, outcomeRecord, failedRecord]

theorem log_attempt :
    let examination := loader.examine id (loader.source.answer table.opened id)
    (loader.attempt id table).2.log = table.log ++
      (loadingRecord id :: examination.unlisted.map (unlistedRecord id) ++
        [outcomeRecord id examination.outcome]) := by
  have asked : (table.begin id).opened = table.opened := table.opened_begin id
  rw [attempt, log_conclude, log_openModule, table.log_begin, asked]
  simp [openModule, asked]

end Loader

/-! ## The cases -/

namespace Loader

/-- The answer of a first load and the records that it writes. -/
inductive LoadsTo (loader : Loader) (id : ProviderId) (opening : Opening) :
    Except Unavailable Module → List LogRecord → Prop where
  | failed {reason : LoadFailure} :
    loader.Rejects id opening reason →
    LoadsTo loader id opening (.error ⟨id, loader.installHint id, reason⟩)
      [loadingRecord id, failedRecord id reason]
  | loaded {content : Module} {unlisted : List String} :
    loader.Accepts id opening content unlisted →
    LoadsTo loader id opening (.ok content)
      (loadingRecord id :: unlisted.map (unlistedRecord id) ++ [loadedRecord id])

variable {loader : Loader} {id : ProviderId} {opening : Opening}

theorem loadsTo_iff_examine (serial : Nat) {answer : Except Unavailable Module}
    {records : List LogRecord} :
    loader.LoadsTo id opening answer records ↔
      answer = (loader.answerOf id serial (loader.examine id opening).outcome).map
          LoadedModule.content ∧
        records = loadingRecord id ::
          (loader.examine id opening).unlisted.map (unlistedRecord id) ++
            [outcomeRecord id (loader.examine id opening).outcome] := by
  constructor
  · intro loads
    cases loads with
    | failed rejects =>
      rw [examine_of_rejects rejects]
      exact ⟨rfl, rfl⟩
    | loaded accepts =>
      rw [examine_of_accepts accepts]
      exact ⟨rfl, rfl⟩
  · rintro ⟨rfl, rfl⟩
    rcases loader.rejects_or_accepts id opening with
      ⟨reason, rejects⟩ | ⟨content, unlisted, accepts⟩
    · rw [examine_of_rejects rejects]
      exact .failed rejects
    · rw [examine_of_accepts accepts]
      exact .loaded accepts

end Loader

/-- The first load of an id comes out as one case says, and as no other, both in its answer and in the
records that it writes.  The source is asked once, the attempt is counted, and the slot keeps the answer
for good. -/
theorem loadsTo_iff (registry : Registry) (source : Source) (id : ProviderId) (table : LoadTable)
    (fresh : table.status id = .notAttempted) :
    let loader := Loader.ofRegistry source registry
    let loaded := loader.load id table
    (∀ answer records, loader.LoadsTo id (source.answer table.opened id) answer records ↔
      answer = loaded.1.map LoadedModule.content ∧ loaded.2.log = table.log ++ records) ∧
    loaded.2.opened = table.opened ++ [id] ∧
    loaded.2.attempts id = table.attempts id + 1 ∧
    loaded.2.status id = .ofLoad loaded.1 ∧
    loader.load id loaded.2 = (loaded.1, loaded.2) := by
  intro loader loaded
  have empty : table.answer? id = none := by
    rw [LoadTable.answer?, LoadState.answer?_eq_none_iff]
    cases state : (table.slot id).state with
    | notAttempted => rfl
    | _ => simp [LoadTable.status, state, LoadState.status] at fresh
  have first : loaded = loader.attempt id table := loader.load_of_fresh empty
  obtain ⟨answered, opened, filled, _⟩ := loader.attempt_spec id table
  have kept : loaded.2.answer? id = some loaded.1 := loader.answer?_load id table
  refine ⟨?_, ?_, ?_, LoadTable.status_of_answer kept, loader.load_of_answer kept⟩
  · intro answer records
    have log := loader.log_attempt id table
    rw [Loader.loadsTo_iff_examine table.opened.length, first, answered, log,
      List.append_cancel_left_eq, eq_comm (a := records)]
    rfl
  · rw [first, opened]
  · rw [LoadTable.attempts, first, filled]
    rfl

/-- A module with another id and another version, which panics when it is asked for its services. -/
def Module.stranger : Module where
  id := .answered BundledProvider.cloud.id
  version := .answered 7
  services := .panicked .untold
  construct := fun _ _ _ => ⟨.error ⟨.unsupported, "not here", []⟩, []⟩
  exports := none

theorem loadsTo_of_stranger :
    let core := BundledProvider.core.id
    let source := (StaticSource.empty.addModule "core" .stranger).source
    let loader := Loader.ofRegistry source .empty
    LoadTable.empty.status core = .notAttempted ∧
      loader.LoadsTo core (source.answer [] core)
        (.error ⟨core, loader.installHint core, .idMismatch "core" "cloud"⟩)
        [loadingRecord core, failedRecord core (.idMismatch "core" "cloud")] :=
  ⟨rfl, ((loadsTo_iff .empty _ BundledProvider.core.id .empty rfl).1 _ _).mpr ⟨rfl, rfl⟩⟩

/-- A module that offers a service beyond the registered one. -/
def StaticSource.generous : StaticSource :=
  empty.addModule "core"
    (TableProvider.mk BundledProvider.core.id [{ name := "memory" }, { name := "fs" }] none).asModule

/-- After the warnings a load says how it ended. -/
theorem load_notes_its_end :
    ∃ registry, (Registry.enrol [⟨"core", ["memory"], "install core"⟩]).outcome = .ok registry ∧
      let core := BundledProvider.core.id
      let loader := Loader.ofRegistry StaticSource.generous.source registry
      LoadTable.empty.status core = .notAttempted ∧
        (∃ content, loader.Accepts core (loader.source.answer [] core) content ["fs"]) ∧
        (loader.load core .empty).2.log ≠ loadingRecord core :: ["fs"].map (unlistedRecord core) := by
  refine ⟨_, rfl, rfl, ⟨_, Loader.accepts_iff_examine.mpr rfl⟩, ?_⟩
  decide

end ServiceRouting
