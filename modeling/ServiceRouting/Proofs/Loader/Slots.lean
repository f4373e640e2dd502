import ServiceRouting.Loader
import ServiceRouting.Proofs.FirstOccurrences

/-!
# How slots are filled

A load either answers from the slot of its id and changes nothing, or it is the first one and fills
the slot: `load_cases` says all that can happen.  Hence a table that starts out empty is always
settled, which means that its slots and its list of openings tell the same story
(`LoadTable.Settled`), a slot that holds an answer holds it for good (`LoadTable.Grows`), and what is
true of every first load is true of every answer that slots hold (`Loader.load_allAnswers`).
-/

set_option autoImplicit false

namespace ServiceRouting

/-! ## Answers kept in slots -/

/-- The answer that a slot keeps for later loads. -/
def LoadState.answer? : LoadState → Option (Except Unavailable LoadedModule)
  | notAttempted => none
  | loaded live => some (.ok live)
  | failed failure => some (.error failure)

def LoadState.ofAnswer : Except Unavailable LoadedModule → LoadState
  | .ok live => loaded live
  | .error failure => failed failure

@[simp] theorem LoadState.answer?_ofAnswer (answer : Except Unavailable LoadedModule) :
    (LoadState.ofAnswer answer).answer? = some answer := by
  cases answer <;> rfl

theorem LoadState.eq_ofAnswer {state : LoadState} {answer : Except Unavailable LoadedModule}
    (kept : state.answer? = some answer) : state = .ofAnswer answer := by
  cases state with
  | notAttempted => cases kept
  | loaded live => cases kept; rfl
  | failed failure => cases kept; rfl

theorem LoadState.answer?_eq_none_iff {state : LoadState} :
    state.answer? = none ↔ state = .notAttempted := by
  cases state <;> simp [LoadState.answer?]

/-- A slot that nobody has begun to fill, or one that is filled by a single attempt. -/
def Slot.Whole (slot : Slot) : Prop :=
  slot.attempts = 0 ∧ slot.state = .notAttempted ∨ slot.attempts = 1 ∧ slot.state ≠ .notAttempted

namespace LoadTable

def answer? (table : LoadTable) (id : ProviderId) : Option (Except Unavailable LoadedModule) :=
  (table.slot id).state.answer?

/-! ## Slots after each operation -/

@[simp] theorem slot_empty (id : ProviderId) : empty.slot id = {} := rfl

@[simp] theorem slot_record (table : LoadTable) (events : List Event) (id : ProviderId) :
    (table.record events).slot id = table.slot id := rfl

@[simp] theorem slot_note (table : LoadTable) (level : LogLevel) (component : Component)
    (message : String) (id : ProviderId) :
    (table.note level component message).slot id = table.slot id := rfl

@[simp] theorem slot_begin_self (table : LoadTable) (id : ProviderId) :
    (table.begin id).slot id = { table.slot id with attempts := (table.slot id).attempts + 1 } := by
  simp only [begin, slot_note]
  rw [slot, show id.text = TextKey.text id from rfl, SortedMap.get?_insert_self]
  rfl

theorem slot_begin_of_ne (table : LoadTable) {id other : ProviderId} (different : other ≠ id) :
    (table.begin id).slot other = table.slot other := by
  have texts : TextKey.text id ≠ other.text := fun same =>
    different (TextKey.text_injective same.symm)
  simp only [begin, slot_note]
  rw [slot, SortedMap.get?_insert_of_ne _ _ texts]
  rfl

@[simp] theorem slot_settle_self (table : LoadTable) (id : ProviderId) (state : LoadState) :
    (table.settle id state).slot id = { table.slot id with state := state } := by
  rw [settle, slot, show id.text = TextKey.text id from rfl, SortedMap.get?_insert_self]
  rfl

theorem slot_settle_of_ne (table : LoadTable) {id other : ProviderId} (state : LoadState)
    (different : other ≠ id) : (table.settle id state).slot other = table.slot other := by
  have texts : TextKey.text id ≠ other.text := fun same =>
    different (TextKey.text_injective same.symm)
  rw [settle, slot, SortedMap.get?_insert_of_ne _ _ texts]
  rfl

/-! ## Openings after each operation -/

@[simp] theorem opened_empty : empty.opened = [] := rfl

@[simp] theorem opened_settle (table : LoadTable) (id : ProviderId) (state : LoadState) :
    (table.settle id state).opened = table.opened := rfl

/-- What is read from the trace does not change with events from which nothing is read. -/
theorem filterMap_trace_record {Given : Type} (read : Event → Option Given) (table : LoadTable)
    {events : List Event} (quiet : ∀ event ∈ events, read event = none) :
    (table.record events).trace.filterMap read = table.trace.filterMap read := by
  rw [record, List.filterMap_append, List.filterMap_eq_nil_iff.mpr quiet, List.append_nil]

theorem opened_record_of_quiet (table : LoadTable) {events : List Event}
    (quiet : ∀ id, Event.opened id ∉ events) : (table.record events).opened = table.opened := by
  refine filterMap_trace_record _ table ?_
  intro event member
  cases event with
  | opened id => exact absurd member (quiet id)
  | noted record => rfl
  | constructing module service => rfl

@[simp] theorem opened_note (table : LoadTable) (level : LogLevel) (component : Component)
    (message : String) : (table.note level component message).opened = table.opened :=
  opened_record_of_quiet table (by simp)

@[simp] theorem opened_begin (table : LoadTable) (id : ProviderId) :
    (table.begin id).opened = table.opened :=
  opened_note _ _ _ _

/-- Asking the source adds one opening, whatever is noted with it. -/
theorem opened_record_opening (table : LoadTable) (id : ProviderId) {events : List Event}
    (quiet : ∀ other, Event.opened other ∉ events) :
    (table.record (.opened id :: events)).opened = table.opened ++ [id] := by
  have split : table.record (.opened id :: events) =
      (table.record [.opened id]).record events := by
    simp [record]
  rw [split, opened_record_of_quiet _ quiet]
  simp [opened, record]

end LoadTable

/-! ## The first load of an id -/

namespace Loader

/-- The answer of a load whose opening came out like this. -/
def answerOf (loader : Loader) (id : ProviderId) (serial : Nat) :
    Except LoadFailure Module → Except Unavailable LoadedModule
  | .ok content => .ok ⟨serial, content⟩
  | .error reason => .error ⟨id, loader.installHint id, reason⟩

/-- What the first load of an id answers after the openings asked for earlier. -/
def verdict (loader : Loader) (earlier : List ProviderId) (id : ProviderId) :
    Except Unavailable LoadedModule :=
  loader.answerOf id earlier.length
    (loader.examine id (loader.source.answer earlier id)).outcome

theorem unlistedWarning_quiet (id : ProviderId) (names : List String) (other : ProviderId) :
    Event.opened other ∉ names.map (unlistedWarning id) := by
  simp [unlistedWarning]

@[simp] theorem slot_openModule (loader : Loader) (id : ProviderId) (table : LoadTable)
    (other : ProviderId) : (loader.openModule id table).2.slot other = table.slot other := rfl

@[simp] theorem opened_openModule (loader : Loader) (id : ProviderId) (table : LoadTable) :
    (loader.openModule id table).2.opened = table.opened ++ [id] :=
  LoadTable.opened_record_opening _ _ (unlistedWarning_quiet id _)

theorem conclude_spec (loader : Loader) (id : ProviderId) (serial : Nat)
    (outcome : Except LoadFailure Module) (table : LoadTable) :
    let answer := loader.answerOf id serial outcome
    let concluded := loader.conclude id serial outcome table
    concluded.1 = answer ∧
      concluded.2.opened = table.opened ∧
      concluded.2.slot id = { table.slot id with state := .ofAnswer answer } ∧
      ∀ other, other ≠ id → concluded.2.slot other = table.slot other := by
  cases outcome with
  | ok content =>
    refine ⟨rfl, by simp [conclude], by simp [conclude, answerOf, LoadState.ofAnswer], ?_⟩
    intro other different
    exact LoadTable.slot_settle_of_ne _ _ different
  | error reason =>
    refine ⟨rfl, by simp [conclude], by simp [conclude, answerOf, LoadState.ofAnswer], ?_⟩
    intro other different
    exact LoadTable.slot_settle_of_ne _ _ different

/-- The answer of a first load, the openings and the slots that it leaves. -/
theorem attempt_spec (loader : Loader) (id : ProviderId) (table : LoadTable) :
    let answer := loader.verdict table.opened id
    let attempted := loader.attempt id table
    attempted.1 = answer ∧
      attempted.2.opened = table.opened ++ [id] ∧
      attempted.2.slot id = ⟨(table.slot id).attempts + 1, .ofAnswer answer⟩ ∧
      ∀ other, other ≠ id → attempted.2.slot other = table.slot other := by
  let begun := table.begin id
  let opening := loader.openModule id begun
  have asked : loader.answerOf id begun.opened.length opening.1 =
      loader.verdict table.opened id := by
    simp [begun, opening, verdict, openModule]
  obtain ⟨answered, opened, filled, others⟩ :=
    loader.conclude_spec id begun.opened.length opening.1 opening.2
  rw [asked] at answered filled
  refine ⟨answered, ?_, ?_, ?_⟩
  · exact opened.trans (by simp [opening, begun])
  · exact filled.trans (by simp [opening, begun])
  · intro other different
    refine (others other different).trans ?_
    simp [opening, begun, LoadTable.slot_begin_of_ne _ different]

end Loader

/-! ## All that a load can do -/

/-- The table gets the answer for an id whose slot was empty, with one opening. -/
structure LoadTable.Fills (before after : LoadTable) (id : ProviderId)
    (answer : Except Unavailable LoadedModule) : Prop where
  fresh : before.answer? id = none
  opened : after.opened = before.opened ++ [id]
  filled : after.slot id = ⟨(before.slot id).attempts + 1, .ofAnswer answer⟩
  others : ∀ other, other ≠ id → after.slot other = before.slot other

namespace Loader

theorem load_of_answer (loader : Loader) {id : ProviderId} {table : LoadTable}
    {answer : Except Unavailable LoadedModule} (kept : table.answer? id = some answer) :
    loader.load id table = (answer, table) := by
  have state : (table.slot id).state = .ofAnswer answer := LoadState.eq_ofAnswer kept
  rw [load, state]
  cases answer <;> rfl

theorem load_of_fresh (loader : Loader) {id : ProviderId} {table : LoadTable}
    (fresh : table.answer? id = none) : loader.load id table = loader.attempt id table := by
  have state : (table.slot id).state = .notAttempted := LoadState.answer?_eq_none_iff.mp fresh
  rw [load, state]

/-- A load answers from the slot and changes nothing, or it fills the slot with its answer. -/
theorem load_cases (loader : Loader) (id : ProviderId) (table : LoadTable) :
    (∃ answer, table.answer? id = some answer ∧ loader.load id table = (answer, table)) ∨
      (loader.load id table).1 = loader.verdict table.opened id ∧
        table.Fills (loader.load id table).2 id (loader.load id table).1 := by
  cases kept : table.answer? id with
  | some answer => exact .inl ⟨answer, rfl, loader.load_of_answer kept⟩
  | none =>
    obtain ⟨answered, opened, filled, others⟩ := loader.attempt_spec id table
    rw [loader.load_of_fresh kept]
    refine .inr ⟨answered, ?_⟩
    exact ⟨kept, opened, answered ▸ filled, others⟩

end Loader

/-! ## Filled slots stay as they are -/

namespace LoadTable

theorem Fills.answer?_self {before after : LoadTable} {id : ProviderId}
    {answer : Except Unavailable LoadedModule} (fills : before.Fills after id answer) :
    after.answer? id = some answer := by
  rw [answer?, fills.filled, LoadState.answer?_ofAnswer]

/-- What is reached from a table by loading: filled slots and openings are kept. -/
structure Grows (before after : LoadTable) : Prop where
  kept : ∀ id, before.answer? id ≠ none → after.slot id = before.slot id
  opened : before.opened <+: after.opened

theorem Grows.refl (table : LoadTable) : table.Grows table :=
  ⟨fun _ _ => rfl, List.prefix_refl _⟩

theorem Grows.answer? {before after : LoadTable} (grows : before.Grows after) {id : ProviderId}
    {answer : Except Unavailable LoadedModule} (kept : before.answer? id = some answer) :
    after.answer? id = some answer := by
  have present : before.answer? id ≠ none := by
    rw [kept]
    exact Option.some_ne_none _
  rw [LoadTable.answer?, grows.kept id present]
  exact kept

theorem Grows.trans {first second third : LoadTable} (early : first.Grows second)
    (late : second.Grows third) : first.Grows third := by
  refine ⟨?_, early.opened.trans late.opened⟩
  intro id present
  have same := early.kept id present
  have stillPresent : second.answer? id ≠ none := by
    rwa [LoadTable.answer?, same]
  exact (late.kept id stillPresent).trans same

theorem Fills.grows {before after : LoadTable} {id : ProviderId}
    {answer : Except Unavailable LoadedModule} (fills : before.Fills after id answer) :
    before.Grows after := by
  refine ⟨?_, ?_⟩
  · intro other present
    have different : other ≠ id := by
      rintro rfl
      exact present fills.fresh
    exact fills.others other different
  · rw [fills.opened]
    exact List.prefix_append _ _

end LoadTable

namespace Loader

theorem load_grows (loader : Loader) (id : ProviderId) (table : LoadTable) :
    table.Grows (loader.load id table).2 := by
  rcases loader.load_cases id table with ⟨answer, _, same⟩ | ⟨_, fills⟩
  · rw [same]
    exact .refl table
  · exact fills.grows

/-- The slot keeps what the load answered. -/
theorem answer?_load (loader : Loader) (id : ProviderId) (table : LoadTable) :
    (loader.load id table).2.answer? id = some (loader.load id table).1 := by
  rcases loader.load_cases id table with ⟨answer, kept, same⟩ | ⟨_, fills⟩
  · rw [same]
    exact kept
  · exact fills.answer?_self

end Loader

/-! ## What all slots have in common -/

/-- Every answer that is kept has a property, which may be another one for each id. -/
def LoadTable.AllAnswers (table : LoadTable)
    (holds : ProviderId → Except Unavailable LoadedModule → Prop) : Prop :=
  ∀ id answer, table.answer? id = some answer → holds id answer

section AllAnswers

variable {holds : ProviderId → Except Unavailable LoadedModule → Prop}

theorem LoadTable.allAnswers_empty : LoadTable.empty.AllAnswers holds := by
  rintro id answer ⟨⟩

theorem LoadTable.Fills.allAnswers {before after : LoadTable} {id : ProviderId}
    {answer : Except Unavailable LoadedModule} (fills : before.Fills after id answer)
    (all : before.AllAnswers holds) (new : holds id answer) : after.AllAnswers holds := by
  intro other given kept
  by_cases here : other = id
  · subst here
    rw [fills.answer?_self] at kept
    cases kept
    exact new
  · rw [LoadTable.answer?, fills.others other here] at kept
    exact all other given kept

/-- What every first load has, every load has, also those that are answered from a slot. -/
theorem Loader.load_allAnswers (loader : Loader)
    (first : ∀ earlier id, holds id (loader.verdict earlier id)) {table : LoadTable}
    (all : table.AllAnswers holds) (id : ProviderId) :
    holds id (loader.load id table).1 ∧ (loader.load id table).2.AllAnswers holds := by
  rcases loader.load_cases id table with ⟨answer, kept, same⟩ | ⟨answered, fills⟩
  · rw [same]
    exact ⟨all id answer kept, all⟩
  · have now : holds id (loader.load id table).1 := by
      rw [answered]
      exact first table.opened id
    exact ⟨now, fills.allAnswers all now⟩

end AllAnswers

/-! ## Settled tables -/

/-- No load is under way: every slot is whole, and the ids that hold an answer are the ids that the
source was asked for, each of them once. -/
structure LoadTable.Settled (table : LoadTable) : Prop where
  whole : ∀ id, (table.slot id).Whole
  opened_nodup : table.opened.Nodup
  mem_opened_iff : ∀ id, id ∈ table.opened ↔ table.answer? id ≠ none

theorem LoadTable.settled_empty : LoadTable.empty.Settled where
  whole _ := .inl ⟨rfl, rfl⟩
  opened_nodup := List.nodup_nil
  mem_opened_iff id := by simp [answer?, LoadState.answer?]

theorem LoadTable.Fills.settled {before after : LoadTable} {id : ProviderId}
    {answer : Except Unavailable LoadedModule} (fills : before.Fills after id answer)
    (settled : before.Settled) : after.Settled where
  whole other := by
    by_cases same : other = id
    · subst same
      have untouched : (before.slot other).attempts = 0 := by
        rcases settled.whole other with ⟨zero, _⟩ | ⟨_, attempted⟩
        · exact zero
        · exact absurd (LoadState.answer?_eq_none_iff.mp fills.fresh) attempted
      rw [fills.filled, untouched]
      refine .inr ⟨rfl, ?_⟩
      cases answer <;> simp [LoadState.ofAnswer]
    · rw [fills.others other same]
      exact settled.whole other
  opened_nodup := by
    have absent : id ∉ before.opened := fun member =>
      (settled.mem_opened_iff id).mp member fills.fresh
    rw [fills.opened]
    refine List.nodup_append.mpr ⟨settled.opened_nodup, by simp, ?_⟩
    rintro other member _ single rfl
    exact absent (List.mem_singleton.mp single ▸ member)
  mem_opened_iff other := by
    rw [fills.opened, List.mem_append, List.mem_singleton]
    by_cases same : other = id
    · subst same
      simp [fills.answer?_self]
    · have untouched : after.answer? other = before.answer? other := by
        rw [LoadTable.answer?, fills.others other same, LoadTable.answer?]
      simpa [same, untouched] using settled.mem_opened_iff other

theorem Loader.load_settled (loader : Loader) (id : ProviderId) {table : LoadTable}
    (settled : table.Settled) : (loader.load id table).2.Settled := by
  rcases loader.load_cases id table with ⟨answer, _, same⟩ | ⟨_, fills⟩
  · rw [same]
    exact settled
  · exact fills.settled settled

/-- A load adds its id to the openings unless it is there already. -/
theorem Loader.opened_load (loader : Loader) (id : ProviderId) {table : LoadTable}
    (settled : table.Settled) :
    (loader.load id table).2.opened = (table.opened ++ [id]).eraseDups := by
  rcases loader.load_cases id table with ⟨answer, kept, same⟩ | ⟨_, fills⟩
  · have old : id ∈ table.opened := (settled.mem_opened_iff id).mpr (by simp [kept])
    rw [same, FirstOccurrences.concat_of_mem old, FirstOccurrences.of_nodup settled.opened_nodup]
  · have new : id ∉ table.opened := fun member => (settled.mem_opened_iff id).mp member fills.fresh
    rw [fills.opened, FirstOccurrences.concat_of_notMem new,
      FirstOccurrences.of_nodup settled.opened_nodup]

/-! ## What settled tables report -/

def LoadStatus.ofLoad : Except Unavailable LoadedModule → LoadStatus
  | .ok _ => .loaded
  | .error failure => .failed failure

theorem LoadTable.status_of_answer {table : LoadTable} {id : ProviderId}
    {answer : Except Unavailable LoadedModule} (kept : table.answer? id = some answer) :
    table.status id = .ofLoad answer := by
  rw [status, LoadState.eq_ofAnswer kept]
  cases answer <;> rfl

theorem LoadTable.Settled.attempts_of_answer {table : LoadTable} (settled : table.Settled)
    {id : ProviderId} (kept : table.answer? id ≠ none) : table.attempts id = 1 := by
  rcases settled.whole id with ⟨_, untouched⟩ | ⟨once, _⟩
  · exact absurd (LoadState.answer?_eq_none_iff.mpr untouched) kept
  · exact once

theorem LoadTable.Settled.of_fresh {table : LoadTable} (settled : table.Settled)
    {id : ProviderId} (fresh : table.answer? id = none) :
    table.attempts id = 0 ∧ table.status id = .notAttempted := by
  have state : (table.slot id).state = .notAttempted := LoadState.answer?_eq_none_iff.mp fresh
  rcases settled.whole id with ⟨zero, _⟩ | ⟨_, attempted⟩
  · exact ⟨zero, by rw [status, state]; rfl⟩
  · exact absurd state attempted

end ServiceRouting
