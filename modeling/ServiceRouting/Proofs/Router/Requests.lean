import ServiceRouting.Proofs.Loader.Slots
import ServiceRouting.Proofs.Registry.Registration
import ServiceRouting.Router.Session

/-!
# What a request asks of the loader

A request has the loader load at most one module (`Routing.wanted?`), and beside that load it leaves
slots and openings alone (`Routing.table_answer`).  Loads keep tables alike that are alike
(`Loader.AgreeOn.load`), also when loader and table are known to agree on some ids only.  So what loads
keep of a table, every request keeps (`Loader.Keeps.answer`).
-/

set_option autoImplicit false

namespace ServiceRouting

/-! ## Tables and loaders that agree -/

/-- The same ids were loaded in the same order, and for some of them with the same answer. -/
structure LoadTable.AgreeOn (ids : ProviderId → Prop) (first second : LoadTable) : Prop where
  opened : first.opened = second.opened
  slots : ∀ id, ids id → first.slot id = second.slot id
  attempted : ∀ id, first.answer? id = none ↔ second.answer? id = none

/-- Tables that no load can tell apart: what they noted may differ. -/
abbrev LoadTable.Alike (first second : LoadTable) : Prop :=
  first.AgreeOn (fun _ => True) second

/-- Loaders with the same registered providers, whose sources agree on some ids. -/
structure Loader.AgreeOn (ids : ProviderId → Prop) (first second : Loader) : Prop where
  known : first.known = second.known
  answers : ∀ earlier id, ids id →
    first.source.answer earlier id = second.source.answer earlier id

namespace LoadTable

variable {ids : ProviderId → Prop} {first second third : LoadTable}

theorem AgreeOn.refl (table : LoadTable) : table.AgreeOn ids table :=
  ⟨rfl, fun _ _ => rfl, fun _ => Iff.rfl⟩

theorem AgreeOn.symm (agree : first.AgreeOn ids second) : second.AgreeOn ids first where
  opened := agree.opened.symm
  slots id member := (agree.slots id member).symm
  attempted id := (agree.attempted id).symm

theorem AgreeOn.trans (early : first.AgreeOn ids second) (late : second.AgreeOn ids third) :
    first.AgreeOn ids third where
  opened := early.opened.trans late.opened
  slots id member := (early.slots id member).trans (late.slots id member)
  attempted id := (early.attempted id).trans (late.attempted id)

theorem Alike.agreeOn (alike : first.Alike second) : first.AgreeOn ids second :=
  ⟨alike.opened, fun id _ => alike.slots id trivial, alike.attempted⟩

theorem AgreeOn.answer? (agree : first.AgreeOn ids second) {id : ProviderId} (member : ids id) :
    first.answer? id = second.answer? id := by
  rw [LoadTable.answer?, agree.slots id member, LoadTable.answer?]

theorem Alike.settled (alike : first.Alike second) (settled : second.Settled) : first.Settled where
  whole id := by
    rw [alike.slots id trivial]
    exact settled.whole id
  opened_nodup := by
    rw [alike.opened]
    exact settled.opened_nodup
  mem_opened_iff id := by
    rw [alike.opened, alike.answer? trivial]
    exact settled.mem_opened_iff id

theorem Alike.grows {before : LoadTable} (alike : first.Alike second) (grows : before.Grows second) :
    before.Grows first where
  kept id present := (alike.slots id trivial).trans (grows.kept id present)
  opened := by
    rw [alike.opened]
    exact grows.opened

theorem Alike.allAnswers {holds : ProviderId → Except Unavailable LoadedModule → Prop}
    (alike : first.Alike second) (all : second.AllAnswers holds) : first.AllAnswers holds := by
  intro id answer kept
  rw [alike.answer? trivial] at kept
  exact all id answer kept

theorem alike_record (table : LoadTable) {events : List Event}
    (quiet : ∀ id, Event.opened id ∉ events) : (table.record events).Alike table :=
  ⟨opened_record_of_quiet table quiet, fun _ _ => rfl, fun _ => Iff.rfl⟩

theorem alike_note (table : LoadTable) (level : LogLevel) (component : Component)
    (message : String) : (table.note level component message).Alike table :=
  table.alike_record (by simp)

end LoadTable

namespace Loader

variable {ids : ProviderId → Prop} {first second : Loader} {left right : LoadTable}

theorem AgreeOn.refl (loader : Loader) : loader.AgreeOn ids loader :=
  ⟨rfl, fun _ _ _ => rfl⟩

theorem AgreeOn.verdict (agree : first.AgreeOn ids second) (earlier : List ProviderId)
    {id : ProviderId} (member : ids id) : first.verdict earlier id = second.verdict earlier id := by
  obtain ⟨source, known⟩ := first
  obtain ⟨other, _⟩ := second
  obtain ⟨rfl, answers⟩ := agree
  unfold Loader.verdict
  rw [show source.answer earlier id = other.answer earlier id from answers earlier id member]
  rfl

/-- A load of any id keeps the agreement, and a load of one of the ids has one answer. -/
theorem AgreeOn.load (agree : first.AgreeOn ids second) (tables : left.AgreeOn ids right)
    (id : ProviderId) :
    (first.load id left).2.AgreeOn ids (second.load id right).2 ∧
      (ids id → (first.load id left).1 = (second.load id right).1) := by
  -- Both slots are filled or both are empty, so the two loads take the same course.
  rcases first.load_cases id left with ⟨answer, kept, same⟩ | ⟨answered, fills⟩
  · have present : right.answer? id ≠ none := by
      rw [ne_eq, ← tables.attempted id, kept]
      exact Option.some_ne_none answer
    obtain ⟨other, keptToo⟩ := Option.ne_none_iff_exists'.mp present
    rw [same, second.load_of_answer keptToo]
    refine ⟨tables, ?_⟩
    intro member
    rw [tables.answer? member, keptToo] at kept
    exact (Option.some.inj kept).symm
  · have fresh : right.answer? id = none := (tables.attempted id).mp fills.fresh
    rcases second.load_cases id right with ⟨other, kept, _⟩ | ⟨answeredToo, fillsToo⟩
    · rw [fresh] at kept
      cases kept
    · have agreed : ids id → (first.load id left).1 = (second.load id right).1 := by
        intro member
        rw [answered, answeredToo, tables.opened, agree.verdict _ member]
      refine ⟨⟨?_, ?_, ?_⟩, agreed⟩
      · rw [fills.opened, fillsToo.opened, tables.opened]
      · intro other member
        by_cases here : other = id
        · subst here
          rw [fills.filled, fillsToo.filled, tables.slots other member, agreed member]
        · rw [fills.others other here, fillsToo.others other here, tables.slots other member]
      · intro other
        by_cases here : other = id
        · subst here
          simp [fills.answer?_self, fillsToo.answer?_self]
        · rw [LoadTable.answer?, fills.others other here, LoadTable.answer?,
            fillsToo.others other here]
          exact tables.attempted other

end Loader

/-! ## What the answers are made of -/

def Answer.ofLoad : Except Unavailable LoadedModule → Answer
  | .ok live => .loaded live
  | .error failure => .failed (.providerUnavailable failure)

/-- The namespace that a provider's load gives. -/
def Namespace.ofLoad (id : ProviderId) :
    Except Unavailable LoadedModule → Except RoutingError Namespace
  | .error failure => .error (.primaryMissing id failure.installHint (some failure.reason))
  | .ok live =>
    match live.exports? with
    | none => .error (.primaryMissing id (unpublishedHint id) none)
    | some exports => .ok ⟨id, exports⟩

theorem Namespace.bind_spec (loader : Loader) (id : ProviderId) (table : LoadTable) :
    (bind loader id table).1 = ofLoad id (loader.load id table).1 ∧
      (bind loader id table).2.Alike (loader.load id table).2 := by
  rw [bind]
  rcases loader.load id table with ⟨failure | live, loaded⟩
  · exact ⟨rfl, .refl loaded⟩
  · dsimp only [ofLoad]
    cases live.exports? with
    | none => exact ⟨rfl, .refl loaded⟩
    | some exports => exact ⟨rfl, loaded.alike_note _ _ _⟩

theorem LoadedModule.exports?_eq_some_iff {live : LoadedModule} {exports : PublishedTable} :
    live.exports? = some exports ↔
      live.content.exports = some exports.table ∧ live.serial = exports.owner := by
  obtain ⟨owner, symbols⟩ := exports
  rw [LoadedModule.exports?, Option.map_eq_some_iff]
  constructor
  · rintro ⟨_, published, ⟨⟩⟩
    exact ⟨published, rfl⟩
  · rintro ⟨published, rfl⟩
    exact ⟨symbols, published, rfl⟩

theorem Namespace.ofLoad_eq_ok_iff {id : ProviderId} {answer : Except Unavailable LoadedModule}
    {space : Namespace} :
    ofLoad id answer = .ok space ↔
      space.provider = id ∧ ∃ live, answer = .ok live ∧ live.exports? = some space.exports := by
  obtain ⟨provider, exports⟩ := space
  cases answer with
  | error failure => simp [ofLoad]
  | ok live =>
    cases published : live.exports? with
    | none => simp [ofLoad, published]
    | some given => simp [ofLoad, published, eq_comm]

theorem Namespace.ofLoad_provider {id : ProviderId} {answer : Except Unavailable LoadedModule}
    {space : Namespace} (bound : ofLoad id answer = .ok space) : space.provider = id :=
  (ofLoad_eq_ok_iff.mp bound).1

/-- The provider of a namespace was loaded when it was bound. -/
theorem Namespace.provider_of_bind {loader : Loader} {id : ProviderId} {table : LoadTable}
    {space : Namespace} (bound : (bind loader id table).1 = .ok space) :
    space.provider = id ∧ (bind loader id table).2.answer? id ≠ none := by
  obtain ⟨answered, tables⟩ := bind_spec loader id table
  refine ⟨ofLoad_provider (answered.symm.trans bound), ?_⟩
  rw [ne_eq, tables.attempted id, loader.answer?_load]
  exact Option.some_ne_none _

namespace Routing

/-- What a loaded module, or the lack of it, makes of a request for a handle. -/
def handleOf (style : CallStyle) (service : String) (options : Options) :
    Except Unavailable LoadedModule → Except RoutingError Handle
  | .error failure => .error (.providerUnavailable failure)
  | .ok live =>
    match ServiceName.ofText service with
    | .error failure => .error failure
    | .ok name =>
      match (live.content.construct style name options).outcome with
      | .error failure => .error (.refused failure)
      | .ok handle => .ok handle

theorem handleOf_eq_ok {style : CallStyle} {service : String} {options : Options}
    {answer : Except Unavailable LoadedModule} {handle : Handle}
    (opened : handleOf style service options answer = .ok handle) :
    ∃ live, answer = .ok live ∧ ∃ name, ServiceName.ofText service = .ok name := by
  cases answer with
  | error failure => cases opened
  | ok live =>
    cases named : ServiceName.ofText service with
    | error failure =>
      rw [handleOf, named] at opened
      cases opened
    | ok name => exact ⟨live, rfl, name, rfl⟩

/-- A table provider answers by its table, whoever asks. -/
theorem handleOf_table {service : String} {name : ServiceName}
    (named : ServiceName.ofText service = .ok name) (style : CallStyle) (options : Options)
    (serial : Nat) (provider : TableProvider) :
    handleOf style service options (.ok ⟨serial, provider.asModule⟩) =
      (provider.configure name options).mapError .refused := by
  simp only [handleOf, named, TableProvider.asModule, TableProvider.construct]
  cases provider.configure name options <;> rfl

variable (routing : Routing) (style : CallStyle) (service : String) (options : Options)
  (table : LoadTable)

theorem construct_spec {service : String} {name : ServiceName}
    (named : ServiceName.ofText service = .ok name) (live : LoadedModule) :
    (construct style name live options table).1 = handleOf style service options (.ok live) ∧
      (construct style name live options table).2.Alike table := by
  have quiet : ∀ id, Event.opened id ∉ Event.constructing live.content.id name ::
      (live.content.construct style name options).log.map Event.noted := by
    simp
  simp only [construct, handleOf, named]
  cases (live.content.construct style name options).outcome with
  | error failure => exact ⟨rfl, table.alike_record quiet⟩
  | ok handle => exact ⟨rfl, table.alike_record quiet⟩

/-- What a make comes to, told by the answer of the load and the table that it leaves. -/
theorem make_eq (id : ProviderId) :
    routing.make style id service options table =
      match (routing.loader.load id table).1 with
      | .error failure =>
        (.error (.providerUnavailable failure), (routing.loader.load id table).2)
      | .ok live =>
        match ServiceName.ofText service with
        | .error failure => (.error failure, (routing.loader.load id table).2)
        | .ok name => construct style name live options (routing.loader.load id table).2 := by
  rw [make]
  rcases routing.loader.load id table with ⟨failure | live, loaded⟩ <;> rfl

theorem make_spec (id : ProviderId) :
    (routing.make style id service options table).1 =
        handleOf style service options (routing.loader.load id table).1 ∧
      (routing.make style id service options table).2.Alike (routing.loader.load id table).2 := by
  rw [make_eq]
  cases (routing.loader.load id table).1 with
  | error failure => exact ⟨rfl, .refl _⟩
  | ok live =>
    cases named : ServiceName.ofText service with
    | error failure =>
      simp only [handleOf, named]
      exact ⟨trivial, .refl _⟩
    | ok name => exact construct_spec style options _ named live

variable [Matcher]

theorem create_of_unknown {failure : RoutingError}
    (unknown : routing.registry.lookup service = .error failure) :
    routing.create style service options table = (.error failure, table) := by
  rw [create, dispatch, unknown]

/-- A create is a make with the owner, after a note. -/
theorem create_eq_make {owner : ProviderId}
    (known : routing.registry.lookup service = .ok owner) :
    routing.create style service options table = routing.make style owner service options
      (table.note .debug .router s!"routing '{service}' to provider '{owner}'") := by
  have present : service ≠ "" := by
    rintro rfl
    cases known
  have named : ServiceName.ofText service = .ok ⟨service, present⟩ :=
    ServiceName.ofText_eq_ok_iff.mpr rfl
  rw [create, dispatch, known, named, make]
  dsimp only
  rcases routing.loader.load owner
    (table.note .debug .router s!"routing '{service}' to provider '{owner}'") with
    ⟨failure | live, loaded⟩
  · rfl
  · dsimp only
    rw [named]

/-- The owner's module is asked for the handle, and loads do not see the note. -/
theorem create_of_owner {owner : ProviderId}
    (known : routing.registry.lookup service = .ok owner) :
    (routing.create style service options table).1 =
        handleOf style service options (routing.loader.load owner table).1 ∧
      (routing.create style service options table).2.Alike
        (routing.loader.load owner table).2 := by
  have noted := table.alike_note .debug .router s!"routing '{service}' to provider '{owner}'"
  obtain ⟨tables, answers⟩ := (Loader.AgreeOn.refl routing.loader).load noted owner
  rw [create_eq_make routing style service options table known, ← answers trivial]
  obtain ⟨answered, alike⟩ := routing.make_spec style service options
    (table.note .debug .router s!"routing '{service}' to provider '{owner}'") owner
  exact ⟨answered, alike.trans tables⟩

end Routing

/-! ## Reading namespaces -/

namespace Routing

variable {first second : Routing} {left right : LoadTable}

/-- Comparing a namespace with what its provider publishes shows no more than a load does. -/
theorem identical_congr (space : Namespace) (name : String)
    (same : (first.loader.load space.provider left).1 =
      (second.loader.load space.provider right).1) :
    (first.identical space name left).1 = (second.identical space name right).1 := by
  rw [identical, identical]
  revert same
  rcases first.loader.load space.provider left with ⟨answer, loaded⟩
  rcases second.loader.load space.provider right with ⟨other, loadedToo⟩
  rintro (rfl : answer = other)
  cases answer with
  | error failure => rfl
  | ok live =>
    dsimp only
    cases live.exports? with
    | none => rfl
    | some exports => rfl

theorem askNamespace_congr (space : Namespace) (request : NamespaceRequest)
    (same : (first.loader.load space.provider left).1 =
      (second.loader.load space.provider right).1) :
    (first.askNamespace space left request).1 = (second.askNamespace space right request).1 := by
  cases request with
  | identical name => exact identical_congr space name same
  | _ => rfl

variable {routing : Routing} {table : LoadTable}

/-- A provider that was loaded once is not loaded again for its namespace. -/
theorem askNamespace_table {space : Namespace} (kept : table.answer? space.provider ≠ none)
    (request : NamespaceRequest) : (routing.askNamespace space table request).2 = table := by
  cases request with
  | identical name =>
    obtain ⟨answer, here⟩ := Option.ne_none_iff_exists'.mp kept
    rw [askNamespace, identical, routing.loader.load_of_answer here]
    cases answer with
    | error failure => rfl
    | ok live =>
      dsimp only
      cases live.exports? with
      | none => rfl
      | some exports => rfl
  | _ => rfl

end Routing

/-! ## One request -/

/-- The provider of the bound namespace has been loaded. -/
def SessionState.Kept (state : SessionState) : Prop :=
  ∀ space, state.bound = some space → state.table.answer? space.provider ≠ none

/-- The table after a load, if there is one to be made. -/
def Loader.tableAfter (loader : Loader) (table : LoadTable) : Option ProviderId → LoadTable
  | none => table
  | some id => (loader.load id table).2

theorem Loader.tableAfter_grows (loader : Loader) (table : LoadTable)
    (wanted : Option ProviderId) : table.Grows (loader.tableAfter table wanted) := by
  cases wanted with
  | none => exact .refl table
  | some id => exact loader.load_grows id table

namespace Routing

variable (routing : Routing) (state : SessionState)

/-- The id whose module is loaded for a request.  Reading a namespace loads nothing new. -/
def wanted? [Matcher] : Request → Option ProviderId
  | .load id | .make _ id _ _ | .bind id => some id
  | .create _ service _ => (routing.registry.lookup service).toOption
  | _ => none

/-- The namespace that is bound after a request. -/
def boundAfter : Request → Option Namespace
  | .bind id =>
    ((Namespace.ofLoad id (routing.loader.load id state.table).1).toOption).or state.bound
  | _ => state.bound

variable [Matcher]

theorem answer_load (id : ProviderId) :
    routing.answer state (.load id) =
      (.ofLoad (routing.loader.load id state.table).1,
        { state with table := (routing.loader.load id state.table).2 }) := by
  rw [answer]
  rcases routing.loader.load id state.table with ⟨failure | live, table⟩ <;> rfl

theorem answer_bind (id : ProviderId) :
    (routing.answer state (.bind id)).1 =
      match Namespace.ofLoad id (routing.loader.load id state.table).1 with
      | .ok _ => .bound
      | .error failure => .failed failure := by
  rw [answer, ← (Namespace.bind_spec routing.loader id state.table).1]
  rcases Namespace.bind routing.loader id state.table with ⟨failure | space, table⟩ <;> rfl

theorem table_answer {state : SessionState} (kept : state.Kept) (request : Request) :
    (routing.answer state request).2.table.Alike
      (routing.loader.tableAfter state.table (routing.wanted? request)) := by
  cases request with
  | load id =>
    rw [answer_load]
    exact .refl _
  | make style id service options => exact (routing.make_spec style service options _ id).2
  | create style service options =>
    rw [answer, wanted?]
    cases known : routing.registry.lookup service with
    | error failure =>
      rw [create_of_unknown routing style service options _ known]
      exact .refl _
    | ok owner => exact (routing.create_of_owner style service options _ known).2
  | bind id =>
    have spec := (Namespace.bind_spec routing.loader id state.table).2
    rw [answer]
    revert spec
    rcases Namespace.bind routing.loader id state.table with ⟨failure | space, table⟩
    · exact fun alike => alike
    · exact fun alike => alike
  | shared request =>
    rw [answer]
    cases bound : state.bound with
    | none => exact .refl _
    | some space =>
      dsimp only
      rw [askNamespace_table (kept space bound)]
      exact .refl _
  | lookup service =>
    rw [answer]
    cases routing.registry.lookup service <;> exact .refl _
  | _ => exact .refl _

theorem bound_answer (request : Request) :
    (routing.answer state request).2.bound = routing.boundAfter state request := by
  cases request with
  | bind id =>
    have spec := (Namespace.bind_spec routing.loader id state.table).1
    rw [answer, boundAfter, ← spec]
    rcases Namespace.bind routing.loader id state.table with ⟨failure | space, table⟩ <;> rfl
  | load id => rw [answer_load]; rfl
  | shared request =>
    show _ = state.bound
    rw [answer]
    cases bound : state.bound with
    | none => exact bound
    | some space => rfl
  | lookup service =>
    rw [answer]
    cases routing.registry.lookup service <;> rfl
  | _ => rfl

theorem kept_answer {state : SessionState} (kept : state.Kept) (request : Request) :
    (routing.answer state request).2.Kept := by
  intro space bound
  rw [bound_answer] at bound
  rw [ne_eq, (routing.table_answer kept request).attempted space.provider]
  have stays (before : state.bound = some space) :
      (routing.loader.tableAfter state.table (routing.wanted? request)).answer? space.provider ≠
        none := by
    obtain ⟨answer, here⟩ := Option.ne_none_iff_exists'.mp (kept space before)
    rw [(routing.loader.tableAfter_grows _ _).answer? here]
    exact Option.some_ne_none answer
  cases request with
  | bind id =>
    rw [boundAfter] at bound
    cases found : Namespace.ofLoad id (routing.loader.load id state.table).1 with
    | error failure =>
      rw [found] at bound
      exact stays bound
    | ok other =>
      rw [found] at bound
      cases bound
      rw [Namespace.ofLoad_provider found, wanted?, Loader.tableAfter,
        routing.loader.answer?_load]
      exact Option.some_ne_none _
  | _ => exact stays bound

theorem opened_answer {state : SessionState} (kept : state.Kept)
    (settled : state.table.Settled) (request : Request) :
    (routing.answer state request).2.table.opened =
      (state.table.opened ++ (routing.wanted? request).toList).eraseDups := by
  rw [(routing.table_answer kept request).opened]
  cases routing.wanted? request with
  | none =>
    rw [Option.toList_none, List.append_nil, FirstOccurrences.of_nodup settled.opened_nodup]
    rfl
  | some id => exact routing.loader.opened_load id settled

end Routing

/-! ## What every request keeps -/

/-- Loads keep the property, and what is noted in between does not matter for it. -/
structure Loader.Keeps (loader : Loader) (holds : LoadTable → Prop) : Prop where
  alike : ∀ {table other : LoadTable}, table.Alike other → holds other → holds table
  load : ∀ (id : ProviderId) {table : LoadTable}, holds table → holds (loader.load id table).2

namespace Loader

variable (loader : Loader)

theorem keeps_grows (before : LoadTable) : loader.Keeps before.Grows where
  alike same grows := same.grows grows
  load id table grows := grows.trans (loader.load_grows id table)

theorem keeps_settled : loader.Keeps LoadTable.Settled where
  alike same settled := same.settled settled
  load id _ settled := loader.load_settled id settled

theorem keeps_allAnswers {holds : ProviderId → Except Unavailable LoadedModule → Prop}
    (first : ∀ earlier id, holds id (loader.verdict earlier id)) :
    loader.Keeps fun table => table.AllAnswers holds where
  alike same all := same.allAnswers all
  load id _ all := (loader.load_allAnswers first all id).2

/-- Beside the load that it wants, a request only adds notes. -/
theorem Keeps.answer [Matcher] {routing : Routing} {holds : LoadTable → Prop}
    (keeps : routing.loader.Keeps holds) {state : SessionState} (kept : state.Kept)
    (now : holds state.table) (request : Request) :
    holds (routing.answer state request).2.table := by
  refine keeps.alike (routing.table_answer kept request) ?_
  cases routing.wanted? request with
  | none => exact now
  | some id => exact keeps.load id now

end Loader

end ServiceRouting
