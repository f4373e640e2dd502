import ServiceRouting.Proofs.Router.History
import ServiceRouting.Proofs.Table.Configuration

/-!
# Services are opened by their owners

A source may give any table under any id.  A load brings only what bears the id that was asked for, and
a slot keeps what a load brought, so every create that comes to a module comes to the owner's: it alone
is asked for the service, and its table decides what the handle says (`opened_by_owner`).
-/

set_option autoImplicit false

namespace ServiceRouting

/-! ## Vouched modules -/

/-- A module that was brought for an id bears it and comes from the source. -/
def Loader.Vouches (loader : Loader) (id : ProviderId)
    (answer : Except Unavailable LoadedModule) : Prop :=
  ∀ live, answer = .ok live → live.content.id = .answered id ∧
    ∃ earlier, loader.source.answer earlier id = .answered (.ok live.content)

theorem Loader.vouches_verdict (loader : Loader) (earlier : List ProviderId) (id : ProviderId) :
    loader.Vouches id (loader.verdict earlier id) := by
  intro live brought
  obtain ⟨given, named⟩ := verdict_eq_ok brought
  exact ⟨named, earlier, given⟩

theorem Loader.vouches_load (loader : Loader) {table : LoadTable}
    (vouched : table.AllAnswers loader.Vouches) (id : ProviderId) :
    loader.Vouches id (loader.load id table).1 :=
  (loader.load_allAnswers loader.vouches_verdict vouched id).1

/-! ## What modules were asked for -/

namespace LoadTable

/-- The constructions so far: the module that was asked, by the id it gives itself, and the service. -/
def constructions (table : LoadTable) : List (Reply ProviderId × ServiceName) :=
  table.trace.filterMap fun event =>
    match event with
    | .constructing module service => some (module, service)
    | _ => none

@[simp] theorem constructions_settle (table : LoadTable) (id : ProviderId) (state : LoadState) :
    (table.settle id state).constructions = table.constructions := rfl

theorem mem_constructions {table : LoadTable} {module : Reply ProviderId} {service : ServiceName} :
    (module, service) ∈ table.constructions ↔ .constructing module service ∈ table.trace := by
  rw [constructions, List.mem_filterMap]
  constructor
  · rintro ⟨event, member, read⟩
    cases event with
    | constructing other name =>
      cases read
      exact member
    | noted record => cases read
    | opened id => cases read
  · intro member
    exact ⟨_, member, rfl⟩

theorem constructions_record_of_quiet (table : LoadTable) {events : List Event}
    (quiet : ∀ module service, Event.constructing module service ∉ events) :
    (table.record events).constructions = table.constructions := by
  refine filterMap_trace_record _ table ?_
  intro event member
  cases event with
  | constructing module service => exact absurd member (quiet module service)
  | noted record => rfl
  | opened id => rfl

@[simp] theorem constructions_note (table : LoadTable) (level : LogLevel) (component : Component)
    (message : String) : (table.note level component message).constructions = table.constructions :=
  constructions_record_of_quiet table (by simp)

end LoadTable

namespace Loader

variable (loader : Loader) (id : ProviderId) (table : LoadTable)

@[simp] theorem constructions_openModule :
    (loader.openModule id table).2.constructions = table.constructions :=
  table.constructions_record_of_quiet (by simp [unlistedWarning])

@[simp] theorem constructions_conclude (serial : Nat) (outcome : Except LoadFailure Module) :
    (loader.conclude id serial outcome table).2.constructions = table.constructions := by
  cases outcome <;> simp [conclude]

@[simp] theorem constructions_load :
    (loader.load id table).2.constructions = table.constructions := by
  rw [load]
  split
  · rfl
  · rfl
  · have begun : (table.begin id).constructions = table.constructions :=
      LoadTable.constructions_note _ _ _ _
    simp [attempt, begun]

end Loader

@[simp] theorem Namespace.constructions_bind (loader : Loader) (id : ProviderId)
    (table : LoadTable) : (bind loader id table).2.constructions = table.constructions := by
  rw [← loader.constructions_load id table, bind]
  rcases loader.load id table with ⟨failure | live, loaded⟩
  · rfl
  · dsimp only
    cases live.exports? with
    | none => rfl
    | some exports => simp

/-! ## One request -/

namespace Routing

variable (routing : Routing)

/-- The module is the one of the service's owner, or of the provider that a request names. -/
def AskedFor [Matcher] (requests : List Request) (module : Reply ProviderId) (name : ServiceName) :
    Prop :=
  (∃ owner, routing.registry.lookup name.text = .ok owner ∧ module = .answered owner) ∨
    ∃ style id options, .make style id name.text options ∈ requests ∧ module = .answered id

variable {routing} {state : SessionState} {module : Reply ProviderId} {name : ServiceName}

theorem AskedFor.mono [Matcher] {few many : List Request}
    (asked : routing.AskedFor few module name) (more : few ⊆ many) : routing.AskedFor many module name := by
  rcases asked with owned | ⟨style, id, options, member, named⟩
  · exact .inl owned
  · exact .inr ⟨style, id, options, more member, named⟩

section Constructing

variable {style : CallStyle} {service : String} {options : Options} {table : LoadTable}

theorem mem_constructions_construct {given : ServiceName} {live : LoadedModule}
    (constructed : (module, name) ∈ (construct style given live options table).2.constructions) :
    (module, name) ∈ table.constructions ∨ module = live.content.id ∧ name = given := by
  have done : (construct style given live options table).2.trace = table.trace ++
      .constructing live.content.id given ::
        (live.content.construct style given options).log.map Event.noted := by
    rw [construct]
    split <;> rfl
  rw [LoadTable.mem_constructions, done, List.mem_append, List.mem_cons] at constructed
  rcases constructed with before | now | noted
  · exact .inl (LoadTable.mem_constructions.mpr before)
  · cases now
    exact .inr ⟨rfl, rfl⟩
  · simp at noted

/-- Only a module that a load brings is asked, and only for the service of the request. -/
theorem mem_constructions_make {id : ProviderId}
    (constructed : (module, name) ∈ (routing.make style id service options table).2.constructions) :
    (module, name) ∈ table.constructions ∨ name.text = service ∧
      ∃ live, (routing.loader.load id table).1 = .ok live ∧ module = live.content.id := by
  rw [make_eq] at constructed
  rw [← routing.loader.constructions_load id table]
  cases brought : (routing.loader.load id table).1 with
  | error failure =>
    rw [brought] at constructed
    exact .inl constructed
  | ok live =>
    rw [brought] at constructed
    cases named : ServiceName.ofText service with
    | error failure =>
      rw [named] at constructed
      exact .inl constructed
    | ok given =>
      rw [named] at constructed
      rcases mem_constructions_construct constructed with before | ⟨asked, rfl⟩
      · exact .inl before
      · exact .inr ⟨ServiceName.ofText_eq_ok_iff.mp named, live, rfl, asked⟩

end Constructing

theorem mem_constructions_answer [Matcher] (kept : state.Kept)
    (vouched : state.table.AllAnswers routing.loader.Vouches) (request : Request)
    (constructed : (module, name) ∈ (routing.answer state request).2.table.constructions) :
    (module, name) ∈ state.table.constructions ∨ routing.AskedFor [request] module name := by
  cases request with
  | load id =>
    rw [answer_load] at constructed
    exact .inl (by simpa using constructed)
  | make style id service options =>
    rcases mem_constructions_make constructed with before | ⟨rfl, live, brought, rfl⟩
    · exact .inl before
    · have bears := routing.loader.vouches_load vouched id live brought
      exact .inr (.inr ⟨style, id, options, List.mem_singleton_self _, bears.1⟩)
  | create style service options =>
    dsimp only [answer] at constructed
    cases known : routing.registry.lookup service with
    | error failure =>
      rw [create_of_unknown routing style service options _ known] at constructed
      exact .inl constructed
    | ok owner =>
      rw [create_eq_make routing style service options _ known] at constructed
      rcases mem_constructions_make constructed with before | ⟨rfl, live, brought, rfl⟩
      · exact .inl (by simpa using before)
      · have noted := (state.table.alike_note .debug .router
          s!"routing '{name.text}' to provider '{owner}'").allAnswers vouched
        have bears := routing.loader.vouches_load noted owner live brought
        exact .inr (.inl ⟨owner, known, bears.1⟩)
  | bind id =>
    have same := Namespace.constructions_bind routing.loader id state.table
    dsimp only [answer] at constructed
    rw [← same]
    revert constructed
    rcases Namespace.bind routing.loader id state.table with ⟨failure | space, table⟩
    · exact .inl
    · exact .inl
  | shared request =>
    dsimp only [answer] at constructed
    cases bound : state.bound with
    | none =>
      rw [bound] at constructed
      exact .inl constructed
    | some space =>
      rw [bound] at constructed
      dsimp only at constructed
      -- The provider of the bound namespace was loaded before, so asking it changes nothing.
      rw [askNamespace_table (kept space bound)] at constructed
      exact .inl constructed
  | lookup service =>
    dsimp only [answer] at constructed
    revert constructed
    cases routing.registry.lookup service <;> exact .inl
  | _ => exact .inl constructed

/-! ## Runs -/

theorem mem_constructions_after [Matcher] (kept : state.Kept)
    (vouched : state.table.AllAnswers routing.loader.Vouches) (requests : List Request)
    (constructed : (module, name) ∈ (routing.after state requests).table.constructions) :
    (module, name) ∈ state.table.constructions ∨ routing.AskedFor requests module name := by
  induction requests generalizing state with
  | nil => exact .inl constructed
  | cons request rest ih =>
    have vouchedNext := (routing.loader.keeps_allAnswers routing.loader.vouches_verdict).answer
      kept vouched request
    rcases ih (routing.kept_answer kept request) vouchedNext constructed with before | later
    · rcases mem_constructions_answer kept vouched request before with earlier | now
      · exact .inl earlier
      · exact .inr (now.mono (by simp))
    · exact .inr (later.mono (by simp))

/-! ## Handles -/

/-- A handle is made by the owner's table, out of its first entry with the name. -/
theorem create_eq_ok [Matcher] {table : LoadTable}
    (tables : routing.loader.source.OnlyTables)
    (vouched : table.AllAnswers routing.loader.Vouches) {style : CallStyle} {service : String}
    {options : Options} {handle : Handle}
    (opened : (routing.create style service options table).1 = .ok handle) :
    ∃ (provider : TableProvider) (spec : ServiceSpec) (name : ServiceName) (serial : Nat),
      routing.registry.lookup service = .ok provider.id ∧
      (routing.loader.load provider.id table).1 = .ok ⟨serial, provider.asModule⟩ ∧
      name.text = service ∧ provider.spec? service = some spec ∧
      handle = provider.assemble name spec options := by
  cases known : routing.registry.lookup service with
  | error failure =>
    rw [create_of_unknown routing style service options table known] at opened
    cases opened
  | ok owner =>
    rw [(routing.create_of_owner style service options table known).1] at opened
    obtain ⟨⟨serial, content⟩, brought, name, named⟩ := handleOf_eq_ok opened
    -- The owner is known to the registry and the id to the module; the load has compared the two.
    obtain ⟨bears, earlier, given⟩ := routing.loader.vouches_load vouched owner _ brought
    obtain ⟨provider, rfl⟩ := tables earlier owner content given
    obtain rfl : provider.id = owner := Reply.answered.inj bears
    rw [brought, handleOf_table named] at opened
    cases configured : provider.configure name options with
    | error failure =>
      rw [configured] at opened
      cases opened
    | ok made =>
      rw [configured] at opened
      cases opened
      obtain ⟨spec, found, assembled⟩ := TableProvider.configure_eq_ok configured
      obtain rfl : name.text = service := ServiceName.ofText_eq_ok_iff.mp named
      exact ⟨provider, spec, name, serial, rfl, brought, rfl, found, assembled⟩

end Routing

/-! ## Sessions of a built router -/

namespace RouterPlan

variable (plan : RouterPlan)

theorem constructions_finish (primary : ProviderId) (registry : Registry) (table : LoadTable) :
    (plan.finish primary registry table).table.constructions = table.constructions := by
  have bound := Namespace.constructions_bind (.ofRegistry plan.sourceOrNone registry) primary table
  rw [finish, ← bound]
  dsimp only
  rcases Namespace.bind (.ofRegistry plan.sourceOrNone registry) primary table with
    ⟨failure | shared, loaded⟩
  · rfl
  · simp

theorem constructions_build : plan.build.table.constructions = [] := by
  have enrolled : (LoadTable.empty.record
      ((Registry.enrol plan.hinted).log.map Event.noted)).constructions = [] :=
    LoadTable.constructions_record_of_quiet _ (by simp)
  rw [build]
  split
  · rfl
  · split
    · rfl
    · dsimp only
      split
      · exact enrolled
      · rw [constructions_finish]
        exact enrolled

end RouterPlan

/-- A source may give any tables under any ids.  In every state of a session, a handle is the owner's:
it names the service and its owner, and its capability is that of the first entry with the name in the
table that the owner's load brings, which bears the owner's id.  A module is asked for a service only as
its owner, or because a request has passed over the registry and named the provider itself. -/
theorem opened_by_owner [Matcher] (plan : RouterPlan) (router : Router)
    (built : plan.build.outcome = .ok router) (tables : plan.sourceOrNone.OnlyTables)
    (requests : List Request) :
    let routing := router.routing
    let state := routing.after (router.start plan.build.table) requests
    (∀ style service options handle,
      (routing.answer state (.create style service options)).1 = .handle handle →
        handle.service.text = service ∧
        routing.registry.lookup service = .ok handle.provider ∧
        ∃ (provider : TableProvider) (spec : ServiceSpec) (serial : Nat),
          (∃ earlier, plan.sourceOrNone.answer earlier handle.provider =
            .answered (.ok provider.asModule)) ∧
          (routing.loader.load handle.provider state.table).1 = .ok ⟨serial, provider.asModule⟩ ∧
          provider.id = handle.provider ∧ provider.spec? service = some spec ∧
          handle.capability = spec.capability) ∧
    ∀ module name, .constructing module name ∈ state.table.trace →
      (∃ owner, routing.registry.lookup name.text = .ok owner ∧ module = .answered owner) ∨
        ∃ style id options, .make style id name.text options ∈ requests ∧ module = .answered id := by
  intro routing state
  obtain ⟨primary, yields⟩ := RouterPlan.exists_yields built
  rw [← yields.source] at tables ⊢
  have atStart := yields.allAnswers router.routing.loader.vouches_verdict
  have vouched : state.table.AllAnswers routing.loader.Vouches :=
    routing.allAnswers_after routing.loader.vouches_verdict yields.kept atStart requests
  refine ⟨?_, ?_⟩
  · intro style service options handle answered
    have opened : (routing.create style service options state.table).1 = .ok handle := by
      dsimp only [Routing.answer] at answered
      revert answered
      cases (routing.create style service options state.table).1 with
      | error failure => rintro ⟨⟩
      | ok made =>
        rintro ⟨⟩
        rfl
    obtain ⟨provider, spec, name, serial, known, brought, rfl, found, rfl⟩ :=
      Routing.create_eq_ok tables vouched opened
    rw [TableProvider.assemble_eq]
    obtain ⟨_, given⟩ := routing.loader.vouches_load vouched provider.id _ brought
    exact ⟨rfl, known, provider, spec, serial, given, brought, rfl, found, rfl⟩
  · intro module name constructed
    rcases Routing.mem_constructions_after yields.kept atStart requests
      (LoadTable.mem_constructions.mpr constructed) with before | asked
    · rw [Router.start, plan.constructions_build] at before
      cases before
    · exact asked

/-- A table that lists one service twice and another's service instead of its own. -/
def TableProvider.muddled : TableProvider where
  id := BundledProvider.database.id
  specs := [{ name := "redis", capability := .readOnly }, { name := "fs" }, { name := "redis" }]

/-- A source with that table, and with one under a wrong id. -/
def StaticSource.muddled : StaticSource :=
  ((empty.addModule "core" BundledProvider.core.tableProvider.asModule).addModule "database"
    TableProvider.muddled.asModule).addModule "cloud" BundledProvider.core.tableProvider.asModule

def RouterPlan.muddled : RouterPlan :=
  .ofSteps
    [.provider ⟨"core", ["fs", "memory"], "install core"⟩,
      .provider ⟨"database", ["redis", "mysql"], "install database"⟩,
      .provider ⟨"cloud", ["dropbox"], "install cloud"⟩,
      .source StaticSource.muddled.source]

/-- The owner's first entry decides, and nobody asks the module under the wrong id. -/
theorem opened_by_owner_of_muddled :
    RouterPlan.muddled.sourceOrNone.OnlyTables ∧
    ∃ router, RouterPlan.muddled.build.outcome = .ok router ∧
      let state := router.routing.after (router.start RouterPlan.muddled.build.table)
        troubledRequests
      (∃ handle,
        (router.routing.answer state (.create .blocking "redis" ∅)).1 = .handle handle ∧
        router.routing.registry.lookup "redis" = .ok handle.provider ∧
        handle.capability = .readOnly) ∧
      ∀ module name, .constructing module name ∈ state.table.trace →
        ∃ owner, router.routing.registry.lookup name.text = .ok owner ∧
          module = .answered owner := by
  have tables : RouterPlan.muddled.sourceOrNone.OnlyTables := by
    have core := StaticSource.onlyTables_addModule StaticSource.onlyTables_empty "core"
      BundledProvider.core.tableProvider
    have database := StaticSource.onlyTables_addModule core "database" .muddled
    exact StaticSource.onlyTables_addModule database "cloud" BundledProvider.core.tableProvider
  refine ⟨tables, _, rfl, ?_⟩
  obtain ⟨handles, constructions⟩ := opened_by_owner .muddled _ rfl tables troubledRequests
  refine ⟨⟨_, rfl, ?_, rfl⟩, ?_⟩
  · obtain ⟨_, known, _⟩ := handles .blocking "redis" ∅ _ rfl
    exact known
  · intro module name constructed
    rcases constructions module name constructed with owned | ⟨style, id, options, member, _⟩
    · exact owned
    · simp [troubledRequests] at member

end ServiceRouting
