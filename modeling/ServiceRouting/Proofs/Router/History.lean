import ServiceRouting.Proofs.Loader.Examination
import ServiceRouting.Proofs.Router.Openings

/-!
# Answers do not depend on the history

A source may answer the same whenever it is asked.  Then a slot holds what any first load of its id
would come to (`LoadTable.Faithful`), so every request for a route is answered in every state of a
session as it would be at the start (`history_independent`).  Only the serial numbers, which tell the
loaded modules of one session apart, are left out of the comparison.
-/

set_option autoImplicit false

namespace ServiceRouting

/-! ## Fixed sources -/

/-- The answer for a provider does not hang on what was opened before. -/
def Source.Fixed (source : Source) : Prop :=
  ∀ earlier id, source.answer earlier id = source.answer [] id

def Source.OnlyTables (source : Source) : Prop :=
  ∀ earlier id content, source.answer earlier id = .answered (.ok content) →
    ∃ provider : TableProvider, content = provider.asModule

namespace Loader

variable {loader : Loader}

/-- What a load of an id comes to, without the serial number of the opening. -/
def outcome (loader : Loader) (id : ProviderId) : Except Unavailable Module :=
  (loader.verdict [] id).map LoadedModule.content

theorem map_content_answerOf (id : ProviderId) (serial other : Nat)
    (outcome : Except LoadFailure Module) :
    (loader.answerOf id serial outcome).map LoadedModule.content =
      (loader.answerOf id other outcome).map LoadedModule.content := by
  cases outcome <;> rfl

theorem map_content_verdict (fixed : loader.source.Fixed) (earlier : List ProviderId)
    (id : ProviderId) :
    (loader.verdict earlier id).map LoadedModule.content = loader.outcome id := by
  rw [outcome, verdict, verdict, fixed earlier id]
  exact map_content_answerOf id _ _ _

theorem source_answer_of_outcome {id : ProviderId} {content : Module}
    (given : loader.outcome id = .ok content) :
    loader.source.answer [] id = .answered (.ok content) := by
  rw [outcome] at given
  cases brought : loader.verdict [] id with
  | error failure =>
    rw [brought] at given
    cases given
  | ok live =>
    rw [brought] at given
    cases given
    exact (verdict_eq_ok brought).1

end Loader

/-! ## Faithful tables -/

/-- Every filled slot holds what a first load would come to. -/
def LoadTable.Faithful (table : LoadTable) (loader : Loader) : Prop :=
  ∀ id answer, table.answer? id = some answer →
    answer.map LoadedModule.content = loader.outcome id

namespace LoadTable

variable {table other : LoadTable} {loader : Loader}

theorem Faithful.of_alike (faithful : other.Faithful loader) (alike : table.Alike other) :
    table.Faithful loader :=
  alike.allAnswers faithful

/-- From the slot or from the source, a load comes to the same. -/
theorem Faithful.load (faithful : table.Faithful loader) (fixed : loader.source.Fixed)
    (id : ProviderId) :
    (loader.load id table).1.map LoadedModule.content = loader.outcome id ∧
      (loader.load id table).2.Faithful loader :=
  loader.load_allAnswers (loader.map_content_verdict fixed) faithful id

end LoadTable

/-! ## Answers made of a load -/

/-- Loads that come to the same differ at most in the serial number of a module. -/
theorem LoadedModule.map_content_eq {first second : Except Unavailable LoadedModule}
    (same : first.map content = second.map content) :
    (∃ failure, first = .error failure ∧ second = .error failure) ∨
      ∃ serial other module, first = .ok ⟨serial, module⟩ ∧ second = .ok ⟨other, module⟩ := by
  rcases first with failure | ⟨serial, module⟩ <;> rcases second with failureToo | ⟨other, given⟩
  · cases same
    exact .inl ⟨failure, rfl, rfl⟩
  · cases same
  · cases same
  · cases same
    exact .inr ⟨serial, other, module, rfl, rfl⟩

/-- An answer without the serial number of a loaded module. -/
def Answer.plain : Answer → Answer
  | .loaded live => .loaded ⟨0, live.content⟩
  | answer => answer

/-- What a namespace holds, without the serial number of the module that published it. -/
def Namespace.content (space : Namespace) : ProviderId × SymbolTable :=
  (space.provider, space.exports.table)

/-- The requests that resolve, load, bind or open something. -/
def Request.Routes : Request → Prop
  | .lookup _ | .load _ | .make _ _ _ _ | .create _ _ _ | .bind _ => True
  | _ => False

section Congruence

variable {first second : Except Unavailable LoadedModule}

theorem Answer.plain_ofLoad_congr
    (same : first.map LoadedModule.content = second.map LoadedModule.content) :
    (Answer.ofLoad first).plain = (Answer.ofLoad second).plain := by
  obtain ⟨failure, rfl, rfl⟩ | ⟨serial, other, module, rfl, rfl⟩ :=
    LoadedModule.map_content_eq same
  · rfl
  · rfl

theorem Namespace.content_ofLoad_congr (id : ProviderId)
    (same : first.map LoadedModule.content = second.map LoadedModule.content) :
    (ofLoad id first).map content = (ofLoad id second).map content := by
  obtain ⟨failure, rfl, rfl⟩ | ⟨serial, other, module, rfl, rfl⟩ :=
    LoadedModule.map_content_eq same
  · rfl
  · simp only [ofLoad, LoadedModule.exports?]
    cases module.exports with
    | none => rfl
    | some symbols => rfl

theorem Routing.handleOf_congr (style : CallStyle) (service : String) (options : Options)
    (same : first.map LoadedModule.content = second.map LoadedModule.content) :
    handleOf style service options first = handleOf style service options second := by
  obtain ⟨failure, rfl, rfl⟩ | ⟨serial, other, module, rfl, rfl⟩ :=
    LoadedModule.map_content_eq same
  · rfl
  · rfl

end Congruence

namespace Routing

variable (routing : Routing) {state left right : SessionState}

/-! ## One request -/

theorem answer_plain_congr [Matcher]
    (same : ∀ id, (routing.loader.load id left.table).1.map LoadedModule.content =
      (routing.loader.load id right.table).1.map LoadedModule.content)
    {request : Request} (routes : request.Routes) :
    (routing.answer left request).1.plain = (routing.answer right request).1.plain := by
  cases request with
  | lookup service =>
    dsimp only [answer]
    cases routing.registry.lookup service <;> rfl
  | load id =>
    rw [answer_load, answer_load]
    exact Answer.plain_ofLoad_congr (same id)
  | make style id service options =>
    dsimp only [answer]
    rw [(routing.make_spec style service options _ id).1,
      (routing.make_spec style service options _ id).1,
      handleOf_congr style service options (same id)]
  | create style service options =>
    dsimp only [answer]
    cases known : routing.registry.lookup service with
    | error failure =>
      rw [create_of_unknown routing style service options _ known,
        create_of_unknown routing style service options _ known]
    | ok owner =>
      rw [(routing.create_of_owner style service options _ known).1,
        (routing.create_of_owner style service options _ known).1,
        handleOf_congr style service options (same owner)]
  | bind id =>
    rw [answer_bind, answer_bind]
    have bound := Namespace.content_ofLoad_congr id (same id)
    revert bound
    rcases Namespace.ofLoad id (routing.loader.load id left.table).1 with failure | space <;>
      rcases Namespace.ofLoad id (routing.loader.load id right.table).1 with other | given
    · intro bound
      cases bound
      rfl
    · intro bound
      cases bound
    · intro bound
      cases bound
    · intro
      rfl
  | _ => exact absurd routes id

theorem faithful_after [Matcher] (fixed : routing.loader.source.Fixed) (kept : state.Kept)
    (faithful : state.table.Faithful routing.loader) (requests : List Request) :
    (routing.after state requests).table.Faithful routing.loader :=
  routing.allAnswers_after (routing.loader.map_content_verdict fixed) kept faithful requests

/-! ## Table providers -/

/-- Table providers construct alike for callers that wait and callers that await. -/
theorem create_style [Matcher] (fixed : routing.loader.source.Fixed)
    (tables : routing.loader.source.OnlyTables) {table : LoadTable}
    (faithful : table.Faithful routing.loader) (first second : CallStyle) (service : String)
    (options : Options) :
    routing.create first service options table = routing.create second service options table := by
  cases known : routing.registry.lookup service with
  | error failure =>
    rw [create_of_unknown routing first service options table known,
      create_of_unknown routing second service options table known]
  | ok owner =>
    rw [create_eq_make routing first service options table known,
      create_eq_make routing second service options table known, make_eq, make_eq]
    have noted := table.alike_note .debug .router s!"routing '{service}' to provider '{owner}'"
    have given := ((faithful.of_alike noted).load fixed owner).1
    cases brought : (routing.loader.load owner
      (table.note .debug .router s!"routing '{service}' to provider '{owner}'")).1 with
    | error failure => rfl
    | ok live =>
      rw [brought] at given
      obtain ⟨provider, content⟩ :=
        tables [] owner live.content (Loader.source_answer_of_outcome given.symm)
      dsimp only [construct]
      rw [content]
      rfl

end Routing

/-! ## Sessions of a built router -/

theorem RouterPlan.Yields.faithful {plan : RouterPlan} {primary : ProviderId} {router : Router}
    (yields : plan.Yields primary router) (fixed : router.routing.loader.source.Fixed) :
    plan.build.table.Faithful router.routing.loader :=
  yields.allAnswers (router.routing.loader.map_content_verdict fixed)

/-- Over a fixed source, every request for a route is answered at any point of a session as it would
be first of all, and a bind hands out the same symbols.  A create is answered with what the owner's
module constructs; if that is an error, the answer is this very error and says what the error says.
Where the modules are table providers, it makes no difference whether the caller waits or awaits,
neither to the answer nor to the state. -/
theorem history_independent [Matcher] (plan : RouterPlan) (router : Router)
    (built : plan.build.outcome = .ok router) (fixed : plan.sourceOrNone.Fixed) :
    let routing := router.routing
    let start := router.start plan.build.table
    (∀ (requests : List Request) (position : Nat) (request : Request),
      requests[position]? = some request → request.Routes →
        (routing.answers start requests)[position]?.map Answer.plain =
          some (routing.answer start request).1.plain) ∧
    (∀ requests id,
      (Namespace.bind routing.loader id (routing.after start requests).table).1.map
          Namespace.content =
        (Namespace.bind routing.loader id start.table).1.map Namespace.content) ∧
    (∀ requests style service options name owner live,
      ServiceName.ofText service = .ok name → routing.registry.lookup service = .ok owner →
      (routing.loader.load owner start.table).1 = .ok live →
        (routing.answer (routing.after start requests) (.create style service options)).1 =
            Routing.answerHandle
              ((live.content.construct style name options).outcome.mapError .refused) ∧
          ∀ error, (live.content.construct style name options).outcome = .error error →
            (routing.answer (routing.after start requests) (.create style service options)).1 =
                .failed (.refused error) ∧
              (RoutingError.refused error).describe = error.describe) ∧
    (plan.sourceOrNone.OnlyTables → ∀ requests service options,
      routing.answer (routing.after start requests) (.create .blocking service options) =
        routing.answer (routing.after start requests) (.create .awaited service options)) := by
  intro routing start
  obtain ⟨primary, yields⟩ := RouterPlan.exists_yields built
  have source : routing.loader.source = plan.sourceOrNone := by
    rw [yields.loader]
    rfl
  rw [← source] at fixed ⊢
  have atStart : start.table.Faithful routing.loader := yields.faithful fixed
  have faithful (requests : List Request) :
      (routing.after start requests).table.Faithful routing.loader :=
    routing.faithful_after fixed yields.kept atStart requests
  -- Wherever a load stands in the session, it comes to what it would come to at the start.
  have same (requests : List Request) (id : ProviderId) :
      (routing.loader.load id (routing.after start requests).table).1.map LoadedModule.content =
        (routing.loader.load id start.table).1.map LoadedModule.content :=
    ((faithful requests).load fixed id).1.trans (atStart.load fixed id).1.symm
  refine ⟨?_, ?_, ?_, ?_⟩
  · intro requests position request here routes
    rw [routing.getElem?_answers, here, Option.map_some, Option.map_some,
      routing.answer_plain_congr (same _) routes]
  · intro requests id
    rw [(Namespace.bind_spec routing.loader id _).1, (Namespace.bind_spec routing.loader id _).1]
    exact Namespace.content_ofLoad_congr id (same requests id)
  · intro requests style service options name owner live named known loaded
    have constructed :
        (routing.answer (routing.after start requests) (.create style service options)).1 =
          Routing.answerHandle
            ((live.content.construct style name options).outcome.mapError .refused) := by
      dsimp only [Routing.answer]
      rw [(routing.create_of_owner style service options _ known).1,
        Routing.handleOf_congr style service options (same requests owner), loaded]
      simp only [Routing.handleOf, named]
      cases (live.content.construct style name options).outcome <;> rfl
    refine ⟨constructed, ?_⟩
    intro error refused
    rw [constructed, refused]
    exact ⟨rfl, rfl⟩
  · intro tables requests service options
    dsimp only [Routing.answer]
    rw [routing.create_style fixed tables (faithful requests) .blocking .awaited]

theorem StaticSource.answer_add (source : StaticSource) (text : String) (opening : Opening)
    (earlier : List ProviderId) (id : ProviderId) :
    (source.add text opening).source.answer earlier id =
      if text = id.text then opening else source.source.answer earlier id := by
  have found := SortedMap.get?_insert source.openings text opening id.text
  dsimp only [StaticSource.source, StaticSource.add]
  rw [found]
  by_cases same : text = id.text <;> simp [TextKey.text, same]

theorem StaticSource.onlyTables_empty : empty.source.OnlyTables := by
  rintro earlier id content ⟨⟩

theorem StaticSource.onlyTables_add {source : StaticSource} {opening : Opening}
    (tables : source.source.OnlyTables)
    (new : ∀ content, opening = .answered (.ok content) →
      ∃ provider : TableProvider, content = provider.asModule) (text : String) :
    (source.add text opening).source.OnlyTables := by
  intro earlier id content given
  rw [answer_add] at given
  split at given
  · exact new content given
  · exact tables earlier id content given

theorem StaticSource.onlyTables_addModule {source : StaticSource}
    (tables : source.source.OnlyTables) (text : String) (provider : TableProvider) :
    (source.addModule text provider.asModule).source.OnlyTables := by
  refine onlyTables_add tables ?_ text
  rintro content ⟨⟩
  exact ⟨provider, rfl⟩

theorem RouterPlan.troubled_onlyTables : troubled.sourceOrNone.OnlyTables := by
  have core := StaticSource.onlyTables_addModule StaticSource.onlyTables_empty "core"
    BundledProvider.core.tableProvider
  refine StaticSource.onlyTables_add (StaticSource.onlyTables_add core ?_ "database") ?_ "cloud"
  · rintro content ⟨⟩
  · rintro content ⟨⟩

/-- The answers of the troubled router do not depend on the requests before them. -/
theorem history_of_troubled :
    ∃ router, RouterPlan.troubled.build.outcome = .ok router ∧
      RouterPlan.troubled.sourceOrNone.Fixed ∧ RouterPlan.troubled.sourceOrNone.OnlyTables ∧
      (router.routing.answers (router.start RouterPlan.troubled.build.table)
          troubledRequests)[6]?.map Answer.plain =
        some (router.routing.answer (router.start RouterPlan.troubled.build.table)
          (.create .awaited "redis" ∅)).1.plain ∧
      router.routing.answer (router.routing.after (router.start RouterPlan.troubled.build.table)
          troubledRequests) (.create .blocking "fs" ∅) =
        router.routing.answer (router.routing.after (router.start RouterPlan.troubled.build.table)
          troubledRequests) (.create .awaited "fs" ∅) := by
  have fixed : RouterPlan.troubled.sourceOrNone.Fixed := fun _ _ => rfl
  have tables : RouterPlan.troubled.sourceOrNone.OnlyTables := RouterPlan.troubled_onlyTables
  obtain ⟨router, built⟩ : ∃ router, RouterPlan.troubled.build.outcome = .ok router := ⟨_, rfl⟩
  obtain ⟨answers, _, _, styles⟩ := history_independent RouterPlan.troubled router built fixed
  exact ⟨router, built, fixed, tables, answers troubledRequests 6 _ rfl trivial,
    styles tables troubledRequests "fs" ∅⟩

end ServiceRouting
