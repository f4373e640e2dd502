import ServiceRouting.CommandLine.Program
import ServiceRouting.Proofs.Router.BundledStack
import ServiceRouting.Proofs.Table.Secrecy

/-!
# Credentials do not leave the bundled providers

Two sessions of a router made from settings may differ in the credentials that their requests give to
bundled services.  No bundled service looks for a directory that is a credential, so every request gets
answers that look alike and leaves the very same state, records included; the same goes for a run of the
program (`credentials_do_not_show`).
-/

set_option autoImplicit false

namespace ServiceRouting

/-! ## The credentials of bundled services -/

namespace BundledProvider

/-- The key is one whose value is a credential of the service. -/
def Credential (service key : String) : Prop :=
  ∃ provider : BundledProvider, ∃ spec ∈ provider.specs, spec.name = service ∧ key ∈ spec.secrets

theorem Credential.mem_secrets {provider : BundledProvider} {spec : ServiceSpec} {key : String}
    (offered : spec ∈ provider.specs) (credential : Credential spec.name key) :
    key ∈ spec.secrets := by
  obtain ⟨other, same, offeredToo, named, secret⟩ := credential
  obtain ⟨_, rfl⟩ := offered_once offeredToo offered named
  exact secret

theorem probeKey_notMem_secrets {provider : BundledProvider} {spec : ServiceSpec} {key : String}
    (offered : spec ∈ provider.specs) (probed : spec.probeKey = some key) :
    key ∉ spec.secrets := by
  have table : ∀ provider ∈ all, ∀ spec ∈ provider.specs, ∀ key ∈ spec.probeKey,
      key ∉ spec.secrets := by
    decide +kernel
  exact table provider provider.mem_all spec offered key probed

/-- Whatever service a bundled provider is asked for, credentials of the service make no difference. -/
theorem construct_looksLike (provider : BundledProvider) {name : ServiceName}
    {first second : Options} (alike : first.AlikeBut (Credential name.text) second) :
    (provider.tableProvider.construct name first).log =
        (provider.tableProvider.construct name second).log ∧
      EndAlike Handle.LooksLike (provider.tableProvider.construct name first).outcome
        (provider.tableProvider.construct name second).outcome := by
  have secrets : ∀ spec, provider.tableProvider.spec? name.text = some spec →
      first.AlikeBut (· ∈ spec.secrets) second := by
    intro spec found
    obtain ⟨offered, named⟩ := spec?_eq_some_iff.mp found
    refine alike.mono ?_
    intro key credential
    exact Credential.mem_secrets offered (named ▸ credential)
  obtain ⟨log, ends⟩ := TableProvider.construct_alike secrets
  refine ⟨log, ends.mono ?_⟩
  rintro one two ⟨_, looks⟩
  refine looks ?_
  intro spec found key probed secret
  exact absurd secret (probeKey_notMem_secrets (spec?_eq_some_iff.mp found).1 probed)

end BundledProvider

/-! ## Requests for handles -/

namespace Routing

variable {routing : Routing} {style : CallStyle} {first second : Options}
  {alike : Handle → Handle → Prop}

theorem construct_alike {name : ServiceName} {live : LoadedModule} (table : LoadTable)
    (log : (live.content.construct style name first).log =
      (live.content.construct style name second).log)
    (ends : EndAlike alike (live.content.construct style name first).outcome
      (live.content.construct style name second).outcome) :
    EndAlike alike (construct style name live first table).1
        (construct style name live second table).1 ∧
      (construct style name live first table).2 = (construct style name live second table).2 := by
  rw [construct, construct, log]
  revert ends
  generalize (live.content.construct style name first).outcome = one
  generalize (live.content.construct style name second).outcome = two
  rintro (failure | same)
  · exact ⟨.failed _, rfl⟩
  · exact ⟨.succeeded same, rfl⟩

/-- A make depends on the options only through the module that is asked. -/
theorem make_alike (id : ProviderId) (service : String) (table : LoadTable)
    (constructs : ∀ live name, (routing.loader.load id table).1 = .ok live → name.text = service →
      (live.content.construct style name first).log =
          (live.content.construct style name second).log ∧
        EndAlike alike (live.content.construct style name first).outcome
          (live.content.construct style name second).outcome) :
    EndAlike alike (routing.make style id service first table).1
        (routing.make style id service second table).1 ∧
      (routing.make style id service first table).2 =
        (routing.make style id service second table).2 := by
  rw [make_eq, make_eq]
  cases brought : (routing.loader.load id table).1 with
  | error failure => exact ⟨.failed _, rfl⟩
  | ok live =>
    cases named : ServiceName.ofText service with
    | error failure => exact ⟨.failed _, rfl⟩
    | ok name =>
      obtain ⟨log, ends⟩ := constructs live name brought (ServiceName.ofText_eq_ok_iff.mp named)
      exact construct_alike _ log ends

end Routing

namespace RouterConfig.Governs

variable {config : RouterConfig} {routing : Routing} {table : LoadTable} {first second : Options}

theorem make_looksLike (governs : config.Governs routing)
    (faithful : table.Faithful routing.loader) (style : CallStyle) (id : ProviderId)
    {service : String} (alike : first.AlikeBut (BundledProvider.Credential service) second) :
    EndAlike Handle.LooksLike (routing.make style id service first table).1
        (routing.make style id service second table).1 ∧
      (routing.make style id service first table).2 =
        (routing.make style id service second table).2 := by
  refine Routing.make_alike id service table ?_
  rintro live name brought rfl
  obtain ⟨hint, absent⟩ | ⟨provider, serial, bundled⟩ := governs.load_cases faithful id
  · rw [brought] at absent
    cases absent
  · rw [brought] at bundled
    cases bundled
    exact provider.construct_looksLike alike

theorem create_looksLike [Matcher] (governs : config.Governs routing)
    (faithful : table.Faithful routing.loader) (style : CallStyle) {service : String}
    (alike : first.AlikeBut (BundledProvider.Credential service) second) :
    EndAlike Handle.LooksLike (routing.create style service first table).1
        (routing.create style service second table).1 ∧
      (routing.create style service first table).2 =
        (routing.create style service second table).2 := by
  cases known : routing.registry.lookup service with
  | error failure =>
    rw [Routing.create_of_unknown routing style service first table known,
      Routing.create_of_unknown routing style service second table known]
    exact ⟨.failed failure, rfl⟩
  | ok owner =>
    rw [Routing.create_eq_make routing style service first table known,
      Routing.create_eq_make routing style service second table known]
    have noted := faithful.of_alike (table.alike_note .debug .router
      s!"routing '{service}' to provider '{owner}'")
    exact governs.make_looksLike noted style owner alike

end RouterConfig.Governs

/-! ## Sessions -/

/-- One request in two sessions: the options may differ in credentials of the service. -/
inductive Request.AlikeButCredentials : Request → Request → Prop where
  | same (request : Request) : AlikeButCredentials request request
  | create (style : CallStyle) (service : String) {first second : Options} :
    first.AlikeBut (BundledProvider.Credential service) second →
    AlikeButCredentials (.create style service first) (.create style service second)
  | make (style : CallStyle) (id : ProviderId) (service : String) {first second : Options} :
    first.AlikeBut (BundledProvider.Credential service) second →
    AlikeButCredentials (.make style id service first) (.make style id service second)

/-- The same answer, or handles that look alike. -/
inductive Answer.LooksLike : Answer → Answer → Prop where
  | same (answer : Answer) : LooksLike answer answer
  | handle {first second : Handle} :
    first.LooksLike second → LooksLike (.handle first) (.handle second)

theorem Answer.looksLike_of_ends {first second : Except RoutingError Handle}
    (ends : EndAlike Handle.LooksLike first second) :
    (Routing.answerHandle first).LooksLike (Routing.answerHandle second) := by
  cases ends with
  | failed failure => exact .same _
  | succeeded looks => exact .handle looks

namespace RouterConfig.Governs

variable {config : RouterConfig} {routing : Routing} {state : SessionState}

theorem answer_looksLike [Matcher] (governs : config.Governs routing)
    (faithful : state.table.Faithful routing.loader) {request other : Request}
    (alike : request.AlikeButCredentials other) :
    (routing.answer state request).1.LooksLike (routing.answer state other).1 ∧
      (routing.answer state request).2 = (routing.answer state other).2 := by
  cases alike with
  | same => exact ⟨.same _, rfl⟩
  | create style service options =>
    obtain ⟨ends, table⟩ := governs.create_looksLike faithful style options
    dsimp only [Routing.answer]
    rw [table]
    exact ⟨Answer.looksLike_of_ends ends, rfl⟩
  | make style id service options =>
    obtain ⟨ends, table⟩ := governs.make_looksLike faithful style id options
    dsimp only [Routing.answer]
    rw [table]
    exact ⟨Answer.looksLike_of_ends ends, rfl⟩

theorem run_looksLike [Matcher] (governs : config.Governs routing) (kept : state.Kept)
    (faithful : state.table.Faithful routing.loader) {requests others : List Request}
    (alike : List.Forall₂ Request.AlikeButCredentials requests others) :
    List.Forall₂ Answer.LooksLike (routing.answers state requests)
        (routing.answers state others) ∧
      routing.after state requests = routing.after state others := by
  -- Each pair of requests leaves one state, so the two sessions go on from the same place.
  induction alike generalizing state with
  | nil => exact ⟨.nil, rfl⟩
  | @cons request other requests others first rest ih =>
    obtain ⟨looks, same⟩ := governs.answer_looksLike faithful first
    have faithfulNext := (routing.loader.keeps_allAnswers
      (routing.loader.map_content_verdict governs.fixed)).answer kept faithful request
    obtain ⟨later, ends⟩ := ih (routing.kept_answer kept request) faithfulNext
    rw [Routing.answers_cons, Routing.answers_cons, Routing.after_cons, Routing.after_cons, ← same]
    exact ⟨.cons looks later, ends⟩

end RouterConfig.Governs

/-! ## Runs of the program -/

namespace CommandLine

variable {m : Type → Type} [Monad m] {service : String} {style : CallStyle}

theorem openedLine_congr {first second : Handle} (looks : first.LooksLike second) :
    openedLine style first = openedLine style second := by
  unfold openedLine
  rw [looks.service, looks.provider, looks.capability]

theorem create_congr [Matcher] {routing : Routing} {first second : Options} {table : LoadTable}
    (ends : EndAlike Handle.LooksLike (routing.create style service first table).1
      (routing.create style service second table).1)
    (same : (routing.create style service first table).2 =
      (routing.create style service second table).2) (files : Files m) :
    create files routing service first style table =
      create files routing service second style table := by
  unfold create
  revert ends same
  rcases routing.create style service first table with ⟨one, left⟩
  rcases routing.create style service second table with ⟨two, right⟩
  rintro (failure | looks) (rfl : left = right)
  · rfl
  · simp only [looks.check files, openedLine_congr looks]

/-- Under any settings, whether a router can be made of them or not. -/
theorem runConfigured_congr [Matcher] (surroundings : Surroundings m) (path : String)
    (config : RouterConfig) (file : Option String) (json : Bool) (style : CallStyle)
    {first second : List (String × String)}
    (alike : (Options.ofList first).AlikeBut (BundledProvider.Credential service)
      (.ofList second)) :
    runConfigured surroundings path config ⟨file, json, .create service first style⟩ =
      runConfigured surroundings path config ⟨file, json, .create service second style⟩ := by
  unfold runConfigured runBuilt
  cases built : (Router.ofConfig config).outcome with
  | error failure => rfl
  | ok router =>
    have governs := RouterConfig.governs_of_built built
    have faithful : (Router.ofConfig config).table.Faithful router.routing.loader :=
      RouterConfig.faithful_after built []
    obtain ⟨ends, same⟩ := governs.create_looksLike faithful style alike
    dsimp only [run]
    rw [create_congr ends same surroundings.files]

end CommandLine

/-! ## Two sessions -/

/-- Two sessions of one router whose requests differ only in credentials of the bundled services that
they ask for are not told apart: all answers look alike, and the states are the same, with all that was
recorded, loaded and bound.  Neither are two runs of the program that open a service. -/
theorem credentials_do_not_show [Matcher] (config : RouterConfig) (router : Router)
    (built : (Router.ofConfig config).outcome = .ok router) :
    let routing := router.routing
    let start := router.start (Router.ofConfig config).table
    (∀ requests others, List.Forall₂ Request.AlikeButCredentials requests others →
      List.Forall₂ Answer.LooksLike (routing.answers start requests)
          (routing.answers start others) ∧
        routing.after start requests = routing.after start others) ∧
    ∀ {m : Type → Type} [Monad m] (surroundings : CommandLine.Surroundings m) path file json style
      service first second,
      (Options.ofList first).AlikeBut (BundledProvider.Credential service) (.ofList second) →
        CommandLine.runConfigured surroundings path config
            ⟨file, json, .create service first style⟩ =
          CommandLine.runConfigured surroundings path config
            ⟨file, json, .create service second style⟩ := by
  intro routing start
  have governs := RouterConfig.governs_of_built built
  have faithful : start.table.Faithful routing.loader := RouterConfig.faithful_after built []
  obtain ⟨primary, yields⟩ := RouterPlan.exists_yields built
  refine ⟨?_, ?_⟩
  · intro requests others alike
    exact governs.run_looksLike yields.kept faithful alike
  · intro m _ surroundings path file json style service first second alike
    exact CommandLine.runConfigured_congr surroundings path config file json style alike

/-- Requests for a bucket and for a database, with credentials that are to be chosen. -/
def credentialRequests (key address : String) : List Request :=
  [.create .awaited "s3" (.bucket key), .lookup "redis",
    .make .blocking BundledProvider.database.id "mysql"
      ((Options.empty.insert "table" "orders").insert "connection_string" address),
    .create .blocking "mysql" (Options.empty.insert "connection_string" address)]

theorem credentials_do_not_show_by_default :
    ∃ router, (Router.ofConfig {}).outcome = .ok router ∧
      let start := router.start (Router.ofConfig {}).table
      List.Forall₂ Answer.LooksLike
          (router.routing.answers start (credentialRequests "hunter2" "mysql://root:a@here"))
          (router.routing.answers start (credentialRequests "swordfish" "mysql://root:b@here")) ∧
        router.routing.after start (credentialRequests "hunter2" "mysql://root:a@here") =
          router.routing.after start (credentialRequests "swordfish" "mysql://root:b@here") := by
  have enabled : ¬ ({} : RouterConfig).Disables BundledProvider.core.id.text := by
    rintro ⟨settings, found, _⟩
    cases found
  obtain ⟨router, built⟩ := RouterConfig.exists_router {} rfl enabled
  refine ⟨router, built, ?_⟩
  have key : BundledProvider.Credential "s3" "secret_access_key" := ⟨.core, by decide⟩
  have address : BundledProvider.Credential "mysql" "connection_string" :=
    ⟨.database, by decide⟩
  refine (credentials_do_not_show {} router built).1 _ _ ?_
  refine .cons (.create _ _ ?_) (.cons (.same _) (.cons (.make _ _ _ ?_) (.cons (.create _ _ ?_) .nil)))
  · exact Options.insert_alike _ key (by decide) (by decide)
  · exact Options.insert_alike _ address (by decide) (by decide)
  · exact Options.insert_alike _ address (by decide) (by decide)

end ServiceRouting
