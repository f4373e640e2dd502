import ServiceRouting.Proofs.Router.Requests
import ServiceRouting.Proofs.Router.Runs
import ServiceRouting.Text.Likeness

/-!
# Providers are isolated from each other

Two routers are built after the same plan over sources that differ for one provider, which is not
the primary.  In one run its module may be there and in the other missing, broken or panicking.
The two sessions stay in step (`SessionState.AgreeOff`): the same ids are loaded in the same order,
and every other slot is the same.  So nothing differs for requests that do not concern the provider
(`provider_isolation`).
-/

set_option autoImplicit false

namespace ServiceRouting

/-! ## States that differ for one provider -/

def SessionState.BoundTo (state : SessionState) (id : ProviderId) : Prop :=
  ∃ space, state.bound = some space ∧ space.provider = id

structure SessionState.AgreeOff (id : ProviderId) (first second : SessionState) : Prop where
  tables : first.table.AgreeOn (· ≠ id) second.table
  bound : first.bound = second.bound ∨ first.BoundTo id ∨ second.BoundTo id
  firstKept : first.Kept
  secondKept : second.Kept

structure Routing.AgreeOff (id : ProviderId) (first second : Routing) : Prop where
  registry : first.registry = second.registry
  loader : first.loader.AgreeOn (· ≠ id) second.loader

/-- A request that has to do with the module of a provider: one that names its id, one for a service
that it owns, or one to a namespace that it publishes. -/
def Routing.Concerns (routing : Routing) (id : ProviderId) (state : SessionState) : Request → Prop
  | .load other | .status other | .attempts other | .bind other | .make _ other _ _ => other = id
  | .create _ service _ => routing.registry.owner? service = some id
  | .shared _ => state.BoundTo id
  | _ => False

namespace Routing

variable {id : ProviderId} {first second : Routing} {left right : SessionState}

theorem AgreeOff.wanted? [Matcher] (routings : first.AgreeOff id second) (request : Request) :
    first.wanted? request = second.wanted? request := by
  cases request with
  | create style service options =>
    rw [Routing.wanted?, routings.registry]
    rfl
  | _ => rfl

theorem AgreeOff.load (routings : first.AgreeOff id second) (states : left.AgreeOff id right)
    {other : ProviderId} (different : other ≠ id) :
    (first.loader.load other left.table).1 = (second.loader.load other right.table).1 :=
  (routings.loader.load states.tables other).2 different

/-! ## One request -/

theorem AgreeOff.tableAfter (routings : first.AgreeOff id second)
    (states : left.AgreeOff id right) (wanted : Option ProviderId) :
    (first.loader.tableAfter left.table wanted).AgreeOn (· ≠ id)
      (second.loader.tableAfter right.table wanted) := by
  cases wanted with
  | none => exact states.tables
  | some other => exact (routings.loader.load states.tables other).1

theorem AgreeOff.boundAfter (routings : first.AgreeOff id second)
    (states : left.AgreeOff id right) (request : Request) :
    first.boundAfter left request = second.boundAfter right request ∨
      (∃ space, first.boundAfter left request = some space ∧ space.provider = id) ∨
      ∃ space, second.boundAfter right request = some space ∧ space.provider = id := by
  cases request with
  | bind other =>
    dsimp only [Routing.boundAfter]
    -- Binding the provider itself may succeed in one of the runs only.
    by_cases here : other = id
    · subst here
      cases found : Namespace.ofLoad other (first.loader.load other left.table).1 with
      | ok space => exact .inr (.inl ⟨space, rfl, Namespace.ofLoad_provider found⟩)
      | error failure =>
        cases foundToo : Namespace.ofLoad other (second.loader.load other right.table).1 with
        | ok space => exact .inr (.inr ⟨space, rfl, Namespace.ofLoad_provider foundToo⟩)
        | error other => exact states.bound
    · rw [routings.load states here]
      cases Namespace.ofLoad other (second.loader.load other right.table).1 with
      | ok space => exact .inl rfl
      | error failure => exact states.bound
  | _ => exact states.bound

/-- Every request keeps the states in step, also one that concerns the provider. -/
theorem AgreeOff.step [Matcher] (routings : first.AgreeOff id second)
    (states : left.AgreeOff id right) (request : Request) :
    (first.answer left request).2.AgreeOff id (second.answer right request).2 where
  tables := by
    have both := routings.tableAfter states (first.wanted? request)
    refine (first.table_answer states.firstKept request).agreeOn.trans (both.trans ?_)
    rw [routings.wanted? request]
    exact (second.table_answer states.secondKept request).agreeOn.symm
  bound := by
    rw [SessionState.BoundTo, SessionState.BoundTo, bound_answer, bound_answer]
    exact routings.boundAfter states request
  firstKept := first.kept_answer states.firstKept request
  secondKept := second.kept_answer states.secondKept request

/-- A request that does not concern the provider is answered alike. -/
theorem AgreeOff.answer [Matcher] (routings : first.AgreeOff id second)
    (states : left.AgreeOff id right) {request : Request}
    (elsewhere : ¬ first.Concerns id left request) (elsewhereToo : ¬ second.Concerns id right request) :
    (first.answer left request).1 = (second.answer right request).1 := by
  cases request with
  | load other =>
    rw [answer_load, answer_load, routings.load states elsewhere]
  | status other =>
    dsimp only [Routing.answer, LoadTable.status]
    rw [states.tables.slots other elsewhere]
  | attempts other =>
    dsimp only [Routing.answer, LoadTable.attempts]
    rw [states.tables.slots other elsewhere]
  | installHint other =>
    dsimp only [Routing.answer, Loader.installHint]
    rw [routings.loader.known]
  | make style other service options =>
    dsimp only [Routing.answer]
    rw [(first.make_spec style service options _ other).1,
      (second.make_spec style service options _ other).1, routings.load states elsewhere]
  | create style service options =>
    dsimp only [Routing.answer]
    cases known : first.registry.lookup service with
    | error failure =>
      rw [create_of_unknown first style service options _ known,
        create_of_unknown second style service options _ (routings.registry ▸ known)]
    | ok owner =>
      have different : owner ≠ id := by
        rintro rfl
        exact elsewhere (Registry.lookup_eq_ok_iff.mp known)
      rw [(first.create_of_owner style service options _ known).1,
        (second.create_of_owner style service options _ (routings.registry ▸ known)).1,
        routings.load states different]
  | bind other => rw [answer_bind, answer_bind, routings.load states elsewhere]
  | shared request =>
    -- Different namespaces mean that one of them belongs to the provider.
    have same : left.bound = right.bound := by
      rcases states.bound with same | here | there
      · exact same
      · exact absurd here elsewhere
      · exact absurd there elsewhereToo
    dsimp only [Routing.answer]
    rw [← same]
    cases bound : left.bound with
    | none => rfl
    | some space =>
      have different : space.provider ≠ id := fun here => elsewhere ⟨space, bound, here⟩
      have loaded := routings.load states different
      exact congrArg Answer.shared (askNamespace_congr space request loaded)
  | lookup service =>
    dsimp only [Routing.answer]
    rw [routings.registry]
    cases second.registry.lookup service <;> rfl
  | _ =>
    dsimp only [Routing.answer]
    rw [routings.registry]

/-! ## Runs -/

theorem AgreeOff.after [Matcher] (routings : first.AgreeOff id second)
    (states : left.AgreeOff id right) (requests : List Request) :
    (first.after left requests).AgreeOff id (second.after right requests) := by
  induction requests generalizing left right with
  | nil => exact states
  | cons request rest ih => exact ih (routings.step states request)

end Routing

/-! ## Building -/

theorem Namespace.bind_agree {ids : ProviderId → Prop} {first second : Loader}
    {left right : LoadTable} (loaders : first.AgreeOn ids second)
    (tables : left.AgreeOn ids right) {id : ProviderId} (member : ids id) :
    (bind first id left).1 = (bind second id right).1 ∧
      (bind first id left).2.AgreeOn ids (bind second id right).2 := by
  obtain ⟨answered, ours⟩ := bind_spec first id left
  obtain ⟨answeredToo, theirs⟩ := bind_spec second id right
  obtain ⟨loaded, same⟩ := loaders.load tables id
  rw [answered, answeredToo, same member]
  exact ⟨rfl, (ours.agreeOn.trans loaded).trans theirs.agreeOn.symm⟩

/-- What building after one plan over either of two sources comes to. -/
inductive BuiltRouter.AgreeOff (id : ProviderId) : BuiltRouter → BuiltRouter → Prop where
  | failed (failure : RoutingError) {left right : LoadTable} :
    left.AgreeOn (· ≠ id) right → AgreeOff id ⟨.error failure, left⟩ ⟨.error failure, right⟩
  | ready {first second : Routing} {shared : Namespace} {left right : LoadTable} :
    first.AgreeOff id second → shared.provider ≠ id →
    SessionState.AgreeOff id ⟨left, some shared⟩ ⟨right, some shared⟩ →
    AgreeOff id ⟨.ok ⟨first, shared⟩, left⟩ ⟨.ok ⟨second, shared⟩, right⟩

namespace RouterPlan

variable (plan : RouterPlan) {id : ProviderId} {first second : Source}

theorem finish_agree (alike : ∀ earlier other, other ≠ id →
      first.answer earlier other = second.answer earlier other)
    {primary : ProviderId} (different : primary ≠ id) (registry : Registry) (table : LoadTable) :
    ((plan.apply (.source first)).finish primary registry table).AgreeOff id
      ((plan.apply (.source second)).finish primary registry table) := by
  have loaders : (Loader.ofRegistry first registry).AgreeOn (· ≠ id)
      (Loader.ofRegistry second registry) := ⟨rfl, alike⟩
  obtain ⟨same, tables⟩ := Namespace.bind_agree loaders (.refl table) different
  dsimp only [finish, sourceOrNone, apply, Option.getD_some]
  cases bound : Namespace.bind (Loader.ofRegistry first registry) primary table with
  | mk outcome left =>
    cases boundToo : Namespace.bind (Loader.ofRegistry second registry) primary table with
    | mk other right =>
      rw [bound, boundToo] at same tables
      obtain rfl : outcome = other := same
      cases outcome with
      | error failure => exact .failed failure tables
      | ok shared =>
        have kept := Namespace.provider_of_bind (congrArg Prod.fst bound)
        have keptToo := Namespace.provider_of_bind (congrArg Prod.fst boundToo)
        rw [bound] at kept
        rw [boundToo] at keptToo
        obtain ⟨rfl, present⟩ := kept
        refine .ready ⟨rfl, loaders⟩ different ⟨?_, .inl rfl, ?_, ?_⟩
        · exact (left.alike_note _ _ _).agreeOn.trans
            (tables.trans (right.alike_note _ _ _).agreeOn.symm)
        · rintro space ⟨⟩
          exact present
        · rintro space ⟨⟩
          exact keptToo.2

theorem build_agree (alike : ∀ earlier other, other ≠ id →
      first.answer earlier other = second.answer earlier other)
    (notPrimary : plan.primary? ≠ some id.text) :
    (plan.apply (.source first)).build.AgreeOff id (plan.apply (.source second)).build := by
  have primary (source : Source) : (plan.apply (.source source)).primary? = plan.primary? := rfl
  have hinted (source : Source) : (plan.apply (.source source)).hinted = plan.hinted := rfl
  rw [build, build, primary, primary, hinted, hinted]
  cases named : plan.primary? with
  | none => exact .failed _ (.refl _)
  | some text =>
    dsimp only
    cases read : ProviderId.ofText text with
    | error failure => exact .failed failure (.refl _)
    | ok primary =>
      have different : primary ≠ id := by
        rintro rfl
        rw [← ProviderId.ofText_eq_ok_iff.mp read] at named
        exact notPrimary named
      dsimp only
      cases (Registry.enrol plan.hinted).outcome with
      | error failure => exact .failed failure.1 (.refl _)
      | ok registry => exact plan.finish_agree alike different registry _

end RouterPlan

/-! ## Both runs -/

/-- What the callers of two routers see alike, whatever they request: the answers to all requests
that do not concern the provider, all that the namespaces of other providers say afterwards, and
which ids were opened. -/
structure RunsAlike [Matcher] (id : ProviderId) (first second : Routing)
    (left right : SessionState) (requests : List Request) : Prop where
  answers : ∀ (position : Nat) (request : Request), requests[position]? = some request →
    ¬ first.Concerns id (first.after left (requests.take position)) request →
    ¬ second.Concerns id (second.after right (requests.take position)) request →
      (first.answers left requests)[position]? = (second.answers right requests)[position]?
  namespaces : ∀ (space : Namespace) (request : NamespaceRequest), space.provider ≠ id →
    (first.askNamespace space (first.after left requests).table request).1 =
      (second.askNamespace space (second.after right requests).table request).1
  opened : (first.after left requests).table.opened = (second.after right requests).table.opened

theorem Routing.AgreeOff.runs [Matcher] {id : ProviderId} {first second : Routing}
    {left right : SessionState} (routings : first.AgreeOff id second)
    (states : left.AgreeOff id right) (requests : List Request) :
    RunsAlike id first second left right requests where
  answers := by
    intro position request here elsewhere elsewhereToo
    rw [getElem?_answers, getElem?_answers, here]
    have before := routings.after states (requests.take position)
    exact congrArg some (routings.answer before elsewhere elsewhereToo)
  namespaces := by
    intro space request different
    have reached := routings.after states requests
    exact askNamespace_congr space request (routings.load reached different)
  opened := (routings.after states requests).tables.opened

/-- Two sources that differ for one provider, which is not the primary, are told apart only by what
concerns that provider: building fails with one exactly as with the other, and when it succeeds the
routers share their namespace and answer alike ever after. -/
theorem provider_isolation [Matcher] (plan : RouterPlan) (id : ProviderId) (first second : Source)
    (alike : ∀ earlier other, other ≠ id →
      first.answer earlier other = second.answer earlier other)
    (notPrimary : plan.primary? ≠ some id.text) :
    let one := (plan.apply (.source first)).build
    let other := (plan.apply (.source second)).build
    (∀ failure, one.outcome = .error failure ↔ other.outcome = .error failure) ∧
    one.table.opened = other.table.opened ∧
    ∀ left right, one.outcome = .ok left → other.outcome = .ok right →
      left.shared = right.shared ∧ left.shared.provider ≠ id ∧
      ∀ requests, RunsAlike id left.routing right.routing (left.start one.table)
        (right.start other.table) requests := by
  intro one other
  have both : one.AgreeOff id other := plan.build_agree alike notPrimary
  clear_value one other
  cases both with
  | failed failure tables =>
    refine ⟨fun _ => Iff.rfl, tables.opened, ?_⟩
    rintro left right ⟨⟩
  | ready routings different states =>
    refine ⟨?_, states.tables.opened, ?_⟩
    · intro failure
      constructor <;> rintro ⟨⟩
    · rintro left right ⟨⟩ ⟨⟩
      exact ⟨rfl, different, fun requests => routings.runs states requests⟩

/-- Taking one bundled provider away changes nothing for the others. -/
theorem BuiltinSource.answer_disable (source : BuiltinSource) {text : String} {id : ProviderId}
    (different : id.text ≠ text) (earlier : List ProviderId) :
    (source.disable text).source.answer earlier id = source.source.answer earlier id := by
  have untouched : (source.disable text).disabled.contains id.text =
      source.disabled.contains id.text :=
    congrArg Option.isSome (SortedMap.get?_insert_of_ne source.disabled () different.symm)
  have same : (source.disable text).open? id.text = source.open? id.text := by
    rw [open?, untouched, open?]
  dsimp only [BuiltinSource.source]
  rw [same]

def RouterPlan.bundled : RouterPlan :=
  .ofSteps [.bundledManifests, .primary "core"]

/-- The bundled providers with and without the database module. -/
theorem isolation_of_database :
    (∀ earlier other, other ≠ BundledProvider.database.id →
      BuiltinSource.empty.source.answer earlier other =
        (BuiltinSource.empty.disable "database").source.answer earlier other) ∧
    RouterPlan.bundled.primary? ≠ some BundledProvider.database.id.text ∧
    ∃ left right : Router,
      (RouterPlan.bundled.apply (.source BuiltinSource.empty.source)).build.outcome = .ok left ∧
      (RouterPlan.bundled.apply
        (.source (BuiltinSource.empty.disable "database").source)).build.outcome = .ok right ∧
      left.shared = right.shared ∧
      ∀ requests, RunsAlike BundledProvider.database.id left.routing right.routing
        (left.start (RouterPlan.bundled.apply
          (.source BuiltinSource.empty.source)).build.table)
        (right.start (RouterPlan.bundled.apply
          (.source (BuiltinSource.empty.disable "database").source)).build.table) requests := by
  have alike : ∀ earlier other, other ≠ BundledProvider.database.id →
      BuiltinSource.empty.source.answer earlier other =
        (BuiltinSource.empty.disable "database").source.answer earlier other := by
    intro earlier other different
    refine (BuiltinSource.answer_disable _ ?_ earlier).symm
    intro same
    exact different (ProviderId.text_injective same)
  have notPrimary : RouterPlan.bundled.primary? ≠ some BundledProvider.database.id.text := by
    decide
  obtain ⟨failures, _, ready⟩ := provider_isolation RouterPlan.bundled BundledProvider.database.id
    BuiltinSource.empty.source (BuiltinSource.empty.disable "database").source alike notPrimary
  have complete : ∃ left,
      (RouterPlan.bundled.apply (.source BuiltinSource.empty.source)).build.outcome = .ok left :=
    ⟨_, rfl⟩
  obtain ⟨left, leftBuilt⟩ := complete
  cases rightBuilt : (RouterPlan.bundled.apply
      (.source (BuiltinSource.empty.disable "database").source)).build.outcome with
  | error failure =>
    rw [(failures failure).mpr rightBuilt] at leftBuilt
    cases leftBuilt
  | ok right =>
    obtain ⟨shared, _, runs⟩ := ready left right leftBuilt rightBuilt
    exact ⟨alike, notPrimary, left, right, leftBuilt, rfl, shared, runs⟩

end ServiceRouting
