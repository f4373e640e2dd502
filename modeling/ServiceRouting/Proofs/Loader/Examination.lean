import ServiceRouting.Proofs.Loader.Slots

/-!
# How a source's answer is examined

The loader asks the source for a module, and the module who it is, which interface version it speaks
and, if the id is registered, which services it has.  The first of these calls that panics or gives a
wrong answer decides the failure (`Loader.Rejects`).  A module that passes (`Loader.Accepts`) is the very
one that the source gave and bears the id that was asked for, so this holds of every module that a first
load brings (`Loader.verdict_eq_ok`).
-/

set_option autoImplicit false

namespace ServiceRouting

namespace Loader

/-! ## What a source's answer comes to -/

/-- A call that the load makes, to the source or to the module, ends in a panic.  A module is asked for
its services only under the right id and version, and only if the id is registered. -/
inductive Panics (loader : Loader) (id : ProviderId) : Opening → PanicPayload → Prop where
  | opening {payload : PanicPayload} : Panics loader id (.panicked payload) payload
  | moduleId {candidate : Module} {payload : PanicPayload} :
    candidate.id = .panicked payload →
    Panics loader id (.answered (.ok candidate)) payload
  /-- A module that gave another id is asked for it once more. -/
  | idAgain {candidate : Module} {found : ProviderId} {payload : PanicPayload} :
    candidate.id = .answered found →
    found ≠ id →
    candidate.idAgain = .panicked payload →
    Panics loader id (.answered (.ok candidate)) payload
  | version {candidate : Module} {payload : PanicPayload} :
    candidate.id = .answered id →
    candidate.version = .panicked payload →
    Panics loader id (.answered (.ok candidate)) payload
  | services {candidate : Module} {payload : PanicPayload} :
    candidate.id = .answered id →
    candidate.version = .answered interfaceVersion →
    loader.known.get? id.text ≠ none →
    candidate.services = .panicked payload →
    Panics loader id (.answered (.ok candidate)) payload

inductive Rejects (loader : Loader) (id : ProviderId) : Opening → LoadFailure → Prop where
  | panicText {opening : Opening} {message : String} :
    loader.Panics id opening (.text message) →
    Rejects loader id opening (.initialization ("initialization panicked: " ++ message))
  | panicUntold {opening : Opening} :
    loader.Panics id opening .untold →
    Rejects loader id opening (.initialization "initialization panicked: unknown cause")
  | refused {reason : LoadFailure} : Rejects loader id (.answered (.error reason)) reason
  /-- Another id is told whatever the version is, as the module gives it the second time. -/
  | otherId {candidate : Module} {found told : ProviderId} :
    candidate.id = .answered found →
    found ≠ id →
    candidate.idAgain = .answered told →
    Rejects loader id (.answered (.ok candidate)) (.idMismatch id.text told.text)
  | otherVersion {candidate : Module} {version : UInt32} :
    candidate.id = .answered id →
    candidate.version = .answered version →
    version ≠ interfaceVersion →
    Rejects loader id (.answered (.ok candidate)) (.incompatibleVersion interfaceVersion version)

/-- The module passes, with the services that it offers beyond the registered ones. -/
inductive Accepts (loader : Loader) (id : ProviderId) : Opening → Module → List String → Prop where
  | unregistered {candidate : Module} :
    candidate.id = .answered id →
    candidate.version = .answered interfaceVersion →
    loader.known.get? id.text = none →
    Accepts loader id (.answered (.ok candidate)) candidate []
  | registered {candidate : Module} {entry : ProviderEntry} {names : List String} :
    candidate.id = .answered id →
    candidate.version = .answered interfaceVersion →
    loader.known.get? id.text = some entry →
    candidate.services = .answered names →
    Accepts loader id (.answered (.ok candidate)) candidate
      (names.filter fun name => name ∉ entry.services.map ServiceName.text)

variable {loader : Loader} {id : ProviderId} {opening : Opening}

theorem rejects_of_panics {payload : PanicPayload} (panics : loader.Panics id opening payload) :
    loader.Rejects id opening (panicFailure payload) := by
  cases payload with
  | text message => exact .panicText panics
  | untold => exact .panicUntold panics

/-! ## The examination -/

theorem examine_of_panics {payload : PanicPayload} (panics : loader.Panics id opening payload) :
    loader.examine id opening = rejected (panicFailure payload) := by
  cases panics with
  | opening => rfl
  | moduleId named => simp only [examine, named]
  | idAgain named different repeated => simp only [examine, named, if_neg different, repeated]
  | version named spoken => simp only [examine, named, ↓reduceIte, examineVersion, spoken]
  | services named spoken known offered =>
    obtain ⟨entry, found⟩ := Option.ne_none_iff_exists'.mp known
    simp only [examine, named, ↓reduceIte, examineVersion, spoken, examineServices, found, offered]

theorem examine_of_rejects {reason : LoadFailure} (rejects : loader.Rejects id opening reason) :
    loader.examine id opening = rejected reason := by
  cases rejects with
  | panicText panics => exact examine_of_panics panics
  | panicUntold panics => exact examine_of_panics panics
  | refused => rfl
  | otherId named different repeated => simp only [examine, named, if_neg different, repeated]
  | otherVersion named spoken different =>
    simp only [examine, named, ↓reduceIte, examineVersion, spoken, if_neg different]

theorem examine_of_accepts {content : Module} {unlisted : List String}
    (accepts : loader.Accepts id opening content unlisted) :
    loader.examine id opening = ⟨.ok content, unlisted⟩ := by
  cases accepts with
  | unregistered named spoken unknown =>
    simp only [examine, named, ↓reduceIte, examineVersion, spoken, examineServices, unknown]
  | registered named spoken known offered =>
    simp only [examine, named, ↓reduceIte, examineVersion, spoken, examineServices, known, offered]

/-- The calls are made in this order, and each of them ends the examination or leads to the next. -/
theorem rejects_or_accepts (loader : Loader) (id : ProviderId) (opening : Opening) :
    (∃ reason, loader.Rejects id opening reason) ∨
      ∃ content unlisted, loader.Accepts id opening content unlisted := by
  cases opening with
  | panicked payload => exact .inl ⟨_, rejects_of_panics .opening⟩
  | answered given =>
    cases given with
    | error reason => exact .inl ⟨reason, .refused⟩
    | ok candidate =>
      cases named : candidate.id with
      | panicked payload => exact .inl ⟨_, rejects_of_panics (.moduleId named)⟩
      | answered found =>
        by_cases same : found = id
        · subst same
          cases spoken : candidate.version with
          | panicked payload => exact .inl ⟨_, rejects_of_panics (.version named spoken)⟩
          | answered version =>
            by_cases compatible : version = interfaceVersion
            · subst compatible
              cases known : loader.known.get? found.text with
              | none => exact .inr ⟨_, _, .unregistered named spoken known⟩
              | some entry =>
                cases offered : candidate.services with
                | panicked payload =>
                  have registered : loader.known.get? found.text ≠ none := by simp [known]
                  exact .inl ⟨_, rejects_of_panics (.services named spoken registered offered)⟩
                | answered names => exact .inr ⟨_, _, .registered named spoken known offered⟩
            · exact .inl ⟨_, .otherVersion named spoken compatible⟩
        · cases repeated : candidate.idAgain with
          | panicked payload => exact .inl ⟨_, rejects_of_panics (.idAgain named same repeated)⟩
          | answered told => exact .inl ⟨_, .otherId named same repeated⟩

theorem accepts_iff_examine {content : Module} {unlisted : List String} :
    loader.Accepts id opening content unlisted ↔
      loader.examine id opening = ⟨.ok content, unlisted⟩ := by
  refine ⟨examine_of_accepts, ?_⟩
  intro examined
  rcases loader.rejects_or_accepts id opening with ⟨reason, rejects⟩ | ⟨other, names, accepts⟩
  · rw [examine_of_rejects rejects] at examined
    cases examined
  · rw [examine_of_accepts accepts] at examined
    cases examined
    exact accepts

/-! ## Modules that first loads bring -/

theorem Accepts.given {content : Module} {unlisted : List String}
    (accepts : loader.Accepts id opening content unlisted) :
    opening = .answered (.ok content) ∧ content.id = .answered id := by
  cases accepts with
  | unregistered named _ _ => exact ⟨rfl, named⟩
  | registered named _ _ _ => exact ⟨rfl, named⟩

theorem verdict_eq_ok_iff {earlier : List ProviderId} {live : LoadedModule} :
    loader.verdict earlier id = .ok live ↔
      (∃ unlisted, loader.Accepts id (loader.source.answer earlier id) live.content unlisted) ∧
        live.serial = earlier.length := by
  obtain ⟨serial, content⟩ := live
  rw [verdict]
  rcases loader.rejects_or_accepts id (loader.source.answer earlier id) with
    ⟨reason, rejects⟩ | ⟨other, unlisted, accepts⟩
  · simp [accepts_iff_examine, examine_of_rejects rejects, rejected, answerOf]
  · simp [accepts_iff_examine, examine_of_accepts accepts, answerOf, and_comm, eq_comm]

theorem verdict_eq_ok {earlier : List ProviderId} {live : LoadedModule}
    (brought : loader.verdict earlier id = .ok live) :
    loader.source.answer earlier id = .answered (.ok live.content) ∧
      live.content.id = .answered id := by
  obtain ⟨⟨_, accepts⟩, _⟩ := verdict_eq_ok_iff.mp brought
  exact accepts.given

/-- A table provider passes under its own id. -/
theorem examine_tableProvider (loader : Loader) (provider : TableProvider) :
    (loader.examine provider.id (.answered (.ok provider.asModule))).outcome =
      .ok provider.asModule := by
  cases known : loader.known.get? provider.id.text with
  | none => rw [examine_of_accepts (.unregistered rfl rfl known)]
  | some entry => rw [examine_of_accepts (.registered rfl rfl known rfl)]

end Loader

end ServiceRouting
