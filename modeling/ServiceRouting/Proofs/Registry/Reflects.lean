import ServiceRouting.Proofs.Registry.Registration

/-!
# Registrations taken in one after the other

The registry keeps two maps, from services to owners and from providers to their entries.  Both are
pinned down by the list of registrations taken in so far: `Registry.Reflects` is the invariant.
One more registration is taken in exactly if it leaves the list acceptable
(`Registry.Reflects.register`), and so is a whole list (`Registry.Reflects.enrolFrom`).
-/

set_option autoImplicit false

namespace ServiceRouting

/-! ## Lists of registrations -/

/-- All ids and names are there, and no name is asked for under two ids. -/
def Acceptable (registrations : List Registration) : Prop :=
  (∀ registration ∈ registrations, registration.id ≠ "" ∧
    ∀ service ∈ registration.services, service ≠ "") ∧
  ∀ first ∈ registrations, ∀ second ∈ registrations, ∀ service ∈ first.services,
    service ∈ second.services → first.id = second.id

instance (registrations : List Registration) : Decidable (Acceptable registrations) :=
  inferInstanceAs (Decidable (_ ∧ _))

/-- The names asked for under an id, in the order in which they are written. -/
def namesUnder (registrations : List Registration) (id : String) : List String :=
  (registrations.filter fun registration => registration.id = id).flatMap Registration.services

/-- The hint of the last registration of an id. -/
def lastHint? (registrations : List Registration) (id : String) : Option String :=
  (registrations.filter fun registration => registration.id = id).getLast?.map
    Registration.installHint

theorem Acceptable.of_append {before rest : List Registration}
    (acceptable : Acceptable (before ++ rest)) : Acceptable before := by
  obtain ⟨present, unshared⟩ := acceptable
  constructor
  · intro registration member
    exact present registration (List.mem_append_left rest member)
  · intro first inFirst second inSecond
    exact unshared first (List.mem_append_left rest inFirst) second
      (List.mem_append_left rest inSecond)

theorem acceptable_concat_iff {before : List Registration} {registration : Registration} :
    Acceptable (before ++ [registration]) ↔
      Acceptable before ∧ registration.id ≠ "" ∧ ∀ service ∈ registration.services,
        service ≠ "" ∧ ∀ earlier ∈ before, service ∈ earlier.services →
          earlier.id = registration.id := by
  constructor
  · intro acceptable
    obtain ⟨present, unshared⟩ := acceptable
    have last : registration ∈ before ++ [registration] := by simp
    refine ⟨Acceptable.of_append ⟨present, unshared⟩, (present registration last).1, ?_⟩
    intro service asked
    refine ⟨(present registration last).2 service asked, ?_⟩
    intro earlier member shared
    exact unshared earlier (List.mem_append_left _ member) registration last service shared asked
  · rintro ⟨⟨present, unshared⟩, idPresent, admitted⟩
    constructor
    · intro other member
      rcases List.mem_append.mp member with earlier | last
      · exact present other earlier
      · obtain rfl := List.mem_singleton.mp last
        exact ⟨idPresent, fun service asked => (admitted service asked).1⟩
    · intro first inFirst second inSecond service asked shared
      rcases List.mem_append.mp inFirst with firstEarlier | firstLast
      · rcases List.mem_append.mp inSecond with secondEarlier | secondLast
        · exact unshared first firstEarlier second secondEarlier service asked shared
        · obtain rfl := List.mem_singleton.mp secondLast
          exact (admitted service shared).2 first firstEarlier asked
      · obtain rfl := List.mem_singleton.mp firstLast
        rcases List.mem_append.mp inSecond with secondEarlier | secondLast
        · exact ((admitted service asked).2 second secondEarlier shared).symm
        · obtain rfl := List.mem_singleton.mp secondLast
          rfl

theorem mem_namesUnder {registrations : List Registration} {id service : String} :
    service ∈ namesUnder registrations id ↔
      ∃ registration ∈ registrations, registration.id = id ∧ service ∈ registration.services := by
  simp [namesUnder, and_assoc]

theorem lastHint?_eq_none_iff {registrations : List Registration} {id : String} :
    lastHint? registrations id = none ↔
      ∀ registration ∈ registrations, registration.id ≠ id := by
  simp [lastHint?]

theorem namesUnder_of_absent {registrations : List Registration} {id : String}
    (absent : lastHint? registrations id = none) : namesUnder registrations id = [] := by
  rw [lastHint?_eq_none_iff] at absent
  refine List.eq_nil_iff_forall_not_mem.mpr ?_
  intro service member
  obtain ⟨registration, inside, same, _⟩ := mem_namesUnder.mp member
  exact absent registration inside same

theorem namesUnder_concat_self (before : List Registration) (registration : Registration) :
    namesUnder (before ++ [registration]) registration.id =
      namesUnder before registration.id ++ registration.services := by
  simp [namesUnder]

theorem namesUnder_concat_of_ne (before : List Registration) {registration : Registration}
    {id : String} (different : registration.id ≠ id) :
    namesUnder (before ++ [registration]) id = namesUnder before id := by
  simp [namesUnder, different]

theorem lastHint?_concat_self (before : List Registration) (registration : Registration) :
    lastHint? (before ++ [registration]) registration.id = some registration.installHint := by
  simp [lastHint?]

theorem lastHint?_concat_of_ne (before : List Registration) {registration : Registration}
    {id : String} (different : registration.id ≠ id) :
    lastHint? (before ++ [registration]) id = lastHint? before id := by
  simp [lastHint?, different]

namespace Registry

variable {registry : Registry} {id : ProviderId}

/-! ## What is there after a list of registrations -/

/-- The maps of the registry, as the registrations taken in determine them. -/
structure Reflects (registry : Registry) (registrations : List Registration) : Prop where
  owner : ∀ id service,
    registry.owner? service = some id ↔ service ∈ namesUnder registrations id.text
  provider : ∀ id : ProviderId,
    registry.provider? id.text = (lastHint? registrations id.text).map fun hint =>
      ⟨id, hint, ((namesUnder registrations id.text).filterMap ServiceName.ofText?).eraseDups⟩

theorem reflects_empty : empty.Reflects [] where
  owner := by
    intro id service
    simp [empty, owner?, namesUnder]
  provider := by
    intro id
    simp [empty, provider?, lastHint?]

variable {before : List Registration}

/-- The names that are new are those that the provider has not asked for before. -/
theorem newNames_eq (reflects : registry.Reflects before) {texts : List String}
    (admitted : ∀ text ∈ texts, registry.refusal? id text = none) :
    registry.newNames texts =
      ((texts.filterMap ServiceName.ofText?).removeAll
        ((namesUnder before id.text).filterMap ServiceName.ofText?)).eraseDups := by
  rw [newNames, List.removeAll]
  congr 1
  refine List.filter_congr ?_
  intro name member
  obtain ⟨text, inside, named⟩ := List.mem_filterMap.mp member
  obtain rfl := ServiceName.ofText?_eq_some_iff.mp named
  have mine := (refusal?_eq_none_iff.mp (admitted name.text inside)).2
  have held : name ∈ (namesUnder before id.text).filterMap ServiceName.ofText? ↔
      registry.owner? name.text = some id := by
    rw [reflects.owner, List.mem_filterMap]
    constructor
    · rintro ⟨text, asked, same⟩
      rwa [ServiceName.ofText?_eq_some_iff.mp same]
    · intro asked
      exact ⟨name.text, asked, named⟩
  cases found : registry.owner? name.text with
  | none => simpa [found] using held
  | some owner =>
    obtain rfl := mine owner found
    simpa [found] using held

theorem id_ne_of_ne {registration : Registration} {other : ProviderId}
    (named : registration.id = id.text) (distinct : id ≠ other) :
    registration.id ≠ other.text := by
  intro alike
  exact distinct (ProviderId.text_injective (named.symm.trans alike))

theorem Reflects.commit (reflects : registry.Reflects before) {registration : Registration}
    (named : registration.id = id.text)
    (admitted : ∀ text ∈ registration.services, registry.refusal? id text = none) :
    (registry.commit id registration.installHint
      (registry.newNames registration.services)).Reflects (before ++ [registration]) where
  owner := by
    intro other service
    rw [owner?_commit]
    -- Names of other owners are not new, and an admitted name that is not new is held by `id`.
    by_cases same : id = other
    · subst same
      rw [← named, namesUnder_concat_self, named, List.mem_append, ← reflects.owner]
      constructor
      · intro found
        split at found
        · rename_i fresh
          exact .inr (mem_newNames_iff.mp fresh).2.1
        · exact .inl found
      · rintro (held | asked)
        · rw [held, ite_self]
        · obtain ⟨present, mine⟩ := refusal?_eq_none_iff.mp (admitted service asked)
          cases found : registry.owner? service with
          | none => rw [if_pos (mem_newNames_iff.mpr ⟨present, asked, found⟩)]
          | some owner => rw [mine owner found, ite_self]
    · have different := id_ne_of_ne named same
      rw [namesUnder_concat_of_ne before different, ← reflects.owner]
      constructor
      · intro found
        split at found
        · exact absurd (Option.some.inj found) same
        · exact found
      · intro held
        rw [if_neg, held]
        intro fresh
        exact absurd (held.symm.trans (mem_newNames_iff.mp fresh).2.2) (by simp)
  provider := by
    intro other
    rw [provider?_commit]
    by_cases same : id = other
    · subst same
      rw [if_pos rfl, reflects.provider, ← named, namesUnder_concat_self, lastHint?_concat_self,
        List.filterMap_append, List.eraseDups_append, named, newNames_eq reflects admitted]
      cases absent : lastHint? before id.text with
      | none => simp [namesUnder_of_absent absent]
      | some hint => simp
    · have different := id_ne_of_ne named same
      rw [if_neg (named ▸ different), reflects.provider, namesUnder_concat_of_ne before different,
        lastHint?_concat_of_ne before different]

/-- A name is refused exactly if asking for it spoils the list of registrations. -/
theorem Reflects.admits_iff (reflects : registry.Reflects before) (acceptable : Acceptable before)
    (text : String) :
    registry.refusal? id text = none ↔
      text ≠ "" ∧ ∀ earlier ∈ before, text ∈ earlier.services → earlier.id = id.text := by
  rw [refusal?_eq_none_iff]
  refine and_congr_right fun _ => ?_
  constructor
  · intro mine earlier member asked
    have present := (acceptable.1 earlier member).1
    have held : registry.owner? text = some ⟨earlier.id, present⟩ :=
      (reflects.owner _ text).mpr (mem_namesUnder.mpr ⟨earlier, member, rfl, asked⟩)
    exact congrArg ProviderId.text (mine _ held)
  · intro unshared owner held
    obtain ⟨earlier, member, same, asked⟩ :=
      mem_namesUnder.mp ((reflects.owner owner text).mp held)
    exact ProviderId.text_injective (same.symm.trans (unshared earlier member asked))

/-- A registration is taken in exactly if the registrations so far and this one are acceptable. -/
theorem Reflects.register (reflects : registry.Reflects before) (acceptable : Acceptable before)
    (registration : Registration) :
    match registry.register registration with
    | .ok (next, _) =>
      Acceptable (before ++ [registration]) ∧ next.Reflects (before ++ [registration])
    | .error _ => ¬ Acceptable (before ++ [registration]) := by
  rcases registry.register_cases registration with
    ⟨id, note, named, admitted, taken⟩ | ⟨failure, reason, refused⟩
  · rw [taken]
    refine ⟨?_, reflects.commit named admitted⟩
    refine acceptable_concat_iff.mpr ⟨acceptable, named ▸ id.nonempty, ?_⟩
    intro service asked
    rw [named, ← reflects.admits_iff acceptable]
    exact admitted service asked
  · rw [refused]
    intro acceptableAll
    obtain ⟨_, present, admitted⟩ := acceptable_concat_iff.mp acceptableAll
    rcases reason with empty | ⟨id, named, text, asked, refusal⟩
    · exact present empty
    · rw [named] at admitted
      exact refusal ((reflects.admits_iff acceptable text).mpr (admitted text asked))

/-- The registrations are taken in from the first one on until one spoils the list. -/
theorem Reflects.enrolFrom (reflects : registry.Reflects before) (acceptable : Acceptable before)
    (log : List LogRecord) (position : Nat) (rest : List Registration) :
    match (registry.enrolFrom log position rest).outcome with
    | .ok final => Acceptable (before ++ rest) ∧ final.Reflects (before ++ rest)
    | .error _ => ¬ Acceptable (before ++ rest) := by
  induction rest generalizing registry before log position with
  | nil =>
    rw [List.append_nil]
    exact ⟨acceptable, reflects⟩
  | cons registration rest ih =>
    have step := reflects.register acceptable registration
    rw [Registry.enrolFrom]
    cases result : registry.register registration with
    | error failure =>
      -- A list with an unacceptable beginning is unacceptable.
      rw [result] at step
      intro acceptableAll
      rw [List.append_cons] at acceptableAll
      exact step acceptableAll.of_append
    | ok pair =>
      obtain ⟨next, note⟩ := pair
      rw [result] at step
      rw [List.append_cons]
      exact ih step.2 step.1 (log ++ [note]) (position + 1)

theorem enrol_of_acceptable {registrations : List Registration}
    (acceptable : Acceptable registrations) :
    ∃ registry, (enrol registrations).outcome = .ok registry ∧
      registry.Reflects registrations := by
  have taken := reflects_empty.enrolFrom ⟨by simp, by simp⟩ [] 0 registrations
  rw [enrol]
  cases result : (empty.enrolFrom [] 0 registrations).outcome with
  | error failure =>
    rw [result] at taken
    exact absurd acceptable taken
  | ok registry =>
    rw [result] at taken
    exact ⟨registry, rfl, taken.2⟩

theorem reflects_of_enrol {registrations : List Registration}
    (enrolled : (enrol registrations).outcome = .ok registry) :
    Acceptable registrations ∧ registry.Reflects registrations := by
  have taken := reflects_empty.enrolFrom ⟨by simp, by simp⟩ [] 0 registrations
  rw [enrol] at enrolled
  rw [enrolled] at taken
  exact taken

end Registry

end ServiceRouting
