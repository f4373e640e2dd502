import ServiceRouting.Proofs.Registry.Reflects

/-!
# The first fault of a list of registrations

Registrations are read from the left, and so are the names of each.  Taking them in stops at the first
registration that is at fault, and what it reports is the first fault inside that registration: its
empty id, or else the first name that is empty or that an earlier registration asked for under another
id.  Repeats are never at fault, and what stands behind a fault does not count.  The main statement is
`first_fault_decides`.
-/

set_option autoImplicit false

namespace ServiceRouting

/-! ## Faults, said about the registrations -/

/-- Why a name may not be asked for under an id after the registrations `before`.  The owner that a
conflict reports is the only id under which the name was asked for. -/
inductive RefusedName (before : List Registration) (id : ProviderId) :
    String → RoutingError → Prop where
  | empty : RefusedName before id "" (.invalidName .emptyService)
  | taken {name : ServiceName} {existing : ProviderId} :
    existing ≠ id →
    (∃ earlier ∈ before, name.text ∈ earlier.services) →
    (∀ earlier ∈ before, name.text ∈ earlier.services → earlier.id = existing.text) →
    RefusedName before id name.text (.duplicateService name existing id)

/-- What is wrong with a registration that follows `before`: its id, or the first of its names that is
refused. -/
inductive FaultyRegistration (before : List Registration) (registration : Registration) :
    RoutingError → Prop where
  | emptyId :
    registration.id = "" → FaultyRegistration before registration (.invalidName .emptyProvider)
  | name {id : ProviderId} {admitted more : List String} {text : String} {failure : RoutingError} :
    registration.id = id.text →
    registration.services = admitted ++ text :: more →
    (∀ other ∈ admitted, ∀ reason, ¬ RefusedName before id other reason) →
    RefusedName before id text failure →
    FaultyRegistration before registration failure

/-- The registration at the position is at fault, and up to there all goes well. -/
structure FirstFault (registrations : List Registration) (failure : RoutingError)
    (position : Nat) : Prop where
  taken : ∀ count ≤ position, ∃ registry,
    (Registry.enrol (registrations.take count)).outcome = .ok registry
  faulty : ∃ registration, registrations[position]? = some registration ∧
    FaultyRegistration (registrations.take position) registration failure

theorem FaultyRegistration.more {before : List Registration} {id hint : String}
    {names : List String} {failure : RoutingError}
    (faulty : FaultyRegistration before ⟨id, names, hint⟩ failure) (later : List String) :
    FaultyRegistration before ⟨id, names ++ later, hint⟩ failure := by
  cases faulty with
  | emptyId empty => exact .emptyId empty
  | @name id admitted more text _ named split fine refused =>
    have grown : names ++ later = admitted ++ text :: (more ++ later) := by
      rw [show names = admitted ++ text :: more from split, List.append_assoc, List.cons_append]
    exact .name named grown fine refused

theorem FirstFault.append {registrations : List Registration} {failure : RoutingError}
    {position : Nat} (fault : FirstFault registrations failure position)
    (rest : List Registration) : FirstFault (registrations ++ rest) failure position := by
  obtain ⟨registration, here, faulty⟩ := fault.faulty
  have inside : position < registrations.length := (List.getElem?_eq_some_iff.mp here).1
  have same (count : Nat) (early : count ≤ position) :
      (registrations ++ rest).take count = registrations.take count :=
    List.take_append_of_le_length (by omega)
  refine ⟨?_, registration, ?_, ?_⟩
  · intro count early
    rw [same count early]
    exact fault.taken count early
  · rwa [List.getElem?_append_left inside]
  · rwa [same position (Nat.le_refl position)]

namespace Registry

variable {registry : Registry} {before : List Registration} {id : ProviderId}

/-! ## One name and one registration -/

theorem Reflects.owner?_eq_some_iff (reflects : registry.Reflects before)
    (acceptable : Acceptable before) {text : String} {owner : ProviderId} :
    registry.owner? text = some owner ↔
      (∃ earlier ∈ before, text ∈ earlier.services) ∧
        ∀ earlier ∈ before, text ∈ earlier.services → earlier.id = owner.text := by
  rw [reflects.owner, mem_namesUnder]
  constructor
  · rintro ⟨holder, member, same, asked⟩
    refine ⟨⟨holder, member, asked⟩, ?_⟩
    intro earlier inBefore askedToo
    rw [← same]
    exact acceptable.2 earlier inBefore holder member text askedToo asked
  · rintro ⟨⟨holder, member, asked⟩, sole⟩
    exact ⟨holder, member, sole holder member asked, asked⟩

theorem Reflects.refusal?_eq_some_iff (reflects : registry.Reflects before)
    (acceptable : Acceptable before) {text : String} {failure : RoutingError} :
    registry.refusal? id text = some failure ↔ RefusedName before id text failure := by
  constructor
  · intro refused
    rw [refusal?, ServiceName.ofText] at refused
    cases named : ServiceName.ofText? text with
    | none =>
      obtain rfl := ServiceName.ofText?_eq_none_iff.mp named
      rw [named] at refused
      cases refused
      exact .empty
    | some name =>
      obtain rfl := ServiceName.ofText?_eq_some_iff.mp named
      rw [named] at refused
      cases held : registry.owner? name.text with
      | none => simp [held] at refused
      | some owner =>
        by_cases mine : owner = id
        · simp [held, mine] at refused
        · simp only [held, if_neg mine, Option.some.injEq] at refused
          subst refused
          obtain ⟨asked, sole⟩ := (reflects.owner?_eq_some_iff acceptable).mp held
          exact .taken mine asked sole
  · intro refused
    cases refused with
    | empty => rfl
    | @taken name existing different asked sole =>
      have held : registry.owner? name.text = some existing :=
        (reflects.owner?_eq_some_iff acceptable).mpr ⟨asked, sole⟩
      have named : ServiceName.ofText name.text = .ok name := ServiceName.ofText_eq_ok_iff.mpr rfl
      simp only [refusal?, named, held, if_neg different]

theorem Reflects.register_eq_error_iff (reflects : registry.Reflects before)
    (acceptable : Acceptable before) {registration : Registration} {failure : RoutingError} :
    registry.register registration = .error failure ↔
      FaultyRegistration before registration failure := by
  by_cases empty : registration.id = ""
  · rw [register_of_empty empty]
    constructor
    · intro same
      cases same
      exact .emptyId empty
    · intro faulty
      cases faulty with
      | emptyId _ => rfl
      | @name id _ _ _ _ named _ _ _ => exact absurd (named.symm.trans empty) id.nonempty
  · have named : registration.id = (⟨registration.id, empty⟩ : ProviderId).text := rfl
    rw [Registry.register_eq_error_iff named, List.findSome?_eq_some_iff]
    constructor
    · rintro ⟨admitted, text, more, split, refused, fine⟩
      refine .name named split ?_ ((reflects.refusal?_eq_some_iff acceptable).mp refused)
      intro other member reason refusedToo
      rw [← reflects.refusal?_eq_some_iff acceptable, fine other member] at refusedToo
      cases refusedToo
    · intro faulty
      cases faulty with
      | emptyId absent => exact absurd absent empty
      | @name id admitted more text _ same split fine refused =>
        obtain rfl : ⟨registration.id, empty⟩ = id := ProviderId.text_injective same
        refine ⟨admitted, text, more, split, ?_, ?_⟩
        · exact (reflects.refusal?_eq_some_iff acceptable).mpr refused
        · intro other member
          refine Option.eq_none_iff_forall_ne_some.mpr ?_
          intro reason refusedToo
          exact fine other member reason
            ((reflects.refusal?_eq_some_iff acceptable).mp refusedToo)

/-! ## Lists taken in piece by piece -/

theorem outcome_enrolFrom_log (registry : Registry) (log other : List LogRecord) (position : Nat)
    (rest : List Registration) :
    (registry.enrolFrom log position rest).outcome =
      (registry.enrolFrom other position rest).outcome := by
  induction rest generalizing registry log other position with
  | nil => rfl
  | cons registration rest ih =>
    rw [enrolFrom, enrolFrom]
    cases registry.register registration with
    | error failure => rfl
    | ok pair => exact ih _ _ _ _

theorem outcome_enrolFrom_append (registry : Registry) (log : List LogRecord) (position : Nat)
    (before rest : List Registration) :
    (registry.enrolFrom log position (before ++ rest)).outcome =
      match (registry.enrolFrom log position before).outcome with
      | .error fault => .error fault
      | .ok next => (next.enrolFrom [] (position + before.length) rest).outcome := by
  induction before generalizing registry log position with
  | nil => exact outcome_enrolFrom_log registry log [] position rest
  | cons registration before ih =>
    rw [List.cons_append, enrolFrom, enrolFrom]
    cases registry.register registration with
    | error failure => rfl
    | ok pair =>
      have places : position + (registration :: before).length = position + 1 + before.length := by
        rw [List.length_cons]
        omega
      rw [places]
      exact ih pair.1 _ _

theorem outcome_enrol_append (before rest : List Registration) :
    (enrol (before ++ rest)).outcome =
      match (enrol before).outcome with
      | .error fault => .error fault
      | .ok registry => (registry.enrolFrom [] before.length rest).outcome := by
  have split := outcome_enrolFrom_append empty [] 0 before rest
  rwa [Nat.zero_add] at split

theorem outcome_enrolFrom_cons (registry : Registry) (position : Nat) (registration : Registration)
    (rest : List Registration) :
    (registry.enrolFrom [] position (registration :: rest)).outcome =
      match (registry.register registration).map Prod.fst with
      | .error failure => .error (failure, position)
      | .ok next => (next.enrolFrom [] (position + 1) rest).outcome := by
  rw [enrolFrom]
  cases registry.register registration with
  | error failure => rfl
  | ok pair => exact outcome_enrolFrom_log pair.1 _ _ _ _

/-! ## The first fault -/

theorem taken_of_enrol {registrations : List Registration}
    (enrolled : (enrol registrations).outcome = .ok registry) (count : Nat) :
    ∃ early, (enrol (registrations.take count)).outcome = .ok early := by
  obtain ⟨acceptable, _⟩ := reflects_of_enrol enrolled
  rw [← List.take_append_drop count registrations] at acceptable
  obtain ⟨early, taken, _⟩ := enrol_of_acceptable acceptable.of_append
  exact ⟨early, taken⟩

theorem firstFault_of_enrol {registrations : List Registration} {failure : RoutingError}
    {position : Nat} (failed : (enrol registrations).outcome = .error (failure, position)) :
    FirstFault registrations failure position := by
  -- From the end of the list: either the fault is earlier, or all but the last one is taken in.
  induction registrations using List.reverseRecOn with
  | nil => cases failed
  | append_singleton before registration ih =>
    rw [outcome_enrol_append] at failed
    cases earlier : (enrol before).outcome with
    | error fault =>
      rw [earlier] at failed
      cases failed
      exact (ih earlier).append [registration]
    | ok registry =>
      rw [earlier] at failed
      dsimp only at failed
      rw [enrolFrom] at failed
      cases result : registry.register registration with
      | ok pair =>
        rw [result] at failed
        cases failed
      | error reason =>
        rw [result] at failed
        cases failed
        obtain ⟨acceptable, reflects⟩ := reflects_of_enrol earlier
        have faulty := (reflects.register_eq_error_iff acceptable).mp result
        refine ⟨?_, registration, ?_, ?_⟩
        · intro count early
          rw [List.take_append_of_le_length early]
          exact taken_of_enrol earlier count
        · rw [List.getElem?_append_right (Nat.le_refl before.length), Nat.sub_self]
          rfl
        · rwa [List.take_left]

theorem enrol_of_firstFault {registrations : List Registration} {failure : RoutingError}
    {position : Nat} (fault : FirstFault registrations failure position) :
    (enrol registrations).outcome = .error (failure, position) := by
  obtain ⟨registration, here, faulty⟩ := fault.faulty
  obtain ⟨registry, enrolled⟩ := fault.taken position (Nat.le_refl position)
  obtain ⟨acceptable, reflects⟩ := reflects_of_enrol enrolled
  obtain ⟨inside, rfl⟩ := List.getElem?_eq_some_iff.mp here
  have length : (registrations.take position).length = position :=
    List.length_take_of_le (Nat.le_of_lt inside)
  have refused := (reflects.register_eq_error_iff acceptable).mpr faulty
  have split : registrations = registrations.take position ++
      registrations[position] :: registrations.drop (position + 1) := by
    rw [← List.drop_eq_getElem_cons inside, List.take_append_drop]
  rw [split, outcome_enrol_append, enrolled]
  dsimp only
  rw [length, enrolFrom, refused]

/-! ## Repeats -/

variable {names more : List String} {text : String}

theorem newNames_of_repeat (old : text ∈ names ∨ registry.owner? text ≠ none) :
    registry.newNames (names ++ text :: more) = registry.newNames (names ++ more) := by
  simp only [newNames, List.filterMap_append, List.filter_append]
  cases named : ServiceName.ofText? text with
  | none => rw [List.filterMap_cons_none named]
  | some name =>
    obtain rfl := ServiceName.ofText?_eq_some_iff.mp named
    rw [List.filterMap_cons_some named, List.filter_cons]
    split
    · rename_i unowned
      -- Nobody holds the name, so it has been read before.
      have read : name.text ∈ names := by
        rcases old with inside | owned
        · exact inside
        · exact absurd (of_decide_eq_true unowned) owned
      refine FirstOccurrences.append_cons_of_mem ?_ _
      exact List.mem_filter.mpr ⟨List.mem_filterMap.mpr ⟨name.text, read, named⟩, unowned⟩
    · rfl

theorem findSome?_of_repeat {Given Found : Type} {find : Given → Option Found}
    {items later : List Given} {item : Given} (old : item ∈ items ∨ find item = none) :
    (items ++ item :: later).findSome? find = (items ++ later).findSome? find := by
  rw [List.findSome?_append, List.findSome?_append, List.findSome?_cons]
  cases found : items.findSome? find with
  | some result => rfl
  | none =>
    have nothing : find item = none := by
      rcases old with inside | nothing
      · exact List.findSome?_eq_none_iff.mp found item inside
      · exact nothing
    rw [nothing]

/-- A name that was read before, in the same list or under the same id, makes no difference. -/
theorem register_of_repeat {written hint : String}
    (old : text ∈ names ∨ ∃ owner : ProviderId,
      owner.text = written ∧ registry.owner? text = some owner) :
    (registry.register ⟨written, names ++ text :: more, hint⟩).map Prod.fst =
      (registry.register ⟨written, names ++ more, hint⟩).map Prod.fst := by
  by_cases empty : written = ""
  · rw [register_of_empty empty, register_of_empty empty]
  · have named : ProviderId.ofText? written = some ⟨written, empty⟩ :=
      ProviderId.ofText?_eq_some_iff.mpr rfl
    have admitted : text ∈ names ∨ registry.refusal? ⟨written, empty⟩ text = none := by
      refine old.imp id ?_
      rintro ⟨owner, rfl, held⟩
      refine refusal?_eq_none_iff.mpr ⟨?_, ?_⟩
      · rintro rfl
        rw [owner?_empty] at held
        cases held
      · intro other heldToo
        rw [held] at heldToo
        exact (Option.some.inj heldToo).symm
    have owned : text ∈ names ∨ registry.owner? text ≠ none := by
      refine old.imp id ?_
      rintro ⟨owner, _, held⟩
      rw [held]
      exact Option.some_ne_none owner
    rw [register_eq named, register_eq named]
    dsimp only
    rw [findSome?_of_repeat admitted, newNames_of_repeat owned]

theorem enrol_of_repeat (before : List Registration) (written hint : String)
    (rest : List Registration)
    (old : text ∈ names ∨
      ∃ earlier ∈ before, earlier.id = written ∧ text ∈ earlier.services) :
    (enrol (before ++ ⟨written, names ++ text :: more, hint⟩ :: rest)).outcome =
      (enrol (before ++ ⟨written, names ++ more, hint⟩ :: rest)).outcome := by
  rw [outcome_enrol_append, outcome_enrol_append]
  cases taken : (enrol before).outcome with
  | error fault => rfl
  | ok registry =>
    obtain ⟨acceptable, reflects⟩ := reflects_of_enrol taken
    have held : text ∈ names ∨ ∃ owner : ProviderId,
        owner.text = written ∧ registry.owner? text = some owner := by
      refine old.imp id ?_
      rintro ⟨earlier, member, same, asked⟩
      let owner : ProviderId := ⟨earlier.id, (acceptable.1 earlier member).1⟩
      exact ⟨owner, same,
        (reflects.owner owner text).mpr (mem_namesUnder.mpr ⟨earlier, member, rfl, asked⟩)⟩
    dsimp only
    rw [outcome_enrolFrom_cons, outcome_enrolFrom_cons, register_of_repeat held]

end Registry

/-- Taking in registrations fails exactly with the first fault in reading order, at the position of the
registration that has it.  More names behind the fault and more registrations change nothing, and
neither does a name that is repeated, inside one list or under one id. -/
theorem first_fault_decides :
    (∀ registrations failure position,
      (Registry.enrol registrations).outcome = .error (failure, position) ↔
        FirstFault registrations failure position) ∧
    (∀ before id hint names more rest failure,
      (Registry.enrol (before ++ [⟨id, names, hint⟩])).outcome = .error (failure, before.length) →
        (Registry.enrol (before ++ ⟨id, names ++ more, hint⟩ :: rest)).outcome =
          .error (failure, before.length)) ∧
    ∀ before id hint names text more rest,
      (text ∈ names ∨ ∃ earlier ∈ before, earlier.id = id ∧ text ∈ earlier.services) →
        (Registry.enrol (before ++ ⟨id, names ++ text :: more, hint⟩ :: rest)).outcome =
          (Registry.enrol (before ++ ⟨id, names ++ more, hint⟩ :: rest)).outcome := by
  refine ⟨?_, ?_, ?_⟩
  · intro registrations failure position
    exact ⟨Registry.firstFault_of_enrol, Registry.enrol_of_firstFault⟩
  · intro before id hint names more rest failure failed
    have fault := Registry.firstFault_of_enrol failed
    have grown : FirstFault (before ++ [⟨id, names ++ more, hint⟩]) failure before.length := by
      obtain ⟨registration, here, faulty⟩ := fault.faulty
      have last : ⟨id, names, hint⟩ = registration := by simpa using here
      subst last
      have taken (more : List String) (count : Nat) (early : count ≤ before.length) :
          (before ++ [(⟨id, more, hint⟩ : Registration)]).take count = before.take count :=
        List.take_append_of_le_length early
      rw [taken names _ (Nat.le_refl _)] at faulty
      refine ⟨?_, _, List.getElem?_concat_length, ?_⟩
      · intro count early
        rw [taken _ count early, ← taken names count early]
        exact fault.taken count early
      · rw [taken _ _ (Nat.le_refl _)]
        exact faulty.more more
    have behind := Registry.enrol_of_firstFault (grown.append rest)
    rwa [List.append_assoc, List.singleton_append] at behind
  · intro before id hint names text more rest old
    exact Registry.enrol_of_repeat before id hint rest old

/-- Registrations with repeats and with several faults; the names of the third one are left open. -/
def Registration.crowded (names : List String) : List Registration :=
  [⟨"core", ["fs", "fs", "memory"], "install core"⟩, ⟨"core", ["memory", "s3"], "install core"⟩,
    ⟨"database", names, "install database"⟩, ⟨"", ["fs", ""], "install nothing"⟩]

/-- The conflict decides, also with the names behind it and without the repeat before it. -/
theorem first_fault_of_crowded :
    let names := ["redis", "redis", "s3", "", "fs"]
    let conflict : RoutingError :=
      .duplicateService ⟨"s3", by decide⟩ ⟨"core", by decide⟩ ⟨"database", by decide⟩
    FirstFault (Registration.crowded names) conflict 2 ∧
    (Registry.enrol (Registration.crowded names)).outcome = .error (conflict, 2) ∧
    (Registry.enrol (Registration.crowded names)).outcome =
      (Registry.enrol (Registration.crowded ["redis", "s3", "", "fs"])).outcome := by
  obtain ⟨decides, behind, repeated⟩ := first_fault_decides
  let before := (Registration.crowded []).take 2
  let rest := (Registration.crowded []).drop 3
  refine ⟨(decides _ _ 2).mp rfl, ?_, ?_⟩
  · exact behind before "database" "install database" ["redis", "redis", "s3"] ["", "fs"] rest _ rfl
  · exact repeated before "database" "install database" ["redis"] "redis" ["s3", "", "fs"] rest
      (.inl (by decide))

end ServiceRouting
