import ServiceRouting.Proofs.FirstOccurrences
import ServiceRouting.Proofs.MapViews
import ServiceRouting.Registry

/-!
# Look-ups and single registrations

A registration is taken in as a whole.  Its names are claimed in their order, and the first one that
is refused (`Registry.refusal?`) decides the failure; otherwise the names that nobody holds yet are
added (`Registry.claims_eq`).
-/

set_option autoImplicit false

namespace ServiceRouting

theorem ServiceName.text_injective : Function.Injective ServiceName.text :=
  fun _ _ same => TextKey.text_injective same

theorem ProviderId.text_injective : Function.Injective ProviderId.text :=
  fun _ _ same => TextKey.text_injective same

theorem ServiceName.ofText_eq_ok_iff {text : String} {name : ServiceName} :
    ServiceName.ofText text = .ok name ↔ name.text = text := by
  rw [← ServiceName.ofText?_eq_some_iff, ServiceName.ofText]
  cases ServiceName.ofText? text <;> simp

theorem ProviderId.ofText_eq_ok_iff {text : String} {id : ProviderId} :
    ProviderId.ofText text = .ok id ↔ id.text = text := by
  rw [← ProviderId.ofText?_eq_some_iff, ProviderId.ofText]
  cases ProviderId.ofText? text <;> simp

namespace Registry

/-! ## Look-ups -/

theorem owner?_empty (registry : Registry) : registry.owner? "" = none := by
  cases found : registry.owner? "" with
  | none => rfl
  | some owner =>
    obtain ⟨name, same, _⟩ := SortedMap.get?_eq_some_iff.mp found
    exact absurd same name.nonempty

theorem lookup_eq_ok_iff [Matcher] {registry : Registry} {service : String} {id : ProviderId} :
    registry.lookup service = .ok id ↔ registry.owner? service = some id := by
  rw [lookup]
  split
  · rename_i empty
    simp [empty, owner?_empty]
  · cases registry.owner? service with
    | none => simp
    | some owner => simp

/-! ## Claiming names -/

/-- Why a provider may not claim a name, if it may not. -/
def refusal? (registry : Registry) (id : ProviderId) (text : String) : Option RoutingError :=
  match ServiceName.ofText text with
  | .error failure => some failure
  | .ok name =>
    match registry.owner? name.text with
    | some owner => if owner = id then none else some (.duplicateService name owner id)
    | none => none

/-- The names among `texts` that nobody holds, each where it comes first. -/
def newNames (registry : Registry) (texts : List String) : List ServiceName :=
  ((texts.filterMap ServiceName.ofText?).filter fun name =>
    registry.owner? name.text = none).eraseDups

variable {registry : Registry} {id : ProviderId}

theorem refusal?_eq_none_iff {text : String} :
    registry.refusal? id text = none ↔
      text ≠ "" ∧ ∀ owner, registry.owner? text = some owner → owner = id := by
  rw [refusal?, ServiceName.ofText]
  cases named : ServiceName.ofText? text with
  | none =>
    obtain rfl := ServiceName.ofText?_eq_none_iff.mp named
    simp
  | some name =>
    obtain rfl := ServiceName.ofText?_eq_some_iff.mp named
    cases found : registry.owner? name.text with
    | none => simp [name.nonempty, found]
    | some owner => simp [name.nonempty, found]

theorem newNames_concat (texts : List String) {text : String} {name : ServiceName}
    (named : ServiceName.ofText? text = some name) :
    registry.newNames (texts ++ [text]) =
      if registry.owner? text = none ∧ name ∉ registry.newNames texts
      then registry.newNames texts ++ [name] else registry.newNames texts := by
  obtain rfl := ServiceName.ofText?_eq_some_iff.mp named
  simp only [newNames, List.filterMap_append, List.filter_append, List.filterMap_cons, named,
    List.filterMap_nil, List.mem_eraseDups]
  cases found : registry.owner? name.text with
  | some owner => simp [found]
  | none =>
    simp only [found, decide_true, List.filter_cons_of_pos, List.filter_nil, true_and]
    split
    · rename_i fresh
      exact FirstOccurrences.concat_of_notMem fresh
    · rename_i old
      exact FirstOccurrences.concat_of_mem (Decidable.not_not.mp old)

theorem mem_newNames_iff {texts : List String} {text : String} :
    text ∈ (registry.newNames texts).map ServiceName.text ↔
      text ≠ "" ∧ text ∈ texts ∧ registry.owner? text = none := by
  simp only [newNames, List.mem_map, List.mem_eraseDups, List.mem_filter, List.mem_filterMap,
    decide_eq_true_eq, ServiceName.ofText?_eq_some_iff]
  constructor
  · rintro ⟨name, ⟨⟨text, inside, rfl⟩, unowned⟩, rfl⟩
    exact ⟨name.nonempty, inside, unowned⟩
  · rintro ⟨present, inside, unowned⟩
    exact ⟨⟨text, present⟩, ⟨⟨text, inside, rfl⟩, unowned⟩, rfl⟩

/-- Claiming stops at the first name that is refused, and otherwise ends with the new names. -/
theorem claims_eq (texts : List String) :
    registry.claims id texts =
      match texts.findSome? (registry.refusal? id) with
      | some failure => .error failure
      | none => .ok (registry.newNames texts) := by
  -- From the end of the list: the last name is claimed after all the others.
  induction texts using List.reverseRecOn with
  | nil => rfl
  | append_singleton before text ih =>
    have last : registry.claims id (before ++ [text]) =
        registry.claims id before >>= fun claimed => registry.claim id claimed text := by
      simp [claims]
    rw [last, ih, List.findSome?_append]
    cases refused : before.findSome? (registry.refusal? id) with
    | some failure => rfl
    | none =>
      simp only [Option.none_or, List.findSome?_singleton, refusal?, claim, ServiceName.ofText,
        bind, Except.bind]
      cases named : ServiceName.ofText? text with
      | none => rfl
      | some name =>
        obtain rfl := ServiceName.ofText?_eq_some_iff.mp named
        rw [newNames_concat before named]
        cases found : registry.owner? name.text with
        | none => by_cases old : name ∈ registry.newNames before <;> simp [found, old]
        | some owner => by_cases mine : owner = id <;> simp [found, mine]

/-! ## Taking in one registration -/

theorem owner?_commit (hint : String) (claimed : List ServiceName) (text : String) :
    (registry.commit id hint claimed).owner? text =
      if text ∈ claimed.map ServiceName.text then some id else registry.owner? text :=
  SortedMap.get?_foldl_insert registry.services claimed id text

theorem provider?_commit (hint : String) (claimed : List ServiceName) (text : String) :
    (registry.commit id hint claimed).provider? text =
      if id.text = text then
        some ⟨id, hint,
          ((registry.provider? id.text).map ProviderEntry.services).getD [] ++ claimed⟩
      else registry.provider? text :=
  SortedMap.get?_insert registry.providers id _ text

theorem register_of_empty {registration : Registration} (empty : registration.id = "") :
    registry.register registration = .error (.invalidName .emptyProvider) := by
  have unnamed := ProviderId.ofText?_eq_none_iff.mpr empty
  simp [register, ProviderId.ofText, unnamed, bind, Except.bind]

theorem register_eq {registration : Registration}
    (named : ProviderId.ofText? registration.id = some id) :
    (registry.register registration).map Prod.fst =
      match registration.services.findSome? (registry.refusal? id) with
      | some failure => .error failure
      | none => .ok (registry.commit id registration.installHint
          (registry.newNames registration.services)) := by
  simp only [register, ProviderId.ofText, named, claims_eq, bind, Except.bind]
  cases registration.services.findSome? (registry.refusal? id) with
  | none => rfl
  | some failure => rfl

theorem register_eq_error_iff {registration : Registration} {failure : RoutingError}
    (named : registration.id = id.text) :
    registry.register registration = .error failure ↔
      registration.services.findSome? (registry.refusal? id) = some failure := by
  have step : (registry.register registration).map Prod.fst = _ :=
    register_eq (ProviderId.ofText?_eq_some_iff.mpr named.symm)
  cases refused : registration.services.findSome? (registry.refusal? id) with
  | none =>
    rw [refused] at step
    cases result : registry.register registration with
    | error other =>
      rw [result] at step
      cases step
    | ok pair => simp
  | some reason =>
    rw [refused] at step
    cases result : registry.register registration with
    | error other =>
      rw [result] at step
      cases step
      simp
    | ok pair =>
      rw [result] at step
      cases step

theorem register_cases (registry : Registry) (registration : Registration) :
    (∃ (id : ProviderId) (note : LogRecord), registration.id = id.text ∧
      (∀ text ∈ registration.services, registry.refusal? id text = none) ∧
      registry.register registration = .ok (registry.commit id registration.installHint
        (registry.newNames registration.services), note)) ∨
    ∃ failure,
      (registration.id = "" ∨ ∃ id : ProviderId, registration.id = id.text ∧
        ∃ text ∈ registration.services, registry.refusal? id text ≠ none) ∧
      registry.register registration = .error failure := by
  cases named : ProviderId.ofText? registration.id with
  | none =>
    have empty := ProviderId.ofText?_eq_none_iff.mp named
    exact .inr ⟨.invalidName .emptyProvider, .inl empty, register_of_empty empty⟩
  | some id =>
    have sameText := (ProviderId.ofText?_eq_some_iff.mp named).symm
    have step : (registry.register registration).map Prod.fst = _ := register_eq named
    cases result : registry.register registration with
    | error failure =>
      refine .inr ⟨failure, .inr ⟨id, sameText, ?_⟩, rfl⟩
      rw [result] at step
      split at step
      · rename_i refused
        obtain ⟨text, asked, refusal⟩ := List.exists_of_findSome?_eq_some refused
        exact ⟨text, asked, by simp [refusal]⟩
      · cases step
    | ok pair =>
      obtain ⟨next, note⟩ := pair
      rw [result] at step
      split at step
      · cases step
      · rename_i admitted
        cases step
        exact .inl ⟨id, note, sameText, List.findSome?_eq_none_iff.mp admitted, rfl⟩

end Registry

end ServiceRouting
