import Mathlib.Algebra.GroupWithZero.Nat
import ServiceRouting.Proofs.Registry.Reflects
import ServiceRouting.Proofs.Text.ByteOrder

/-!
# What a registry holds after its registrations

A list of registrations is taken in exactly if it is acceptable, and then it determines everything
that the registry answers: owners, entries, their order and their number.  The main statement is
`enrolment_exact`.
-/

set_option autoImplicit false

namespace ServiceRouting

namespace Registry

/-! ## Entries -/

variable {registry : Registry} {registrations : List Registration}

/-- Entries are kept under their own ids. -/
theorem Reflects.provider?_iff (reflects : registry.Reflects registrations) {text : String}
    {entry : ProviderEntry} :
    registry.provider? text = some entry ↔
      entry ∈ registry.providers.values ∧ entry.id.text = text := by
  have own {id : ProviderId} (found : registry.provider? id.text = some entry) :
      entry.id = id := by
    rw [reflects.provider] at found
    obtain ⟨hint, _, rfl⟩ := Option.map_eq_some_iff.mp found
    rfl
  rw [SortedMap.mem_values_iff]
  constructor
  · intro found
    obtain ⟨id, rfl, _⟩ := SortedMap.get?_eq_some_iff.mp found
    exact ⟨⟨id, found⟩, congrArg ProviderId.text (own found)⟩
  · rintro ⟨⟨id, found⟩, rfl⟩
    rw [own found]
    exact found

theorem Reflects.entry_eq (reflects : registry.Reflects registrations) {entry : ProviderEntry}
    (member : entry ∈ registry.providers.values) :
    lastHint? registrations entry.id.text = some entry.installHint ∧
      entry.services =
        ((namesUnder registrations entry.id.text).filterMap ServiceName.ofText?).eraseDups := by
  have found := reflects.provider?_iff.mpr ⟨member, rfl⟩
  rw [reflects.provider] at found
  obtain ⟨hint, last, same⟩ := Option.map_eq_some_iff.mp found
  rw [← same]
  exact ⟨last, rfl⟩

/-- An entry lists the services that its provider owns. -/
theorem Reflects.mem_services_iff (reflects : registry.Reflects registrations)
    {entry : ProviderEntry} (member : entry ∈ registry.providers.values) {name : ServiceName} :
    name ∈ entry.services ↔ registry.owner? name.text = some entry.id := by
  rw [(reflects.entry_eq member).2, reflects.owner, List.mem_eraseDups, List.mem_filterMap]
  constructor
  · rintro ⟨text, asked, named⟩
    rwa [ServiceName.ofText?_eq_some_iff.mp named]
  · intro asked
    exact ⟨name.text, asked, ServiceName.ofText?_eq_some_iff.mpr rfl⟩

theorem Reflects.services_nodup (reflects : registry.Reflects registrations)
    {entry : ProviderEntry} (member : entry ∈ registry.providers.values) :
    entry.services.Nodup := by
  rw [(reflects.entry_eq member).2]
  exact FirstOccurrences.nodup _

theorem filterMap_ofText? {texts : List String} (present : ∀ text ∈ texts, text ≠ "") :
    (texts.filterMap ServiceName.ofText?).map ServiceName.text = texts := by
  induction texts with
  | nil => rfl
  | cons text rest ih =>
    have named : ServiceName.ofText? text = some ⟨text, present text List.mem_cons_self⟩ :=
      ServiceName.ofText?_eq_some_iff.mpr rfl
    rw [List.filterMap_cons_some named, List.map_cons, ih]
    intro other member
    exact present other (List.mem_cons_of_mem text member)

/-- The services of an entry are all the names asked for, each where it comes first. -/
theorem Reflects.services_text (reflects : registry.Reflects registrations)
    (acceptable : Acceptable registrations) {entry : ProviderEntry}
    (member : entry ∈ registry.providers.values) :
    entry.services.map ServiceName.text =
      (namesUnder registrations entry.id.text).eraseDups := by
  have present : ∀ text ∈ namesUnder registrations entry.id.text, text ≠ "" := by
    intro text asked
    obtain ⟨registration, inside, _, written⟩ := mem_namesUnder.mp asked
    exact (acceptable.1 registration inside).2 text written
  rw [(reflects.entry_eq member).2,
    FirstOccurrences.map_of_injective ServiceName.text_injective,
    filterMap_ofText? present]

theorem Reflects.known_iff (reflects : registry.Reflects registrations)
    (acceptable : Acceptable registrations) {text : String} :
    (∃ entry, registry.provider? text = some entry) ↔
      ∃ registration ∈ registrations, registration.id = text := by
  have occurs : lastHint? registrations text ≠ none ↔
      ∃ registration ∈ registrations, registration.id = text := by
    simp [lastHint?_eq_none_iff]
  rw [← occurs]
  constructor
  · rintro ⟨entry, found⟩
    obtain ⟨member, rfl⟩ := reflects.provider?_iff.mp found
    rw [(reflects.entry_eq member).1]
    exact Option.some_ne_none _
  · intro present
    obtain ⟨registration, inside, rfl⟩ := occurs.mp present
    obtain ⟨hint, last⟩ := Option.ne_none_iff_exists'.mp present
    have entry := reflects.provider ⟨registration.id, (acceptable.1 registration inside).1⟩
    rw [last] at entry
    exact ⟨_, entry⟩

/-! ## Order and number -/

theorem Reflects.map_id_values (reflects : registry.Reflects registrations) :
    registry.providers.values.map ProviderEntry.id = registry.providers.keys := by
  rw [SortedMap.values, SortedMap.keys, List.map_map]
  refine List.map_congr_left ?_
  rintro ⟨id, entry⟩ member
  have found : registry.provider? id.text = some entry := SortedMap.mem_entries_iff.mp member
  exact ProviderId.text_injective (reflects.provider?_iff.mp found).2

theorem Reflects.disjoint (reflects : registry.Reflects registrations)
    {first second : ProviderEntry} (inFirst : first ∈ registry.providers.values)
    (inSecond : second ∈ registry.providers.values) (different : first.id ≠ second.id) :
    first.services.Disjoint second.services := by
  intro name held shared
  rw [reflects.mem_services_iff inFirst] at held
  rw [reflects.mem_services_iff inSecond, held] at shared
  exact different (Option.some.inj shared)

theorem Reflects.keys_perm (reflects : registry.Reflects registrations)
    (acceptable : Acceptable registrations) :
    registry.services.keys.Perm (registry.providers.values.flatMap ProviderEntry.services) := by
  -- Neither list repeats a name, and they have the same members.
  have ids : (registry.providers.values.map ProviderEntry.id).Nodup := by
    rw [reflects.map_id_values]
    exact SortedMap.keys_nodup _
  have apart : registry.providers.values.Pairwise
      (Function.onFun List.Disjoint ProviderEntry.services) := by
    refine List.Pairwise.imp_of_mem ?_ (List.pairwise_map.mp ids)
    intro first second inFirst inSecond different
    exact reflects.disjoint inFirst inSecond different
  have lists : (registry.providers.values.flatMap ProviderEntry.services).Nodup :=
    List.nodup_flatMap.mpr ⟨fun _ member => reflects.services_nodup member, apart⟩
  refine (List.perm_ext_iff_of_nodup (SortedMap.keys_nodup _) lists).mpr ?_
  intro name
  rw [SortedMap.mem_keys_iff, List.mem_flatMap]
  constructor
  · rintro ⟨owner, held⟩
    have asked := (reflects.owner owner name.text).mp held
    obtain ⟨registration, inside, same, _⟩ := mem_namesUnder.mp asked
    obtain ⟨entry, found⟩ := (reflects.known_iff acceptable).mpr ⟨registration, inside, same⟩
    obtain ⟨member, sameId⟩ := reflects.provider?_iff.mp found
    refine ⟨entry, member, (reflects.mem_services_iff member).mpr ?_⟩
    rw [ProviderId.text_injective sameId]
    exact held
  · rintro ⟨entry, member, listed⟩
    exact ⟨entry.id, (reflects.mem_services_iff member).mp listed⟩

/-! ## The registry as a whole -/

/-- Everything that a registry answers, said about the registrations themselves. -/
structure Records [Matcher] (registry : Registry) (registrations : List Registration) : Prop where
  lookup : ∀ service, service ≠ "" → ∀ id : ProviderId,
    registry.lookup service = .ok id ↔
      ∃ registration ∈ registrations, registration.id = id.text ∧ service ∈ registration.services
  known : ∀ text, (∃ entry ∈ registry.providers.values, entry.id.text = text) ↔
    ∃ registration ∈ registrations, registration.id = text
  provider : ∀ text entry, registry.provider? text = some entry ↔
    entry ∈ registry.providers.values ∧ entry.id.text = text
  services : ∀ entry ∈ registry.providers.values,
    entry.services.map ServiceName.text = (namesUnder registrations entry.id.text).eraseDups
  hint : ∀ entry ∈ registry.providers.values,
    some entry.installHint = lastHint? registrations entry.id.text
  disjoint : ∀ first ∈ registry.providers.values, ∀ second ∈ registry.providers.values,
    first.id ≠ second.id → first.services.Disjoint second.services
  size : registry.size =
    (registry.providers.values.map fun entry => entry.services.length).sum
  listed : ∀ name id, (name, id) ∈ registry.services.entries ↔
    registry.lookup name.text = .ok id
  services_increasing : registry.services.entries.Pairwise fun first second =>
    ByteOrder.bytes first.1.text < ByteOrder.bytes second.1.text
  providers_increasing : registry.providers.values.Pairwise fun first second =>
    ByteOrder.bytes first.id.text < ByteOrder.bytes second.id.text

theorem Reflects.records [Matcher] (reflects : registry.Reflects registrations)
    (acceptable : Acceptable registrations) : registry.Records registrations where
  lookup := by
    intro service present id
    rw [lookup_eq_ok_iff, reflects.owner, mem_namesUnder]
  known := by
    intro text
    rw [← reflects.known_iff acceptable]
    simp only [reflects.provider?_iff]
  provider := by
    intro text entry
    exact reflects.provider?_iff
  services := by
    intro entry member
    exact reflects.services_text acceptable member
  hint := by
    intro entry member
    exact (reflects.entry_eq member).1.symm
  disjoint := by
    intro first inFirst second inSecond different
    exact reflects.disjoint inFirst inSecond different
  size := by
    have lengths := (reflects.keys_perm acceptable).length_eq
    rwa [List.length_flatMap, SortedMap.keys, List.length_map] at lengths
  listed := by
    intro name id
    rw [lookup_eq_ok_iff]
    exact SortedMap.mem_entries_iff
  services_increasing := by
    have increasing := registry.services.keys_bytes_increasing
    rwa [SortedMap.keys, List.pairwise_map] at increasing
  providers_increasing := by
    have increasing := registry.providers.keys_bytes_increasing
    rwa [← reflects.map_id_values, List.pairwise_map] at increasing

end Registry

/-- Registrations are taken in exactly if no id and no name is empty and no name is asked for under
two ids.  The registry then answers as the registrations say. -/
theorem enrolment_exact [Matcher] (registrations : List Registration) :
    ((∃ registry, (Registry.enrol registrations).outcome = .ok registry) ↔
      Acceptable registrations) ∧
    ∀ registry, (Registry.enrol registrations).outcome = .ok registry →
      registry.Records registrations := by
  have run := Registry.reflects_empty.enrolFrom (by simp [Acceptable]) [] 0 registrations
  rw [List.nil_append] at run
  rw [Registry.enrol]
  cases outcome : (Registry.empty.enrolFrom [] 0 registrations).outcome with
  | error failure =>
    rw [outcome] at run
    refine ⟨⟨?_, fun acceptable => absurd acceptable run⟩, ?_⟩
    · rintro ⟨registry, taken⟩
      cases taken
    · intro registry taken
      cases taken
  | ok final =>
    rw [outcome] at run
    obtain ⟨acceptable, reflects⟩ := run
    refine ⟨⟨fun _ => acceptable, fun _ => ⟨final, rfl⟩⟩, ?_⟩
    intro registry taken
    cases taken
    exact reflects.records acceptable

end ServiceRouting
