import ServiceRouting.Proofs.Loader.Examination
import ServiceRouting.Proofs.Loader.Slots
import ServiceRouting.Proofs.Registry.Reflects

/-!
# The bundled providers

The four bundled manifests can be registered together, and each id has the hint of its provider.  No
service is offered twice, so its name leads to one provider and one entry of a table.  As a source the
providers always open alike: one that is not turned off passes the examination, and whatever else is
asked for is not installed.
-/

set_option autoImplicit false

namespace ServiceRouting

namespace BundledProvider

theorem ofId?_eq_some_iff {text : String} {provider : BundledProvider} :
    ofId? text = some provider ↔ provider.id.text = text := by
  constructor
  · intro found
    have passed := List.find?_some found
    exact beq_iff_eq.mp passed
  · rintro rfl
    cases provider <;> rfl

theorem ofId?_eq_none_iff {text : String} :
    ofId? text = none ↔ ∀ provider : BundledProvider, provider.id.text ≠ text := by
  simp only [Option.eq_none_iff_forall_ne_some, ne_eq, ofId?_eq_some_iff]

theorem mem_all (provider : BundledProvider) : provider ∈ all := by
  cases provider <;> decide

/-! ## Their services -/

/-- Neither two providers nor one of them offer a service twice. -/
theorem offered_once {first second : BundledProvider} {spec other : ServiceSpec}
    (offered : spec ∈ first.specs) (offeredToo : other ∈ second.specs)
    (same : spec.name = other.name) : first = second ∧ spec = other := by
  have table : ∀ first ∈ all, ∀ second ∈ all, ∀ spec ∈ first.specs, ∀ other ∈ second.specs,
      spec.name = other.name → first = second ∧ spec = other := by
    decide +kernel
  exact table first first.mem_all second second.mem_all spec offered other offeredToo same

theorem spec?_eq_some_iff {provider : BundledProvider} {service : String} {spec : ServiceSpec} :
    provider.tableProvider.spec? service = some spec ↔
      spec ∈ provider.specs ∧ spec.name = service := by
  refine FirstOccurrences.find?_eq_some_iff ?_
  intro one offered other offeredToo same
  exact (offered_once offered offeredToo same).2

end BundledProvider

/-! ## Their registrations -/

def bundledRegistrations : List Registration :=
  bundledManifests.map Manifest.registration

/-- No two bundled providers claim one service. -/
theorem acceptable_bundledRegistrations : Acceptable bundledRegistrations := by
  decide +kernel

theorem lastHint?_bundledRegistrations (text : String) :
    lastHint? bundledRegistrations text =
      (BundledProvider.ofId? text).map BundledProvider.installHint := by
  cases known : BundledProvider.ofId? text with
  | some provider =>
    obtain rfl := BundledProvider.ofId?_eq_some_iff.mp known
    cases provider <;> rfl
  | none =>
    rw [BundledProvider.ofId?_eq_none_iff] at known
    refine lastHint?_eq_none_iff.mpr ?_
    intro registration member
    simp only [bundledRegistrations, bundledManifests, List.mem_map] at member
    obtain ⟨_, ⟨provider, _, rfl⟩, rfl⟩ := member
    exact known provider

theorem mem_namesUnder_bundled {service text : String} :
    service ∈ namesUnder bundledRegistrations text ↔
      ∃ provider : BundledProvider, provider.id.text = text ∧
        ∃ spec ∈ provider.specs, spec.name = service := by
  rw [mem_namesUnder]
  simp only [bundledRegistrations, bundledManifests, List.mem_map]
  constructor
  · rintro ⟨_, ⟨_, ⟨provider, _, rfl⟩, rfl⟩, named, asked⟩
    exact ⟨provider, named, List.mem_map.mp asked⟩
  · rintro ⟨provider, named, offered⟩
    exact ⟨_, ⟨_, ⟨provider, provider.mem_all, rfl⟩, rfl⟩, named, List.mem_map.mpr offered⟩

/-! ## Opening them -/

namespace BuiltinSource

variable {source : BuiltinSource} {text : String}

theorem open?_eq_some_iff {provider : BundledProvider} :
    source.open? text = some provider ↔
      provider.id.text = text ∧ ¬ source.disabled.contains text := by
  rw [open?, ← BundledProvider.ofId?_eq_some_iff]
  split
  · rename_i off
    simp [off]
  · rename_i on
    simp [on]

theorem open?_eq_none_iff :
    source.open? text = none ↔
      source.disabled.contains text ∨ ∀ provider : BundledProvider, provider.id.text ≠ text := by
  rw [open?, ← BundledProvider.ofId?_eq_none_iff]
  split
  · rename_i off
    simp [off]
  · rename_i on
    simp [on]

theorem verdict {loader : Loader} (given : loader.source = source.source)
    (earlier : List ProviderId) (id : ProviderId) :
    loader.verdict earlier id =
      match source.open? id.text with
      | some provider => .ok ⟨earlier.length, provider.tableProvider.asModule⟩
      | none => .error ⟨id, loader.installHint id, .notInstalled⟩ := by
  have answer : loader.source.answer earlier id =
      match source.open? id.text with
      | some provider => .answered (.ok provider.tableProvider.asModule)
      | none => .answered (.error .notInstalled) := by rw [given]; rfl
  rw [Loader.verdict, answer]
  cases opened : source.open? id.text with
  | none => rfl
  | some provider =>
    have same : provider.tableProvider.id = id :=
      ProviderId.text_injective (open?_eq_some_iff.mp opened).1
    have passed := loader.examine_tableProvider provider.tableProvider
    rw [same] at passed
    dsimp only
    rw [passed]
    rfl

end BuiltinSource

end ServiceRouting
