import ServiceRouting.Loader
import ServiceRouting.Proofs.Registry.Reflects
import ServiceRouting.Proofs.Router.PlanSteps

/-!
# Install hints

A hint that a step puts in place of the registered one holds for every registration of its id,
wherever among the registrations the step stands.  Nothing else about them changes, so the steps with
the hints are taken in as they would be without.  The loader tells the hints of the registry.
-/

set_option autoImplicit false

namespace ServiceRouting

namespace PlanStep

variable (steps : List PlanStep)

theorem acceptable_hintedRegistrations_iff :
    Acceptable (hintedRegistrations steps) ↔ Acceptable (steps.flatMap registrations) := by
  simp only [Acceptable, hintedRegistrations, List.forall_mem_map]

theorem namesUnder_hintedRegistrations (id : String) :
    namesUnder (hintedRegistrations steps) id = namesUnder (steps.flatMap registrations) id := by
  simp [namesUnder, hintedRegistrations, List.filter_map, List.flatMap_map, Function.comp_def]

/-- The last hint put in place of those of an id, else the hint of its last registration. -/
theorem lastHint?_hintedRegistrations (id : String) :
    lastHint? (hintedRegistrations steps) id =
      (lastHint? (steps.flatMap registrations) id).map
        (steps.filterMap (hint? id)).getLast?.getD := by
  simp only [lastHint?, hintedRegistrations, List.filter_map, List.getLast?_map, Option.map_map]
  refine Option.map_congr ?_
  intro registration last
  have named := List.mem_filter.mp (List.mem_of_getLast? last)
  simp only [Function.comp_apply, decide_eq_true_eq] at named
  simp only [Function.comp_apply, named.2]

end PlanStep

/-- The hint of an id is that of its last registration. -/
theorem lastHint?_eq_some_iff {registrations : List Registration} {id hint : String} :
    lastHint? registrations id = some hint ↔
      ∃ before registration after, registrations = before ++ registration :: after ∧
        registration.id = id ∧ registration.installHint = hint ∧ ∀ later ∈ after, later.id ≠ id := by
  rw [lastHint?, ← List.filterMap_eq_filter, ← List.getLast?_map, List.map_filterMap,
    LastOccurrence.getLast?_filterMap_eq_some_iff]
  simp [Option.map_eq_some_iff, and_assoc]

/-- The registry tells what was registered, and of other texts nothing. -/
theorem Registry.Reflects.installHint? {registry : Registry} {registrations : List Registration}
    (reflects : registry.Reflects registrations) (acceptable : Acceptable registrations)
    (text : String) : registry.installHint? text = lastHint? registrations text := by
  rw [Registry.installHint?]
  by_cases empty : text = ""
  · subst empty
    have absent : lastHint? registrations "" = none :=
      lastHint?_eq_none_iff.mpr fun registration member => (acceptable.1 registration member).1
    cases found : registry.provider? "" with
    | none => exact absent.symm
    | some entry =>
      obtain ⟨id, named, _⟩ := SortedMap.get?_eq_some_iff.mp found
      exact absurd named id.nonempty
  · have entry := reflects.provider ⟨text, empty⟩
    dsimp only at entry
    rw [entry]
    cases lastHint? registrations text <;> rfl

/-- The loader tells what was registered, and for an id without registrations the default. -/
theorem Registry.Reflects.installHint {registry : Registry} {registrations : List Registration}
    (reflects : registry.Reflects registrations) (source : Source) (id : ProviderId) :
    (Loader.ofRegistry source registry).installHint id =
      (lastHint? registrations id.text).getD (defaultInstallHint id.text) := by
  have known : (Loader.ofRegistry source registry).known.get? id.text =
      registry.provider? id.text := rfl
  rw [Loader.installHint, known, reflects.provider]
  cases lastHint? registrations id.text <;> rfl

end ServiceRouting
