import ServiceRouting.Proofs.LastOccurrence
import ServiceRouting.Router.Plan

/-!
# Plans read off their steps

A step adds registrations, or it sets one thing: the source, the primary provider or the hint of one
id.  So a plan holds all registrations in their order, and of everything that steps set it holds what
the last of them said (`RouterPlan.ofSteps_last`).  A step that only sets something may stand before or
behind steps that do not set the same (`RouterPlan.ofSteps_of_moved`).
-/

set_option autoImplicit false

namespace ServiceRouting

namespace PlanStep

/-! ## What one step says -/

def registrations : PlanStep → List Registration
  | .provider registration => [registration]
  | .manifest known => [known.registration]
  | .bundledManifests | .builtin => ServiceRouting.bundledManifests.map Manifest.registration
  | _ => []

def primary? : PlanStep → Option String
  | .primary id => some id
  | _ => none

def source? : PlanStep → Option Source
  | .source given => some given
  | .builtin => some BuiltinSource.empty.source
  | _ => none

/-- The hint that a step puts in place of the registered one of an id. -/
def hint? (id : String) : PlanStep → Option String
  | .installHint named hint => if named = id then some hint else none
  | _ => none

/-! ## What a list of steps says -/

variable (steps : List PlanStep)

/-- The primary provider that was named last, else the first one registered. -/
def primaryOf? : Option String :=
  (steps.filterMap primary?).getLast?.or
    ((steps.flatMap registrations).head?.map Registration.id)

/-- Every registration, with the hint that was last put in place of its own. -/
def hintedRegistrations : List Registration :=
  (steps.flatMap registrations).map fun registration =>
    { registration with
      installHint :=
        (steps.filterMap (hint? registration.id)).getLast?.getD registration.installHint }

/-- The source that was given last; without one nothing is installed. -/
def sourceOf : Source :=
  (steps.filterMap source?).getLast?.getD StaticSource.empty.source

end PlanStep

namespace RouterPlan

/-! ## The plan that the steps make -/

theorem ofSteps_concat (steps : List PlanStep) (step : PlanStep) :
    ofSteps (steps ++ [step]) = (ofSteps steps).apply step := by
  simp [ofSteps]

theorem registrations_apply (plan : RouterPlan) (step : PlanStep) :
    (plan.apply step).registrations = plan.registrations ++ step.registrations := by
  cases step <;> simp [apply, withManifests, PlanStep.registrations]

theorem ofSteps_registrations (steps : List PlanStep) :
    (ofSteps steps).registrations = steps.flatMap PlanStep.registrations := by
  induction steps using List.reverseRecOn with
  | nil => rfl
  | append_singleton before step ih =>
    rw [ofSteps_concat, registrations_apply, ih, List.flatMap_append, List.flatMap_singleton]

/-- What every step either sets or leaves as it is, is what the last step set that sets it. -/
theorem ofSteps_last {Setting : Type} (read : RouterPlan → Option Setting)
    (write : PlanStep → Option Setting) (unset : read {} = none)
    (sets : ∀ plan step, read (plan.apply step) = (write step).or (read plan))
    (steps : List PlanStep) : read (ofSteps steps) = (steps.filterMap write).getLast? := by
  rw [ofSteps, LastOccurrence.read_foldl apply read write sets, unset, Option.or_none]

theorem ofSteps_primary (steps : List PlanStep) :
    (ofSteps steps).primary = (steps.filterMap PlanStep.primary?).getLast? :=
  ofSteps_last primary PlanStep.primary? rfl (fun _ step => by cases step <;> rfl) steps

theorem ofSteps_source (steps : List PlanStep) :
    (ofSteps steps).source = (steps.filterMap PlanStep.source?).getLast? :=
  ofSteps_last source PlanStep.source? rfl (fun _ step => by cases step <;> rfl) steps

theorem ofSteps_hint (id : String) (steps : List PlanStep) :
    (ofSteps steps).hints.get? id = (steps.filterMap (PlanStep.hint? id)).getLast? := by
  refine ofSteps_last (fun plan => plan.hints.get? id) (PlanStep.hint? id) rfl ?_ steps
  intro plan step
  cases step with
  | installHint named hint =>
    simp only [apply, PlanStep.hint?, SortedMap.get?_insert, TextKey.text, id_eq]
    split <;> rfl
  | _ => rfl

/-! ## What is built from the plan -/

theorem ofSteps_primary? (steps : List PlanStep) :
    (ofSteps steps).primary? = PlanStep.primaryOf? steps := by
  rw [primary?, ofSteps_primary, ofSteps_registrations, PlanStep.primaryOf?]

theorem ofSteps_hinted (steps : List PlanStep) :
    (ofSteps steps).hinted = PlanStep.hintedRegistrations steps := by
  simp only [hinted, ofSteps_registrations, ofSteps_hint, PlanStep.hintedRegistrations]

theorem ofSteps_sourceOrNone (steps : List PlanStep) :
    (ofSteps steps).sourceOrNone = PlanStep.sourceOf steps := by
  rw [sourceOrNone, ofSteps_source, PlanStep.sourceOf]

end RouterPlan

/-! ## Steps that change places -/

namespace PlanStep

/-- The step sets a thing that the other step does not set. -/
def Passes : PlanStep → PlanStep → Prop
  | .installHint id _, other => other.hint? id = none
  | .source _, other => other.source? = none
  | .primary _, other => other.primary? = none
  | _, _ => False

/-- The second list is the first with one step put behind others that it passes. -/
def Moved (first second : List PlanStep) : Prop :=
  ∃ before step passed after, (∀ other ∈ passed, Passes step other) ∧
    first = before ++ step :: passed ++ after ∧ second = before ++ passed ++ step :: after

end PlanStep

namespace RouterPlan

theorem eq_of_same {plan other : RouterPlan} (registrations : plan.registrations = other.registrations)
    (hints : ∀ id, plan.hints.get? id = other.hints.get? id) (source : plan.source = other.source)
    (primary : plan.primary = other.primary) : plan = other := by
  have sameHints := SortedMap.ext_get? hints
  obtain ⟨_, _, _, _⟩ := plan
  obtain ⟨_, _, _, _⟩ := other
  dsimp only at registrations sameHints source primary
  rw [registrations, sameHints, source, primary]

theorem ofSteps_of_moved {first second : List PlanStep} (moved : PlanStep.Moved first second) :
    ofSteps first = ofSteps second := by
  obtain ⟨before, step, passed, after, passes, rfl, rfl⟩ := moved
  by_cases idle : passed = []
  · simp [idle]
  have quiet : step.registrations = [] := by
    obtain ⟨other, member⟩ := List.exists_mem_of_ne_nil passed idle
    have sets := passes other member
    cases step with
    | installHint id hint => rfl
    | source given => rfl
    | primary id => rfl
    | _ => exact sets.elim
  -- What the step sets, none of the passed steps sets, and it sets nothing else.
  refine eq_of_same ?_ ?_ ?_ ?_
  · rw [ofSteps_registrations, ofSteps_registrations]
    simp [quiet]
  · intro id
    rw [ofSteps_hint, ofSteps_hint, LastOccurrence.filterMap_of_moved ?_ before after]
    cases step with
    | installHint named hint =>
      by_cases same : named = id
      · subst same
        exact .inr passes
      · exact .inl (if_neg same)
    | _ => exact .inl rfl
  · rw [ofSteps_source, ofSteps_source, LastOccurrence.filterMap_of_moved ?_ before after]
    cases step with
    | source given => exact .inr passes
    | builtin => exact .inr fun other member => (passes other member).elim
    | _ => exact .inl rfl
  · rw [ofSteps_primary, ofSteps_primary, LastOccurrence.filterMap_of_moved ?_ before after]
    cases step with
    | primary named => exact .inr passes
    | _ => exact .inl rfl

end RouterPlan

end ServiceRouting
