import ServiceRouting.Proofs.MapViews
import ServiceRouting.Table

/-!
# What a table provider makes of options

A service of the table is refused for the first required key that the options do not provide, and
otherwise opened (`TableProvider.configure_of_spec`).  The handle takes over every option, on one side
or the other, and the probe looks at neither side (`TableProvider.assemble_eq`).
-/

set_option autoImplicit false

namespace ServiceRouting

/-! ## Required options -/

namespace Options

variable (options : Options) (service : String)

theorem discard_require (key : String) :
    (discard (options.require service key) : Except ServiceError Unit) =
      if options.provides key then .ok () else .error (require.missing service key) := by
  rw [require, provides]
  cases options.get? key with
  | none => rfl
  | some value =>
    by_cases empty : value = ""
    · simp only [empty]
      rfl
    · simp only [empty, if_false, ne_eq, not_false_eq_true, decide_true, if_true]
      rfl

/-- The first key that is not provided decides. -/
theorem forM_require (keys : List String) :
    (keys.forM fun key => discard (options.require service key) : Except ServiceError Unit) =
      match keys.find? fun key => !options.provides key with
      | some key => .error (require.missing service key)
      | none => .ok () := by
  induction keys with
  | nil => rfl
  | cons key rest ih =>
    have first : ((key :: rest).forM fun key => discard (options.require service key)) =
        (do
          discard (options.require service key)
          rest.forM fun key => discard (options.require service key)) := rfl
    rw [first, discard_require, List.find?_cons]
    cases options.provides key with
    | true => exact ih
    | false => rfl

end Options

/-! ## Both sides of a handle -/

namespace ServiceSpec

/-- The options that a handle shows. -/
def shown (spec : ServiceSpec) (options : Options) : SortedMap String String :=
  options.pairs.select (fun key => key ∉ spec.secrets) fun value => value

/-- The options that a handle keeps to itself. -/
def hidden (spec : ServiceSpec) (options : Options) : SortedMap String Secret :=
  options.pairs.select (fun key => key ∈ spec.secrets) Secret.mk

variable (spec : ServiceSpec) (options : Options)

theorem keys_shown :
    (spec.shown options).keys = options.keys.filter fun key => key ∉ spec.secrets := by
  rw [shown, SortedMap.keys_select]
  rfl

theorem keys_hidden :
    (spec.hidden options).keys = options.keys.filter fun key => key ∈ spec.secrets := by
  rw [hidden, SortedMap.keys_select]
  rfl

theorem get?_shown (key : String) :
    (spec.shown options).get? key = if key ∈ spec.secrets then none else options.get? key := by
  have selected := options.pairs.get?_select (fun key => key ∉ spec.secrets) (fun value => value) key
  refine selected.trans ?_
  by_cases secret : key ∈ spec.secrets <;> simp [secret, Options.get?, TextKey.text]

theorem get?_hidden (key : String) :
    (spec.hidden options).get? key =
      if key ∈ spec.secrets then (options.get? key).map Secret.mk else none := by
  have selected := options.pairs.get?_select (fun key => key ∈ spec.secrets) Secret.mk key
  refine selected.trans ?_
  by_cases secret : key ∈ spec.secrets <;> simp [secret, Options.get?, TextKey.text]

end ServiceSpec

namespace TableProvider

variable {provider : TableProvider} {service : ServiceName} {spec : ServiceSpec}

/-- Each side is filled as if the options of the other side were passed over. -/
theorem foldl_placeOption (spec : ServiceSpec) (pairs : List (String × String)) (handle : Handle) :
    pairs.foldl (placeOption spec) handle =
      { handle with
        settings := pairs.foldl (fun grown pair =>
          if decide (pair.1 ∉ spec.secrets) then grown.insert pair.1 pair.2 else grown)
          handle.settings
        secrets := pairs.foldl (fun grown pair =>
          if decide (pair.1 ∈ spec.secrets) then grown.insert pair.1 ⟨pair.2⟩ else grown)
          handle.secrets } := by
  induction pairs generalizing handle with
  | nil => rfl
  | cons pair rest ih =>
    rw [List.foldl_cons, ih, List.foldl_cons, List.foldl_cons]
    by_cases secret : pair.1 ∈ spec.secrets
    · simp [placeOption, secret, Handle.withSecret]
    · simp [placeOption, secret, Handle.withSetting]

theorem assemble_eq (provider : TableProvider) (service : ServiceName) (spec : ServiceSpec)
    (options : Options) :
    provider.assemble service spec options =
      { service := service
        provider := provider.id
        capability := spec.capability
        settings := spec.shown options
        secrets := spec.hidden options
        probe := spec.probeKey.bind options.get? } := by
  have settings := options.pairs.foldl_insert_if (fun key => key ∉ spec.secrets) fun value => value
  have secrets := options.pairs.foldl_insert_if (fun key => key ∈ spec.secrets) Secret.mk
  have filled : options.toList.foldl (placeOption spec) (provider.bare service spec) =
      { provider.bare service spec with
        settings := spec.shown options
        secrets := spec.hidden options } := by
    rw [foldl_placeOption, ServiceSpec.shown, ← settings, ServiceSpec.hidden, ← secrets]
    rfl
  rw [assemble, filled]
  cases spec.probeKey.bind options.get? <;> rfl

/-! ## Opening a service -/

theorem configure_of_unknown (unknown : provider.spec? service.text = none) (options : Options) :
    provider.configure service options =
      .error ⟨.unsupported, s!"service '{service}' is not provided here",
        [("provider", provider.id.text)]⟩ := by
  rw [configure, unknown]
  rfl

theorem configure_of_spec (known : provider.spec? service.text = some spec) (options : Options) :
    provider.configure service options =
      match missing? spec options with
      | some key =>
        .error ⟨.configInvalid, s!"option '{key}' is required", [("service", service.text)]⟩
      | none => .ok (provider.assemble service spec options) := by
  rw [configure, known]
  dsimp only
  rw [Options.forM_require, missing?]
  cases spec.required.find? fun key => !options.provides key <;> rfl

theorem configure_eq_ok {options : Options} {handle : Handle}
    (opened : provider.configure service options = .ok handle) :
    ∃ spec, provider.spec? service.text = some spec ∧
      handle = provider.assemble service spec options := by
  cases known : provider.spec? service.text with
  | none =>
    rw [configure_of_unknown known] at opened
    cases opened
  | some spec =>
    rw [configure_of_spec known] at opened
    split at opened
    · cases opened
    · cases opened
      exact ⟨spec, rfl, rfl⟩

end TableProvider

end ServiceRouting
