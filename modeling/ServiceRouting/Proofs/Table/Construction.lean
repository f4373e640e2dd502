import ServiceRouting.Proofs.Table.Configuration

/-!
# When a table provider opens a service, and what the handle holds

Of the services with one name the table chooses the first (`TableProvider.spec?_eq_some_iff`).  It is
opened if all its required options are given, and the first that is not decides the refusal
(`construction_decided`).  The handle parts the options into settings and secrets, and takes its probe
from the options themselves (`options_parted`).
-/

set_option autoImplicit false

namespace ServiceRouting

/-! ## What decides -/

/-- The key has a value other than the empty text. -/
def Options.Gives (options : Options) (key : String) : Prop :=
  ∃ value, options.get? key = some value ∧ value ≠ ""

theorem Options.provides_iff {options : Options} {key : String} :
    options.provides key = true ↔ options.Gives key := by
  rw [provides, Gives]
  cases options.get? key <;> simp

namespace TableProvider

/-- The first service of the table with the name. -/
def Chooses (provider : TableProvider) (name : String) (spec : ServiceSpec) : Prop :=
  ∃ before after, provider.specs = before ++ spec :: after ∧ spec.name = name ∧
    ∀ earlier ∈ before, earlier.name ≠ name

/-- The failures of opening a service, each with what it needs. -/
inductive Refuses (provider : TableProvider) (service : ServiceName) (options : Options) :
    ServiceError → Prop where
  | unknown : (∀ spec ∈ provider.specs, spec.name ≠ service.text) →
      Refuses provider service options
        ⟨.unsupported, s!"service '{service}' is not provided here",
          [("provider", provider.id.text)]⟩
  | incomplete {spec : ServiceSpec} {given rest : List String} {key : String} :
      provider.Chooses service.text spec → spec.required = given ++ key :: rest →
      (∀ earlier ∈ given, options.Gives earlier) → ¬ options.Gives key →
      Refuses provider service options
        ⟨.configInvalid, s!"option '{key}' is required", [("service", service.text)]⟩

variable {provider : TableProvider} {service : ServiceName} {spec : ServiceSpec} {options : Options}

theorem spec?_eq_some_iff {name : String} :
    provider.spec? name = some spec ↔ provider.Chooses name spec := by
  rw [spec?, List.find?_eq_some_iff_append, Chooses]
  simp only [beq_iff_eq, Bool.not_eq_true', beq_eq_false_iff_ne]
  constructor
  · rintro ⟨named, before, after, split, others⟩
    exact ⟨before, after, split, named, others⟩
  · rintro ⟨before, after, split, named, others⟩
    exact ⟨named, before, after, split, others⟩

theorem spec?_eq_none_iff {name : String} :
    provider.spec? name = none ↔ ∀ spec ∈ provider.specs, spec.name ≠ name := by
  simp [spec?]

theorem missing?_eq_some_iff {key : String} :
    missing? spec options = some key ↔ ¬ options.Gives key ∧
      ∃ given rest, spec.required = given ++ key :: rest ∧
        ∀ earlier ∈ given, options.Gives earlier := by
  rw [missing?, List.find?_eq_some_iff_append]
  simp [← Options.provides_iff]

theorem missing?_eq_none_iff :
    missing? spec options = none ↔ ∀ key ∈ spec.required, options.Gives key := by
  simp [missing?, ← Options.provides_iff]

theorem outcome_construct (provider : TableProvider) (service : ServiceName) (options : Options) :
    (provider.construct service options).outcome = provider.configure service options := by
  rw [construct]
  cases provider.configure service options <;> rfl

theorem exists_configure_eq_ok_iff :
    (∃ handle, provider.configure service options = .ok handle) ↔
      ∃ spec, provider.Chooses service.text spec ∧ ∀ key ∈ spec.required, options.Gives key := by
  simp only [← spec?_eq_some_iff, ← missing?_eq_none_iff]
  cases known : provider.spec? service.text with
  | none => simp [configure_of_unknown known]
  | some spec =>
    rw [configure_of_spec known]
    cases lacking : missing? spec options <;> simp [lacking]

theorem configure_eq_error_iff {error : ServiceError} :
    provider.configure service options = .error error ↔ provider.Refuses service options error := by
  constructor
  · intro failed
    cases known : provider.spec? service.text with
    | none =>
      rw [configure_of_unknown known] at failed
      cases failed
      exact .unknown (spec?_eq_none_iff.mp known)
    | some spec =>
      rw [configure_of_spec known] at failed
      cases lacking : missing? spec options with
      | none =>
        rw [lacking] at failed
        cases failed
      | some key =>
        rw [lacking] at failed
        cases failed
        obtain ⟨absent, given, rest, split, earlier⟩ := missing?_eq_some_iff.mp lacking
        exact .incomplete (spec?_eq_some_iff.mp known) split earlier absent
  · rintro (absent | ⟨chosen, split, earlier, absent⟩)
    · exact configure_of_unknown (spec?_eq_none_iff.mpr absent) options
    · have lacking := missing?_eq_some_iff.mpr ⟨absent, _, _, split, earlier⟩
      rw [configure_of_spec (spec?_eq_some_iff.mpr chosen), lacking]

theorem Refuses.of_agree {other : Options} {error : ServiceError}
    (agree : ∀ spec, provider.Chooses service.text spec →
      ∀ key ∈ spec.required, (options.Gives key ↔ other.Gives key))
    (refused : provider.Refuses service options error) : provider.Refuses service other error := by
  cases refused with
  | unknown absent => exact .unknown absent
  | @incomplete spec given rest key chosen split earlier absent =>
    have required := agree spec chosen
    rw [split] at required
    refine .incomplete chosen split ?_ ?_
    · intro first member
      exact (required first (List.mem_append_left _ member)).mp (earlier first member)
    · intro there
      exact absent ((required key (by simp)).mpr there)

end TableProvider

/-- Waited for or awaited, a service is opened if and only if the first service of the table with its
name has all its required options given.  Every refusal says what stands in the way first, and whoever
gives the same required options is refused alike, with whatever other options. -/
theorem construction_decided (provider : TableProvider) (style : CallStyle) (service : ServiceName)
    (options : Options) :
    let outcome (given : Options) := (provider.asModule.construct style service given).outcome
    ((∃ handle, outcome options = .ok handle) ↔
      ∃ spec, provider.Chooses service.text spec ∧ ∀ key ∈ spec.required, options.Gives key) ∧
    (∀ error, outcome options = .error error ↔ provider.Refuses service options error) ∧
    ∀ other : Options,
      (∀ spec, provider.Chooses service.text spec →
        ∀ key ∈ spec.required, (options.Gives key ↔ other.Gives key)) →
      ∀ error, outcome options = .error error ↔ outcome other = .error error := by
  intro outcome
  have configured (given : Options) : outcome given = provider.configure service given :=
    provider.outcome_construct service given
  have refused (given : Options) (error : ServiceError) :
      outcome given = .error error ↔ provider.Refuses service given error := by
    rw [configured, TableProvider.configure_eq_error_iff]
  refine ⟨?_, refused options, ?_⟩
  · rw [configured]
    exact TableProvider.exists_configure_eq_ok_iff
  · intro other agree error
    rw [refused, refused]
    constructor
    · exact TableProvider.Refuses.of_agree agree
    · exact TableProvider.Refuses.of_agree fun spec chosen key member =>
        (agree spec chosen key member).symm

/-- Two services of one name; the first looks for a directory that is a credential and required. -/
def TableProvider.doubled : TableProvider where
  id := ⟨"doubled", by decide⟩
  specs :=
    [{ name := "archive", required := ["root", "key", "root"], secrets := ["key", "spare"],
        probeKey := some "key" },
      { name := "archive" }]

def ServiceName.doubled : ServiceName := ⟨"archive", by decide⟩

/-- The directory is given but empty. -/
def Options.hollow : Options := .ofList [("key", ""), ("root", "/data"), ("spare", "")]

theorem construction_of_doubled :
    (TableProvider.doubled.asModule.construct .awaited .doubled .hollow).outcome =
      .error ⟨.configInvalid, "option 'key' is required", [("service", "archive")]⟩ := by
  obtain ⟨_, refused, _⟩ := construction_decided .doubled .awaited .doubled .hollow
  have chosen : TableProvider.doubled.Chooses "archive" _ := ⟨[], _, rfl, rfl, by simp⟩
  have rootGiven : ∀ earlier ∈ ["root"], Options.hollow.Gives earlier := by
    intro earlier member
    obtain rfl := List.mem_singleton.mp member
    exact ⟨"/data", rfl, by decide⟩
  have keyEmpty : ¬ Options.hollow.Gives "key" := by
    rintro ⟨value, found, filled⟩
    cases found
    exact filled rfl
  exact (refused _).mpr <| @TableProvider.Refuses.incomplete _ .doubled _ _ ["root"] ["root"] "key"
    chosen rfl rootGiven keyEmpty

/-! ## What a handle holds -/

/-- Every option stands on one side, with its value, and the probe looks at neither. -/
structure Handle.Parts (handle : Handle) (spec : ServiceSpec) (options : Options) : Prop where
  keys : (handle.settings.keys ++ handle.secrets.keys).Perm options.keys
  disjoint : handle.settings.keys.Disjoint handle.secrets.keys
  secret : ∀ key ∈ options.keys, (key ∈ handle.secrets.keys ↔ key ∈ spec.secrets)
  settings : ∀ key value, handle.settings.get? key = some value ↔
    key ∉ spec.secrets ∧ options.get? key = some value
  secrets : ∀ key value, handle.secrets.get? key = some ⟨value⟩ ↔
    key ∈ spec.secrets ∧ options.get? key = some value
  probe : ∀ path, handle.probe = some path ↔
    ∃ key, spec.probeKey = some key ∧ options.get? key = some path

theorem TableProvider.assemble_parts (provider : TableProvider) (service : ServiceName)
    (spec : ServiceSpec) (options : Options) :
    (provider.assemble service spec options).Parts spec options := by
  have shown : (provider.assemble service spec options).settings = spec.shown options := by
    rw [assemble_eq]
  have hidden : (provider.assemble service spec options).secrets = spec.hidden options := by
    rw [assemble_eq]
  constructor
  case keys =>
    have parted := List.filter_append_perm (fun key => decide (key ∉ spec.secrets)) options.keys
    simp only [decide_not, Bool.not_not] at parted
    rw [shown, hidden, spec.keys_shown, spec.keys_hidden]
    simpa only [decide_not] using parted
  case disjoint =>
    rw [shown, hidden, spec.keys_shown, spec.keys_hidden]
    intro key visible secret
    exact of_decide_eq_true (List.mem_filter.mp visible).2
      (of_decide_eq_true (List.mem_filter.mp secret).2)
  case secret =>
    intro key member
    rw [hidden, spec.keys_hidden]
    simp [member]
  case settings =>
    intro key value
    rw [shown, spec.get?_shown]
    by_cases secret : key ∈ spec.secrets <;> simp [secret]
  case secrets =>
    intro key value
    rw [hidden, spec.get?_hidden]
    by_cases secret : key ∈ spec.secrets <;> simp [secret]
  case probe =>
    intro path
    rw [assemble_eq]
    exact Option.bind_eq_some_iff

/-- Whatever the table lists under several heads, a handle that is opened has every option of its caller
on one side, with its value: the credentials of the chosen service among the secrets, all others among
the settings.  The probe has the value of its key, whichever side that is on. -/
theorem options_parted {provider : TableProvider} {style : CallStyle} {service : ServiceName}
    {options : Options} {handle : Handle}
    (opened : (provider.asModule.construct style service options).outcome = .ok handle) :
    ∃ spec, provider.Chooses service.text spec ∧ handle.Parts spec options := by
  have configured : provider.configure service options = .ok handle :=
    (provider.outcome_construct service options).symm.trans opened
  obtain ⟨spec, known, rfl⟩ := TableProvider.configure_eq_ok configured
  exact ⟨spec, TableProvider.spec?_eq_some_iff.mp known,
    provider.assemble_parts service spec options⟩

theorem options_parted_of_doubled :
    ∃ handle, (TableProvider.doubled.asModule.construct .blocking .doubled
        (.ofList [("key", "/srv"), ("root", "/data")])).outcome = .ok handle ∧
      handle.secrets.get? "key" = some ⟨"/srv"⟩ ∧ "key" ∉ handle.settings.keys ∧
      handle.settings.get? "root" = some "/data" ∧ handle.probe = some "/srv" := by
  let options : Options := .ofList [("key", "/srv"), ("root", "/data")]
  refine ⟨_, rfl, ?_⟩
  obtain ⟨spec, chosen, parts⟩ :=
    @options_parted .doubled .blocking .doubled options _ rfl
  obtain rfl : _ = spec := Option.some.inj (TableProvider.spec?_eq_some_iff.mpr chosen)
  have secret := (parts.secrets "key" "/srv").mpr ⟨by simp, rfl⟩
  refine ⟨secret, ?_, ?_, ?_⟩
  · intro shown
    exact parts.disjoint shown (SortedMap.mem_keys_iff.mpr ⟨_, secret⟩)
  · exact (parts.settings "root" "/data").mpr ⟨by simp, rfl⟩
  · exact (parts.probe "/srv").mpr ⟨"key", rfl, rfl⟩

end ServiceRouting
