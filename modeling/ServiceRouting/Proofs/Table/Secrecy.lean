import ServiceRouting.Bundled
import ServiceRouting.Proofs.Table.Configuration

/-!
# What credentials reach

Two callers may give a service the same options but for the values of its credentials.  A table
provider refuses both with one error or opens the service for both, and what it puts into the handles is
the same up to the credentials themselves (`credentials_stay_apart`).  The probe is a way round this:
where the directory to look for is itself a credential, reports and checks tell it
(`probe_tells_credential`).
-/

set_option autoImplicit false

namespace ServiceRouting

/-! ## Options that differ in credentials -/

/-- The same keys, with other values only for veiled ones, and where these are empty in one they are in
the other. -/
structure Options.AlikeBut (veiled : String → Prop) (first second : Options) : Prop where
  keys : first.keys = second.keys
  shown : ∀ key, ¬ veiled key → first.get? key = second.get? key
  blank : ∀ key, veiled key → (first.get? key = some "" ↔ second.get? key = some "")

namespace Options

variable {veiled : String → Prop} {first second : Options}

theorem mem_keys_iff {options : Options} {key : String} :
    key ∈ options.keys ↔ ∃ value, options.get? key = some value := by
  rw [keys, SortedMap.mem_keys_iff]
  rfl

theorem AlikeBut.mono (alike : first.AlikeBut veiled second) {wider : String → Prop}
    (covers : ∀ key, veiled key → wider key) : first.AlikeBut wider second where
  keys := alike.keys
  shown key visible := alike.shown key (mt (covers key) visible)
  blank key _ := by
    by_cases hidden : veiled key
    · exact alike.blank key hidden
    · rw [alike.shown key hidden]

theorem AlikeBut.size (alike : first.AlikeBut veiled second) : first.size = second.size := by
  have lengths := congrArg List.length alike.keys
  simp only [Options.keys, SortedMap.keys, List.length_map] at lengths
  exact lengths

theorem AlikeBut.get?_eq_none_iff (alike : first.AlikeBut veiled second) (key : String) :
    first.get? key = none ↔ second.get? key = none := by
  have present : key ∈ first.keys ↔ key ∈ second.keys := by rw [alike.keys]
  rw [mem_keys_iff, mem_keys_iff, ← Option.isSome_iff_exists, ← Option.isSome_iff_exists] at present
  rw [← Option.not_isSome_iff_eq_none, ← Option.not_isSome_iff_eq_none, present]

theorem provides_eq_false_iff {options : Options} {key : String} :
    options.provides key = false ↔ options.get? key = none ∨ options.get? key = some "" := by
  rw [provides]
  cases options.get? key <;> simp

theorem AlikeBut.provides (alike : first.AlikeBut veiled second) (key : String) :
    first.provides key = second.provides key := by
  have everywhere : first.AlikeBut (fun _ => True) second := alike.mono fun _ _ => trivial
  have blank : first.get? key = some "" ↔ second.get? key = some "" := everywhere.blank key trivial
  rw [Bool.eq_iff_iff, ← not_iff_not, Bool.not_eq_true, Bool.not_eq_true, provides_eq_false_iff,
    provides_eq_false_iff, alike.get?_eq_none_iff key, blank]

theorem insert_alike (options : Options) {key one two : String} (secret : veiled key)
    (given : one ≠ "") (givenToo : two ≠ "") :
    (options.insert key one).AlikeBut veiled (options.insert key two) := by
  have found (value other : String) : (options.insert key value).get? other =
      if key = other then some value else options.get? other :=
    SortedMap.get?_insert options.pairs key value other
  refine ⟨SortedMap.keys_insert_congr options.pairs key one two, ?_, ?_⟩
  · intro other visible
    have different : key ≠ other := by
      rintro rfl
      exact visible secret
    rw [found, found, if_neg different, if_neg different]
  · intro other _
    rw [found, found]
    by_cases same : key = other
    · simp [same, given, givenToo]
    · rw [if_neg same, if_neg same]

end Options

section Specs

variable {spec : ServiceSpec} {first second : Options}

theorem TableProvider.missing?_congr (alike : first.AlikeBut (· ∈ spec.secrets) second) :
    missing? spec first = missing? spec second := by
  simp only [missing?, alike.provides]

theorem ServiceSpec.shown_congr (alike : first.AlikeBut (· ∈ spec.secrets) second) :
    spec.shown first = spec.shown second := by
  refine SortedMap.ext_get? ?_
  intro key
  rw [get?_shown, get?_shown]
  by_cases secret : key ∈ spec.secrets
  · rw [if_pos secret, if_pos secret]
  · rw [if_neg secret, if_neg secret, alike.shown key secret]

theorem ServiceSpec.keys_hidden_congr (alike : first.AlikeBut (· ∈ spec.secrets) second) :
    (spec.hidden first).keys = (spec.hidden second).keys := by
  rw [keys_hidden, keys_hidden, alike.keys]

end Specs

/-! ## Handles that look alike -/

namespace Handle

/-- All that a handle holds is the same but for the values of credentials, and perhaps the probe. -/
structure Matches (first second : Handle) : Prop where
  service : first.service = second.service
  provider : first.provider = second.provider
  capability : first.capability = second.capability
  settings : first.settings = second.settings
  secretKeys : first.secrets.keys = second.secrets.keys

/-- Whoever does not ask for a credential cannot tell the handles apart, in whatever way reports show a
credential, if only they show all alike. -/
structure LooksLike (first second : Handle) : Prop where
  service : first.service = second.service
  provider : first.provider = second.provider
  capability : first.capability = second.capability
  report : ∀ shown : Secret → String, (∀ one other, shown one = shown other) →
    first.reportWith shown = second.reportWith shown
  check : ∀ {m : Type → Type} [Monad m] (files : Files m), first.check files = second.check files

variable {first second : Handle}

theorem check_congr (service : first.service = second.service) (probe : first.probe = second.probe)
    {m : Type → Type} [Monad m] (files : Files m) : first.check files = second.check files := by
  have verdict (path : String) (answer : Except FileFault Bool) :
      first.verdict path answer = second.verdict path answer := by
    unfold Handle.verdict atPath
    rw [service]
  rw [check, check, probe]
  simp only [verdict]

/-- A report tells of credentials that they are there. -/
theorem map_shown_secrets {shown : Secret → String} (hides : ∀ one other, shown one = shown other)
    (handle : Handle) :
    (handle.secrets.entries.map fun entry => (entry.1, shown entry.2)) =
      handle.secrets.keys.map fun key => (key, shown ⟨""⟩) := by
  rw [SortedMap.keys, List.map_map]
  refine List.map_congr_left ?_
  intro entry _
  exact congrArg (Prod.mk entry.1) (hides entry.2 ⟨""⟩)

theorem Matches.looksLike (same : first.Matches second) (probe : first.probe = second.probe) :
    first.LooksLike second where
  service := same.service
  provider := same.provider
  capability := same.capability
  report shown hides := by
    rw [reportWith, reportWith, map_shown_secrets hides, map_shown_secrets hides, same.service,
      same.provider, same.capability, same.settings, same.secretKeys, probe]
  check files := check_congr same.service probe files

end Handle

/-! ## Outcomes -/

/-- The same failure, or results that are alike. -/
inductive EndAlike {Failure Given : Type} (alike : Given → Given → Prop) :
    Except Failure Given → Except Failure Given → Prop where
  | failed (failure : Failure) : EndAlike alike (.error failure) (.error failure)
  | succeeded {first second : Given} : alike first second → EndAlike alike (.ok first) (.ok second)

theorem EndAlike.mono {Failure Given : Type} {alike other : Given → Given → Prop}
    {first second : Except Failure Given} (ends : EndAlike alike first second)
    (weaker : ∀ one two, alike one two → other one two) : EndAlike other first second := by
  cases ends with
  | failed failure => exact .failed failure
  | succeeded same => exact .succeeded (weaker _ _ same)

/-! ## Table providers -/

/-- If the directory to look for is a credential, it is the same in both options. -/
def ServiceSpec.ProbesAlike (spec : ServiceSpec) (first second : Options) : Prop :=
  ∀ key, spec.probeKey = some key → key ∈ spec.secrets → first.get? key = second.get? key

namespace TableProvider

variable {spec : ServiceSpec} {first second : Options}

theorem assemble_matches (alike : first.AlikeBut (· ∈ spec.secrets) second)
    (provider : TableProvider) (service : ServiceName) :
    (provider.assemble service spec first).Matches (provider.assemble service spec second) := by
  rw [assemble_eq, assemble_eq]
  exact ⟨rfl, rfl, rfl, ServiceSpec.shown_congr alike, ServiceSpec.keys_hidden_congr alike⟩

theorem assemble_looksLike (alike : first.AlikeBut (· ∈ spec.secrets) second)
    (probes : spec.ProbesAlike first second) (provider : TableProvider) (service : ServiceName) :
    (provider.assemble service spec first).LooksLike (provider.assemble service spec second) := by
  refine (assemble_matches alike provider service).looksLike ?_
  rw [assemble_eq, assemble_eq]
  -- The probe takes its path from the options, whichever side of the handle the key is on.
  cases probed : spec.probeKey with
  | none => rfl
  | some key =>
    by_cases secret : key ∈ spec.secrets
    · exact probes key probed secret
    · exact alike.shown key secret

theorem construct_alike {provider : TableProvider} {service : ServiceName}
    (alike : ∀ spec, provider.spec? service.text = some spec →
      first.AlikeBut (· ∈ spec.secrets) second) :
    (provider.construct service first).log = (provider.construct service second).log ∧
      EndAlike
        (fun one two => one.Matches two ∧
          ((∀ spec, provider.spec? service.text = some spec → spec.ProbesAlike first second) →
            one.LooksLike two))
        (provider.construct service first).outcome (provider.construct service second).outcome := by
  rw [construct, construct]
  cases known : provider.spec? service.text with
  | none =>
    rw [configure_of_unknown known, configure_of_unknown known]
    exact ⟨rfl, .failed _⟩
  | some spec =>
    have same := alike spec known
    rw [configure_of_spec known, configure_of_spec known, missing?_congr same, same.size]
    cases missing? spec second with
    | some key => exact ⟨rfl, .failed _⟩
    | none =>
      refine ⟨rfl, .succeeded ⟨assemble_matches same provider service, ?_⟩⟩
      intro probes
      exact assemble_looksLike same (probes spec rfl) provider service

end TableProvider

/-- Whatever a table says, options that differ in the credentials of a service lead to the same failure
or to handles that hold the same beside them, and the provider writes the same records.  The handles
look alike, unless the directory to look for is itself a credential in which the options differ. -/
theorem credentials_stay_apart (provider : TableProvider) (service : ServiceName)
    (first second : Options)
    (alike : ∀ spec, provider.spec? service.text = some spec →
      first.AlikeBut (· ∈ spec.secrets) second) (style : CallStyle) :
    let one := provider.asModule.construct style service first
    let two := provider.asModule.construct style service second
    one.log = two.log ∧ EndAlike Handle.Matches one.outcome two.outcome ∧
      ((∀ spec, provider.spec? service.text = some spec → spec.ProbesAlike first second) →
        EndAlike Handle.LooksLike one.outcome two.outcome) := by
  intro one two
  obtain ⟨log, ends⟩ := TableProvider.construct_alike alike
  refine ⟨log, ends.mono fun _ _ related => related.1, ?_⟩
  intro probes
  exact ends.mono fun _ _ related => related.2 probes

def ServiceName.s3 : ServiceName := ⟨"s3", by decide⟩

/-- What opens the object store, with a given key. -/
def Options.bucket (key : String) : Options :=
  (Options.empty.insert "bucket" "backups").insert "secret_access_key" key

/-- Two keys to one bucket are not told apart. -/
theorem credentials_stay_apart_in_s3 :
    let one := BundledProvider.core.tableProvider.asModule.construct .awaited .s3
      (.bucket "hunter2")
    let two := BundledProvider.core.tableProvider.asModule.construct .awaited .s3
      (.bucket "swordfish")
    (∃ handle, one.outcome = .ok handle) ∧ one.log = two.log ∧
      EndAlike Handle.LooksLike one.outcome two.outcome := by
  intro one two
  have alike : ∀ spec, BundledProvider.core.tableProvider.spec? ServiceName.s3.text = some spec →
      (Options.bucket "hunter2").AlikeBut (· ∈ spec.secrets) (.bucket "swordfish") := by
    rintro spec ⟨⟩
    exact Options.insert_alike _ (by simp) (by decide) (by decide)
  have probes : ∀ spec, BundledProvider.core.tableProvider.spec? ServiceName.s3.text = some spec →
      spec.ProbesAlike (.bucket "hunter2") (.bucket "swordfish") := by
    rintro spec ⟨⟩ key ⟨⟩
  obtain ⟨log, _, looks⟩ := credentials_stay_apart BundledProvider.core.tableProvider .s3
    (.bucket "hunter2") (.bucket "swordfish") alike .awaited
  exact ⟨⟨_, rfl⟩, log, looks probes⟩

/-- A service that looks for a directory which is a credential. -/
def ServiceSpec.store : ServiceSpec :=
  { name := "store", secrets := ["dir"], probeKey := some "dir" }

def TableProvider.vault : TableProvider where
  id := ⟨"vault", by decide⟩
  specs := [.store]

def ServiceName.store : ServiceName := ⟨"store", by decide⟩

/-- Two directories that are credentials are told apart by the reports of the handles. -/
theorem probe_tells_credential :
    ¬ ∀ (provider : TableProvider) (service : ServiceName) (first second : Options),
      (∀ spec, provider.spec? service.text = some spec →
        first.AlikeBut (· ∈ spec.secrets) second) →
      ∀ style, EndAlike Handle.LooksLike (provider.asModule.construct style service first).outcome
        (provider.asModule.construct style service second).outcome := by
  intro claim
  have alike : ∀ spec, TableProvider.vault.spec? ServiceName.store.text = some spec →
      (Options.empty.insert "dir" "hunter2").AlikeBut (· ∈ spec.secrets)
        (Options.empty.insert "dir" "swordfish") := by
    rintro spec ⟨⟩
    exact Options.insert_alike .empty (List.mem_singleton_self _) (by decide) (by decide)
  have ends := claim .vault .store _ _ alike .blocking
  let opened (value : String) : Handle :=
    TableProvider.vault.assemble .store .store (Options.empty.insert "dir" value)
  have first : (TableProvider.vault.asModule.construct .blocking .store
      (Options.empty.insert "dir" "hunter2")).outcome = .ok (opened "hunter2") := rfl
  have second : (TableProvider.vault.asModule.construct .blocking .store
      (Options.empty.insert "dir" "swordfish")).outcome = .ok (opened "swordfish") := rfl
  rw [first, second] at ends
  cases ends with
  | succeeded same =>
    have telling : (opened "hunter2").report ≠ (opened "swordfish").report := by decide +kernel
    exact telling (same.report Secret.report fun _ _ => rfl)

end ServiceRouting
