import ServiceRouting.Bundled

/-!
# Where modules come from

A source is asked to open the module of a provider.  It may return a module, say why there is none,
or panic, and it may answer differently every time it is asked; what it has been asked before is
all that its answer can hang on, beside the provider.
-/

set_option autoImplicit false

namespace ServiceRouting

abbrev Opening := Reply (Except LoadFailure Module)

structure Source where
  /-- The answer for a provider after the openings asked for earlier. -/
  answer : (earlier : List ProviderId) → ProviderId → Opening

/-! ## A table of modules -/

/-- Modules, failures and panics under the ids they are opened by. -/
structure StaticSource where
  openings : SortedMap String Opening

namespace StaticSource

def empty : StaticSource := ⟨.empty⟩

/-- Adds what opening `id` leads to, in place of what was there. -/
def add (source : StaticSource) (id : String) (opening : Opening) : StaticSource :=
  ⟨source.openings.insert id opening⟩

def addModule (source : StaticSource) (id : String) (provider : Module) : StaticSource :=
  source.add id (.answered (.ok provider))

/-- An id that nothing was added for is not installed. -/
def source (source : StaticSource) : Source where
  answer _ id := (source.openings.get? id.text).getD (.answered (.error .notInstalled))

def report (source : StaticSource) : String :=
  Quoted.set source.openings.keys

end StaticSource

/-! ## The bundled providers as a source -/

/-- The bundled providers, some of them treated as not installed. -/
structure BuiltinSource where
  disabled : SortedMap String Unit
  deriving DecidableEq

namespace BuiltinSource

def empty : BuiltinSource := ⟨.empty⟩

def disable (source : BuiltinSource) (id : String) : BuiltinSource :=
  ⟨source.disabled.insert id ()⟩

def open? (source : BuiltinSource) (id : String) : Option BundledProvider :=
  if source.disabled.contains id then none else BundledProvider.ofId? id

def source (source : BuiltinSource) : Source where
  answer _ id :=
    match source.open? id.text with
    | some provider => .answered (.ok provider.tableProvider.asModule)
    | none => .answered (.error .notInstalled)

def report (source : BuiltinSource) : String :=
  Quoted.record "BuiltinSource" [("disabled", Quoted.set source.disabled.keys)]

end BuiltinSource

end ServiceRouting
