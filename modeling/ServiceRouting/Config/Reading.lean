import ServiceRouting.Data.Forms
import ServiceRouting.File.Access
import ServiceRouting.Toml.Report

/-!
# Reading settings

Settings are read from TOML.  A file that does not exist stands for the settings that hold where
nothing is said; any other trouble with a file is an error.
-/

set_option autoImplicit false

namespace ServiceRouting

/-- An array for a record of settings may be longer than the record. -/
def tomlRules : DataRules := ⟨true⟩

namespace RouterConfig

def ofToml (text : String) : Except RoutingError RouterConfig :=
  match Toml.read? text with
  | none => .error (.config .malformed)
  | some root =>
    match RouterConfig.decode tomlRules root.datum with
    | .ok config => .ok config
    | .error misfit =>
      let place := root.place? none misfit.path
      .error (.config (.misfit (Toml.report text place misfit.cause.describe)))

def ofBytes (path : String) (bytes : ByteArray) : Except RoutingError RouterConfig :=
  match decodeText bytes with
  | .ok text => ofToml text
  | .error fault => .error (.config (.unreadable path fault.describe))

def ofFile (path : String) : Except FileFault ByteArray → Except RoutingError RouterConfig
  | .ok bytes => ofBytes path bytes
  | .error .notFound => .ok {}
  | .error fault => .error (.config (.unreadable path fault.describe))

def load {m : Type → Type} [Monad m] (files : Files m) (path : String) :
    m (Except RoutingError RouterConfig) := do
  return ofFile path (← files.read path)

end RouterConfig

/-! ## Where settings are kept -/

/-- A path below a directory. -/
def joinPath (directory inside : String) : String :=
  if directory.endsWith "/" then directory ++ inside else directory ++ "/" ++ inside

/-- The home directory that was set, unless it is empty, else the one of the account. -/
def homeDirectory? (set account : Option String) : Option String :=
  (set.filter fun path => path != "").or account

def defaultConfigPath (home : Option String) : Except RoutingError String :=
  match home with
  | some directory => .ok (joinPath directory ".config/capability-router/config.toml")
  | none => .error (.config .noHome)

end ServiceRouting
