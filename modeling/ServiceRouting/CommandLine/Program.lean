import ServiceRouting.CommandLine.Commands
import ServiceRouting.CommandLine.LogFilter
import ServiceRouting.Config.Reading
import ServiceRouting.Text.Likeness

/-!
# The program

One run reads the arguments, then the settings, makes a router and carries out the command.  What
it prints on the side is a list of notices: log records that the filter shows, warnings, and the
error that ended the run.
-/

set_option autoImplicit false

namespace ServiceRouting

namespace CommandLine

/-- What a run finds around it. -/
structure Surroundings (m : Type → Type) where
  files : Files m
  home : Option String
  /-- A log filter that overrides the one of the settings. -/
  logSpec : Option String

inductive Notice where
  | logged (record : LogRecord)
  | line (text : String)
  deriving DecidableEq

/-- The outcome of a run. -/
structure Finished where
  exitCode : Nat
  output : String
  notices : List Notice

/-! ## Notices -/

/-- A record with its level in a column, and later lines of its message set in. -/
def recordText (stamp : String) (record : LogRecord) : String :=
  "[" ++ stamp ++ Layout.column 5 record.level.name ++ " " ++ record.component.target ++ "] " ++
    Layout.hang 4 record.message ++ "\n"

/-- What a notice adds to the side output.  Records lose their control sequences, and an unfinished
one takes the end of its line along. -/
def Notice.text (stamp : String) : Notice → String
  | logged record => Screen.strip true (recordText stamp record)
  | line text => text ++ "\n"

def shownRecords (filter : LogFilter) (records : List LogRecord) : List Notice :=
  (records.filter filter.shows).map Notice.logged

def errorLine (failure : RoutingError) : Notice :=
  .line ("Error: " ++ failure.describe)

/-- A page of help that was asked for is output; everything else is an error. -/
def refusal : UsageError → Finished
  | .helpWanted topic => ⟨0, topic.text, []⟩
  | error => ⟨2, "", [.line (error.line true)]⟩

/-! ## Running -/

def loadedRecord (path : String) : LogRecord :=
  ⟨.debug, .program, s!"configuration loaded from {path}"⟩

/-- Carries out a command over a router that was built or not. -/
def runBuilt [Matcher] {m : Type → Type} [Monad m] (files : Files m) (filter : LogFilter)
    (built : BuiltRouter) (invocation : Invocation) : m Finished := do
  match built.outcome with
  | .error failure =>
    return ⟨1, "", shownRecords filter built.table.log ++ [errorLine failure]⟩
  | .ok router =>
    let result ← run files router.routing invocation.json built.table invocation.command
    let records := shownRecords filter result.table.log
    match result.outcome with
    | .ok () => return ⟨0, result.output, records⟩
    | .error failure => return ⟨1, result.output, records ++ [errorLine failure]⟩

def runConfigured [Matcher] {m : Type → Type} [Monad m] (surroundings : Surroundings m)
    (path : String) (config : RouterConfig) (invocation : Invocation) : m Finished := do
  let parsed := LogFilter.parse (surroundings.logSpec.getD config.logging.level)
  let first := parsed.warnings.map Notice.line ++
    shownRecords parsed.filter [loadedRecord path]
  let finished ← runBuilt surroundings.files parsed.filter (Router.ofConfig config) invocation
  return { finished with notices := first ++ finished.notices }

def configPath (home : Option String) (invocation : Invocation) :
    Except RoutingError String :=
  match invocation.config with
  | some path => .ok path
  | none => defaultConfigPath home

def runInvocation [Matcher] {m : Type → Type} [Monad m] (surroundings : Surroundings m)
    (invocation : Invocation) : m Finished := do
  match configPath surroundings.home invocation with
  | .error failure => return ⟨1, "", [errorLine failure]⟩
  | .ok path =>
    match ← RouterConfig.load surroundings.files path with
    | .error failure => return ⟨1, "", [errorLine failure]⟩
    | .ok config => runConfigured surroundings path config invocation

/-- The program makes its matches with `Likeness.matcher`. -/
def runProgram {m : Type → Type} [Monad m] (surroundings : Surroundings m)
    (arguments : List String) : m Finished :=
  match parse arguments with
  | .error error => return refusal error
  | .ok invocation => runInvocation surroundings invocation

end CommandLine

end ServiceRouting
