import ServiceRouting.CommandLine.Switches
import ServiceRouting.Text.Layout

/-!
# Pages of help

A page says what the program or one of its commands is for, how it is called and what it may be
given.  The entries of a section stand in two columns.
-/

set_option autoImplicit false

namespace ServiceRouting

namespace CommandLine

inductive HelpTopic where
  | program
  | verb (verb : Verb)
  /-- The command that shows the pages. -/
  | help
  deriving DecidableEq, Repr

structure HelpEntry where
  name : String
  about : String
  deriving DecidableEq, Repr

structure HelpSection where
  title : String
  entries : List HelpEntry
  deriving DecidableEq, Repr

structure HelpPage where
  about : String
  /-- What follows the name of the program. -/
  usage : String
  sections : List HelpSection
  deriving DecidableEq, Repr

/-! ## What there is to tell -/

def Verb.about : Verb → String
  | services => "List every service with its provider and load status"
  | providers => "List providers with their install hints"
  | resolve => "Show which provider owns a service, without loading it"
  | create => "Open a service and probe it"

def Level.topic : Level → HelpTopic
  | program => .program
  | within verb => .verb verb

namespace HelpEntry

def ofVerb (verb : Verb) : HelpEntry :=
  ⟨verb.name, verb.about⟩

def help : HelpEntry :=
  ⟨"help", "Print this message or the help of the given subcommand(s)"⟩

def json : HelpEntry :=
  ⟨"    --json", "Print listings as JSON"⟩

def async : HelpEntry :=
  ⟨"    --async", ""⟩

def config : HelpEntry :=
  ⟨"-c, " ++ ValueOption.config.shown, ""⟩

def pair : HelpEntry :=
  ⟨"-o, " ++ ValueOption.pair.shown, ""⟩

def helpSwitch : HelpEntry :=
  ⟨"-h, --help", "Print help"⟩

def service : HelpEntry :=
  ⟨"<SERVICE>", ""⟩

def command : HelpEntry :=
  ⟨"[COMMAND]...", "Print help for the subcommand(s)"⟩

end HelpEntry

namespace HelpTopic

def named? (name : String) : Option HelpTopic :=
  if name = HelpEntry.help.name then some help else (Verb.named? name).map verb

def verbPage (verb : Verb) (operands : String) (sections : List HelpSection) : HelpPage :=
  ⟨verb.about, verb.name ++ " [OPTIONS]" ++ operands, sections⟩

def page : HelpTopic → HelpPage
  | program =>
    { about := "Inspect provider modules and open services through the capability router"
      usage := "[OPTIONS] <COMMAND>"
      sections := [⟨"Commands", Verb.all.map .ofVerb ++ [.help]⟩,
        ⟨"Options", [.config, .json, .helpSwitch]⟩] }
  | verb .resolve =>
    verbPage .resolve " <SERVICE>"
      [⟨"Arguments", [.service]⟩, ⟨"Options", [.json, .helpSwitch]⟩]
  | verb .create =>
    verbPage .create " <SERVICE>"
      [⟨"Arguments", [.service]⟩, ⟨"Options", [.pair, .async, .json, .helpSwitch]⟩]
  | verb other => verbPage other "" [⟨"Options", [.json, .helpSwitch]⟩]
  | help =>
    { about := HelpEntry.help.about
      usage := "help [COMMAND]..."
      sections := [⟨"Arguments", [.command]⟩] }

end HelpTopic

/-! ## Writing -/

/-- The first column is as wide as the longest name, with or without a text behind it. -/
def HelpSection.text (part : HelpSection) : String :=
  let width := (part.entries.map fun entry => entry.name.length).foldl max 0
  part.title ++ ":" ++ String.join (part.entries.map fun entry =>
    "\n  " ++ Layout.column width entry.name ++ "  " ++ entry.about)

def HelpPage.text (page : HelpPage) : String :=
  "\n\n".intercalate ([page.about, "Usage: caprouter " ++ page.usage] ++
    page.sections.map HelpSection.text) ++ "\n"

def HelpTopic.text (topic : HelpTopic) : String :=
  topic.page.text

end CommandLine

end ServiceRouting
