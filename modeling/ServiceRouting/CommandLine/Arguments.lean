import ServiceRouting.CommandLine.Help
import ServiceRouting.Module
import ServiceRouting.Text.Screen

/-!
# Arguments of the program

The arguments name one of four commands, with flags and options before and after it.  The value of
an option may be attached to it or follow as the next argument; it is examined when the next thing
on its level is named, so a later argument that is not known at all is reported first.  After two
hyphens all arguments are operands.  The word `help` in the place of a command asks for a page.
-/

set_option autoImplicit false

namespace ServiceRouting

namespace CommandLine

/-! ## What the arguments ask for -/

inductive Command where
  | services
  | providers
  /-- Which provider owns a service. -/
  | resolve (service : String)
  /-- Opens a service and checks it. -/
  | create (service : String) (options : List (String × String)) (style : CallStyle)
  deriving DecidableEq

structure Invocation where
  /-- The file of settings, if it is not the usual one. -/
  config : Option String
  json : Bool
  command : Command
  deriving DecidableEq

/-! ## Refusals -/

/-- Why arguments are not carried out; to show a page of help is one of the reasons. -/
inductive UsageError where
  | unknownCommand (name : String)
  | unexpectedArgument (name : String)
  | missingService
  | missingValue (option : ValueOption)
  | noPair (text : String)
  | repeated (name : String)
  | unneededValue (value name : String)
  | missingCommand
  /-- Without arguments the program shows its page of help, as an error. -/
  | nothingGiven
  | helpWanted (topic : HelpTopic)
  deriving DecidableEq, Repr

namespace UsageError

/-- A part of the arguments, which stands out in yellow. -/
def given (text : String) : String :=
  Screen.styled 33 text

/-- What closes a complaint; its last word stands out in bold. -/
def advice : String :=
  "\n\nFor more information, try '" ++ Screen.styled 1 "--help" ++ "'.\n"

/-- The text for a screen.  Only where it ends in a part of the arguments does what closes it
matter to its first line. -/
def screenText : UsageError → String
  | unknownCommand name => "error: unrecognized subcommand '" ++ given name ++ "'"
  | unexpectedArgument name => "error: unexpected argument '" ++ given name ++ "' found"
  | missingService => "error: the following required arguments were not provided:"
  | missingValue option =>
    "error: a value is required for '" ++ option.shown ++ "' but none was supplied"
  | noPair text =>
    "error: invalid value '" ++ given text ++ "' for '" ++ ValueOption.pair.shown ++
      "': expected key=value, got '" ++ text ++ "'" ++ advice
  | repeated name => s!"error: the argument '{name}' cannot be used multiple times"
  | unneededValue value name =>
    "error: unexpected value '" ++ given value ++ "' for '" ++ name ++
      "' found; no more were expected"
  | missingCommand => "error: 'caprouter' requires a subcommand but one was not provided"
  | nothingGiven => HelpTopic.program.text
  | helpWanted topic => topic.text

/-- The line under which a refusal is known.  Written to a stream, the text is read by one reader
that resumes unfinished control sequences. -/
def line (streamed : Bool) (error : UsageError) : String :=
  Layout.firstLine (Screen.strip streamed error.screenText)

end UsageError

/-! ## Options as key and value -/

/-- A pair is cut at its first equals sign; the key must be more than white space. -/
def parsePair? (text : String) : Option (String × String) :=
  match Pieces.splitOnce? '=' text.toList with
  | none => none
  | some (before, value) =>
    let key := Layout.trim before
    if key = [] then none else some (String.ofList key, String.ofList value)

theorem parsePair?_eq_some_iff {text key value : String} :
    parsePair? text = some (key, value) ↔
      ∃ before, text.toList = before ++ '=' :: value.toList ∧ '=' ∉ before ∧
        Layout.trim before ≠ [] ∧ key = String.ofList (Layout.trim before) := by
  unfold parsePair?
  cases cut : Pieces.splitOnce? '=' text.toList with
  | none =>
    simp only [reduceCtorEq, false_iff]
    rintro ⟨before, parts, absent, _, _⟩
    have found := Pieces.splitOnce?_eq_some_iff.mpr ⟨parts, absent⟩
    rw [cut] at found
    exact absurd found (by simp)
  | some halves =>
    obtain ⟨parts, absent⟩ := Pieces.splitOnce?_eq_some_iff.mp cut
    constructor
    · intro accepted
      by_cases blank : Layout.trim halves.1 = []
      · simp [blank] at accepted
      · simp only [blank, if_false, Option.some.injEq, Prod.mk.injEq] at accepted
        obtain ⟨rfl, rfl⟩ := accepted
        exact ⟨halves.1, by simpa using parts, absent, blank, rfl⟩
    · rintro ⟨before, others, missing, shown, rfl⟩
      have found := Pieces.splitOnce?_eq_some_iff.mpr ⟨others, missing⟩
      rw [cut] at found
      cases found
      simp [shown]

/-! ## One level -/

/-- An option that was named, with the argument after it if there has been one. -/
structure Pending where
  option : ValueOption
  value : Option String
  deriving DecidableEq, Repr

/-- What has been read on one level. -/
structure Reading where
  json : Bool := false
  async : Bool := false
  config : Option String := none
  options : List (String × String) := []
  service : Option String := none
  pending : Option Pending := none
  onlyOperands : Bool := false
  deriving DecidableEq, Repr

namespace Reading

/-- Whether the next argument may be the value of an option. -/
def awaitsValue (reading : Reading) : Bool :=
  match reading.pending with
  | some pending => pending.value.isNone
  | none => false

/-- Gives an option its value. -/
def accept (reading : Reading) (value : String) : ValueOption → Except UsageError Reading
  | .config =>
    if reading.config.isSome then .error (.repeated ValueOption.config.shown)
    else if value = "" then .error (.missingValue .config)
    else .ok { reading with config := some value }
  | .pair =>
    match parsePair? value with
    | some pair => .ok { reading with options := reading.options ++ [pair] }
    | none => .error (.noPair value)

/-- Examines the option that was named last. -/
def settle (reading : Reading) : Except UsageError Reading :=
  match reading.pending with
  | none => .ok reading
  | some ⟨option, none⟩ => .error (.missingValue option)
  | some ⟨option, some value⟩ => { reading with pending := none }.accept value option

def raise (reading : Reading) (flag : Flag) : Except UsageError Reading := do
  let settled ← reading.settle
  match flag with
  | .json =>
    if settled.json then .error (.repeated flag.shown) else .ok { settled with json := true }
  | .async =>
    if settled.async then .error (.repeated flag.shown) else .ok { settled with async := true }

def showHelp (reading : Reading) (level : Level) : Except UsageError Reading := do
  let _ ← reading.settle
  .error (.helpWanted level.topic)

/-- Names an option, with the value that is attached to it. -/
def name (reading : Reading) (option : ValueOption) (attached : Option String) :
    Except UsageError Reading := do
  let settled ← reading.settle
  match attached with
  | some value => settled.accept value option
  | none => .ok { settled with pending := some ⟨option, none⟩ }

/-- What follows two hyphens: a name and perhaps a value behind an equals sign. -/
def readLong (reading : Reading) (level : Level) (text : List Char) :
    Except UsageError Reading :=
  let (before, attached) := match Pieces.splitOnce? '=' text with
    | some (before, value) => (before, some (String.ofList value))
    | none => (text, none)
  match level.long? (String.ofList before), attached with
  | none, _ => .error (.unexpectedArgument ("--" ++ String.ofList before))
  | some (.option option), attached => reading.name option attached
  | some _, some value => .error (.unneededValue value ("--" ++ String.ofList before))
  | some (.flag flag), none => reading.raise flag
  | some .help, none => reading.showHelp level

/-- What follows one hyphen: a letter and perhaps a value, with or without an equals sign. -/
def readShort (reading : Reading) (level : Level) (letter : Char) (rest : List Char) :
    Except UsageError Reading :=
  match level.short? letter, rest with
  | none, _ => .error (.unexpectedArgument (String.ofList ['-', letter]))
  | some (.option option), [] => reading.name option none
  | some (.option option), '=' :: value => reading.name option (some (String.ofList value))
  | some (.option option), value => reading.name option (some (String.ofList value))
  | some (.flag flag), _ => reading.raise flag
  | some .help, _ => reading.showHelp level

def unexpectedOperand (reading : Reading) (level : Level) (text : String) : UsageError :=
  match level with
  | .program =>
    if reading.onlyOperands ∧ (HelpTopic.named? text).isSome then .unexpectedArgument text
    else .unknownCommand text
  | .within _ => .unexpectedArgument text

def readOperand (reading : Reading) (level : Level) (text : String) :
    Except UsageError Reading :=
  if level.takesService ∧ reading.service = none then do
    let settled ← reading.settle
    .ok { settled with service := some text }
  else .error (reading.unexpectedOperand level text)

/-- An argument that is no switch. -/
def readPlain (reading : Reading) (level : Level) (text : String) : Except UsageError Reading :=
  match reading.pending with
  | some ⟨option, none⟩ => .ok { reading with pending := some ⟨option, some text⟩ }
  | _ => reading.readOperand level text

def read (level : Level) (reading : Reading) (argument : String) : Except UsageError Reading :=
  if reading.onlyOperands then reading.readOperand level argument
  else
    match argument.toList with
    | ['-', '-'] => .ok { reading with onlyOperands := true }
    | '-' :: '-' :: text => reading.readLong level text
    | '-' :: letter :: rest => reading.readShort level letter rest
    | _ => reading.readPlain level argument

end Reading

/-! ## The whole command line -/

def demandService (service : Option String) : Except UsageError String :=
  match service with
  | some service => .ok service
  | none => .error .missingService

def Verb.command (verb : Verb) (reading : Reading) : Except UsageError Command :=
  match verb with
  | services => .ok .services
  | providers => .ok .providers
  | resolve => do .ok (.resolve (← demandService reading.service))
  | create => do
    let service ← demandService reading.service
    .ok (.create service reading.options (if reading.async then .awaited else .blocking))

/-- The arguments after the command. -/
def parseVerb (verb : Verb) (arguments : List String) :
    Except UsageError (Command × Reading) := do
  let reading ← arguments.foldlM (Reading.read (.within verb)) {}
  let settled ← reading.settle
  .ok (← verb.command settled, settled)

/-- The command or page of help that an argument names, where a command may stand. -/
def topicAt? (reading : Reading) (argument : String) : Option HelpTopic :=
  if reading.onlyOperands ∨ reading.awaitsValue then none else HelpTopic.named? argument

/-- The page that the arguments after `help` name. -/
def wantedTopic : List String → Except UsageError HelpTopic
  | [] => .ok .program
  | name :: rest =>
    match HelpTopic.named? name, rest with
    | none, _ => .error (.unknownCommand name)
    | some topic, [] => .ok topic
    | some _, extra :: _ => .error (.unknownCommand extra)

def withoutCommand (reading : Reading) : UsageError :=
  if reading.json ∨ reading.config.isSome then .missingCommand else .nothingGiven

/-- The arguments behind a command's name; what stands before it has been read. -/
def parseTopic (reading : Reading) (arguments : List String) :
    HelpTopic → Except UsageError Invocation
  | .verb verb => do
    let (command, inner) ← parseVerb verb arguments
    let settled ← reading.settle
    .ok ⟨settled.config, settled.json || inner.json, command⟩
  | _ => do
    .error (.helpWanted (← wantedTopic arguments))

def parseFrom (reading : Reading) : List String → Except UsageError Invocation
  | [] => do
    let settled ← reading.settle
    .error (withoutCommand settled)
  | argument :: rest =>
    match topicAt? reading argument with
    | some topic => parseTopic reading rest topic
    | none => do
      let next ← reading.read .program argument
      parseFrom next rest

def parse (arguments : List String) : Except UsageError Invocation :=
  parseFrom {} arguments

end CommandLine

end ServiceRouting
