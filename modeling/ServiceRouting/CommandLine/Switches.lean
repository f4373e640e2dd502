/-!
# Commands and switches of the program

The words that the program knows: its commands, the flags and the options that take a value, and
which of them may stand where.
-/

set_option autoImplicit false

namespace ServiceRouting

namespace CommandLine

inductive Verb where
  | services
  | providers
  | resolve
  | create
  deriving DecidableEq, Repr

def Verb.name : Verb → String
  | services => "services"
  | providers => "providers"
  | resolve => "resolve"
  | create => "create"

def Verb.all : List Verb :=
  [services, providers, resolve, create]

def Verb.named? (name : String) : Option Verb :=
  all.find? fun verb => verb.name == name

/-- Arguments stand before the command or after it. -/
inductive Level where
  | program
  | within (verb : Verb)
  deriving DecidableEq, Repr

inductive Flag where
  | json
  | async
  deriving DecidableEq, Repr

inductive ValueOption where
  | config
  | pair
  deriving DecidableEq, Repr

inductive Switch where
  | flag (flag : Flag)
  | option (option : ValueOption)
  /-- Asks for the page of help of its level. -/
  | help
  deriving DecidableEq, Repr

def Flag.shown : Flag → String
  | json => "--json"
  | async => "--async"

def ValueOption.shown : ValueOption → String
  | config => "--config <CONFIG>"
  | pair => "--option <OPTIONS>"

namespace Level

def long? : Level → String → Option Switch
  | _, "json" => some (.flag .json)
  | _, "help" => some .help
  | program, "config" => some (.option .config)
  | within .create, "option" => some (.option .pair)
  | within .create, "async" => some (.flag .async)
  | _, _ => none

def short? : Level → Char → Option Switch
  | _, 'h' => some .help
  | program, 'c' => some (.option .config)
  | within .create, 'o' => some (.option .pair)
  | _, _ => none

def takesService : Level → Bool
  | within .resolve => true
  | within .create => true
  | _ => false

end Level

end CommandLine

end ServiceRouting
