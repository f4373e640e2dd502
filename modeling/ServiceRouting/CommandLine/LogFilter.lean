import ServiceRouting.Log
import ServiceRouting.Pattern.Meaning

/-!
# Which log records are shown

A filter is written as a list of directives between commas, each a level, a target or a target with
a level; the pattern behind a slash must occur in every record that is shown.  The directive with
the longest target that a record's target begins with decides.
-/

set_option autoImplicit false

namespace ServiceRouting

namespace CommandLine

/-- A directive without a level shows everything; level zero shows nothing. -/
structure LogDirective where
  target : Option String
  rank : Nat
  deriving DecidableEq, Repr

structure LogFilter where
  directives : List LogDirective
  /-- A pattern that must occur in the message. -/
  wanted : Option Pattern
  deriving DecidableEq, Repr

/-- A filter and the warnings about parts of its text that were left out. -/
structure ParsedFilter where
  filter : LogFilter
  warnings : List String
  deriving DecidableEq, Repr

namespace LogFilter

def highestRank : Nat := LogLevel.trace.rank

/-- The rank of a level by its name in letters of either case. -/
def rank? (name : String) : Option Nat :=
  [("off", 0), ("error", LogLevel.error.rank), ("warn", LogLevel.warn.rank),
    ("info", LogLevel.info.rank), ("debug", LogLevel.debug.rank),
    ("trace", LogLevel.trace.rank)].lookup name.toLower

def warning (problem : String) : String :=
  s!"warning: invalid logging spec {problem}, ignoring it"

def quoted (text : String) : String :=
  "'" ++ text ++ "'"

/-! ## Reading -/

/-- One part between commas, without white space around it. -/
def directive (part : String) : Except String LogDirective :=
  match Pieces.cut '=' part.toList with
  | [only] =>
    let name := String.ofList only
    match rank? name with
    | some rank => .ok ⟨none, rank⟩
    | none => .ok ⟨some name, highestRank⟩
  | [target, level] =>
    let name := String.ofList (Layout.trim level)
    if name = "" then .ok ⟨some (String.ofList target), highestRank⟩
    else
      match rank? name with
      | some rank => .ok ⟨some (String.ofList target), rank⟩
      | none => .error (warning (quoted name))
  | _ => .error (warning (quoted part))

/-- A later directive for the same target takes the place of an earlier one. -/
def put (directive : LogDirective) : List LogDirective → List LogDirective
  | [] => [directive]
  | first :: rest =>
    if first.target = directive.target then directive :: rest else first :: put directive rest

def addPart (parsed : List LogDirective × List String) (part : String) :
    List LogDirective × List String :=
  if part = "" then parsed
  else
    match directive part with
    | .ok directive => (put directive parsed.1, parsed.2)
    | .error warning => (parsed.1, parsed.2 ++ [warning])

def parts (text : List Char) : List String :=
  (Pieces.cut ',' text).map fun part => String.ofList (Layout.trim part)

/-- Without directives only errors are shown. -/
def ofDirectives (directives : List LogDirective) (wanted : Option Pattern) : LogFilter :=
  match directives with
  | [] => ⟨[⟨none, LogLevel.error.rank⟩], wanted⟩
  | directives => ⟨directives, wanted⟩

/-- The pattern behind the slash; a faulty one is left out with a warning. -/
def wantedPattern (text : String) : Option Pattern × List String :=
  match Pattern.ofText text with
  | .ok pattern => (some pattern, [])
  | .error fault =>
    (none, ["warning: invalid regex filter - " ++ fault.describe text ++ ", ignoring it"])

def parseParts (text : List Char) (wanted : Option Pattern × List String) : ParsedFilter :=
  let parsed := (parts text).foldl addPart ([], [])
  ⟨ofDirectives parsed.1 wanted.1, parsed.2 ++ wanted.2⟩

def parse (text : String) : ParsedFilter :=
  match Pieces.cut '/' text.toList with
  | [targets] => parseParts targets (none, [])
  | [targets, wanted] => parseParts targets (wantedPattern (String.ofList wanted))
  | _ => ⟨ofDirectives [] none, [warning (quoted text ++ " (too many '/'s)")]⟩

/-! ## Filtering -/

def targetLength (directive : LogDirective) : Nat :=
  (directive.target.map String.utf8ByteSize).getD 0

def covers (directive : LogDirective) (target : String) : Bool :=
  match directive.target with
  | some start => start.toList.isPrefixOf target.toList
  | none => true

/-- The later one of two directives with targets of one length. -/
def longer (best : Option LogDirective) (directive : LogDirective) : Option LogDirective :=
  match best with
  | some other => if targetLength directive < targetLength other then best else some directive
  | none => some directive

def rankFor (filter : LogFilter) (target : String) : Nat :=
  let fitting := filter.directives.filter fun directive => covers directive target
  ((fitting.foldl longer none).map LogDirective.rank).getD 0

def mentions (filter : LogFilter) (message : String) : Bool :=
  filter.wanted.all fun wanted => wanted.occursIn message

def shows (filter : LogFilter) (record : LogRecord) : Bool :=
  decide (record.level.rank ≤ filter.rankFor record.component.target) &&
    filter.mentions record.message

end LogFilter

end CommandLine

end ServiceRouting
