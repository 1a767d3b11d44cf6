import TradeRun.CommandLine.Switches
import TradeRun.Decimal.Reading
import TradeRun.Report.RunText
import TradeRun.Request

/-!
The arguments of the two commands.

* `RunArguments`: a request for a run, and how its result is shown;
* `StationsArguments`: a place, and the filter that its stations are held to;
* `Invocation.read`: what a command line asks for.

The place of the trade data and the form of the output can be given before and after the command;
what is given after it counts.
-/

namespace TradeRun.CommandLine

/-- The form of the output. -/
inductive OutputFormat
  | text
  | json
deriving DecidableEq, Repr

/-- What is given for any command (`GlobalOptions`). -/
structure Globals where
  /-- The path of the trade data. -/
  database : Option String := none
  format : Option OutputFormat := none
deriving DecidableEq, Repr

/-- The arguments of a search for runs (`RunArgs`). -/
structure RunArguments where
  request : Request := {}
  /-- Whether a line is shown when a hop begins. -/
  progress : Bool := false
  display : Display := {}

/-- The arguments of a list of stations (`StationsArgs`). -/
structure StationsArguments where
  place : String := ""
  padSizes : Option String := none
  blackMarket : Bool := false
  maxStarDistance : Option Float := none
  maxAge : Option Float := none
  /-- Whether stations that do not meet the filter are listed. -/
  all : Bool := false

/-- What a command line asks for. -/
inductive Command
  | run (arguments : RunArguments)
  | stations (arguments : StationsArguments)

/-- A command with what is given for any command. -/
structure Invocation where
  globals : Globals
  command : Command

/-! ### Values -/

/-- A whole number of 64 bits. -/
def int? (s : String) : Option Int :=
  (Decimal.readInt? s).filter fun n => Binary.minInt64 ≤ n && n ≤ Binary.maxInt64

/-- An amount of money. -/
def credits? (s : String) : Option Credits := (int? s).map .ofInt

/-- A natural number of 64 bits. -/
def nat? (s : String) : Option Nat := (Decimal.readNat? s).filter (· < 0x10000000000000000)

/-- A path, which is not empty. -/
def path? (s : String) : Option String := if s = "" then none else some s

/-- The form of the output. -/
def OutputFormat.ofName? : String → Option OutputFormat
  | "text" => some text
  | "json" => some json
  | _ => none

/-- Adds what a word lists, with commas in between, to a list. -/
def addListed (list : List String) (s : String) : List String := list ++ s.splitOn ","

/-- The most that is counted of a repeated switch. -/
def mostVerbose : Nat := 255

/-! ### Switches -/

/-- Asks for help. -/
def helpSwitch {α : Type} : Switch α := { names := ["help"], letter := 'h', action := .stop .help }

/-- Asks for the version. -/
def versionSwitch {α : Type} : Switch α :=
  { names := ["version"], letter := 'V', action := .stop .version }

/-- The switches for any command. -/
def globalSwitches : List (Switch Globals) :=
  [ .reading ["db"] path? fun path g => { g with database := some path },
    .reading ["format"] OutputFormat.ofName? fun format g => { g with format := some format } ]

/-- A switch whose value is any text. -/
def textSwitch {α : Type} (names : List String) (put : String → α → α) : Switch α :=
  .reading names some put

/-- A switch whose values are lists of texts. -/
def listSwitch (name : String) (get : Request → List String)
    (put : List String → Request → Request) : Switch Request :=
  { names := [name], action := .values fun s r => some (put (addListed (get r) s) r) }

/-- The switches of a request. -/
def requestSwitches : List (Switch Request) :=
  [ textSwitch ["from"] fun s r => { r with origin := some s },
    textSwitch ["to"] fun s r => { r with destination := some s },
    textSwitch ["towards"] fun s r => { r with goal := some s },
    listSwitch "via" Request.via fun l r => { r with via := l },
    listSwitch "avoid" Request.avoid fun l r => { r with avoid := l },
    .reading ["capacity"] int? fun n r => { r with capacity := some n },
    .reading ["credits", "cr"] credits? fun n r => { r with credits := n },
    .reading ["insurance", "ins"] credits? fun n r => { r with insurance := n },
    .reading ["ly-per", "ly"] Decimal.readFloat? fun x r => { r with ladenRange := some x },
    .reading ["empty-ly", "emp"] Decimal.readFloat? fun x r => { r with emptyRange := some x },
    .reading ["hops"] int? fun n r => { r with hops := n },
    .reading ["jumps-per", "jum"] int? fun n r => { r with jumpsPerHop := n },
    (Switch.reading ["start-jumps"] int? fun n r => { r with startJumps := n }).withLetter 's',
    (Switch.reading ["end-jumps"] int? fun n r => { r with endJumps := n }).withLetter 'e',
    .reading ["limit"] int? fun n r => { r with unitLimit := some n },
    .reading ["age", "max-days-old"] Decimal.readFloat? fun x r => { r with maxAge := some x },
    (textSwitch ["pad-size"] fun s (r : Request) => { r with padSizes := some s }).withLetter 'p',
    .flag ["black-market", "bm"] fun r => { r with blackMarket := true },
    .reading ["ls-penalty", "lsp"] Figure.read? fun x r => { r with starPenalty := x },
    .reading ["max-ls"] Decimal.readFloat? fun x r => { r with maxStarDistance := some x },
    .reading ["gain-per-ton", "gpt"] credits? fun n r => { r with minGain := n },
    .flag ["unique"] fun r => { r with unique := true },
    .reading ["margin"] Decimal.readFloat? fun x r => { r with margin := x },
    .reading ["routes"] int? fun n r => { r with routes := n },
    .reading ["max-routes"] nat? fun n r => { r with maxRoutes := some n },
    .reading ["prune-score"] Decimal.readFloat? fun x r => { r with pruneScore := x },
    .reading ["prune-hops"] int? fun n r => { r with pruneHops := n } ]

/-- Tells more with each use. -/
def verboseSwitch : Switch Display :=
  { names := ["verbose"]
    letter := 'v'
    action := .each fun d =>
      { d with detail.verbosity := min (d.detail.verbosity + 1) mostVerbose } }

/-- The switches for the way in which routes are shown. -/
def displaySwitches : List (Switch Display) :=
  [ .flag ["summary"] fun d => { d with digest := true },
    .flag ["plain-credits"] fun d => { d with detail.credits := .plain },
    verboseSwitch ]

/-- The switches of a search for runs. -/
def runSwitches : List (Switch RunArguments) :=
  requestSwitches.map (.onPart RunArguments.request fun r a => { a with request := r }) ++
    displaySwitches.map (.onPart RunArguments.display fun d a => { a with display := d }) ++
      [.flag ["progress"] fun a => { a with progress := true }]

/-- The switches of a list of stations. -/
def stationsSwitches : List (Switch StationsArguments) :=
  [ (textSwitch ["pad-size"] fun s (a : StationsArguments) =>
      { a with padSizes := some s }).withLetter 'p',
    .flag ["black-market", "bm"] fun a => { a with blackMarket := true },
    .reading ["max-ls"] Decimal.readFloat? fun x a => { a with maxStarDistance := some x },
    .reading ["age"] Decimal.readFloat? fun x a => { a with maxAge := some x },
    .flag ["all"] fun a => { a with all := true } ]

/-! ### Levels -/

/-- What is understood before the command. -/
def mainLevel : Level Globals where
  switches := globalSwitches ++ [helpSwitch, versionSwitch]
  commands := ["run", "stations", "help"]

/-- What is understood after a command with some switches. -/
def commandLevel {α : Type} (switches : List (Switch α)) : Level (Globals × α) where
  switches :=
    switches.map (.onPart Prod.snd fun a p => (p.1, a)) ++
      globalSwitches.map (.onPart Prod.fst fun g p => (g, p.2)) ++ [helpSwitch]

/-- What is understood after `run`. -/
def runLevel : Level (Globals × RunArguments) :=
  { commandLevel runSwitches with required := ["credits"] }

/-- What is understood after `stations`. -/
def stationsLevel : Level (Globals × StationsArguments) :=
  { commandLevel stationsSwitches with
    place := some ("place", fun s (g, a) => (g, { a with place := s }))
    required := ["place"] }

/-- What is given after the command, and otherwise what is given before it. -/
def Globals.orElse (after before : Globals) : Globals :=
  ⟨after.database.or before.database, after.format.or before.format⟩

/-- Whether the words after `help` name at most one command. -/
def asksForHelp : List String → Bool
  | [] => true
  | [command] => mainLevel.commands.contains command
  | _ => false

/-- What a command line asks for. -/
def Invocation.read (words : List String) : Except Stop Invocation := do
  let (before, rest) ← mainLevel.read {} words
  match rest with
  | "run" :: rest => do
    let ((after, arguments), _) ← runLevel.read ({}, {}) rest
    return ⟨after.orElse before, .run arguments⟩
  | "stations" :: rest => do
    let ((after, arguments), _) ← stationsLevel.read ({}, {}) rest
    return ⟨after.orElse before, .stations arguments⟩
  | "help" :: rest => throw (if asksForHelp rest then .help else .misuse)
  | _ => throw .misuse

end TradeRun.CommandLine
