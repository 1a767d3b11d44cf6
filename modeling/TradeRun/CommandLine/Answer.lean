import TradeRun.CommandLine.Arguments
import TradeRun.Report.Account
import TradeRun.Report.Roster
import TradeRun.Store.Loading
import TradeRun.Store.Opening

/-!
What the program answers to a command line.

* `Answer`: the exit status and the two texts that are written;
* `Failure.text`: an error with what lies behind it;
* `RunArguments.answer`, `StationsArguments.answer`: the two commands, in a known galaxy;
* `respond`: a whole command line, on a given host.

Status 0 means success, 1 that a command failed and 2 that the command line is not understood. The
lines that tell of the progress of a search come before its error.
-/

namespace TradeRun.CommandLine

/-- What is written, and how the program ends. -/
structure Answer where
  status : Nat
  out : String := ""
  err : String := ""
deriving DecidableEq, Repr

/-! ### Failures -/

/-- An error with what lies behind it, from the nearest cause to the farthest. -/
structure Failure where
  message : String
  causes : List String := []
deriving DecidableEq, Repr

namespace Failure

/-- An error that no place gives more words to. -/
def ofPlan (e : PlanError) : Failure := ⟨e.message, []⟩

/-- An error of the trade data, in the words of who needed them. -/
def ofStore (context : String) (e : StoreError) : Failure := ⟨context, e.message :: e.details⟩

/-- A text with all its lines but the first one indented. -/
def hang (width : Nat) (s : String) : String :=
  ("\n" ++ String.ofList (List.replicate width ' ')).intercalate (s.splitOn "\n")

/-- The lines for causes; of several ones each has a number. -/
def causeLines : List String → List String
  | [only] => ["    " ++ hang 4 only]
  | several =>
    several.mapIdx fun n cause =>
      Text.padLeft ' ' 5 (Decimal.integer n) ++ ": " ++ hang 7 cause

/-- An error with what lies behind it. -/
def text (f : Failure) : String :=
  Text.unlines <|
    ("Error: " ++ f.message) ::
      (if f.causes.isEmpty then [] else ["", "Caused by:"] ++ causeLines f.causes)

end Failure

/-- The answer of a command that failed. -/
def Answer.ofFailure (f : Failure) : Answer := { status := 1, err := f.text }

/-! ### Commands -/

/-- The search for runs. -/
def RunArguments.answer (a : RunArguments) (g : Galaxy) (format : OutputFormat) (p : Palette) :
    Answer :=
  let outcome := plan g a.request
  let progress := if a.progress then Text.unlines (outcome.reports.map HopReport.text) else ""
  match outcome.result with
  | .error e => { status := 1, err := progress ++ (Failure.ofPlan e).text }
  | .ok result =>
    { status := 0
      out :=
        match format with
        | .json => (RunAccount.of g result).json.pretty ++ "\n"
        | .text => result.text p g a.display
      err := progress }

namespace StationsArguments

variable (a : StationsArguments)

/-- The filter that stations are held to. A greatest distance of zero or less is none. -/
def filter : Except Failure StationFilter := do
  let padSizes ← a.padSizes.mapM fun codes =>
    (PadSizes.parse codes).mapError fun fault => ⟨"invalid --pad-size", [fault.message]⟩
  return {
    padSizes
    blackMarket := a.blackMarket
    maxStarDistance := a.maxStarDistance.filter fun limit => 0 < limit
    maxAge := a.maxAge }

/-- The stations of a place. -/
def stationsAt (g : Galaxy) : Place → List Station
  | .station id => (g.station? id).toList
  | .system id => g.stationsIn id

/-- The entries of the stations to be listed. -/
def entries (g : Galaxy) : Except Failure (List RosterEntry) := do
  let filter ← a.filter
  let place ← (g.place a.place).mapError Failure.ofPlan
  return ((stationsAt g place).map (RosterEntry.of g filter)).filter fun e =>
    a.all || e.rejection.isNone

/-- The text for the stations to be listed. -/
def textOf (p : Palette) : List RosterEntry → String
  | [] => "No stations at " ++ a.place ++ " match the filters.\n"
  | entries => rosterText entries p

/-- The list of stations. -/
def answer (g : Galaxy) (format : OutputFormat) (p : Palette) : Answer :=
  match a.entries g with
  | .error f => .ofFailure f
  | .ok entries =>
    { status := 0
      out :=
        match format with
        | .json => (rosterJson entries).pretty ++ "\n"
        | .text => a.textOf p entries }

end StationsArguments

/-- The answer to a command in a known galaxy. -/
def Invocation.answer (i : Invocation) (g : Galaxy) (p : Palette) : Answer :=
  let format := i.globals.format.getD .text
  match i.command with
  | .run a => a.answer g format p
  | .stations a => a.answer g format p

/-! ### The whole command line -/

/-- What the program asks of the machine that it runs on. -/
structure Host (m : Type → Type) extends StoreDisk m where
  environment : Environment
  /-- The time in seconds. -/
  now : m Float

/-- How the program is used. -/
def usage : String :=
  Text.unlines
    [ "Multi-hop trade route planner",
      "",
      "Usage: tradehop [--db PATH] [--format text|json] COMMAND",
      "",
      "Commands:",
      "  run       Find the most profitable multi-hop trade runs",
      "  stations  List the stations of a system or station and their filter status" ]

/-- The answer to words that were read no further. -/
def Answer.ofStop : Stop → Answer
  | .help => { status := 0, out := usage }
  | .version => { status := 0, out := "tradehop\n" }
  | .misuse => { status := 2, err := usage }

/-- The galaxy of the trade data. -/
def openGalaxy {m : Type → Type} [Monad m] (host : Host m) (target : Option String) :
    m (Except Failure Galaxy) := do
  match ← locate host.toDisk host.environment target with
  | .error e => return .error (.ofStore "failed to locate the trade database" e)
  | .ok path =>
    let store ← (openStore host.toStoreDisk path).run
    let now ← host.now
    return (store.bind (Galaxy.ofStore now)).mapError
      (.ofStore ("failed to load trade database from " ++ path))

/-- The answer to a command line (`main`). -/
def respond {m : Type → Type} [Monad m] (host : Host m) (words : List String) : m Answer := do
  match Invocation.read words with
  | .error stop => return .ofStop stop
  | .ok invocation =>
    match ← openGalaxy host invocation.globals.database with
    | .error f => return .ofFailure f
    | .ok g => return invocation.answer g (Palette.detect host.environment)

end TradeRun.CommandLine
