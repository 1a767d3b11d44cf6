import TradeRun.Decimal.Text
import TradeRun.Pad

/-!
Why a run cannot be planned.

* `PlanError`: the causes, grouped by what is at fault: an option (`OptionFault`), the demand that
  no station be visited twice (`UniqueFault`), the stations (`Gap`) or the trade itself
  (`TradeFault`);
* `PlanError.kind`: whether the request or the data is to blame;
* `PlanError.message`: the text shown for a cause.
-/

namespace TradeRun

/-- The most hops that a run may have (`MAX_HOPS`). -/
def maxHops : Int := 64

/-- The largest cargo hold (`MAX_CAPACITY`). -/
def maxCapacity : Int := 1000

/-- The largest share by which gains may be reduced (`MAX_MARGIN`). -/
def maxMargin : Float := 0.25

/-- The ends and stops of a run that a request may name. -/
inductive Anchor
  | origin
  | destination
  | via
deriving DecidableEq, Repr

/-- The option that names an anchor. -/
def Anchor.label : Anchor → String
  | origin => "--from"
  | destination => "--to"
  | via => "--via"

/-- What is asked of a station. -/
inductive Requirement
  | priceData
  | padSize
  | blackMarket
  | starDistance
  | dataAge
deriving DecidableEq, Repr

/-- The name of a requirement (`Ineligibility.requirement`). -/
def Requirement.label : Requirement → String
  | priceData => "price data"
  | padSize => "pad-size"
  | blackMarket => "black-market"
  | starDistance => "max-ls"
  | dataAge => "--age"

/-- Options without which no run can be planned. -/
inductive RequiredOption
  | capacity
  | ladenRange
deriving DecidableEq, Repr

/-- The name of a required option. -/
def RequiredOption.label : RequiredOption → String
  | capacity => "--capacity"
  | ladenRange => "--ly-per"

/-- What is wrong with an option. -/
inductive OptionFault
  | negativeCredits
  | noRoutes
  | noHops
  | tooManyHops
  | negativeJumps
  | negativeCapacity
  | capacityTooLarge
  | ladenRange
  | emptyRange
  | negativeLimit
  | limitAboveCapacity
  | negativeInsurance
  | insuranceTooHigh
  | marginOutOfRange
  | negativeStarPenalty
  | negativeMaxStarDistance
  | negativeMaxAge
  | negativeEndJumps
  | startJumpsWithoutOrigin
  | endJumpsWithoutDestination
  | goalWithDestination
  | goalWithoutOrigin
  | noRoutesKept
  | negativePruneScore
  | pruneScoreTooHigh
  | pruneHopsTooFew
  | padSizes (fault : PadFault)
  | sameEndsInOneHop
  | viaWithoutPad (system : String)
deriving DecidableEq, Repr

namespace OptionFault

/-- The text of a fault. -/
def message : OptionFault → String
  | negativeCredits => "invalid (negative) value for initial credits"
  | noRoutes => "maximum routes has to be 1 or higher"
  | noHops => "minimum of 1 hop required"
  | tooManyHops => "too many hops; at most " ++ Decimal.integer maxHops ++ " are supported"
  | negativeJumps => "negative jumps: you're already there?"
  | negativeCapacity => "invalid (negative) value for capacity"
  | capacityTooLarge => "capacity > " ++ Decimal.integer maxCapacity ++ " not supported"
  | ladenRange => "invalid value for --ly-per"
  | emptyRange => "invalid value for --empty-ly"
  | negativeLimit => "invalid (negative) value for limit"
  | limitAboveCapacity => "'limit' must be <= capacity"
  | negativeInsurance => "invalid (negative) value for insurance"
  | insuranceTooHigh => "insurance leaves no margin for trade"
  | marginOutOfRange => "margin must be between 0 and " ++ Decimal.plain maxMargin
  | negativeStarPenalty => "invalid (negative) value for --ls-penalty"
  | negativeMaxStarDistance => "invalid (negative) value for --max-ls"
  | negativeMaxAge => "invalid (negative) value for --age"
  | negativeEndJumps => "invalid (negative) value for start/end jumps"
  | startJumpsWithoutOrigin => "--start-jumps (-s) only works with --from"
  | endJumpsWithoutDestination => "--end-jumps (-e) only works with --to"
  | goalWithDestination => "--towards is incompatible with --to"
  | goalWithoutOrigin => "--towards requires --from"
  | noRoutesKept => "--max-routes must be at least 1"
  | negativePruneScore => "--prune-score cannot be negative"
  | pruneScoreTooHigh => "--prune-score value must be between 0 and 100"
  | pruneHopsTooFew => "--prune-hops must be 2 or more; you can't prune the first hop"
  | padSizes fault => fault.message
  | sameEndsInOneHop => "more than one hop required to use same from/to destination"
  | viaWithoutPad system =>
    "--via system " ++ system ++ " has no stations that match your pad size"

end OptionFault

/-- Why no run can do without visiting a station twice. -/
inductive UniqueFault
  | tooFewStations
  | sameEnds
  | endInVia (anchor : Anchor) (station : String)
deriving DecidableEq, Repr

/-- The text of a fault. -/
def UniqueFault.message : UniqueFault → String
  | tooFewStations => "requested unique trip with more hops than there are stations"
  | sameEnds => "can't have same from/to with --unique"
  | endInVia anchor station =>
    "can't have " ++ anchor.label ++ " station " ++ station ++ " in --via list with --unique"

/-- Why no station is left. -/
inductive Gap
  /-- The system named for an end has no stations. -/
  | bareSystem (anchor : Anchor) (system : String)
  /-- None of the stations around a place meets the filters. -/
  | noneWithin (anchor : Anchor) (jumps : Nat) (place : String)
  /-- No station of the system has prices. -/
  | unpriced (anchor : Anchor) (system : String)
  /-- No station of the system meets the filters. -/
  | noneMeets (anchor : Anchor) (system : String)
  /-- The station is to be avoided. -/
  | avoided (anchor : Anchor) (station : String)
  /-- No station at all has prices. -/
  | unpricedGalaxy
  /-- No station at all meets the filters. -/
  | noStation
deriving DecidableEq, Repr

/-- The text of a gap. -/
def Gap.message : Gap → String
  | bareSystem anchor system => anchor.label ++ " system " ++ system ++ " has no stations"
  | noneWithin anchor jumps place =>
    "no " ++ anchor.label ++ " stations found within " ++ Decimal.integer jumps ++ " jumps of "
      ++ place ++ " that met your requirements"
  | unpriced anchor system =>
    "no " ++ anchor.label ++ " stations in " ++ system ++ " have price data"
  | noneMeets anchor system =>
    "no " ++ anchor.label ++ " stations in " ++ system
      ++ " met your selection criteria (e.g. pad size, black market, age)"
  | avoided anchor station =>
    anchor.label ++ " station " ++ station ++ " is excluded by your avoid list"
  | unpricedGalaxy => "no price data found for any station in the local database"
  | noStation => "no stations could be found that met your selection criteria"

/-- Why nothing can be traded. -/
inductive TradeFault
  /-- No item is sold anywhere for less than it fetches elsewhere. -/
  | nothingTrades
  /-- No deal can be reached under the request. -/
  | nothingMatches
deriving DecidableEq, Repr

/-- The text of a fault. -/
def TradeFault.message : TradeFault → String
  | nothingTrades => "database does not contain any profitable trades"
  | nothingMatches =>
    "no profitable trades matched your criteria, or price data along the route is missing"

/-- Who is to blame for an error. -/
inductive ErrorKind
  /-- The request contradicts itself or the rules. -/
  | configuration
  /-- The data cannot satisfy the request. -/
  | data
  /-- The data could not be read. -/
  | access
deriving DecidableEq, Repr

/-- Why a run cannot be planned (`Error`). -/
inductive PlanError
  | option (fault : OptionFault)
  | missingOption (option : RequiredOption)
  /-- A named station fails a filter. -/
  | ineligible (role station : String) (requirement : Requirement) (detail : Option String)
  /-- There are more stops to visit than free ones; so many hops would do. -/
  | viaTooLong (hops : Nat)
  | viaAvoided (place : String)
  /-- An end of a run of two hops is also a stop on the way. -/
  | anchorInVia (place : String) (anchor : Anchor)
  | unique (fault : UniqueFault)
  | unknownPlace (name : String) (suggestions : List String)
  | ambiguousPlace (name : String) (candidates : List String)
  | noData (gap : Gap)
  /-- A named station has no prices. -/
  | noPrices (role station : String)
  | noTrades (fault : TradeFault)
  | noViaMatch
deriving DecidableEq, Repr

namespace PlanError

/-- Who is to blame for an error. -/
def kind : PlanError → ErrorKind
  | noData _ | noPrices .. | noTrades _ | noViaMatch => .data
  | _ => .configuration

/-- The question after a name that is not known, if there is something to suggest
(`format_suggestions`). -/
def suggestionText : List String → String
  | [] => ""
  | [name] => ". Did you mean '" ++ name ++ "'?"
  | names =>
    ". Did you mean one of: " ++ ", ".intercalate (names.map fun s => "'" ++ s ++ "'") ++ "?"

/-- The text of an error. -/
def message : PlanError → String
  | option fault => fault.message
  | missingOption o => "missing '" ++ o.label ++ "'"
  | ineligible role station requirement detail =>
    role ++ " station " ++ station ++ " does not meet " ++ requirement.label ++ " requirement"
      ++ detail.elim "" (fun d => " (" ++ d ++ ")")
  | viaTooLong hops =>
    "route is not long enough for the list of via destinations you gave; "
      ++ "reduce the vias or try again with '--hops " ++ Decimal.integer hops ++ "' or greater"
  | viaAvoided place => "via " ++ place ++ " conflicts with avoid list"
  | anchorInVia place anchor =>
    place ++ " used in " ++ anchor.label ++ " and --via with only 2 hops"
  | unique fault => fault.message
  | unknownPlace name suggestions => "unknown place name: " ++ name ++ suggestionText suggestions
  | ambiguousPlace name candidates =>
    "ambiguous place name " ++ name ++ ": could be " ++ ", ".intercalate candidates
  | noData gap => gap.message
  | noPrices role station =>
    "no price data in local database for " ++ role ++ " station: " ++ station
  | noTrades fault => fault.message
  | noViaMatch => "no routes were found which matched your 'via' selections"

end PlanError

end TradeRun
