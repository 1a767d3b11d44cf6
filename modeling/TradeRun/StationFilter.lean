import TradeRun.Error
import TradeRun.Galaxy.Basic

/-!
What a station must have to be a stop.

* `StationFilter.rejection?`: the first requirement that a station fails, in a fixed order: prices,
  pad, black market, distance from the star, age of the data;
* `StationFilter.isEligible`: a station that fails none;
* `StationFilter.require`: the same for a station that was named, as an error. Of a station at
  which the ship lies already only prices and a pad are asked.
-/

namespace TradeRun

/-- What is asked of a station besides prices. -/
structure StationFilter where
  padSizes : Option PadSizes := none
  /-- A black market must be known. -/
  blackMarket : Bool := false
  /-- The greatest distance from the star; an unknown one does not do. -/
  maxStarDistance : Option Float := none
  /-- The greatest age of the freshest price. -/
  maxAge : Option Float := none

/-- Why a station is no stop. -/
inductive Ineligibility
  | unpriced
  | pad (required : PadSizes) (actual : PadSize)
  | noBlackMarket
  | tooFar (distance limit : Float)
  | tooOld (age limit : Float)

namespace Ineligibility

/-- The requirement that is failed. -/
def requirement : Ineligibility → Requirement
  | unpriced => .priceData
  | pad .. => .padSize
  | noBlackMarket => .blackMarket
  | tooFar .. => .starDistance
  | tooOld .. => .dataAge

/-- The text of a reason. -/
def message : Ineligibility → String
  | unpriced => "no price data"
  | pad required actual =>
    "you specified: " ++ required.text ++ ", current data for station: "
      ++ actual.code.toString ++ " (" ++ actual.label ++ ")"
  | noBlackMarket => "no known black market"
  | tooFar distance limit =>
    if distance ≤ 0 then
      "distance from star unknown, limit is " ++ Decimal.plain limit ++ "ls"
    else
      Decimal.plain distance ++ "ls from star, limit is " ++ Decimal.plain limit ++ "ls"
  | tooOld age limit =>
    "data is " ++ Decimal.fixed 1 age ++ " days old, limit is " ++ Decimal.plain limit ++ " days"

end Ineligibility

namespace StationFilter

variable (f : StationFilter)

/-- The pad that is missing, if any. -/
def padRejection? (s : Station) : Option Ineligibility :=
  match f.padSizes with
  | some required => if required.accepts s.pad then none else some (.pad required s.pad)
  | none => none

/-- The black market that is missing, if any. -/
def marketRejection? (s : Station) : Option Ineligibility :=
  if f.blackMarket && s.blackMarket != some true then some .noBlackMarket else none

/-- The distance that is too great or not known, if any. -/
def distanceRejection? (s : Station) : Option Ineligibility :=
  match f.maxStarDistance with
  | some limit =>
    if s.starDistance ≤ 0 || limit < s.starDistance then some (.tooFar s.starDistance limit)
    else none
  | none => none

/-- The age that is too great, if any. -/
def ageRejection? (s : Station) : Option Ineligibility :=
  match f.maxAge with
  | some limit => s.dataAge.bind fun age => if limit < age then some (.tooOld age limit) else none
  | none => none

/-- The first requirement that a station fails (`StationFilter.rejection`). -/
def rejection? (s : Station) : Option Ineligibility :=
  if s.itemCount = 0 then some .unpriced
  else
    (f.padRejection? s).or <| (f.marketRejection? s).or <| (f.distanceRejection? s).or
      (f.ageRejection? s)

/-- Whether a station fails no requirement (`StationFilter.is_eligible`). -/
def isEligible (s : Station) : Bool := (f.rejection? s).isNone

/-- Whether a ship can dock at a station. -/
def acceptsPad (s : Station) : Bool := (f.padRejection? s).isNone

/-- Whether a failed requirement counts for a named station. -/
def countsFor (anchor : Anchor) : Ineligibility → Bool
  | .unpriced | .pad .. => true
  | .noBlackMarket | .tooFar .. | .tooOld .. => anchor != .origin

/-- Holds a named station to the requirements. -/
def require (g : Galaxy) (s : Station) (anchor : Anchor) : Except PlanError Unit :=
  match f.rejection? s with
  | none => .ok ()
  | some reason =>
    if countsFor anchor reason then
      match reason with
      | .unpriced => .error (.noPrices anchor.label (g.stationName s.id))
      | _ =>
        .error
          (.ineligible anchor.label (g.stationName s.id) reason.requirement (some reason.message))
    else .ok ()

end StationFilter

end TradeRun
