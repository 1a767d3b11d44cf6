import TradeRun.Figure
import TradeRun.Galaxy.Basic
import TradeRun.Json.Basic

/-!
Requests for a run, as they are typed: names and numbers of which nothing is checked yet.

* `Request`: the options with their defaults;
* `Request.ofJson?`: the request of a JSON record, or of a list that gives the options in order;
  missing ones have their defaults. Only options that may be absent can be `null`. Whole numbers
  stand for options that are doubles, but not the other way round. In a record an option that is a
  double may be one of the words `NaN`, `inf` and `-inf`.
-/

namespace TradeRun

/-- The options of a run (`RunRequest`). -/
structure Request where
  origin : Option String := none
  destination : Option String := none
  /-- A system to work towards, in place of a destination. -/
  goal : Option String := none
  /-- Places to call at. -/
  via : List String := []
  /-- Systems, stations and items to keep away from. -/
  avoid : List String := []
  capacity : Option Int := none
  credits : Credits := 0
  /-- Money that is not to be spent. -/
  insurance : Credits := 0
  /-- The range of a jump with a full hold, in light years. -/
  ladenRange : Option Float := none
  /-- The range of a jump with an empty hold, used around the ends of the run. -/
  emptyRange : Option Float := none
  hops : Int := 2
  /-- The most jumps of a hop. -/
  jumpsPerHop : Int := 2
  /-- How many jumps around the origin the run may start. -/
  startJumps : Int := 0
  /-- How many jumps around the destination the run may end. -/
  endJumps : Int := 0
  /-- The most units of any one item; zero sets no limit. -/
  unitLimit : Option Int := none
  maxAge : Option Float := none
  padSizes : Option String := none
  blackMarket : Bool := false
  /-- How much less hops count that end far from a star, in percent. -/
  starPenalty : Figure := .double 0.6
  maxStarDistance : Option Float := none
  /-- The least gain on a unit. -/
  minGain : Credits := 1
  /-- No station is called at twice. -/
  unique : Bool := false
  /-- The share by which gains are reduced. -/
  margin : Float := 0.0
  /-- How many routes are shown. -/
  routes : Int := 1
  /-- How many routes are followed up from hop to hop. -/
  maxRoutes : Option Nat := none
  /-- The percentage of the best score below which routes are dropped. -/
  pruneScore : Float := 0.0
  /-- The first hop before which they are. -/
  pruneHops : Int := 3

namespace Request

/-- A request with the three options that every run needs (`RunRequest.new`). -/
def basic (capacity : Int) (credits : Credits) (ladenRange : Float) : Request :=
  { capacity := some capacity, credits, ladenRange := some ladenRange }

/-! ### Reading a request -/

/-- How the value of an option is read; `words` allows words for doubles. -/
abbrev Reader (α : Type) := (words : Bool) → Json → Option α

/-- A text. -/
def readText : Reader String
  | _, .text s => some s
  | _, _ => none

/-- A list of texts. -/
def readTexts : Reader (List String)
  | words, .list items => items.mapM (readText words)
  | _, _ => none

/-- Yes or no. -/
def readBool : Reader Bool
  | _, .bool b => some b
  | _, _ => none

/-- A whole number of 64 bits. -/
def readInt : Reader Int
  | _, .integer n => if n ≤ Binary.maxInt64 then some n else none
  | _, _ => none

/-- An amount of money. -/
def readCredits : Reader Credits
  | words, v => (readInt words v).map .ofInt

/-- A natural number of 64 bits. -/
def readNat : Reader Nat
  | _, .integer n => if 0 ≤ n then some n.toNat else none
  | _, _ => none

/-- A number. -/
def readFloat : Reader Float
  | _, .integer n => some (Float.ofInt n)
  | _, .real x => some x
  | true, .text "NaN" => some (0.0 / 0.0)
  | true, .text "inf" => some (1.0 / 0.0)
  | true, .text "-inf" => some (-1.0 / 0.0)
  | _, _ => none

/-- A value that may be absent. -/
def readOption {α : Type} (read : Reader α) : Reader (Option α)
  | _, .null => some none
  | words, v => (read words v).map some

/-- One option: how a request takes it, and its place among the options. -/
structure Field where
  name : String
  /-- The request with the option set to a JSON value, if that is a value for it. -/
  set : (words : Bool) → Json → Request → Option Request

/-- An option with a reader for its values. -/
def Field.of {α : Type} (name : String) (read : Reader α) (put : α → Request → Request) : Field :=
  ⟨name, fun words v r => (read words v).map fun a => put a r⟩

/-- All options in order. -/
def fields : List Field :=
  [ .of "from" (readOption readText) fun a r => { r with origin := a },
    .of "to" (readOption readText) fun a r => { r with destination := a },
    .of "towards" (readOption readText) fun a r => { r with goal := a },
    .of "via" readTexts fun a r => { r with via := a },
    .of "avoid" readTexts fun a r => { r with avoid := a },
    .of "capacity" (readOption readInt) fun a r => { r with capacity := a },
    .of "credits" readCredits fun a r => { r with credits := a },
    .of "insurance" readCredits fun a r => { r with insurance := a },
    .of "ly_per" (readOption readFloat) fun a r => { r with ladenRange := a },
    .of "empty_ly_per" (readOption readFloat) fun a r => { r with emptyRange := a },
    .of "hops" readInt fun a r => { r with hops := a },
    .of "jumps_per" readInt fun a r => { r with jumpsPerHop := a },
    .of "start_jumps" readInt fun a r => { r with startJumps := a },
    .of "end_jumps" readInt fun a r => { r with endJumps := a },
    .of "limit" (readOption readInt) fun a r => { r with unitLimit := a },
    .of "max_age_days" (readOption readFloat) fun a r => { r with maxAge := a },
    .of "pad_size" (readOption readText) fun a r => { r with padSizes := a },
    .of "black_market" readBool fun a r => { r with blackMarket := a },
    .of "ls_penalty" readFloat fun a r => { r with starPenalty := .double a },
    .of "max_ls" (readOption readFloat) fun a r => { r with maxStarDistance := a },
    .of "min_gain_per_ton" readCredits fun a r => { r with minGain := a },
    .of "unique" readBool fun a r => { r with unique := a },
    .of "margin" readFloat fun a r => { r with margin := a },
    .of "routes" readInt fun a r => { r with routes := a },
    .of "max_routes" (readOption readNat) fun a r => { r with maxRoutes := a },
    .of "prune_score" readFloat fun a r => { r with pruneScore := a },
    .of "prune_hops" readInt fun a r => { r with pruneHops := a } ]

/-- Sets options in order to the values of a list. -/
def setInOrder : List Field → List Json → Request → Option Request
  | _, [], r => some r
  | [], _ :: _, _ => none
  | f :: fs, v :: vs, r => (f.set false v r).bind (setInOrder fs vs)

/-- The request of a JSON record or list. -/
def ofJson? : Json → Option Request
  | .record entries =>
    fields.foldlM
      (fun r f =>
        match entries.lookup f.name with
        | some v => f.set true v r
        | none => some r) {}
  | .list values => setInOrder fields values {}
  | _ => none

end Request

end TradeRun
