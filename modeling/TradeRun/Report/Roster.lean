import TradeRun.Json.Basic
import TradeRun.Report.Itinerary
import TradeRun.Report.Palette
import TradeRun.StationFilter

/-!
Rosters: stations with what is known about them, and whether they meet a filter.

* `RosterEntry.of`: the entry of a station;
* `rosterText`: a line for each entry, in columns;
* `RosterEntry.json`: an entry as a JSON record.
-/

namespace TradeRun

/-- What is known about a station, and why it fails a filter if it does (`StationRow`). -/
structure RosterEntry where
  station : Station
  system : String
  rejection : Option Ineligibility

namespace RosterEntry

/-- The entry of a station (`StationRow.from_station`). -/
def of (g : Galaxy) (filter : StationFilter) (s : Station) : RosterEntry :=
  ⟨s, g.systemName s.system, filter.rejection? s⟩

variable (e : RosterEntry)

/-- The distance from the star, if it is known. -/
def distance? : Option Float :=
  if 0 < e.station.starDistance then some e.station.starDistance else none

/-- The names of the system and the station. -/
def name : String := e.system ++ "/" ++ e.station.name

/-- How wide the column of names must be for the entry. -/
def nameWidth : Nat := e.name.utf8ByteSize

/-- The age of the freshest price. -/
def ageText : String := e.station.dataAge.elim "-" fun age => Decimal.fixed 1 age ++ "d"

/-- Whether the station meets the filter, or why it does not. -/
def verdictText (p : Palette) : String :=
  match e.rejection with
  | some reason => p.paint Palette.red ("[" ++ reason.message ++ "]")
  | none => p.paint Palette.green "[ok]"

/-- The line of an entry, with names filled up to a width. -/
def line (width : Nat) (p : Palette) : String :=
  Text.padRight width e.name ++ "  " ++ Text.padLeft ' ' 7 e.station.distanceText ++ "ls  Pad:"
    ++ e.station.pad.code.toString ++ "  BMk:" ++ blackMarketCode e.station.blackMarket ++ "  "
    ++ Text.padLeft ' ' 3 (Decimal.integer e.station.itemCount) ++ " items  "
    ++ Text.padLeft ' ' 7 e.ageText ++ "  " ++ e.verdictText p

/-- An entry as JSON, without a reason if the station meets the filter. -/
def json : Json :=
  .record <|
    [ ("id", .integer e.station.id),
      ("name", .text e.station.name),
      ("system", .text e.system),
      ("ls_from_star", Json.ofOption .real e.distance?),
      ("pad_size", .text e.station.pad.code.toString),
      ("black_market", Json.ofOption .bool e.station.blackMarket),
      ("items", .integer e.station.itemCount),
      ("data_age_days", Json.ofOption .real e.station.dataAge) ]
    ++ e.rejection.toList.map fun reason => ("rejected", .text reason.message)

end RosterEntry

/-- The lines of some entries (`render_stations_text`). -/
def rosterText (entries : List RosterEntry) (p : Palette) : String :=
  let width := Text.widest (entries.map RosterEntry.nameWidth)
  Text.unlines (entries.map fun e => e.line width p)

/-- Some entries as JSON. -/
def rosterJson (entries : List RosterEntry) : Json := .list (entries.map RosterEntry.json)

end TradeRun
