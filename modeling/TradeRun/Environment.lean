/-!
The environment in which the program runs: the variables that it looks at, and the account that it
runs for.
-/

namespace TradeRun

/-- What the program is told about where it runs. -/
structure Environment where
  /-- Set to anything, colours are not wanted. -/
  noColor : Option String := none
  /-- The kind of terminal. -/
  terminal : Option String := none
  /-- Where the trade data is. -/
  dataset : Option String := none
  /-- The directory for the data of all programs. -/
  dataHome : Option String := none
  /-- The directory of the user. -/
  home : Option String := none
  /-- The directory of the user by the list of accounts. -/
  accountHome : Option String := none

/-- The variables by their names, with the directory that the list of accounts has. -/
def Environment.ofLookup {m : Type → Type} [Monad m] (accountHome : Option String)
    (get : String → m (Option String)) : m Environment := do
  return {
    noColor := ← get "NO_COLOR"
    terminal := ← get "TERM"
    dataset := ← get "TRADEHOP_DB"
    dataHome := ← get "XDG_DATA_HOME"
    home := ← get "HOME"
    accountHome }

end TradeRun
