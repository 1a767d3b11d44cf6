import TradeRun.Environment
import TradeRun.Store.Error

/-!
Where the trade data is.

* `Disk`: what can be asked of the files there are;
* `defaultLocation?`: the file among the data of the user;
* `locate`: the file that is named, else the one of the environment, else the default one. For a
  directory it is the file of the usual name in it. The file must be there.
-/

namespace TradeRun

/-- What can be asked of files and directories by their paths. -/
structure Disk (m : Type → Type) where
  isDirectory : String → m Bool
  isFile : String → m Bool

/-- The usual name of the file (`DATASET_FILENAME`). -/
def datasetName : String := "trade.db"

/-- The path of an entry of a directory. -/
def joinPath (directory entry : String) : String :=
  if directory = "" ∨ directory.toList.getLast? = some '/' then directory ++ entry
  else directory ++ "/" ++ entry

/-- Whether a path starts at the root. -/
def isAbsolute (path : String) : Bool := path.toList.head? == some '/'

/-- The directory of the user: the one of the environment if it has one, else the one that the list
of accounts has. -/
def userHome? (env : Environment) : Option String :=
  (env.home.filter (· ≠ "")).or (env.accountHome.filter (· ≠ ""))

/-- The directory for the data of all programs of a user: the one of the environment if its path
starts at the root, else the usual one. -/
def dataHome (env : Environment) (home : String) : String :=
  (env.dataHome.filter isAbsolute).getD (joinPath home ".local/share")

/-- The file among the data of the user, if the user has a directory (`default_dataset_path`). -/
def defaultLocation? (env : Environment) : Option String :=
  (userHome? env).map fun home =>
    joinPath (joinPath (dataHome env home) "tradehop") datasetName

/-- The path that is named, or else the one of the environment (`resolve_with_env`). -/
def namedLocation? (env : Environment) (target : Option String) : Option String :=
  target.or (env.dataset.filter (· ≠ ""))

/-- The file of the trade data (`resolve_dataset_path`). -/
def locate {m : Type → Type} [Monad m] (disk : Disk m) (env : Environment)
    (target : Option String) : ExceptT StoreError m String := do
  let path ← match namedLocation? env target with
    | some path => do
      if ← disk.isDirectory path then pure (joinPath path datasetName) else pure path
    | none =>
      match defaultLocation? env with
      | some path => pure path
      | none => throw .noDataDirectory
  if ← disk.isFile path then return path else throw (.notFound path)

end TradeRun
