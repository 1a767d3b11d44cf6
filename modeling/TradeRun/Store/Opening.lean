import TradeRun.Store.Address
import TradeRun.Store.File

/-!
Stores opened by their names.

* `StoreDisk`: a disk whose files hold stores;
* `openStore`: the store that a name stands for. It is empty in memory and in a file that has to be
  made for it.

Beside a file there may be others, whose names have something added to that of the file: `.lock`
where locks are files, `-journal` for what a change is about to replace, and `-wal` for a log of
changes. A directory in their place stands in the way.
-/

namespace TradeRun

/-- A disk whose files hold stores. -/
structure StoreDisk (m : Type → Type) extends Disk m where
  /-- The directory from which paths start that do not start at the root. -/
  directory : String
  /-- What the file of a path holds. -/
  file : String → m StoreFile
  /-- Makes an empty file, and tells whether that worked. -/
  makeFile : String → m Bool

namespace Access

variable (a : Access)

/-- Whether another file tells that this one is locked. -/
def usesLockFile : Bool := a.means = .lockFile && !a.forgoesLocks

/-- Whether a log of changes can be kept. -/
def canLog : Bool := (a.means = .partLocks || a.means = .wholeLock) && !a.forgoesLocks

end Access

namespace StoreDisk

variable {m : Type → Type} [Monad m] (disk : StoreDisk m)

/-- Whether there is anything at a path. -/
def isThere (path : String) : m Bool := do
  if ← disk.isFile path then return true else disk.isDirectory path

/-- The file at a path, which is made if it is not there and may be made. -/
def fileAt (name path : String) (mode : AccessMode) : ExceptT StoreError m StoreFile := do
  if ← disk.isDirectory path then throw (if mode = .readOnly then .disk .read else .cannotOpen name)
  else if ← disk.isFile path then disk.file path
  else if mode = .create then
    if ← disk.makeFile path then return .empty else throw (.cannotOpen name)
  else throw (.cannotOpen name)

/-- What a file holds, if nothing beside it stands in the way. -/
def contentsOf (path : String) (access : Access) (file : StoreFile) :
    ExceptT StoreError m Store := do
  if access.isFixed then file.contents
  else
    if access.usesLockFile then
      if ← disk.isThere (path ++ ".lock") then throw .locked
    if !file.isEmpty then
      if ← disk.isDirectory (path ++ "-journal") then throw (.disk .read)
    if ← disk.isDirectory (path ++ "-wal") then
      throw (if file.isEmpty then .disk .remove else .cannotOpenLog)
    if file.isLogged && !access.canLog then throw .cannotOpenLog
    file.contents

/-- The store at the end of a way. A path that is no text leads to nothing yet. -/
def storeAt (name : String) (way : Way) (access : Access) : ExceptT StoreError m Store := do
  if let some model := access.permissionsOf then
    if !(← disk.isThere model) then throw (.disk .inspect)
  match way.path? with
  | some path => disk.contentsOf path access (← disk.fileAt name path access.mode)
  | none =>
    let above ← match Way.path? (way.drop 1) with
      | some path => disk.isDirectory path
      | none => pure false
    if above && access.mode = .create then return ⟨[]⟩ else throw (.cannotOpen name)

end StoreDisk

/-- The greatest number of bytes in the name of a store in memory. -/
def maxMemoryNameSize : Nat := 1024

/-- The store that a name stands for. -/
def openStore {m : Type → Type} [Monad m] (disk : StoreDisk m) (name : String) :
    ExceptT StoreError m Store := do
  match ← (Address.ofName name).mapError StoreError.badName with
  | .memory => return ⟨[]⟩
  | .file path access =>
    if access.means = .memory then
      if path.length + pathReserve ≤ maxMemoryNameSize then return ⟨[]⟩
      else throw (.cannotOpen name)
    else
      match ← (disk.resolve? disk.directory path).run with
      | some way => disk.storeAt name way access
      | none => throw (.cannotOpen name)

end TradeRun
