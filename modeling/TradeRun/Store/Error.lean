import TradeRun.Decimal.Text
import TradeRun.Error

/-!
Why the trade data could not be read.

* `AddressFault`: what is wrong with the name of a store;
* `StoreError`: the causes;
* `StoreError.kind`: data of a wrong shape are to blame themselves, all else is a matter of access;
* `StoreError.message`: the text of a cause, and `StoreError.details`: what lies behind it.
-/

namespace TradeRun

/-- How a cell of a table is stored. -/
inductive StorageClass
  | null
  | integer
  | real
  | text
  | blob
deriving DecidableEq, Repr

/-- The name of a storage class. -/
def StorageClass.label : StorageClass → String
  | null => "Null"
  | integer => "Integer"
  | real => "Real"
  | text => "Text"
  | blob => "Blob"

/-- What is wrong with the name of a store. -/
inductive AddressFault
  /-- The file would be on another machine. -/
  | foreignHost (host : String)
  /-- No value of this kind has the name. -/
  | unknownMode (kind value : String)
  /-- More is asked for than was before. -/
  | widerMode (value : String)
  /-- There is no such means to open a file. -/
  | unknownMeans (means : String)
deriving DecidableEq, Repr

/-- The text of a fault. -/
def AddressFault.message : AddressFault → String
  | foreignHost host => "invalid uri authority: " ++ host
  | unknownMode kind value => "no such " ++ kind ++ " mode: " ++ value
  | widerMode value => "access mode not allowed: " ++ value
  | unknownMeans means => "no such vfs: " ++ means

/-- A number and its text. -/
def numbered (number : Nat) (s : String) : String :=
  "Error code " ++ Decimal.integer number ++ ": " ++ s

/-- What lies behind an error of no other number. -/
def plainDetail : String := numbered 1 "SQL error or missing database"

/-- What lies behind a file that cannot be opened. -/
def openingDetail : String := numbered 14 "Unable to open the database file"

/-- What lies behind a fault. -/
def AddressFault.detail : AddressFault → String
  | widerMode _ => numbered 3 "Access permission denied"
  | _ => plainDetail

/-- What a disk failed to do. -/
inductive DiskFault
  /-- To read what is no file. -/
  | read
  /-- To tell the permissions of what is not there. -/
  | inspect
  /-- To remove what is no file. -/
  | remove
deriving DecidableEq, Repr

/-- What lies behind a failure of a disk. -/
def DiskFault.detail : DiskFault → String
  | read => numbered 266 "Error reading from disk"
  | inspect => numbered 1802 "Error invoking fstat to get file metadata"
  | remove => numbered 2570 "I/O error within xDelete of a VFS object"

/-- Why the trade data could not be read. -/
inductive StoreError
  /-- There is no file at the place. -/
  | notFound (path : String)
  /-- No directory for the data of programs is known. -/
  | noDataDirectory
  /-- The name of the store makes no sense. -/
  | badName (fault : AddressFault)
  /-- The file that a name stands for cannot be opened. -/
  | cannotOpen (name : String)
  /-- The file in which changes are kept cannot be opened. -/
  | cannotOpenLog
  /-- Another program works on the file. -/
  | locked
  /-- The disk failed. -/
  | disk (fault : DiskFault)
  /-- A table or a column is missing. -/
  | unsupportedSchema
  /-- The file is none that holds tables. -/
  | notDatabase
  /-- The file holds tables in a form that is not known. -/
  | unknownFormat
  /-- What the file holds contradicts itself. -/
  | malformed
  /-- The file tells of a table in a way that makes no sense. -/
  | malformedEntry (name remark : String)
  /-- A cell is stored in a way in which its column cannot be read. -/
  | columnType (stored : StorageClass) (index : Nat) (column : String)
deriving DecidableEq, Repr

namespace StoreError

/-- Who is to blame for an error. -/
def kind : StoreError → ErrorKind
  | unsupportedSchema => .data
  | _ => .access

/-- The text of an error. -/
def message : StoreError → String
  | notFound path => "dataset not found at " ++ path
  | noDataDirectory => "failed to resolve project directories for dataset location"
  | badName fault => fault.message
  | cannotOpen name => "unable to open database file: " ++ name
  | cannotOpenLog => "unable to open database file"
  | locked => "database is locked"
  | disk _ => "disk I/O error"
  | unsupportedSchema =>
    "unsupported dataset schema; expected System/Station/Item/StationItem tables"
  | notDatabase => "file is not a database"
  | unknownFormat => "unsupported file format"
  | malformed => "database disk image is malformed"
  | malformedEntry name remark =>
    "malformed database schema (" ++ name ++ ")" ++ (if remark = "" then "" else " - " ++ remark)
  | columnType stored index column =>
    "Invalid column type " ++ stored.label ++ " at index: " ++ Decimal.integer index ++ ", name: "
      ++ column

/-- What lies behind an error, from the nearest cause to the farthest. -/
def details : StoreError → List String
  | badName fault => [fault.detail]
  | cannotOpen _ | cannotOpenLog => [openingDetail]
  | locked => [numbered 5 "The database file is locked"]
  | disk fault => [fault.detail]
  | notDatabase => [numbered 26 "File opened that is not a database file"]
  | unknownFormat => [plainDetail]
  | malformed | malformedEntry .. => [numbered 11 "The database disk image is malformed"]
  | notFound _ | noDataDirectory | unsupportedSchema | columnType .. => []

end StoreError

end TradeRun
