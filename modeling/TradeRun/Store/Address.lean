import TradeRun.Decimal.Reading
import TradeRun.Store.Path
import TradeRun.Text.Hexadecimal
import TradeRun.Text.Lossy

/-!
What the name of a store stands for.

* `Address`: an empty store in memory, or a file and the way to open it;
* `Address.ofName`: `:memory:` is a store in memory, a name that begins with `file:` is read as
  described below, and every other name is the path of a file.

After `file:` come a path, a question mark and settings with ampersands between them; a mark `#`
ends all. Before the path this machine may be named, as `//` or `//localhost`. In the path, and in
the names and values of settings, a percent sign and two hexadecimal digits stand for a byte; for
the byte zero they end the text. These settings count:

* `mode` tells what may be done with the file, and `cache` who shares it;
* `vfs` tells by which means it is opened, the last one if there are several;
* `immutable` tells whether nobody else changes it, `nolock` whether to do without locks, and
  `modeof` of which file it is to have the permissions, the first one if there are several.
-/

namespace TradeRun

/-! ### Escapes -/

/-- The byte of two hexadecimal digits. -/
def byteOf? (high low : Char) : Option UInt8 :=
  (Text.hexValue? high).bind fun h =>
    (Text.hexValue? low).map fun l => UInt8.ofNat (16 * h + l)

/-- The bytes of a text with escapes, up to an escaped zero. -/
def unescapedBytes : List Char → List UInt8
  | [] => []
  | '%' :: high :: low :: cs =>
    match byteOf? high low with
    | some b => if b = 0 then [] else b :: unescapedBytes cs
    | none => String.utf8EncodeChar '%' ++ unescapedBytes (high :: low :: cs)
  | c :: cs => String.utf8EncodeChar c ++ unescapedBytes cs

/-- A text without its escapes. -/
def unescape (cs : List Char) : String := Text.ofBytes (unescapedBytes cs)

/-! ### Settings -/

/-- What may be done with a file. -/
inductive AccessMode
  | readOnly
  | readWrite
  /-- A file that is not there is made. -/
  | create
  /-- There is no file. -/
  | memory
deriving DecidableEq, Repr

/-- The mode of a name. -/
def AccessMode.ofName? : String → Option AccessMode
  | "ro" => some readOnly
  | "rw" => some readWrite
  | "rwc" => some create
  | "memory" => some memory
  | _ => none

/-- Whether another mode may follow: one that allows no more. -/
def AccessMode.admits : AccessMode → AccessMode → Bool
  | _, memory | memory, _ | create, _ => true
  | readWrite, next => next != create
  | readOnly, next => next == readOnly

/-- By which means a file is opened. -/
inductive AccessMeans
  /-- Parts of the file are locked. -/
  | partLocks
  /-- Nothing is locked. -/
  | noLocks
  /-- Another file tells that this one is locked. -/
  | lockFile
  /-- The whole file is locked. -/
  | wholeLock
  /-- There is no file. -/
  | memory
deriving DecidableEq, Repr

/-- The means of a name. -/
def AccessMeans.ofName? : String → Option AccessMeans
  | "unix" => some partLocks
  | "unix-none" => some noLocks
  | "unix-dotfile" => some lockFile
  | "unix-excl" => some wholeLock
  | "memdb" => some memory
  | _ => none

/-- How a store is opened. -/
structure Access where
  mode : AccessMode := .create
  means : AccessMeans := .partLocks
  /-- Nobody else changes the file. -/
  isFixed : Bool := false
  /-- Nothing is locked, whatever the means. -/
  forgoesLocks : Bool := false
  /-- The file whose permissions a new file gets. -/
  permissionsOf : Option String := none
deriving DecidableEq, Repr

/-- The named settings of a text. -/
def settings (cs : List Char) : List (String × String) :=
  let pairs := (Text.pieces '&' cs).map (Text.cut '=')
  (pairs.map fun (name, value) => (unescape name, unescape value)).filter fun (name, _) => name ≠ ""

/-- Whether a text says yes: by a word, or by a number whose last byte is not zero. -/
def saysYes (s : String) : Bool :=
  match Decimal.natOfDigits? (s.toList.takeWhile Char.isDigit) with
  | some n => n < 0x80000000 && n % 0x100 != 0
  | none => ["yes", "on", "true"].any (Text.equalAscii s)

namespace Access

/-- The mode after one more setting. -/
def nextMode (mode : AccessMode) : String × String → Except AddressFault AccessMode
  | ("mode", value) =>
    match AccessMode.ofName? value with
    | some next => if mode.admits next then .ok next else .error (.widerMode value)
    | none => .error (.unknownMode "access" value)
  | ("cache", value) =>
    if ["shared", "private"].contains value then .ok mode else .error (.unknownMode "cache" value)
  | _ => .ok mode

/-- The access by settings. -/
def ofSettings (settings : List (String × String)) : Except AddressFault Access := do
  let mode ← settings.foldlM nextMode .create
  let name := (settings.reverse.lookup "vfs").getD "unix"
  match AccessMeans.ofName? name with
  | some means =>
    return {
      mode, means
      isFixed := (settings.lookup "immutable").any saysYes
      forgoesLocks := (settings.lookup "nolock").any saysYes
      permissionsOf := settings.lookup "modeof" }
  | none => throw (.unknownMeans name)

end Access

/-! ### Names -/

/-- Where a store is. -/
inductive Address
  /-- In memory, empty at first. -/
  | memory
  /-- In a file, or in memory under the name of one. -/
  | file (path : List UInt8) (access : Access)
deriving DecidableEq, Repr

namespace Address

/-- What follows the name of this machine. -/
def afterHost : List Char → Except AddressFault (List Char)
  | '/' :: '/' :: cs =>
    let host := String.ofList (cs.takeWhile (· != '/'))
    if host = "" ∨ host = "localhost" then .ok (cs.dropWhile (· != '/'))
    else .error (.foreignHost host)
  | cs => .ok cs

/-- The store of a path, when it is opened in some way. No path is a store in memory. -/
def ofPath (path : List UInt8) (access : Access) : Address :=
  if access.mode = .memory ∨ path = [] ∨ path = bytesOf ":memory:" then memory
  else file path access

/-- The store of a name, without the `file:` that it begins with. -/
def ofLocator (cs : List Char) : Except AddressFault Address := do
  let cs ← afterHost cs
  let (path, rest) := Text.cut '?' (cs.takeWhile (· != '#'))
  let access ← Access.ofSettings (settings rest)
  return ofPath (unescapedBytes path) access

/-- The store of a name. -/
def ofName (name : String) : Except AddressFault Address :=
  if name.toList.take 5 = "file:".toList then ofLocator (name.toList.drop 5)
  else .ok (ofPath (bytesOf name) {})

end Address

end TradeRun
