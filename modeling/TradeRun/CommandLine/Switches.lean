/-!
Words of a command line.

* `Switch`: a word such as `--age 3`, `--age=3` or `-p L`, and what it does to the arguments read
  so far; one-letter switches can be joined, and the last of them may carry its value with it;
* `Level`: the switches, the place and the commands that are understood together;
* `Level.read`: reads words up to the first command.

A word that begins with a stroke is a switch and never the value of another one, but for the stroke
alone; a value that begins with a stroke needs `=` or a switch of one letter before it. After `--`
no word is a switch or a command. Whatever is not understood is refused, and so is a switch that is
given twice unless it allows that.
-/

namespace TradeRun.CommandLine

/-- Why reading ends before its time. -/
inductive Stop
  /-- Help is asked for. -/
  | help
  /-- The version is asked for. -/
  | version
  /-- The words are not understood. -/
  | misuse
deriving DecidableEq, Repr

/-- What a switch does. -/
inductive Action (α : Type)
  /-- Sets something, once. -/
  | once (set : α → α)
  /-- Changes something each time. -/
  | each (change : α → α)
  /-- Takes a value, once; refuses some. -/
  | value (set : String → α → Option α)
  /-- Takes a value each time; refuses some. -/
  | values (add : String → α → Option α)
  /-- Ends the reading. -/
  | stop (why : Stop)

/-- A switch with its long names, the first of which is its own, and its letter. -/
structure Switch (α : Type) where
  names : List String
  letter : Option Char := none
  action : Action α

/-- What is understood together. -/
structure Level (α : Type) where
  switches : List (Switch α)
  /-- The word that is no switch: its name and what it does. -/
  place : Option (String × (String → α → α)) := none
  commands : List String := []
  /-- Names that must not be missing. -/
  required : List String := []

/-- The arguments read so far. -/
structure Reading (α : Type) where
  arguments : α
  /-- The names of what was given. -/
  given : List String := []
  /-- A switch whose value comes next. -/
  pending : Option (Switch α) := none
  /-- Whether no further word is a switch. -/
  literal : Bool := false

/-- A word by its form. -/
inductive Word
  /-- The word `--`. -/
  | separator
  /-- A long switch, perhaps with a value. -/
  | long (name : String) (value : Option String)
  /-- Joined switches of one letter. -/
  | short (letters : List Char)
  | plain (text : String)
deriving DecidableEq, Repr

/-- The form of a word. -/
def Word.of (text : String) : Word :=
  match text.toList with
  | ['-', '-'] => .separator
  | '-' :: '-' :: cs =>
    let name := String.ofList (cs.takeWhile (· != '='))
    match cs.dropWhile (· != '=') with
    | [] => .long name none
    | _ :: value => .long name (some (String.ofList value))
  | '-' :: c :: cs => .short (c :: cs)
  | _ => .plain text

/-! ### Switches -/

/-- The action on a part of larger arguments. -/
def Action.onPart {α β : Type} (get : β → α) (put : α → β → β) : Action α → Action β
  | once set => once fun b => put (set (get b)) b
  | each change => each fun b => put (change (get b)) b
  | value set => value fun s b => (set s (get b)).map (put · b)
  | values add => values fun s b => (add s (get b)).map (put · b)
  | stop why => stop why

/-- Whether an action needs a value. -/
def Action.takesValue {α : Type} : Action α → Bool
  | value _ | values _ => true
  | once _ | each _ | stop _ => false

namespace Switch

variable {α β : Type}

/-- The switch on a part of larger arguments. -/
def onPart (get : β → α) (put : α → β → β) (s : Switch α) : Switch β :=
  { s with action := s.action.onPart get put }

/-- The name under which a switch is known as given. -/
def name (s : Switch α) : String := s.names.head?.getD ""

/-- A switch without value. -/
def flag (names : List String) (set : α → α) : Switch α := { names, action := .once set }

/-- A switch whose value is read in some way. -/
def reading {γ : Type} (names : List String) (read : String → Option γ) (put : γ → α → α) :
    Switch α :=
  { names, action := .value fun s a => (read s).map (put · a) }

/-- The switch with a letter. -/
def withLetter (s : Switch α) (c : Char) : Switch α := { s with letter := some c }

end Switch

/-! ### Reading -/

namespace Reading

variable {α : Type} (r : Reading α)

/-- Notes that something was given which may be given once. -/
def note (name : String) : Except Stop (Reading α) :=
  if r.given.contains name then .error .misuse else .ok { r with given := name :: r.given }

/-- Gives the value of a switch. -/
def give (s : Switch α) (value : String) : Except Stop (Reading α) := do
  let r := { r with pending := none }
  match s.action with
  | .value set =>
    let r ← r.note s.name
    match set value r.arguments with
    | some a => return { r with arguments := a }
    | none => throw .misuse
  | .values add =>
    match add value r.arguments with
    | some a => return { r with arguments := a }
    | none => throw .misuse
  | _ => throw .misuse

/-- Gives a switch without a value, or lets its value come next. -/
def enter (s : Switch α) : Except Stop (Reading α) :=
  match s.action with
  | .once set => (r.note s.name).map fun r => { r with arguments := set r.arguments }
  | .each change => .ok { r with arguments := change r.arguments }
  | .stop why => .error why
  | .value _ | .values _ => .ok { r with pending := some s }

end Reading

namespace Level

variable {α : Type} (l : Level α)

/-- Reads a long switch. -/
def readLong (r : Reading α) (name : String) (value : Option String) :
    Except Stop (Reading α) :=
  match l.switches.find? fun s => s.names.contains name with
  | some s =>
    match value with
    | some v => r.give s v
    | none => r.enter s
  | none => .error .misuse

/-- Reads joined switches of one letter. -/
def readShort (r : Reading α) : List Char → Except Stop (Reading α)
  | [] => .ok r
  | c :: cs =>
    match l.switches.find? fun s => s.letter == some c with
    | some s =>
      if s.action.takesValue then
        match cs with
        | [] => r.enter s
        | '=' :: value => r.give s (String.ofList value)
        | value => r.give s (String.ofList value)
      else (r.enter s).bind fun r => readShort r cs
    | none => .error .misuse

/-- Reads a word that is no switch. -/
def readPlace (r : Reading α) (text : String) : Except Stop (Reading α) :=
  match l.place with
  | some (name, set) => (r.note name).map fun r => { r with arguments := set text r.arguments }
  | none => .error .misuse

/-- Ends the reading, unless something is missing. -/
def finish (r : Reading α) : Except Stop α :=
  if r.pending.isNone && l.required.all r.given.contains then .ok r.arguments else .error .misuse

/-- Reads words up to the first command; that and what follows it is left. -/
def readFrom (r : Reading α) : List String → Except Stop (α × List String)
  | [] => (l.finish r).map (·, [])
  | text :: rest => do
    if r.literal then
      let r ← l.readPlace r text
      readFrom r rest
    else
      match Word.of text, r.pending with
      | .plain _, some s =>
        let r ← r.give s text
        readFrom r rest
      | _, some _ => throw .misuse
      | .plain _, none =>
        if l.commands.contains text then return (← l.finish r, text :: rest)
        else
          let r ← l.readPlace r text
          readFrom r rest
      | .long name value, none =>
        let r ← l.readLong r name value
        readFrom r rest
      | .short letters, none =>
        let r ← l.readShort r letters
        readFrom r rest
      | .separator, none => readFrom { r with literal := true } rest

/-- Reads words up to the first command, beginning with some arguments. -/
def read (arguments : α) (words : List String) : Except Stop (α × List String) :=
  l.readFrom { arguments } words

end Level

end TradeRun.CommandLine
