import TradeRun.Text.Lines
import TradeRun.Text.Pieces

/-!
The accounts of a machine.

* `userOf?`: the number of the user that a program runs for, by the lines of its status;
* `accountHome?`: the directory of a user, by the list of accounts.

A line of the status has a name, a colon and values after tabulators. A line of the list has seven
fields between colons: name, password, user, group, remarks, directory and shell.
-/

namespace TradeRun

/-- The pieces of a text between marks. -/
def fieldsAt (mark : Char) (s : String) : List String :=
  (Text.pieces mark s.toList).map String.ofList

/-- The number of the user that a program runs for, as digits. -/
def userOf? (status : String) : Option String :=
  (Text.lines status).findSome? fun line =>
    match fieldsAt '\t' line with
    | "Uid:" :: user :: _ => some user
    | _ => none

/-- The directory of a user that the list of accounts has. -/
def accountHome? (accounts user : String) : Option String :=
  (Text.lines accounts).findSome? fun line =>
    match fieldsAt ':' line with
    | [_, _, number, _, _, home, _] => if number = user then some home else none
    | _ => none

end TradeRun
