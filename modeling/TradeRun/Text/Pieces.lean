/-!
Sequences cut at a mark, such as texts at a character.

* `cut`: what stands before and after the first mark;
* `pieces`: what stands before, between and after all marks.
-/

namespace TradeRun.Text

variable {α : Type} [DecidableEq α]

/-- What stands before and after the first mark. -/
def cut (mark : α) (as : List α) : List α × List α :=
  (as.takeWhile (· != mark), (as.dropWhile (· != mark)).drop 1)

/-- What stands before, between and after all marks. -/
def pieces (mark : α) : List α → List (List α)
  | [] => [[]]
  | a :: as =>
    if a = mark then [] :: pieces mark as
    else
      match pieces mark as with
      | [] => [[a]]
      | p :: ps => (a :: p) :: ps

end TradeRun.Text
