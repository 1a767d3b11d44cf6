/-!
What a reading gives that may fail on the way.

* `Yield`: the items read one after the other, and whether those are all;
* `Yield.ofList`, `Yield.flatMap`, `Yield.map?`: readings of lists, which end at the first failure.
-/

namespace TradeRun.Store

/-- The items read one after the other, and whether those are all. -/
structure Yield (α : Type) where
  items : List α
  isWhole : Bool

namespace Yield

variable {α β : Type}

/-- Nothing, as it cannot be read. -/
def failed : Yield α := ⟨[], false⟩

/-- What the members of a list stand for, up to the first one that stands for nothing. -/
def ofList (read : α → Option β) : List α → Yield β
  | [] => ⟨[], true⟩
  | a :: as =>
    match read a with
    | some b =>
      let rest := ofList read as
      ⟨b :: rest.items, rest.isWhole⟩
    | none => failed

/-- What the members of a list give in turn, up to the first one that fails. -/
def flatMap (read : α → Yield β) : List α → Yield β
  | [] => ⟨[], true⟩
  | a :: as =>
    let first := read a
    if first.isWhole then
      let rest := flatMap read as
      ⟨first.items ++ rest.items, rest.isWhole⟩
    else first

/-- What the items stand for, up to the first one that stands for nothing. -/
def map? (f : α → Option β) (y : Yield α) : Yield β :=
  let read := ofList f y.items
  ⟨read.items, read.isWhole && y.isWhole⟩

end Yield

end TradeRun.Store
