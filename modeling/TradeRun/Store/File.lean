import TradeRun.Store.Table

/-!
Files that hold stores.

* `StoreFile`: what a file holds, and what is known of it before that is read;
* `StoreFile.empty`, `StoreFile.ofStore`: a file that was just made, and one that holds a store.
-/

namespace TradeRun

/-- What a file holds. -/
structure StoreFile where
  /-- Whether nothing was ever written to the file. -/
  isEmpty : Bool
  /-- Whether changes are kept in a log beside the file at first. -/
  isLogged : Bool := false
  contents : Except StoreError Store

namespace StoreFile

/-- A file that was just made. -/
def empty : StoreFile := { isEmpty := true, contents := .ok ⟨[]⟩ }

/-- A file that holds a store. -/
def ofStore (s : Store) : StoreFile := { isEmpty := s.relations.isEmpty, contents := .ok s }

end StoreFile

end TradeRun
