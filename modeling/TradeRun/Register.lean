import Std.Data.ExtTreeMap

/-!
Registers: records kept under their own numbers.

* `Register α number`: a finite map in which a record `a` can stand under `number a` only;
* `Register.insert`: a record replaces the one that stood under its number;
* `Register.toList`: the records in ascending order of their numbers;
* `Register.map`: changes the records without changing their numbers.
-/

namespace TradeRun

/-- Records under their own numbers. -/
structure Register (α : Type) (number : α → Int) where
  entries : Std.ExtTreeMap Int α
  /-- Each record stands under its own number. -/
  keyed : ∀ (n : Int) (a : α), entries[n]? = some a → number a = n

namespace Register

variable {α : Type} {number : α → Int}

/-- The register without records. -/
def empty : Register α number := ⟨∅, by simp⟩

/-- The record under a number. -/
def find? (r : Register α number) (n : Int) : Option α := r.entries[n]?

/-- Whether a record stands under a number. -/
def has (r : Register α number) (n : Int) : Bool := (r.find? n).isSome

/-- The register with one more record, in the place of one with the same number. -/
def insert (r : Register α number) (a : α) : Register α number :=
  { entries := r.entries.insert (number a) a
    keyed := by
      intro n b h
      rw [Std.ExtTreeMap.getElem?_insert] at h
      split at h
      · next he => rw [Std.LawfulEqOrd.compare_eq_iff_eq] at he; cases h; exact he
      · exact r.keyed n b h }

/-- The register of a list of records; of several with one number the last one stays. -/
def ofList (as : List α) : Register α number := as.foldl insert empty

/-- The records in ascending order of their numbers. -/
def toList (r : Register α number) : List α := r.entries.toList.map (·.2)

/-- How many records there are. -/
def size (r : Register α number) : Nat := r.entries.size

/-- The register with every record changed by a function that keeps its number. -/
def map {β : Type} {tag : β → Int} (f : α → β) (h : ∀ a, tag (f a) = number a)
    (r : Register α number) : Register β tag :=
  { entries := r.entries.map fun _ a => f a
    keyed := by
      intro n b hb
      rw [Std.ExtTreeMap.getElem?_map, Option.map_eq_some_iff] at hb
      obtain ⟨a, ha, rfl⟩ := hb
      rw [h, r.keyed n a ha] }

/-! ### Facts -/

/-- Two registers with the same records are one. -/
theorem ext_find? {r s : Register α number} (h : ∀ n, r.find? n = s.find? n) : r = s := by
  cases r; cases s
  congr
  exact Std.ExtTreeMap.ext_getElem? h

@[simp]
theorem find?_empty (n : Int) : (empty : Register α number).find? n = none := by
  simp [find?, empty]

theorem find?_insert (r : Register α number) (a : α) (n : Int) :
    (r.insert a).find? n = if number a = n then some a else r.find? n := by
  simp [find?, insert, Std.ExtTreeMap.getElem?_insert]

@[simp]
theorem find?_map {β : Type} {tag : β → Int} (f : α → β) (h : ∀ a, tag (f a) = number a)
    (r : Register α number) (n : Int) : (r.map f h).find? n = (r.find? n).map f := by
  simp [find?, map, Std.ExtTreeMap.getElem?_map]

theorem number_of_find? {r : Register α number} {n : Int} {a : α} (h : r.find? n = some a) :
    number a = n := r.keyed n a h

theorem mem_toList {r : Register α number} {a : α} :
    a ∈ r.toList ↔ r.find? (number a) = some a := by
  simp only [toList, List.mem_map, Prod.exists, exists_eq_right]
  constructor
  · rintro ⟨n, h⟩
    rw [Std.ExtTreeMap.mem_toList_iff_getElem?_eq_some] at h
    rw [r.keyed n a h]
    exact h
  · intro h
    exact ⟨number a, Std.ExtTreeMap.mem_toList_iff_getElem?_eq_some.2 h⟩

/-- The records are listed by strictly ascending numbers. -/
theorem pairwise_toList (r : Register α number) :
    r.toList.Pairwise fun a b => number a < number b := by
  rw [toList, List.pairwise_map]
  refine r.entries.ordered_keys_toList.imp_of_mem ?_
  intro x y hx hy hlt
  rw [Std.ExtTreeMap.mem_toList_iff_getElem?_eq_some] at hx hy
  rw [r.keyed _ _ hx, r.keyed _ _ hy]
  exact Int.compare_eq_lt.1 hlt

/-- Distinct numbers under which records stand are no more than there are records. -/
theorem length_le_size {r : Register α number} {numbers : List Int} (hdistinct : numbers.Nodup)
    (h : ∀ n ∈ numbers, (r.find? n).isSome) : numbers.length ≤ r.size := by
  have hkeys : numbers ⊆ r.entries.keys := by
    intro n hn
    rw [Std.ExtTreeMap.mem_keys, Std.ExtTreeMap.mem_iff_isSome_getElem?]
    exact h n hn
  rw [size, ← Std.ExtTreeMap.length_keys]
  exact hdistinct.length_le_of_subset hkeys

end Register

end TradeRun
