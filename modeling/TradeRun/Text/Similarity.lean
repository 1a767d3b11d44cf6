/-!
How alike two words are, between `0` and `1`.

* `jaro`: counts the characters that both words have at nearly the same place, and how many of
  them stand in another order;
* `jaroWinkler`: raises the measure of words that are alike already when they begin alike.

Characters match when they are equal and lie at most `window` places apart; each is matched once,
first come first served.
-/

namespace TradeRun.Text

/-- How far apart two matching characters may lie. -/
def window (a b : Nat) : Nat := max a b / 2 - 1

/-- Marks the first unmarked place that holds `c`, from place `low` on and before place `high`. -/
def mark? (c : Char) (low high : Nat) (places : List (Char × Bool)) : Option (List (Char × Bool)) :=
  let found := places.zipIdx.find? fun ((d, used), j) => low ≤ j && j < high && d == c && !used
  found.map fun ((d, _), j) => places.set j (d, true)

/-- Matches the characters of one word, from place `i` on, against another word: the characters
that found a match, and the other word with its matched places marked. -/
def matching (reach : Nat) : List Char → Nat → List (Char × Bool) → List Char × List (Char × Bool)
  | [], _, places => ([], places)
  | c :: cs, i, places =>
    match mark? c (i - reach) (i + reach + 1) places with
    | some marked =>
      let (matched, final) := matching reach cs (i + 1) marked
      (c :: matched, final)
    | none => matching reach cs (i + 1) places

/-- The measure of two words by their matching characters. -/
def jaro (a b : List Char) : Float :=
  if a.isEmpty && b.isEmpty then 1.0
  else if a.isEmpty || b.isEmpty then 0.0
  else
    let (left, places) := matching (window a.length b.length) a 0 (b.map fun c => (c, false))
    let right := (places.filter (·.2)).map (·.1)
    let crossed := ((left.zip right).countP fun (c, d) => c != d) / 2
    if left.isEmpty then 0.0
    else
      let count := Float.ofNat left.length
      (count / Float.ofNat a.length + count / Float.ofNat b.length
        + Float.ofNat (left.length - crossed) / count) / 3.0

/-- The length of the common beginning of two words. -/
def commonStart (a b : List Char) : Nat :=
  ((a.zip b).takeWhile fun (c, d) => c == d).length

/-- The measure of two words, raised by a tenth of what is missing to `1` for each of up to four
characters at which they begin alike (`jaro_winkler`). -/
def jaroWinkler (a b : String) : Float :=
  let likeness := jaro a.toList b.toList
  if 0.7 < likeness then
    let start := commonStart (a.toList.take 4) b.toList
    likeness + 0.1 * Float.ofNat start * (1.0 - likeness)
  else likeness

end TradeRun.Text
