import Mathlib.Tactic
import Mathlib.Data.List.DropRight
import TradeRun.Text.Blank
import TradeRun.Text.Pieces
import TradeRun.Text.UpperCase

/-!
Blanks and strokes in texts.

Trimming takes blanks away and nothing else, and capital letters leave blanks and strokes where they
are. So what a text is compared with after trimming tells whether it has blanks at its own ends.

* `Text.Tight`, `Text.trim_eq_self`: texts without blanks at their ends, which trimming leaves as
  they are;
* `Text.trimBlanks_append_mark`: a text is trimmed on both sides of a mark that is no blank;
* `Text.cut_append`: a mark that is not in the first part is the first mark behind it;
* `Text.KeepsMarks`, `Text.keepsMarks_capitals`: only characters that are neither blanks nor strokes
  have other capitals than themselves, and these are such characters as well;
* `Text.tight_upperCase`, `Text.stroke_mem_upperCase`: blanks at the ends and strokes are still
  there in capital letters;
* `Text.tight_iff_of_equalAscii`, `Text.count_stroke_of_equalAscii`: the same up to the case of
  ASCII letters.
-/

namespace TradeRun.Text

/-! ### Blanks at the ends -/

/-- No blank stands at either end of the text. -/
def Tight (s : String) : Prop :=
  (∀ c ∈ s.toList.head?, ¬ isBlank c) ∧ ∀ c ∈ s.toList.getLast?, ¬ isBlank c

instance (s : String) : Decidable (Tight s) :=
  -- looks at the two ends, where a search for the instance may go through all characters
  decidable_of_iff
    ((s.toList.head?.all fun c => !isBlank c) ∧ s.toList.getLast?.all fun c => !isBlank c)
    (by simp [Tight, Option.all_eq_true])

lemma dropWhile_isBlank_eq_self {cs : List Char} (h : ∀ c ∈ cs.head?, ¬ isBlank c) :
    cs.dropWhile isBlank = cs := by
  cases cs with
  | nil => rfl
  | cons c cs => exact List.dropWhile_cons_of_neg (h c rfl)

/-- Nothing is trimmed where no blank stands at the ends. -/
lemma trim_eq_self {s : String} (h : Tight s) : trim s = s := by
  have hlast : ∀ c ∈ s.toList.reverse.head?, ¬ isBlank c := by
    rw [List.head?_reverse]
    exact h.2
  rw [trim, trimBlanks, dropWhile_isBlank_eq_self h.1, dropWhile_isBlank_eq_self hlast,
    List.reverse_reverse, String.ofList_toList]

/-! ### Trimming -/

section Trimming

variable {mark : Char} (hmark : ¬ isBlank mark)

lemma trimBlanks_eq (cs : List Char) :
    trimBlanks cs = (cs.dropWhile isBlank).rdropWhile isBlank := rfl

/-- Blanks behind a text are trimmed. -/
lemma trimBlanks_append_blanks {bs : List Char} (h : ∀ b ∈ bs, isBlank b) (as : List Char) :
    trimBlanks (as ++ bs) = trimBlanks as := by
  rw [trimBlanks_eq, trimBlanks_eq, List.dropWhile_append]
  split_ifs with hempty
  · rw [List.dropWhile_eq_nil_iff.2 h, List.isEmpty_iff.1 hempty]
  · rw [List.rdropWhile, List.reverse_append,
      List.dropWhile_append_of_pos fun b hb => h b (List.mem_reverse.1 hb), List.rdropWhile]

lemma trim_dropWhile (cs : List Char) :
    trim (String.ofList (cs.dropWhile isBlank)) = trim (String.ofList cs) := by
  simp only [trim, String.toList_ofList, trimBlanks_eq, List.dropWhile_idempotent]

lemma trim_rdropWhile (cs : List Char) :
    trim (String.ofList (cs.rdropWhile isBlank)) = trim (String.ofList cs) := by
  have hblank : ∀ c ∈ cs.rtakeWhile isBlank, isBlank c := fun c hc => List.mem_rtakeWhile_imp hc
  conv_rhs => rw [← List.rdropWhile_append_rtakeWhile (p := isBlank) (l := cs)]
  simp only [trim, String.toList_ofList, trimBlanks_append_blanks hblank]

/-- No blank is left at the ends. -/
lemma tight_trim (s : String) : Tight (trim s) := by
  rw [Tight, trim, String.toList_ofList, trimBlanks_eq]
  constructor
  · intro c hc
    obtain ⟨rest, hrest⟩ := List.rdropWhile_prefix isBlank (s.toList.dropWhile isBlank)
    have hfirst := List.mem_head?_append_of_mem_head? (t := rest) hc
    have hnot := List.head?_dropWhile_not isBlank s.toList
    rw [hrest] at hfirst
    rw [Option.mem_def.1 hfirst] at hnot
    exact Bool.not_eq_true _ ▸ hnot
  · intro c hc
    obtain ⟨hne, rfl⟩ := List.mem_getLast?_eq_getLast hc
    exact List.rdropWhile_last_not isBlank _ hne

lemma trim_trim (s : String) : trim (trim s) = trim s := trim_eq_self (tight_trim s)

include hmark

lemma dropWhile_isBlank_append (as bs : List Char) :
    (as ++ mark :: bs).dropWhile isBlank = as.dropWhile isBlank ++ mark :: bs := by
  rw [List.dropWhile_append, List.dropWhile_cons_of_neg hmark]
  split_ifs with hempty
  · rw [List.isEmpty_iff.1 hempty, List.nil_append]
  · rfl

/-- **A text is trimmed on both sides of a mark** that is no blank. -/
lemma trimBlanks_append_mark (as bs : List Char) :
    trimBlanks (as ++ mark :: bs) = as.dropWhile isBlank ++ mark :: bs.rdropWhile isBlank := by
  rw [trimBlanks_eq, dropWhile_isBlank_append hmark, List.rdropWhile, List.reverse_append,
    List.reverse_cons, List.append_assoc, List.singleton_append, dropWhile_isBlank_append hmark,
    List.reverse_append, List.reverse_cons, List.reverse_reverse, List.append_assoc,
    List.singleton_append, List.rdropWhile]

/-- Trimming takes no mark away. -/
lemma count_trim (s : String) : (trim s).toList.count mark = s.toList.count mark := by
  have hdrop (cs : List Char) : (cs.dropWhile isBlank).count mark = cs.count mark := by
    have hnot : mark ∉ cs.takeWhile isBlank := fun h => hmark (List.mem_takeWhile_imp h)
    conv_rhs => rw [← List.takeWhile_append_dropWhile (p := isBlank) (l := cs)]
    rw [List.count_append, List.count_eq_zero.2 hnot, Nat.zero_add]
  rw [trim, trimBlanks, String.toList_ofList, List.count_reverse, hdrop, List.count_reverse, hdrop]

lemma mem_trim_iff {s : String} : mark ∈ (trim s).toList ↔ mark ∈ s.toList := by
  rw [← List.count_pos_iff, ← List.count_pos_iff, count_trim hmark]

end Trimming

/-- A mark that is not in the first part is the first mark behind it. -/
lemma cut_append {α : Type} [DecidableEq α] {mark : α} {as : List α} (h : mark ∉ as)
    (bs : List α) : cut mark (as ++ mark :: bs) = (as, bs) := by
  have hother : ∀ a ∈ as, (a != mark) = true := by
    intro a ha
    rw [bne_iff_ne]
    rintro rfl
    exact h ha
  rw [cut, List.takeWhile_append_of_pos hother, List.dropWhile_append_of_pos hother]
  simp

/-! ### Capital letters -/

/-- Neither a blank nor a stroke. -/
def IsPlain (c : Char) : Prop := ¬ isBlank c ∧ c ≠ '/'

instance : DecidablePred IsPlain := fun _ => inferInstanceAs (Decidable (_ ∧ _))

/-- What stands in place of a character is the character itself, or both are plain. -/
def KeepsMarks (f : Char → List Char) : Prop :=
  ∀ c, f c = [c] ∨ IsPlain c ∧ f c ≠ [] ∧ ∀ d ∈ f c, IsPlain d

lemma isPlain_longCapitals : ∀ entry ∈ longCapitals,
    IsPlain (Char.ofNat entry.1) ∧ entry.2 ≠ [] ∧ ∀ n ∈ entry.2, IsPlain (Char.ofNat n) := by
  decide +kernel

lemma isPlain_caseRuns : ∀ run ∈ caseRuns, ∀ n ∈ List.range' run.first (run.last + 1 - run.first),
    IsPlain (Char.ofNat n) ∧ IsPlain (Char.ofNat ((n : Int) + run.offset).toNat) := by
  decide +kernel

lemma isPlain_toUpper_ascii : ∀ n ∈ List.range 0x80, (Char.ofNat n).toUpper = Char.ofNat n ∨
    IsPlain (Char.ofNat n) ∧ IsPlain (Char.ofNat n).toUpper := by
  decide +kernel

/-- A character that is no ASCII letter stays, and the letters are plain. -/
lemma keepsMarks_toUpper : KeepsMarks fun c => [c.toUpper] := by
  intro c
  by_cases hascii : c.toNat < 0x80
  · have hcases := isPlain_toUpper_ascii c.toNat (List.mem_range.2 hascii)
    rw [Char.ofNat_toNat] at hcases
    simpa using hcases
  · exact .inl (congrArg (fun d => [d]) (toUpper_eq_self (Nat.le_of_not_lt hascii)))

/-- Blanks and strokes are their own capitals, and no other character has them as such. -/
lemma keepsMarks_capitals : KeepsMarks capitals := by
  intro c
  rw [capitals]
  split_ifs with hascii
  · exact keepsMarks_toUpper c
  · split
    · next ns hlong =>
      obtain ⟨before, after, hentries, -⟩ := List.lookup_eq_some_iff.1 hlong
      have hmem : (c.toNat, ns) ∈ longCapitals := by
        rw [hentries]
        exact List.mem_append_right _ List.mem_cons_self
      obtain ⟨hc, hne, hplain⟩ := isPlain_longCapitals _ hmem
      rw [Char.ofNat_toNat] at hc
      exact .inr ⟨hc, by simpa using hne, by simpa using hplain⟩
    · split
      · next run hrun =>
        have hcovers := List.find?_some hrun
        simp only [CaseRun.covers, Bool.and_eq_true, decide_eq_true_eq] at hcovers
        have hmem : c.toNat ∈ List.range' run.first (run.last + 1 - run.first) := by
          rw [List.mem_range'_1]
          omega
        obtain ⟨hc, hplain⟩ := isPlain_caseRuns run (List.mem_of_find?_eq_some hrun) _ hmem
        rw [Char.ofNat_toNat] at hc
        exact .inr ⟨hc, by simp, by simpa using hplain⟩
      · exact .inl rfl

section KeepsMarks

variable {f : Char → List Char} (hf : KeepsMarks f)
include hf

lemma count_stroke_flatMap (cs : List Char) : (cs.flatMap f).count '/' = cs.count '/' := by
  induction cs with
  | nil => rfl
  | cons c cs ih =>
      rw [List.flatMap_cons, List.count_append, ih, List.count_cons, Nat.add_comm]
      congr 1
      rcases hf c with h | ⟨hc, -, hplain⟩
      · rw [h, List.count_singleton]
      · rw [List.count_eq_zero.2 fun h => (hplain _ h).2 rfl, if_neg (by simpa using hc.2)]

/-- Whether the first character is a blank can still be seen. -/
lemma head?_flatMap_isBlank (cs : List Char) :
    (∀ d ∈ (cs.flatMap f).head?, ¬ isBlank d) ↔ ∀ c ∈ cs.head?, ¬ isBlank c := by
  cases cs with
  | nil => rfl
  | cons c cs =>
      rcases hf c with h | ⟨hc, hne, hplain⟩
      · rw [List.flatMap_cons, h]
        rfl
      · obtain ⟨d, ds, hfc⟩ := List.exists_cons_of_ne_nil hne
        have hd : IsPlain d := hplain d (hfc ▸ List.mem_cons_self)
        rw [List.flatMap_cons, hfc]
        simp [hc.1, hd.1]

lemma KeepsMarks.reverse : KeepsMarks fun c => (f c).reverse := by
  intro c
  rcases hf c with h | ⟨hc, hne, hplain⟩
  · exact .inl (congrArg List.reverse h)
  · exact .inr ⟨hc, by simpa using hne, by simpa using hplain⟩

/-- Whether there are blanks at the ends can still be seen. -/
lemma tight_flatMap (s : String) : Tight (String.ofList (s.toList.flatMap f)) ↔ Tight s := by
  rw [Tight, Tight, String.toList_ofList, head?_flatMap_isBlank hf, ← List.head?_reverse,
    ← List.head?_reverse, List.reverse_flatMap]
  exact and_congr_right' (head?_flatMap_isBlank hf.reverse _)

end KeepsMarks

/-- **A text has its blanks at the ends in capital letters as well.** -/
lemma tight_upperCase {s : String} : Tight (upperCase s) ↔ Tight s :=
  tight_flatMap keepsMarks_capitals s

/-- **A text has its strokes in capital letters as well.** -/
lemma stroke_mem_upperCase {s : String} : '/' ∈ (upperCase s).toList ↔ '/' ∈ s.toList := by
  rw [← List.count_pos_iff, ← List.count_pos_iff, upperCase, String.toList_ofList,
    count_stroke_flatMap keepsMarks_capitals]

lemma foldAscii_eq_flatMap (cs : List Char) : foldAscii cs = cs.flatMap fun c => [c.toUpper] :=
  List.map_eq_flatMap

/-- Texts that are equal up to the case of ASCII letters are empty together. -/
lemma eq_empty_iff_of_equalAscii {s t : String} (h : equalAscii s t) : s = "" ↔ t = "" := by
  have hfold : s.toList.map Char.toUpper = t.toList.map Char.toUpper := beq_iff_eq.1 h
  rw [← String.toList_eq_nil_iff, ← String.toList_eq_nil_iff, ← List.map_eq_nil_iff, hfold,
    List.map_eq_nil_iff]

/-- Texts that are equal up to the case of ASCII letters have blanks at the same ends. -/
lemma tight_iff_of_equalAscii {s t : String} (h : equalAscii s t) : Tight s ↔ Tight t := by
  have hfold := beq_iff_eq.1 h
  rw [foldAscii_eq_flatMap, foldAscii_eq_flatMap] at hfold
  rw [← tight_flatMap keepsMarks_toUpper, hfold, tight_flatMap keepsMarks_toUpper]

/-- Texts that are equal up to the case of ASCII letters have as many strokes. -/
lemma count_stroke_of_equalAscii {s t : String} (h : equalAscii s t) :
    s.toList.count '/' = t.toList.count '/' := by
  have hfold := beq_iff_eq.1 h
  rw [foldAscii_eq_flatMap, foldAscii_eq_flatMap] at hfold
  rw [← count_stroke_flatMap keepsMarks_toUpper, hfold, count_stroke_flatMap keepsMarks_toUpper]

end TradeRun.Text
