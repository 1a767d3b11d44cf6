import Mathlib.Tactic
import TradeRun.Pad
import TradeRun.Proofs.Steps

/-!
Pad sizes that are read from codes and written as codes.

* `PadSize.spellings`, `PadSize.ofCode?_eq_some`: the characters that are read as a size, of which
  none is a blank and none is read as another size;
* `PadSize.OccursIn`: the code of a size stands in a text;
* `PadSizes.foldlM_insertCode_eq_ok`: codes are read one after the other, as long as each is one;
* `PadSizes.parse_eq_ok_iff`: what is read of a text;
* `PadSizes.parse_text`: **a text of codes is read as the set of the sizes that occur in it**, and
  what is written for that set is read as the same set.
-/

namespace TradeRun

open Text (isBlank)

/-! ### Codes -/

namespace PadSize

variable {size other : PadSize} {c : Char}

/-- The characters that stand for a size: its code, in either case if that is a letter. -/
def spellings : PadSize → List Char
  | small => ['S', 's']
  | medium => ['M', 'm']
  | large => ['L', 'l']
  | unknown => ['?']

/-- The code of the size stands in a text. -/
def OccursIn (size : PadSize) (s : String) : Prop := ∃ c ∈ s.toList, c ∈ size.spellings

instance (size : PadSize) (s : String) : Decidable (size.OccursIn s) :=
  -- the instance is named, as another one would try all characters
  List.decidableBEx (· ∈ size.spellings) s.toList

lemma mem_all (size : PadSize) : size ∈ all := by cases size <;> decide

lemma ofCode?_ascii : ∀ n ∈ List.range 0x80, ∀ size ∈ all,
    ofCode? (Char.ofNat n) = some size ↔ Char.ofNat n ∈ size.spellings := by
  decide +kernel

lemma code_lt (size : PadSize) :
    size.code.toNat < 0x80 ∧ ∀ c ∈ size.spellings, c.toNat < 0x80 := by
  cases size <;> simp [code, spellings]

/-- **A character is read as a size just when it is one of its spellings.** -/
lemma ofCode?_eq_some : ofCode? c = some size ↔ c ∈ size.spellings := by
  by_cases hascii : c.toNat < 0x80
  · have hcode := ofCode?_ascii c.toNat (List.mem_range.2 hascii) size size.mem_all
    rwa [Char.ofNat_toNat] at hcode
  · have hnone : ofCode? c = none := by
      rw [ofCode?, List.find?_eq_none, Text.toUpper_eq_self (Nat.le_of_not_lt hascii)]
      intro size _ hcode
      exact hascii (beq_iff_eq.1 hcode ▸ size.code_lt.1)
    rw [hnone]
    simpa using fun h => hascii (size.code_lt.2 c h)

lemma not_isBlank_of_mem_spellings (h : c ∈ size.spellings) : ¬ isBlank c := by
  have hplain : size.spellings.all fun c => !isBlank c := by cases size <;> decide
  simpa using List.all_eq_true.1 hplain c h

lemma code_mem_spellings : other.code ∈ size.spellings ↔ other = size := by
  cases other <;> cases size <;> decide

end PadSize

/-! ### Sets of sizes -/

namespace PadSizes

variable {sizes sizes' : PadSizes} {s t : String}

/-- Two sets that accept the same sizes are one. -/
lemma ext_accepts (h : ∀ size, sizes.accepts size ↔ sizes'.accepts size) : sizes = sizes' := by
  have hsame (size : PadSize) : sizes.accepts size = sizes'.accepts size :=
    Bool.eq_iff_iff.2 (h size)
  obtain ⟨small, medium, large, unknown⟩ := sizes
  obtain ⟨small', medium', large', unknown'⟩ := sizes'
  exact (mk.injEq ..).symm ▸ ⟨hsame .small, hsame .medium, hsame .large, hsame .unknown⟩

lemma not_accepts_empty (size : PadSize) : ¬ accepts {} size := by cases size <;> decide

lemma ne_empty_iff : sizes ≠ {} ↔ ∃ size, sizes.accepts size := by
  constructor
  · intro hne
    by_contra! hnone
    exact hne (ext_accepts fun size => iff_of_false (hnone size) (not_accepts_empty size))
  · rintro ⟨size, hsize⟩ rfl
    exact not_accepts_empty size hsize

/-- A set with more sizes accepts these and what it accepted before. -/
lemma accepts_foldl_insert (more : List PadSize) (sizes : PadSizes) (size : PadSize) :
    (more.foldl insert sizes).accepts size ↔ size ∈ more ∨ sizes.accepts size := by
  induction more generalizing sizes with
  | nil => simp
  | cons other more ih =>
      rw [List.foldl_cons, ih, accepts_insert, Bool.or_eq_true, decide_eq_true_eq, List.mem_cons]
      tauto

/-- There is a set of whatever sizes. -/
lemma exists_accepts_iff (p : PadSize → Prop) :
    ∃ sizes : PadSizes, ∀ size, sizes.accepts size ↔ p size := by
  classical
  refine ⟨⟨p .small, p .medium, p .large, p .unknown⟩, fun size => ?_⟩
  cases size <;> exact decide_eq_true_iff

/-! ### Reading -/

/-- **Codes are read one after the other, as long as each of them is one.** -/
lemma foldlM_insertCode_eq_ok {codes : String} {cs : List Char} {sizes result : PadSizes} :
    cs.foldlM (insertCode codes) sizes = .ok result ↔
      (∀ c ∈ cs, ∃ size, PadSize.ofCode? c = some size) ∧
        (cs.filterMap PadSize.ofCode?).foldl insert sizes = result := by
  induction cs generalizing sizes with
  | nil => simp [pure, Except.pure]
  | cons c cs ih =>
      cases hcode : PadSize.ofCode? c with
      | none => simp [insertCode, hcode, bind, Except.bind]
      | some size => simp [insertCode, hcode, bind, Except.bind, ih]

/-- The sizes that are read of the characters of a text that are no blanks. -/
lemma mem_sizesRead {size : PadSize} :
    size ∈ (s.toList.filter (!isBlank ·)).filterMap PadSize.ofCode? ↔ size.OccursIn s := by
  simp only [List.mem_filterMap, List.mem_filter, PadSize.ofCode?_eq_some, PadSize.OccursIn]
  constructor
  · rintro ⟨c, ⟨hc, -⟩, hsize⟩
    exact ⟨c, hc, hsize⟩
  · rintro ⟨c, hc, hsize⟩
    exact ⟨c, ⟨hc, by simpa using PadSize.not_isBlank_of_mem_spellings hsize⟩, hsize⟩

/-- **What is read of a text**: there are sizes, they are those that occur in it, and all else is
blank. -/
lemma parse_eq_ok_iff : parse s = .ok sizes ↔
    (∀ c ∈ s.toList, ¬ isBlank c → ∃ size : PadSize, c ∈ size.spellings) ∧ sizes ≠ {} ∧
      ∀ size, sizes.accepts size ↔ size.OccursIn s := by
  have hcodes : (∀ c ∈ s.toList.filter (!isBlank ·), ∃ size, PadSize.ofCode? c = some size) ↔
      ∀ c ∈ s.toList, ¬ isBlank c → ∃ size : PadSize, c ∈ size.spellings := by
    simp [PadSize.ofCode?_eq_some]
  have haccepts (size : PadSize) :
      (((s.toList.filter (!isBlank ·)).filterMap PadSize.ofCode?).foldl insert {}).accepts size ↔
        size.OccursIn s := by
    rw [accepts_foldl_insert, mem_sizesRead, or_iff_left (not_accepts_empty size)]
  rw [parse, bind_eq_ok]
  simp only [foldlM_insertCode_eq_ok, hcodes]
  constructor
  · rintro ⟨read, ⟨hall, rfl⟩, h⟩
    split_ifs at h with hempty
    cases h
    exact ⟨hall, hempty, haccepts⟩
  · rintro ⟨hall, hne, hoccurs⟩
    have hsizes := ext_accepts fun size => (haccepts size).trans (hoccurs size).symm
    exact ⟨_, ⟨hall, hsizes⟩, if_neg hne⟩

/-! ### Writing -/

lemma toList_text (sizes : PadSizes) : sizes.text.toList = sizes.toList.map PadSize.code :=
  String.toList_ofList

lemma mem_toList {size : PadSize} : size ∈ sizes.toList ↔ sizes.accepts size := by
  rw [toList, List.mem_filter, and_iff_right size.mem_all]

lemma occursIn_text {size : PadSize} : size.OccursIn sizes.text ↔ sizes.accepts size := by
  rw [PadSize.OccursIn, toList_text]
  simp only [List.mem_map, mem_toList, exists_exists_and_eq_and, PadSize.code_mem_spellings,
    exists_eq_right]

/-- **What is written for a set is read as the set**, if it has a size. -/
lemma parse_text_of_ne (h : sizes ≠ {}) : parse sizes.text = .ok sizes := by
  refine parse_eq_ok_iff.2 ⟨fun c hc _ => ?_, h, fun size => occursIn_text.symm⟩
  rw [toList_text] at hc
  obtain ⟨size, -, rfl⟩ := List.mem_map.1 hc
  exact ⟨size, PadSize.code_mem_spellings.2 rfl⟩

/-- What is written for sets tells them apart, if each has a size. -/
lemma eq_of_text_eq (h : sizes ≠ {}) (h' : sizes' ≠ {}) (htext : sizes.text = sizes'.text) :
    sizes = sizes' := by
  have hread := parse_text_of_ne h
  rw [htext, parse_text_of_ne h'] at hread
  exact (Except.ok.inj hread).symm

/-- A text is read just when all of it but the blanks is codes, and there is one. -/
lemma exists_parse_eq_ok : (∃ sizes, parse s = .ok sizes) ↔
    (∀ c ∈ s.toList, ¬ isBlank c → ∃ size : PadSize, c ∈ size.spellings) ∧
      ∃ c ∈ s.toList, ¬ isBlank c := by
  constructor
  · rintro ⟨sizes, h⟩
    obtain ⟨hall, hne, haccepts⟩ := parse_eq_ok_iff.1 h
    obtain ⟨size, hsize⟩ := ne_empty_iff.1 hne
    obtain ⟨c, hc, hspelled⟩ := (haccepts size).1 hsize
    exact ⟨hall, c, hc, PadSize.not_isBlank_of_mem_spellings hspelled⟩
  · rintro ⟨hall, c, hc, hblank⟩
    obtain ⟨sizes, hsizes⟩ := exists_accepts_iff fun size : PadSize => size.OccursIn s
    obtain ⟨size, hsize⟩ := hall c hc hblank
    exact ⟨sizes, parse_eq_ok_iff.2 ⟨hall,
      ne_empty_iff.2 ⟨size, (hsizes size).2 ⟨c, hc, hsize⟩⟩, hsizes⟩⟩

/-- **A text of codes is read as the set of the sizes that occur in it.** It is read just when each
of its characters that is no blank is a code, in either case of its letter, and there is one. What
is written for the set is read as the same set, so that the same is written for two texts just when
the same sizes occur in them, in whatever order, case, number and distance. -/
theorem parse_text (s : String) :
    ((∃ sizes, parse s = .ok sizes) ↔
      (∀ c ∈ s.toList, ¬ isBlank c → ∃ size : PadSize, c ∈ size.spellings) ∧
        ∃ c ∈ s.toList, ¬ isBlank c) ∧
    ∀ sizes, parse s = .ok sizes →
      (∀ size, sizes.accepts size ↔ size.OccursIn s) ∧
      parse sizes.text = .ok sizes ∧
      ∀ t sizes', parse t = .ok sizes' →
        (sizes.text = sizes'.text ↔
          ∀ size : PadSize, size.OccursIn s ↔ size.OccursIn t) := by
  refine ⟨exists_parse_eq_ok, fun sizes hs => ?_⟩
  obtain ⟨-, hne, haccepts⟩ := parse_eq_ok_iff.1 hs
  refine ⟨haccepts, parse_text_of_ne hne, fun t sizes' ht => ?_⟩
  obtain ⟨-, hne', haccepts'⟩ := parse_eq_ok_iff.1 ht
  simp only [← haccepts, ← haccepts']
  constructor
  · intro htext size
    rw [eq_of_text_eq hne hne' htext]
  · intro hsame
    rw [ext_accepts hsame]

/-- Codes between blanks are read in any order, and written in one. A long s is a letter that has an
S as its capital, but no code. -/
theorem parse_text_longS :
    ∃ sizes, parse " l?\tSl" = .ok sizes ∧ sizes.text = "SL?" ∧ parse "SL?" = .ok sizes ∧
      (∀ other, parse "?sL" = .ok other → other.text = "SL?") ∧
      ¬ ∃ sizes, parse "Mſ" = .ok sizes := by
  have hread : parse " l?\tSl" = .ok ⟨true, false, true, true⟩ := rfl
  obtain ⟨haccepts, hagain, hsame⟩ := (parse_text " l?\tSl").2 _ hread
  refine ⟨_, hread, rfl, hagain, fun other hother => ?_, ?_⟩
  · refine ((hsame _ _ hother).2 fun size => ?_).symm
    cases size <;> decide
  · intro hlong
    obtain ⟨size, hsize⟩ := ((parse_text "Mſ").1.1 hlong).1 'ſ' (by decide) (by decide)
    cases size <;> revert hsize <;> decide

end PadSizes

end TradeRun
