import Viewsmith.Proofs.RunTexts

/-!
# Runs that are cut in two

A run that is cut at an offset falls into two runs. Between two characters nothing is lost by that:
the texts of the two runs, one after the other, are the text of the run. Inside the pair of a
character the two halves are read as replacement characters, one at the end of the first run and one
at the start of the second, and all other characters stay as they were.

An offset is between two characters, inside a pair or past the end, and an offset past the end acts
as the end.

## Main definitions

* `Text.CutsPair`: an offset inside the pair of a character.
* `TextRun.between`: a run with other offsets.

## Main statements

* `Text.ofUnits_append`: units are read in two parts, unless the parts cut a pair.
* `Text.isBoundary_min`: an offset that cuts no pair is a boundary, or past the end.
* `Text.slice_append_slice`: the parts before and after a boundary.
* `TextContent.runText_between`: the texts of runs, cut anywhere.
-/

namespace Viewsmith

namespace Text

/-- An offset inside the pair of a character. -/
def CutsPair (cs : List Char) (offset : Nat) (c : Char) : Prop :=
  0x10000 ≤ c.toNat ∧ ∃ before after, cs = before ++ c :: after ∧ offset = (units before).length + 1

/-! ### Reading units in two parts -/

/-- Units are read in two parts, unless the first part ends with the first half of a pair and the
second begins with the second half. -/
theorem ofUnits_append {us vs : List Nat}
    (h : ∀ u v, us.getLast? = some u → vs.head? = some v → (isHigh u && isLow v) = false) :
    ofUnits (us ++ vs) = ofUnits us ++ ofUnits vs := by
  fun_induction ofUnits us with
  | case1 => rfl
  | case2 u =>
    cases vs with
    | nil => rfl
    | cons v vs => simp [ofUnits, h u v rfl rfl]
  | case3 u v us hpair ih =>
    have hrest : ofUnits (us ++ vs) = ofUnits us ++ ofUnits vs := by
      apply ih
      intro w x hw
      exact h w x (by simp [List.getLast?_cons, hw])
    simp [ofUnits, hpair, hrest]
  | case4 u v us hpair ih =>
    have hrest : ofUnits (v :: us ++ vs) = ofUnits (v :: us) ++ ofUnits vs := by
      apply ih
      intro w x hw
      exact h w x (by rw [List.getLast?_cons_cons]; exact hw)
    rw [List.cons_append, List.cons_append, ofUnits, if_neg hpair, List.cons_append, ← hrest]
    rfl

/-- The second half of a pair is not a first one. -/
theorem isHigh_of_isLow {u : Nat} (h : isLow u = true) : isHigh u = false := by
  simp only [isLow, Bool.and_eq_true, decide_eq_true_eq] at h
  simp only [isHigh, Bool.and_eq_false_iff, decide_eq_false_iff_not]
  omega

/-- The last unit of a text is no first half. -/
theorem isHigh_of_getLast?_units {cs : List Char} {u : Nat} (h : (units cs).getLast? = some u) :
    isHigh u = false := by
  rcases cs.eq_nil_or_concat with rfl | ⟨cs, c, rfl⟩
  · cases h
  · rw [List.concat_eq_append, units_append, units, units, List.flatMap_singleton] at h
    rcases unitsOfChar_cases c with ⟨-, hunits⟩ | ⟨-, high, low, hunits, -, hlow, -⟩
    · rw [hunits, List.getLast?_concat] at h
      cases h
      exact (Bool.or_eq_false_iff.mp (not_half c)).1
    · have hlast : low = u := by simpa [hunits] using h
      rw [← hlast]
      exact isHigh_of_isLow hlow

/-! ### Boundaries -/

/-- The start of a text is a boundary. -/
theorem isBoundary_zero (cs : List Char) : IsBoundary cs 0 := ⟨[], List.nil_prefix, rfl⟩

/-- One more character before a text moves its boundaries. -/
theorem IsBoundary.cons {cs : List Char} {offset : Nat} (h : IsBoundary cs offset) (c : Char) :
    IsBoundary (c :: cs) ((unitsOfChar c).length + offset) := by
  obtain ⟨before, hbefore, rfl⟩ := h
  refine ⟨c :: before, List.cons_prefix_cons.mpr ⟨rfl, hbefore⟩, ?_⟩
  rw [units, List.flatMap_cons, List.length_append]
  rfl

/-- One more character before a text moves the insides of its pairs. -/
theorem CutsPair.cons {cs : List Char} {offset : Nat} {c : Char} (h : CutsPair cs offset c)
    (d : Char) : CutsPair (d :: cs) ((unitsOfChar d).length + offset) c := by
  obtain ⟨hc, before, after, rfl, rfl⟩ := h
  refine ⟨hc, d :: before, after, rfl, ?_⟩
  rw [units, units, List.flatMap_cons, List.length_append, Nat.add_assoc]

/-- An offset is between two characters or at an end, inside a pair, or past the end. -/
theorem isBoundary_or_cutsPair (cs : List Char) (offset : Nat) :
    IsBoundary cs offset ∨ (∃ c, CutsPair cs offset c) ∨ (units cs).length < offset := by
  induction cs generalizing offset with
  | nil =>
    cases offset with
    | zero => exact Or.inl (isBoundary_zero [])
    | succ offset => exact Or.inr (Or.inr (Nat.succ_pos offset))
  | cons c cs ih =>
    by_cases hin : offset < (unitsOfChar c).length
    · -- only the offset after the first half of a pair is inside the first character
      by_cases hzero : offset = 0
      · exact Or.inl (hzero ▸ isBoundary_zero _)
      · rcases unitsOfChar_cases c with ⟨-, hunits⟩ | ⟨hc, high, low, hunits, -⟩
        · rw [hunits, List.length_singleton] at hin
          omega
        · rw [hunits, List.length_cons, List.length_singleton] at hin
          exact Or.inr (Or.inl ⟨c, hc, [], cs, rfl, by simp [units]; omega⟩)
    · obtain ⟨rest, rfl⟩ := Nat.exists_eq_add_of_le (Nat.le_of_not_lt hin)
      rcases ih rest with h | ⟨d, h⟩ | h
      · exact Or.inl (h.cons c)
      · exact Or.inr (Or.inl ⟨d, h.cons c⟩)
      · refine Or.inr (Or.inr ?_)
        rw [units, List.flatMap_cons, List.length_append]
        exact Nat.add_lt_add_left h _

/-- An offset that cuts no pair is a boundary, or acts as the end. -/
theorem isBoundary_min {cs : List Char} {offset : Nat} (h : ∀ c, ¬ CutsPair cs offset c) :
    IsBoundary cs (min offset (units cs).length) := by
  rcases isBoundary_or_cutsPair cs offset with hb | ⟨c, hc⟩ | hend
  · obtain ⟨before, ⟨after, rfl⟩, rfl⟩ := hb
    refine ⟨before, List.prefix_append before after, ?_⟩
    rw [units_append, List.length_append]
    omega
  · exact absurd hc (h c)
  · exact ⟨cs, List.prefix_rfl, by omega⟩

/-! ### Slices -/

/-- Offsets past the end act as the end. -/
theorem slice_min (text : String) (start stop : Nat) :
    slice text (min start (units text.toList).length) (min stop (units text.toList).length) =
      slice text start stop := by
  unfold slice
  generalize units text.toList = us
  congr 2
  rw [← List.take_eq_take_min]
  by_cases hle : us.length ≤ start
  · rw [Nat.min_eq_right hle, List.drop_eq_nil_of_le (List.length_take_le' _ _),
      List.drop_eq_nil_of_le (Nat.le_trans (List.length_take_le' _ _) hle)]
  · rw [Nat.min_eq_left (by omega)]

/-- The slice from the start to the end or beyond is the text. -/
theorem slice_zero (text : String) {stop : Nat} (h : (units text.toList).length ≤ stop) :
    slice text 0 stop = text := by
  rw [slice, List.take_of_length_le h, List.drop_zero, ofUnits_units, String.ofList_toList]

/-- Units between two offsets can be cut at any offset between them. -/
theorem drop_take_split (us : List Nat) {a b c : Nat} (hab : a ≤ b) (hbc : b ≤ c) :
    (us.take c).drop a = (us.take b).drop a ++ (us.take c).drop b := by
  have hsplit := List.take_append_drop (b - a) ((us.take c).drop a)
  rw [List.drop_drop, Nat.add_sub_cancel' hab, ← List.drop_take, List.take_take,
    Nat.min_eq_left hbc] at hsplit
  exact hsplit.symm

/-- The parts of a text before and after a boundary. -/
theorem slice_append_slice {text : String} {a b c : Nat} (hab : a ≤ b) (hbc : b ≤ c)
    (h : IsBoundary text.toList b) : slice text a b ++ slice text b c = slice text a c := by
  obtain ⟨before, ⟨after, hcs⟩, rfl⟩ := h
  have htake : (units text.toList).take (units before).length = units before := by
    rw [← hcs, units_append, List.take_left]
  rw [slice, slice, slice, drop_take_split _ hab hbc, ofUnits_append, String.ofList_append]
  intro u v hu _
  rw [htake, List.getLast?_drop] at hu
  split_ifs at hu
  rw [isHigh_of_getLast?_units hu, Bool.false_and]

/-- The slice of one unit. -/
theorem slice_succ {text : String} {before after : List Nat} {u : Nat}
    (h : units text.toList = before ++ u :: after) :
    slice text before.length (before.length + 1) = String.ofList [ofSingle u] := by
  rw [slice, h, List.take_length_add_append, List.drop_left]
  rfl

/-- The two halves of a pair that is cut. -/
theorem CutsPair.exists_units {cs : List Char} {offset : Nat} {c : Char}
    (h : CutsPair cs offset c) :
    ∃ before high low after, units cs = before ++ high :: low :: after ∧
      offset = before.length + 1 ∧ isHigh high = true ∧ isLow low = true := by
  obtain ⟨hc, before, after, rfl, rfl⟩ := h
  rcases unitsOfChar_cases c with ⟨hlt, -⟩ | ⟨-, high, low, hunits, hhigh, hlow, -⟩
  · omega
  · refine ⟨units before, high, low, units after, ?_, rfl, hhigh, hlow⟩
    rw [units_append, units, units, List.flatMap_cons, hunits]
    rfl

/-- Inside of a pair its second half comes next. -/
theorem CutsPair.isLow {cs : List Char} {offset : Nat} {c : Char} (h : CutsPair cs offset c) :
    (units cs)[offset]?.any isLow = true := by
  obtain ⟨before, high, low, after, hunits, rfl, -, hlow⟩ := h.exists_units
  simpa [hunits, List.getElem?_append] using hlow

/-- Each half of a pair is replaced where it stands alone. -/
theorem slice_halves {text : String} {offset : Nat} {c : Char} (h : CutsPair text.toList offset c) :
    slice text (offset - 1) offset = String.ofList [replacement] ∧
      slice text offset (offset + 1) = String.ofList [replacement] := by
  obtain ⟨before, high, low, after, hunits, rfl, hhigh, hlow⟩ := h.exists_units
  have hsecond : units text.toList = before ++ [high] ++ low :: after := by simp [hunits]
  have hlength : (before ++ [high]).length = before.length + 1 := by simp
  constructor
  · rw [Nat.add_sub_cancel, slice_succ hunits, ofSingle, hhigh]
    rfl
  · rw [← hlength, slice_succ hsecond, ofSingle, hlow, Bool.or_true, if_pos rfl]

/-- Both sides of a pair are boundaries, and between them stands its character. -/
theorem slice_pair {text : String} {offset : Nat} {c : Char} (h : CutsPair text.toList offset c) :
    IsBoundary text.toList (offset - 1) ∧ IsBoundary text.toList (offset + 1) ∧
      slice text (offset - 1) (offset + 1) = String.ofList [c] := by
  obtain ⟨hc, before, after, hcs, rfl⟩ := h
  have hafter : (units (before ++ [c])).length = (units before).length + 1 + 1 := by
    rcases unitsOfChar_cases c with ⟨hlt, -⟩ | ⟨-, high, low, hunits, -⟩
    · omega
    · rw [units_append, units, units, List.flatMap_singleton, hunits, List.length_append]
      rfl
  refine ⟨⟨before, ⟨c :: after, hcs.symm⟩, rfl⟩,
    ⟨before ++ [c], ⟨after, by simp [hcs]⟩, hafter⟩, ?_⟩
  have hslice := slice_append before [c] after
  rw [List.append_assoc, List.singleton_append, ← hcs, String.ofList_toList, hafter] at hslice
  exact hslice

end Text

/-! ### Runs -/

/-- A run with other offsets. -/
def TextRun.between (run : TextRun) (start stop : Nat) : TextRun := { run with start, stop }

namespace TextContent

open Text

/-- **Runs.** The texts of runs are additive. A run that is cut where no pair is, also past the end,
has the texts of its two parts, one after the other. If it is cut inside the pair of a character,
then these are the text of the run with two replacement characters in the place of that character,
and of nothing else. Offsets past the end act as the end, a reversed range is empty, and a range
from the start to the end or past it is the whole text. -/
theorem runText_between (text : TextContent) (run : TextRun) :
    (∀ a b c, a ≤ b → b ≤ c → (∀ ch, ¬ CutsPair text.characters.toList b ch) →
        text.runText (run.between a c) =
          text.runText (run.between a b) ++ text.runText (run.between b c)) ∧
      (∀ a b c ch, a < b → b < c → CutsPair text.characters.toList b ch →
        text.runText (run.between a c) =
            text.runText (run.between a (b - 1)) ++ String.ofList [ch] ++
              text.runText (run.between (b + 1) c) ∧
          text.runText (run.between a b) ++ text.runText (run.between b c) =
            text.runText (run.between a (b - 1)) ++ String.ofList [replacement, replacement] ++
              text.runText (run.between (b + 1) c)) ∧
      (∀ a b, text.runText (run.between (min a (units text.characters.toList).length)
          (min b (units text.characters.toList).length)) = text.runText (run.between a b)) ∧
      (∀ a b, b ≤ a → text.runText (run.between a b) = "") ∧
      ∀ c, (units text.characters.toList).length ≤ c →
        text.runText (run.between 0 c) = text.characters := by
  refine ⟨?_, ?_, slice_min text.characters, fun a b => slice_of_le text.characters,
    fun c => slice_zero text.characters⟩
  · intro a b c hab hbc hcut
    -- the offsets act as the end where they are past it, and then the cut is at a boundary
    have hsplit := slice_append_slice (a := min a (units text.characters.toList).length)
      (c := min c (units text.characters.toList).length) (by omega) (by omega) (isBoundary_min hcut)
    rw [slice_min, slice_min, slice_min] at hsplit
    exact hsplit.symm
  · intro a b c ch hab hbc hcut
    obtain ⟨hbefore, hafter, hpair⟩ := slice_pair hcut
    obtain ⟨hfirst, hsecond⟩ := slice_halves hcut
    have htwo : String.ofList [replacement, replacement] =
        String.ofList [replacement] ++ String.ofList [replacement] := by
      rw [← String.ofList_append]
      rfl
    show slice text.characters a c =
        slice text.characters a (b - 1) ++ _ ++ slice text.characters (b + 1) c ∧
      slice text.characters a b ++ slice text.characters b c =
        slice text.characters a (b - 1) ++ _ ++ slice text.characters (b + 1) c
    constructor
    · rw [← hpair, slice_append_slice (by omega) (by omega) hbefore,
        slice_append_slice (by omega) (by omega) hafter]
    · rw [← slice_append_slice (c := b) (by omega) (by omega) hbefore,
        ← slice_append_slice (a := b) (by omega) (by omega) hafter, hfirst, hsecond, htwo]
      simp only [String.append_assoc]

/-- A letter, a pair and a letter. -/
def smile : TextContent := { characters := "a😀b" }

/-- The runs of a text with a pair, cut before the pair, inside it, and past the end. -/
theorem runText_between_smile :
    (CutsPair smile.characters.toList 2 '😀' ∧ (∀ ch, ¬ CutsPair smile.characters.toList 1 ch) ∧
        ∀ ch, ¬ CutsPair smile.characters.toList 6 ch) ∧
      smile.runText (TextRun.between default 0 3) =
        smile.runText (TextRun.between default 0 1) ++ smile.runText (TextRun.between default 1 3) ∧
      smile.runText (TextRun.between default 3 9) =
        smile.runText (TextRun.between default 3 6) ++ smile.runText (TextRun.between default 6 9) ∧
      smile.runText (TextRun.between default 0 2) ++ smile.runText (TextRun.between default 2 9) =
        "a\uFFFD\uFFFDb" ∧
      smile.runText (TextRun.between default 3 1) = "" ∧
      smile.runText (TextRun.between default 0 4) = "a😀b" := by
  have hcut : CutsPair smile.characters.toList 2 '😀' :=
    ⟨by decide, ['a'], ['b'], by decide, by decide⟩
  have hone : ∀ ch, ¬ CutsPair smile.characters.toList 1 ch :=
    fun ch h => absurd h.isLow (by decide)
  have hsix : ∀ ch, ¬ CutsPair smile.characters.toList 6 ch :=
    fun ch h => absurd h.isLow (by decide)
  obtain ⟨hsplit, hhalves, -, hreversed, hwhole⟩ := runText_between smile default
  refine ⟨⟨hcut, hone, hsix⟩, hsplit 0 1 3 (by decide) (by decide) hone,
    hsplit 3 6 9 (by decide) (by decide) hsix, ?_, hreversed 3 1 (by decide), hwhole 4 (by decide)⟩
  rw [(hhalves 0 2 9 '😀' (by decide) (by decide) hcut).2]
  decide +kernel

end TextContent

end Viewsmith
