import Mathlib
import Viewsmith.Identifier

/-!
# Tables of characters

The classes of characters and the case maps are tables. This module compares them: what holds of all
characters of a class is checked on the ranges and runs of its table, and carried over to the
characters by lemmas about look-up.

Two questions are answered. Is every letter alphabetic, also after it was put in lower case? It is,
with one exception: the capital I with a dot has a lower case of two characters, and the second is a
mark that belongs to no class. And which characters have a given character in their upper or lower
case?

## Main definitions

* `within`: every range of a table lies in one range of another.
* `CaseRun.points`: the code points that a run moves.
* `sources`: the code points that a case map takes to a given one.

## Main statements

* `isAlphabetic_of_isLetter`: every letter is alphabetic.
* `lower_cases`: the lower case of a character is the character, one alphabetic character, or the
  exception.
* `mem_sources_of_mem_mapCase`: the characters that a case map takes to a given one.
-/

namespace Viewsmith.Text

/-! ### Ranges -/

/-- A number that is found in a table is in one of its ranges. -/
theorem exists_mem_of_inRanges {table : List (Nat × Nat)} {n : Nat} (h : inRanges table n = true) :
    ∃ range ∈ table, range.1 ≤ n ∧ n ≤ range.2 := by
  induction table with
  | nil => cases h
  | cons range table ih =>
    obtain ⟨low, high⟩ := range
    unfold inRanges at h
    by_cases hlow : n < low
    · simp [hlow] at h
    · by_cases hhigh : n ≤ high
      · exact ⟨(low, high), List.mem_cons_self, Nat.le_of_not_lt hlow, hhigh⟩
      · simp only [hlow, hhigh, if_false] at h
        obtain ⟨range, hm, hin⟩ := ih h
        exact ⟨range, List.mem_cons_of_mem _ hm, hin⟩

/-- The search finds the range of a number, since the ranges are in order. -/
theorem inRanges_of_mem {table : List (Nat × Nat)} {range : Nat × Nat} {n : Nat}
    (horder : table.IsChain fun a b => a.1 ≤ b.1) (hm : range ∈ table) (hlow : range.1 ≤ n)
    (hhigh : n ≤ range.2) : inRanges table n = true := by
  have htrans : IsTrans (Nat × Nat) fun a b => a.1 ≤ b.1 := ⟨fun _ _ _ => Nat.le_trans⟩
  have hsorted := List.isChain_iff_pairwise.mp horder
  clear horder
  induction table with
  | nil => cases hm
  | cons first table ih =>
    obtain ⟨hfirst, hrest⟩ := List.pairwise_cons.mp hsorted
    have hle : first.1 ≤ n := by
      rcases List.mem_cons.mp hm with rfl | hm
      · exact hlow
      · exact Nat.le_trans (hfirst range hm) hlow
    unfold inRanges
    rw [if_neg (Nat.not_lt.mpr hle)]
    by_cases hin : n ≤ first.2
    · exact if_pos hin
    · rw [if_neg hin]
      rcases List.mem_cons.mp hm with rfl | hm
      · exact absurd hhigh hin
      · exact ih hm hrest

/-- Every range of the first table lies in one range of the second. Both tables are gone through
once. -/
def within : List (Nat × Nat) → List (Nat × Nat) → Bool
  | [], _ => true
  | (low, high) :: inner, outer =>
    match outer.dropWhile fun range => range.1.ble low && range.2.blt low with
    | [] => false
    | range :: rest => range.1.ble low && high.ble range.2 && within inner (range :: rest)

/-- Each range of the first table lies in one of the second. -/
theorem exists_mem_of_within {inner outer : List (Nat × Nat)} (h : within inner outer = true)
    {range : Nat × Nat} (hm : range ∈ inner) :
    ∃ wider ∈ outer, wider.1 ≤ range.1 ∧ range.2 ≤ wider.2 := by
  induction inner generalizing outer with
  | nil => cases hm
  | cons first inner ih =>
    unfold within at h
    have hsuffix := List.dropWhile_suffix (l := outer)
      fun range => range.1.ble first.1 && range.2.blt first.1
    cases hdrop : outer.dropWhile fun range => range.1.ble first.1 && range.2.blt first.1 with
    | nil => simp [hdrop] at h
    | cons wider rest =>
      rw [hdrop] at hsuffix
      simp only [hdrop, Bool.and_eq_true, Nat.ble_eq] at h
      obtain ⟨hwider, hrest⟩ := h
      rcases List.mem_cons.mp hm with rfl | hm
      · exact ⟨wider, hsuffix.subset List.mem_cons_self, hwider⟩
      · obtain ⟨wider', hm', hin⟩ := ih hrest hm
        exact ⟨wider', hsuffix.subset hm', hin⟩

/-! ### Alphabetic characters -/

/-- The ranges of alphabetic characters are in order. -/
theorem alphabeticRanges_isChain : alphabeticRanges.IsChain fun a b => a.1 ≤ b.1 := by
  decide +kernel

/-- The ranges of letters lie in those of alphabetic characters. -/
theorem letterRanges_within : within letterRanges alphabeticRanges = true := by decide +kernel

/-- Every letter is alphabetic. -/
theorem isAlphabetic_of_isLetter {c : Char} (h : isLetter c = true) : isAlphabetic c = true := by
  obtain ⟨range, hm, hlow, hhigh⟩ := exists_mem_of_inRanges h
  obtain ⟨wider, hw, hlow', hhigh'⟩ := exists_mem_of_within letterRanges_within hm
  exact inRanges_of_mem alphabeticRanges_isChain hw (Nat.le_trans hlow' hlow)
    (Nat.le_trans hhigh hhigh')

/-- No range of alphabetic characters reaches into the surrogates or past the last code point. -/
theorem alphabeticRanges_valid :
    ∀ range ∈ alphabeticRanges, range.2 < 0xd800 ∨ 0xdfff < range.1 ∧ range.2 < 0x110000 := by
  decide +kernel

/-- A code point in a range of alphabetic characters is one of a character. -/
theorem isAlphabetic_ofNat {n : Nat} {range : Nat × Nat} (hm : range ∈ alphabeticRanges)
    (hlow : range.1 ≤ n) (hhigh : n ≤ range.2) : isAlphabetic (Char.ofNat n) = true := by
  have hvalid : n.isValidChar := by
    have h := alphabeticRanges_valid range hm
    unfold Nat.isValidChar
    omega
  unfold isAlphabetic
  rw [Char.toNat_ofNat, if_pos hvalid]
  exact inRanges_of_mem alphabeticRanges_isChain hm hlow hhigh

/-! ### Case maps -/

/-- The code points that a run moves, as ranges of one. -/
def CaseRun.points (run : CaseRun) : List (Nat × Nat) :=
  (List.range' run.first ((run.last - run.first) / run.step + 1) run.step).map fun n => (n, n)

/-- What a run moves is one of its points. -/
theorem CaseRun.mem_points {run : CaseRun} {n : Nat} (h : run.moves n = true) :
    (n, n) ∈ run.points := by
  simp only [moves, Bool.and_eq_true, decide_eq_true_eq, beq_iff_eq] at h
  obtain ⟨⟨hfirst, hlast⟩, hstep⟩ := h
  refine List.mem_map.mpr ⟨n, List.mem_range'.mpr ⟨(n - run.first) / run.step, ?_, ?_⟩, rfl⟩
  · exact Nat.lt_succ_of_le (Nat.div_le_div_right (Nat.sub_le_sub_right hlast _))
  · rw [Nat.mul_div_cancel' (Nat.dvd_of_mod_eq_zero hstep)]
    omega

/-- What a case map makes of a character: its sequence, the character that a run moves it to, or the
character itself. -/
theorem mapCase_cases (sequences : List (Nat × List Nat)) (runs : List CaseRun) (c : Char) :
    (∃ points, (c.toNat, points) ∈ sequences ∧ mapCase sequences runs c = points.map Char.ofNat) ∨
      (∃ run ∈ runs, run.moves c.toNat = true ∧
        mapCase sequences runs c = [Char.ofNat (c.toNat + run.shift).toNat]) ∨
      mapCase sequences runs c = [c] := by
  unfold mapCase
  cases hlookup : sequences.lookup c.toNat with
  | some points =>
    obtain ⟨before, after, hsplit, -⟩ := List.lookup_eq_some_iff.mp hlookup
    exact Or.inl ⟨points, by rw [hsplit]; simp, rfl⟩
  | none =>
    cases hfind : runs.find? (·.moves c.toNat) with
    | some run =>
      exact Or.inr (Or.inl ⟨run, List.mem_of_find?_eq_some hfind,
        List.find?_some (p := fun run : CaseRun => run.moves c.toNat) hfind, rfl⟩)
    | none => exact Or.inr (Or.inr rfl)

/-- The characters with a lower case of one character are alphabetic. -/
theorem lowerRuns_points_within :
    within (lowerRuns.flatMap CaseRun.points) alphabeticRanges = true := by
  decide +kernel

/-- The lower case of these characters is alphabetic. -/
theorem lowerRuns_images_within :
    (lowerRuns.all fun run => alphabeticRanges.any fun range =>
      range.1.ble (run.first + run.shift).toNat &&
        (run.last + run.shift).toNat.ble range.2) = true := by
  decide +kernel

/-- A run of the lower case moves alphabetic characters to alphabetic ones. -/
theorem isAlphabetic_of_moves {run : CaseRun} (hrun : run ∈ lowerRuns) {c : Char}
    (h : run.moves c.toNat = true) :
    isAlphabetic c = true ∧ isAlphabetic (Char.ofNat (c.toNat + run.shift).toNat) = true := by
  constructor
  · obtain ⟨range, hm, hlow, hhigh⟩ := exists_mem_of_within lowerRuns_points_within
      (List.mem_flatMap.mpr ⟨run, hrun, CaseRun.mem_points h⟩)
    exact inRanges_of_mem alphabeticRanges_isChain hm hlow hhigh
  · have himage := List.all_eq_true.mp lowerRuns_images_within run hrun
    obtain ⟨range, hm, hin⟩ := List.any_eq_true.mp himage
    simp only [Bool.and_eq_true, Nat.ble_eq] at hin
    simp only [CaseRun.moves, Bool.and_eq_true, decide_eq_true_eq] at h
    exact isAlphabetic_ofNat hm (by omega) (by omega)

/-- The lower case of a character is the character itself or one alphabetic character, with one
exception. -/
theorem lower_cases (c : Char) :
    c = 'İ' ∧ lower c = ['i', '\u0307'] ∨ lower c = [c] ∨
      ∃ d, lower c = [d] ∧ isAlphabetic c = true ∧ isAlphabetic d = true := by
  rcases mapCase_cases lowerSequences lowerRuns c with
    ⟨points, hm, hc⟩ | ⟨run, hrun, hmoves, hc⟩ | hc
  · obtain ⟨hcode, rfl⟩ := Prod.mk.inj (List.mem_singleton.mp hm)
    exact Or.inl ⟨Char.toNat_inj.mp hcode, hc⟩
  · exact Or.inr (Or.inr ⟨_, hc, isAlphabetic_of_moves hrun hmoves⟩)
  · exact Or.inr (Or.inl hc)

/-- The code points other than `n` itself that a case map takes to `n`, alone or in a sequence. -/
def sources (sequences : List (Nat × List Nat)) (runs : List CaseRun) (n : Nat) : List Nat :=
  (sequences.filter (·.2.contains n)).map (·.1) ++
    (runs.filter fun run =>
      run.first + run.shift ≤ (n : Int) ∧ (n : Int) ≤ run.last + run.shift).map
      fun run => ((n : Int) - run.shift).toNat

/-- A character is in its own image under a case map or has a code point among the sources. -/
theorem mem_sources_of_mem_mapCase {sequences : List (Nat × List Nat)} {runs : List CaseRun}
    {c d : Char} (hd : d ≠ Char.ofNat 0) (h : d ∈ mapCase sequences runs c) :
    d = c ∨ c.toNat ∈ sources sequences runs d.toNat := by
  -- a number that is no code point gives the null character, which is left out
  have htoNat : ∀ n : Nat, d = Char.ofNat n → d.toNat = n := by
    intro n hn
    by_cases hvalid : n.isValidChar
    · rw [hn, Char.toNat_ofNat, if_pos hvalid]
    · rw [Char.ofNat, dif_neg hvalid] at hn
      exact absurd hn hd
  unfold sources
  rcases mapCase_cases sequences runs c with ⟨points, hm, hc⟩ | ⟨run, hrun, hmoves, hc⟩ | hc
  · rw [hc] at h
    obtain ⟨n, hn, rfl⟩ := List.mem_map.mp h
    rw [htoNat n rfl]
    right
    apply List.mem_append_left
    exact List.mem_map.mpr ⟨_, List.mem_filter.mpr ⟨hm, by simpa using hn⟩, rfl⟩
  · rw [hc, List.mem_singleton] at h
    right
    apply List.mem_append_right
    simp only [CaseRun.moves, Bool.and_eq_true, decide_eq_true_eq] at hmoves
    have hn := htoNat _ h
    have hpos : d.toNat ≠ 0 := fun hzero => hd (Char.toNat_inj.mp hzero)
    refine List.mem_map.mpr ⟨run, List.mem_filter.mpr ⟨hrun, decide_eq_true ?_⟩, ?_⟩
    · omega
    · omega
  · rw [hc, List.mem_singleton] at h
    exact Or.inl h

end Viewsmith.Text
