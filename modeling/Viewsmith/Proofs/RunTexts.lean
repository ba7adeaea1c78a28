import Mathlib.Data.List.Nodup
import Viewsmith.Proofs.RunOverrides

/-!
# The texts of runs

A run covers a range of offsets, and offsets count units of sixteen bits. A text is found again in
its units, and so is every part of it that begins and ends between two characters. If the runs of a
text, apart from those that cover nothing, cover it from its start to its end without gaps and
overlaps, then their texts, in the order in which the runs start, make up the text.

## Main definitions

* `Text.IsBoundary`: an offset between two characters.
* `TextRun.Tiles`: runs that cover a range, one after the other.
* `TextContent.Tiled`: a text whose runs, in some order, cover it.

## Main statements

* `Text.ofUnits_units`: a text is found again in its units.
* `TextContent.flatMap_runText_orderedRuns`: the texts of the runs make up the text.
-/

namespace Viewsmith

namespace Text

/-! ### Units of sixteen bits -/

/-- The units of two texts in a row. -/
theorem units_append (cs ds : List Char) : units (cs ++ ds) = units cs ++ units ds :=
  List.flatMap_append

/-- Every character has a unit. -/
theorem length_unitsOfChar_pos (c : Char) : 0 < (unitsOfChar c).length := by
  unfold unitsOfChar
  split <;> exact Nat.succ_pos _

/-- A text without units is empty. -/
theorem eq_nil_of_length_units {cs : List Char} (h : (units cs).length = 0) : cs = [] := by
  cases cs with
  | nil => rfl
  | cons c cs =>
    have hpos := length_unitsOfChar_pos c
    rw [units, List.flatMap_cons, List.length_append] at h
    omega

/-- A character is no half of a pair. -/
theorem not_half (c : Char) : (isHigh c.toNat || isLow c.toNat) = false := by
  have hvalid : c.toNat < 0xD800 ∨ 0xDFFF < c.toNat ∧ c.toNat < 0x110000 := c.valid
  simp only [isHigh, isLow, Bool.or_eq_false_iff, Bool.and_eq_false_iff, decide_eq_false_iff_not]
  omega

/-- A unit that does not start a pair is read alone. -/
theorem ofUnits_single_cons {u : Nat} (h : isHigh u = false) (us : List Nat) :
    ofUnits (u :: us) = ofSingle u :: ofUnits us := by
  cases us with
  | nil => rfl
  | cons v us => simp [ofUnits, h]

/-- A character has one unit, or it has the two halves of a pair. -/
theorem unitsOfChar_cases (c : Char) :
    c.toNat < 0x10000 ∧ unitsOfChar c = [c.toNat] ∨
      0x10000 ≤ c.toNat ∧ ∃ high low, unitsOfChar c = [high, low] ∧
        isHigh high = true ∧ isLow low = true ∧ ofPair high low = c := by
  have hlt : c.toNat < 0x110000 := by
    rcases c.valid with h | ⟨-, h⟩
    · exact Nat.lt_trans h (by decide)
    · exact h
  by_cases hone : c.toNat < 0x10000
  · exact Or.inl ⟨hone, if_pos hone⟩
  · refine Or.inr ⟨Nat.le_of_not_lt hone, _, _, if_neg hone, ?_, ?_, ?_⟩
    · simp only [isHigh, Bool.and_eq_true, decide_eq_true_eq]
      omega
    · simp only [isLow, Bool.and_eq_true, decide_eq_true_eq]
      omega
    · have hsum : 0x10000 + (0xD800 + (c.toNat - 0x10000) / 0x400 - 0xD800) * 0x400 +
          (0xDC00 + (c.toNat - 0x10000) % 0x400 - 0xDC00) = c.toNat := by omega
      rw [ofPair, hsum, Char.ofNat_toNat]

/-- The first character is read back from its units, whatever follows. -/
theorem ofUnits_unitsOfChar_append (c : Char) (us : List Nat) :
    ofUnits (unitsOfChar c ++ us) = c :: ofUnits us := by
  rcases unitsOfChar_cases c with ⟨-, hunits⟩ | ⟨-, high, low, hunits, hhigh, hlow, hpair⟩
  · have hhalf := not_half c
    rw [hunits, List.singleton_append, ofUnits_single_cons (Bool.or_eq_false_iff.mp hhalf).1,
      ofSingle, hhalf, if_neg Bool.false_ne_true, Char.ofNat_toNat]
  · rw [hunits, List.cons_append, List.singleton_append, ofUnits, hhigh, hlow, hpair]
    rfl

/-- A text is found again in its units. -/
theorem ofUnits_units (cs : List Char) : ofUnits (units cs) = cs := by
  induction cs with
  | nil => rfl
  | cons c cs ih =>
    rw [units, List.flatMap_cons, ofUnits_unitsOfChar_append]
    exact congrArg (c :: ·) ih

/-- An offset between two characters, or at an end: it does not cut a pair. -/
def IsBoundary (cs : List Char) (offset : Nat) : Prop :=
  ∃ before, before <+: cs ∧ (units before).length = offset

/-- A part of a text between two boundaries. -/
theorem slice_append (before inside after : List Char) :
    slice (String.ofList (before ++ inside ++ after)) (units before).length
      (units (before ++ inside)).length = String.ofList inside := by
  rw [slice, String.toList_ofList, units_append (before ++ inside), List.take_left, units_append,
    List.drop_left, ofUnits_units]

/-- A slice that ends before it starts is empty. -/
theorem slice_of_le (text : String) {start stop : Nat} (h : stop ≤ start) :
    slice text start stop = "" := by
  have hnil : ((units text.toList).take stop).drop start = [] := by
    rw [List.drop_eq_nil_iff, List.length_take]
    omega
  rw [slice, hnil]
  rfl

/-- Of two boundaries the lower one comes earlier in the text. -/
theorem prefix_of_length_units_le {cs before before' : List Char} (h : before <+: cs)
    (h' : before' <+: cs) (hle : (units before).length ≤ (units before').length) :
    before <+: before' := by
  rcases List.prefix_or_prefix_of_prefix h h' with hprefix | ⟨rest, rfl⟩
  · exact hprefix
  · have hrest : rest = [] := by
      apply eq_nil_of_length_units
      rw [units_append, List.length_append] at hle
      omega
    simp [hrest]

end Text

/-! ### Runs that cover a text -/

/-- The runs cover the offsets from the first number to before the second, one after the other. -/
def TextRun.Tiles : Nat → List TextRun → Nat → Prop
  | start, [], stop => start = stop
  | start, run :: runs, stop => run.start = start ∧ start < run.stop ∧ Tiles run.stop runs stop

instance TextRun.decidableTiles :
    (start : Nat) → (runs : List TextRun) → (stop : Nat) → Decidable (Tiles start runs stop)
  | start, [], stop => inferInstanceAs (Decidable (start = stop))
  | _, run :: runs, stop =>
    have := decidableTiles run.stop runs stop
    inferInstanceAs (Decidable (_ ∧ _ ∧ _))

/-- The runs that cover something are, in some order, a cover of the text without gaps and overlaps,
and none of them ends inside a pair. -/
def TextContent.Tiled (text : TextContent) : Prop :=
  ∃ order, order.Perm (text.runs.filter fun run => run.start < run.stop) ∧
    TextRun.Tiles 0 order (Text.units text.characters.toList).length ∧
    ∀ run ∈ order, Text.IsBoundary text.characters.toList run.stop

namespace TextRun

/-- No run of a cover starts before the cover. -/
theorem Tiles.le_start {start stop : Nat} {runs : List TextRun} (h : Tiles start runs stop) :
    ∀ run ∈ runs, start ≤ run.start := by
  induction runs generalizing start with
  | nil => exact fun run hrun => absurd hrun List.not_mem_nil
  | cons first runs ih =>
    obtain ⟨hstart, hlt, hrest⟩ := h
    intro run hrun
    rcases List.mem_cons.mp hrun with rfl | hrun
    · exact Nat.le_of_eq hstart.symm
    · exact Nat.le_trans (Nat.le_of_lt hlt) (ih hrest run hrun)

/-- Every run of a cover starts after those before it. -/
theorem Tiles.pairwise_start {start stop : Nat} {runs : List TextRun} (h : Tiles start runs stop) :
    runs.Pairwise fun a b => a.start < b.start := by
  induction runs generalizing start with
  | nil => exact .nil
  | cons first runs ih =>
    obtain ⟨hstart, hlt, hrest⟩ := h
    refine .cons (fun run hrun => ?_) (ih hrest)
    have hle := hrest.le_start run hrun
    omega

/-- The texts of the runs of a cover make up what comes after its start. -/
theorem Tiles.flatMap_slice {cs before after : List Char} {runs : List TextRun}
    (hcs : before ++ after = cs) (h : Tiles (Text.units before).length runs (Text.units cs).length)
    (hboundary : ∀ run ∈ runs, Text.IsBoundary cs run.stop) :
    runs.flatMap (fun run => (Text.slice (String.ofList cs) run.start run.stop).toList) =
      after := by
  induction runs generalizing before after with
  | nil =>
    have hafter : after = [] := by
      apply Text.eq_nil_of_length_units
      have hlength : (Text.units before).length = (Text.units cs).length := h
      rw [← hcs, Text.units_append, List.length_append] at hlength
      omega
    rw [hafter]
    rfl
  | cons run runs ih =>
    obtain ⟨hstart, hlt, hrest⟩ := h
    obtain ⟨before', hbefore', hstop⟩ := hboundary run List.mem_cons_self
    -- the run ends at a boundary behind its start, and covers the characters between
    obtain ⟨inside, rfl⟩ := Text.prefix_of_length_units_le ⟨after, hcs⟩ hbefore' (by omega)
    obtain ⟨after', hafter'⟩ := hbefore'
    have hsplit : after = inside ++ after' := by
      rw [← hafter', List.append_assoc] at hcs
      exact List.append_cancel_left hcs
    have hslice : Text.slice (String.ofList cs) run.start run.stop = String.ofList inside := by
      rw [hstart, ← hstop, ← hafter']
      exact Text.slice_append before inside after'
    rw [← hstop] at hrest
    rw [List.flatMap_cons, hslice, String.toList_ofList, hsplit,
      ih hafter' hrest fun other hm => hboundary other (List.mem_cons_of_mem _ hm)]

end TextRun

namespace TextContent

variable {text : TextContent}

/-- A run that ends before it starts shows nothing. -/
theorem toList_runText_of_le {run : TextRun} (h : run.stop ≤ run.start) :
    (text.runText run).toList = [] := by
  rw [runText, Text.slice_of_le _ h]
  rfl

/-- The runs in the order in which they start, without those that cover nothing. -/
theorem filter_orderedRuns {order : List TextRun}
    (hperm : order.Perm (text.runs.filter fun run => run.start < run.stop))
    (hsorted : order.Pairwise fun a b => a.start < b.start) :
    ((Node.orderedRuns text).map Prod.fst).filter (fun run => run.start < run.stop) = order := by
  have hall : ((Node.orderedRuns text).map Prod.fst).Perm text.runs := by
    have hzip :=
      (List.mergeSort_perm text.runs.zipIdx fun a b => a.1.start ≤ b.1.start).map Prod.fst
    rw [List.zipIdx_map_fst] at hzip
    exact hzip
  have hstarts : ((Node.orderedRuns text).map Prod.fst).Pairwise fun a b => a.start ≤ b.start := by
    rw [List.pairwise_map]
    have hmerge :
        (Node.orderedRuns text).Pairwise fun a b => decide (a.1.start ≤ b.1.start) = true := by
      refine List.pairwise_mergeSort (fun a b c => ?_) (fun a b => ?_) text.runs.zipIdx
      · simp only [decide_eq_true_eq]
        exact Nat.le_trans
      · simp only [Bool.or_eq_true, decide_eq_true_eq]
        exact Nat.le_total _ _
    exact hmerge.imp of_decide_eq_true
  have hboth :
      (((Node.orderedRuns text).map Prod.fst).filter fun run => run.start < run.stop).Perm order :=
    (hall.filter _).trans hperm.symm
  have hnodup : (order.map TextRun.start).Nodup := List.pairwise_map.mpr (hsorted.imp Nat.ne_of_lt)
  refine List.Perm.eq_of_pairwise ?_ (hstarts.filter _) (hsorted.imp Nat.le_of_lt) hboth
  intro a b ha hb hab hba
  exact List.inj_on_of_nodup_map hnodup (hboth.subset ha) hb (Nat.le_antisymm hab hba)

/-- The texts of the runs, in the order in which the runs start, make up the text. -/
theorem flatMap_runText_orderedRuns (h : text.Tiled) :
    (Node.orderedRuns text).flatMap (fun run => (text.runText run.1).toList) =
      text.characters.toList := by
  obtain ⟨order, hperm, htiles, hboundary⟩ := h
  have hfilter := filter_orderedRuns hperm htiles.pairwise_start
  have hskip : ∀ runs : List TextRun, (runs.filter fun run => run.start < run.stop).flatMap
      (fun run => (text.runText run).toList) =
        runs.flatMap fun run => (text.runText run).toList := by
    intro runs
    induction runs with
    | nil => rfl
    | cons run runs ih =>
      by_cases hrun : run.start < run.stop
      · rw [List.filter_cons_of_pos (by simpa using hrun), List.flatMap_cons, List.flatMap_cons, ih]
      · rw [List.filter_cons_of_neg (by simpa using hrun), List.flatMap_cons, ih,
          toList_runText_of_le (Nat.le_of_not_lt hrun), List.nil_append]
  have hcover : order.flatMap (fun run => (text.runText run).toList) = text.characters.toList := by
    have hslices :=
      TextRun.Tiles.flatMap_slice (List.nil_append text.characters.toList) htiles hboundary
    rw [String.ofList_toList] at hslices
    exact hslices
  rw [← hcover, ← hfilter, hskip, List.flatMap_map]

end TextContent

end Viewsmith
