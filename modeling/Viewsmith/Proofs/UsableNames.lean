import Viewsmith.Module.Markup
import Viewsmith.Proofs.CharacterTables
import Viewsmith.Proofs.DistinctNames
import Viewsmith.Style.Literal

/-!
# Which names can be used as keys

The identifier of a layer serves as a key of the object of styles and in the references to it, with
underscores before it when it was taken. A key that is no identifier is written in quotes, and the
reference to it, which has no quotes, is then broken.

Every character of a word may stand inside an identifier, since letters are alphabetic
(`isContinue_of_isWordChar`). What remains is the first character. One of the ten digits gets an
underscore before it, but numerals of other scripts and fractions do not. And putting the first
character in lower case can bring in a mark that no identifier has: the capital I with a dot is the
only such character.

## Main definitions

* `Identifier.spoils`: the first characters that keep a word from being an identifier.

## Main statements

* `Identifier.isIdentifier_underscored`: what underscores before a name change.
* `Identifier.keyLiteral_underscored_ofName_iff`: which identifiers of layers are written without
  quotes.
-/

namespace Viewsmith.Identifier

open Text

/-- The first characters that keep a word with `k` underscores before it from being an identifier:
the capital I with a dot, and, if there is no underscore, a numeral that is neither alphabetic nor
one of the ten digits. -/
def spoils (k : Nat) (c : Char) : Bool :=
  c = 'İ' || (k = 0 && isNumeral c && !isAlphabetic c && !c.isDigit)

/-! ### Characters of identifiers -/

/-- What may start an identifier may go on with it. -/
theorem isContinue_of_isStart {c : Char} (h : isStart c = true) : isContinue c = true := by
  simp only [isStart, Bool.or_eq_true] at h
  simp only [isContinue, Bool.or_eq_true]
  tauto

/-- Every character of a word may stand inside an identifier. -/
theorem isContinue_of_isWordChar {c : Char} (h : isWordChar c = true) : isContinue c = true := by
  simp only [isWordChar, Bool.or_eq_true, Bool.and_eq_true] at h
  simp only [isContinue, Bool.or_eq_true]
  rcases h with (⟨hletter | hnumeral, -⟩ | hsign) | hsign
  · exact Or.inl (Or.inl (Or.inl (isAlphabetic_of_isLetter hletter)))
  · exact Or.inl (Or.inl (Or.inr hnumeral))
  · exact Or.inl (Or.inr hsign)
  · exact Or.inr hsign

/-- A character of a word may start an identifier, unless it is a numeral that is not alphabetic. -/
theorem isStart_of_isWordChar {c : Char} (h : isWordChar c = true) :
    isStart c = !(isNumeral c && !isAlphabetic c) := by
  have hunderscore : isNumeral '_' = false := by decide +kernel
  have hdollar : isNumeral '$' = false := by decide +kernel
  by_cases hsign : c = '_' ∨ c = '$'
  · rcases hsign with rfl | rfl
    · simp [isStart, hunderscore]
    · simp [isStart, hdollar]
  · rw [not_or] at hsign
    simp only [isWordChar, hsign, decide_false, Bool.or_false, Bool.and_eq_true,
      Bool.or_eq_true] at h
    rcases h.1 with hletter | hnumeral
    · simp [isStart, isAlphabetic_of_isLetter hletter]
    · simp [isStart, hsign, hnumeral]

/-- A word has no other characters than those of words. -/
theorem isWordChar_of_mem_word {name : List Char} {c : Char} (h : c ∈ word name) :
    isWordChar c = true :=
  (List.mem_filter.mp h).2

/-! ### Keys with underscores before them -/

/-- After an underscore any character of an identifier may follow. -/
theorem isIdentifier_underscored (k : Nat) {name : String} {c : Char} {cs : List Char}
    (h : name.toList = c :: cs) :
    isIdentifier (Element.underscored k name) = true ↔
      (if k = 0 then isStart c = true else isContinue c = true) ∧
      ∀ d ∈ cs, isContinue d = true := by
  unfold isIdentifier
  cases k with
  | zero => simp [Element.underscored_zero, h]
  | succ k =>
    have hstart : isStart '_' = true := by decide +kernel
    have hcontinue : isContinue '_' = true := isContinue_of_isStart hstart
    have htoList : (Element.underscored (k + 1) name).toList =
        '_' :: (List.replicate k '_' ++ c :: cs) := by
      simp [Element.underscored, List.replicate_succ, h]
    simp [htoList, hstart, hcontinue]

/-- A key is written as it is if and only if it is an identifier: quotes would make it longer. -/
theorem keyLiteral_eq_self_iff (key : String) :
    Value.keyLiteral key = key ↔ isIdentifier key = true := by
  have hescape : ∀ cs : List Char, cs.length ≤ (cs.flatMap Value.escapeChar).length := by
    intro cs
    induction cs with
    | nil => exact Nat.le_refl 0
    | cons c cs ih =>
      have hone : 1 ≤ (Value.escapeChar c).length := by
        unfold Value.escapeChar
        split_ifs <;> simp
      rw [List.flatMap_cons, List.length_append, List.length_cons]
      omega
  unfold Value.keyLiteral
  by_cases h : isIdentifier key = true
  · rw [if_pos h]
    exact iff_of_true rfl h
  · rw [if_neg h]
    refine iff_of_false (fun heq => ?_) h
    have hlength := congrArg (fun s : String => s.toList.length) heq
    have hle := hescape key.toList
    simp only [Value.quoted, String.toList_ofList, List.length_cons, List.length_append,
      List.length_nil] at hlength
    omega

/-! ### Identifiers of names -/

/-- Nothing left of a name gives the fallback. -/
theorem ofName_of_word_eq_nil {name : String} (h : word name.toList = []) :
    ofName name = "myVar" := by
  unfold ofName
  rw [h]
  decide +kernel

/-- The identifier of a name whose word starts with `c`. -/
theorem toList_ofName {name : String} {c : Char} {cs : List Char} (h : word name.toList = c :: cs) :
    (ofName name).toList = if c.isDigit then '_' :: c :: cs else lower c ++ cs := by
  have hlower : lower '_' = ['_'] := by decide +kernel
  unfold ofName
  rw [h, String.toList_ofList]
  simp only [startSafe]
  split
  · simp only [decapitalize, hlower, List.singleton_append]
  · rfl

/-- A word that starts with one of the ten digits gets an underscore and is an identifier. -/
theorem isIdentifier_ofName_of_digit (k : Nat) {name : String} {c : Char} {cs : List Char}
    (hword : word name.toList = c :: cs) (hdigit : c.isDigit = true) :
    isIdentifier (Element.underscored k (ofName name)) = true := by
  have htoList : (ofName name).toList = '_' :: c :: cs := by rw [toList_ofName hword, if_pos hdigit]
  have hstart : isStart '_' = true := by decide +kernel
  rw [isIdentifier_underscored k htoList]
  refine ⟨?_, fun d hd => isContinue_of_isWordChar (isWordChar_of_mem_word (hword ▸ hd))⟩
  split
  · exact hstart
  · exact isContinue_of_isStart hstart

/-- Whether a word that starts with another character is an identifier is decided by the lower case
of that character. -/
theorem isIdentifier_ofName_of_lower (k : Nat) {name : String} {c d : Char} {cs ds : List Char}
    (hword : word name.toList = c :: cs) (hdigit : c.isDigit = false) (hlower : lower c = d :: ds) :
    isIdentifier (Element.underscored k (ofName name)) = true ↔
      (if k = 0 then isStart d = true else isContinue d = true) ∧
      ∀ e ∈ ds, isContinue e = true := by
  have htoList : (ofName name).toList = d :: (ds ++ cs) := by
    rw [toList_ofName hword, hdigit, hlower]
    rfl
  have hrest : ∀ e ∈ cs, isContinue e = true := fun e he =>
    isContinue_of_isWordChar (isWordChar_of_mem_word (hword ▸ List.mem_cons_of_mem c he))
  rw [isIdentifier_underscored k htoList]
  simp only [List.mem_append]
  constructor
  · rintro ⟨hfirst, hall⟩
    exact ⟨hfirst, fun e he => hall e (Or.inl he)⟩
  · rintro ⟨hfirst, hds⟩
    exact ⟨hfirst, fun e he => he.elim (hds e) (hrest e)⟩

/-- The identifier of a name, with any number of underscores before it, is an identifier unless the
first character of its word spoils it. -/
theorem isIdentifier_underscored_ofName_iff (k : Nat) (name : String) :
    isIdentifier (Element.underscored k (ofName name)) = true ↔
      (word name.toList).head?.any (spoils k) = false := by
  cases hword : word name.toList with
  | nil =>
    have htoList : "myVar".toList = 'm' :: "yVar".toList := rfl
    rw [ofName_of_word_eq_nil hword, isIdentifier_underscored k htoList]
    have hm : isStart 'm' = true := by decide +kernel
    have hrest : ∀ d ∈ "yVar".toList, isContinue d = true := List.all_eq_true.mp (by decide +kernel)
    simp [hm, isContinue_of_isStart hm, hrest]
  | cons c cs =>
    have hwordChar : isWordChar c = true := isWordChar_of_mem_word (hword ▸ List.mem_cons_self)
    rw [List.head?_cons, Option.any_some]
    cases hdigit : c.isDigit with
    | true =>
      -- a digit gets an underscore of its own
      have hne : c ≠ 'İ' := by
        rintro rfl
        exact absurd hdigit (by decide)
      simp [isIdentifier_ofName_of_digit k hword hdigit, spoils, hdigit, hne]
    | false =>
      rcases lower_cases c with ⟨rfl, hlower⟩ | hlower | ⟨d, hlower, hc, hd⟩
      · -- the mark above the small i belongs to no identifier
        have hmark : isContinue '\u0307' = false := by decide +kernel
        rw [isIdentifier_ofName_of_lower k hword hdigit hlower]
        simp [spoils, hmark]
      · have hne : c ≠ 'İ' := by
          rintro rfl
          exact absurd hlower (by decide +kernel)
        rw [isIdentifier_ofName_of_lower k hword hdigit hlower]
        by_cases hk : k = 0
        · cases hnumeral : isNumeral c <;>
            simp [spoils, hk, hne, hdigit, hnumeral, isStart_of_isWordChar hwordChar]
        · simp [spoils, hk, hne, isContinue_of_isWordChar hwordChar]
      · have hne : c ≠ 'İ' := by
          rintro rfl
          have htwo : (lower 'İ').length = 2 := by decide +kernel
          rw [hlower] at htwo
          cases htwo
        have hstart : isStart d = true := by simp [isStart, hd]
        rw [isIdentifier_ofName_of_lower k hword hdigit hlower]
        simp [spoils, hne, hc, hstart, isContinue_of_isStart hstart]

/-- The identifier of a name, with any number of underscores before it, is accepted as an
identifier, and so written as a key without quotes, if and only if the word of the name does not
start with the capital I with a dot, nor, without an underscore before it, with a numeral that is
neither alphabetic nor one of the ten digits. -/
theorem keyLiteral_underscored_ofName_iff (k : Nat) (name : String) :
    let key := Element.underscored k (ofName name)
    let spoiled := (word name.toList).head?.any (spoils k)
    (isIdentifier key = true ↔ spoiled = false) ∧
      (Value.keyLiteral key = key ↔ spoiled = false) := by
  intro key spoiled
  have hkey : isIdentifier key = true ↔ spoiled = false :=
    isIdentifier_underscored_ofName_iff k name
  exact ⟨hkey, (keyLiteral_eq_self_iff key).trans hkey⟩

/-- A layer that is named with a fraction has a quoted key, which the reference to it does not
match. -/
theorem fraction_needs_quotes :
    ofName "½" = "½" ∧ isIdentifier (ofName "½") = false ∧ Value.keyLiteral (ofName "½") = "\"½\"" ∧
      Line.styleReference (ofName "½") = "style=\x7bstyles.½\x7d" := by
  decide +kernel

end Viewsmith.Identifier
