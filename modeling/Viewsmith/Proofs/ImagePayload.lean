import Mathlib.Data.List.TakeWhile
import Viewsmith.Base64
import Viewsmith.Error

/-!
# The bytes of embedded images

An image is embedded as base64 text, plainly or behind the header of a data address, with blanks
around it. Reading it back gives its bytes, and no other text is read as these bytes: of the four
symbols of a group none is free, since the unused bits of the last group have to be zero and the
group has to be filled up.

The bridge between writing and reading is the list of six-bit values (`sextets`). Writing gives each
value its symbol and fills the last group up (`encode_eq`); reading takes the values of the symbols
and packs them into bytes (`exists_groups_of_decode`, `decode_groups`); and packing is the inverse
of taking bytes apart, on exactly the lists of values that pass the checks of the reader
(`pack_sextets`, `sextets_pack`).

## Main definitions

* `Base64.sextets`: bytes taken apart into six-bit values.
* `Base64.groups`: the text of six-bit values.
* `Base64.isTight`: the lists of values that come from bytes.
* `Base64.written`: the base64 text of bytes.
* `Base64.IsHeader`: what may stand before the text of an image.

## Main statements

* `Base64.decode_eq_ok_iff`: a text has the bytes that it was written from, and no others.
* `Base64.decodeImage_eq_ok_iff`: which texts embed an image.
-/

namespace Viewsmith.Base64

/-! ### Symbols -/

/-- The symbol of a value is read as that value. -/
theorem value?_symbol {n : Nat} (h : n < 64) : value? (symbol n) = some n := by
  have hall : ∀ n < 64, value? (symbol n) = some n := by decide
  exact hall n h

/-- No symbol is the byte that fills up a group. -/
theorem symbol_ne_pad {n : Nat} (h : n < 64) : symbol n ≠ pad := by
  have hall : ∀ n < 64, symbol n ≠ pad := by decide
  exact hall n h

/-- Different values have different symbols. -/
theorem symbol_inj {v w : Nat} (hv : v < 64) (hw : w < 64) (h : symbol v = symbol w) : v = w := by
  have hvalue := congrArg value? h
  rw [value?_symbol hv, value?_symbol hw] at hvalue
  exact Option.some.inj hvalue

/-- A number that is that of a byte makes this byte. -/
theorem toUInt8_eq {n : Nat} {b : UInt8} (h : n = b.toNat) : n.toUInt8 = b := by
  rw [h]
  exact UInt8.ofNat_toNat

/-- A number below 256 is that of the byte that it makes. -/
theorem toNat_toUInt8 {n : Nat} (h : n < 256) : n.toUInt8.toNat = n :=
  UInt8.toNat_ofNat_of_lt' h

/-- A byte that has a value is the symbol of the value. -/
theorem value?_eq_some {b : UInt8} {n : Nat} (h : value? b = some n) : n < 64 ∧ symbol n = b := by
  simp only [value?, Bool.and_eq_true, decide_eq_true_eq] at h
  unfold symbol
  split_ifs at h with hupper hlower hdigit hplus hslash
  · obtain rfl := Option.some.inj h
    refine ⟨by omega, ?_⟩
    rw [if_pos (by omega)]
    exact toUInt8_eq (by omega)
  · obtain rfl := Option.some.inj h
    refine ⟨by omega, ?_⟩
    rw [if_neg (by omega), if_pos (by omega)]
    exact toUInt8_eq (by omega)
  · obtain rfl := Option.some.inj h
    refine ⟨by omega, ?_⟩
    rw [if_neg (by omega), if_neg (by omega), if_pos (by omega)]
    exact toUInt8_eq (by omega)
  · obtain rfl := Option.some.inj h
    exact ⟨by omega, (UInt8.toNat_inj.mp hplus).symm⟩
  · obtain rfl := Option.some.inj h
    exact ⟨by omega, (UInt8.toNat_inj.mp hslash).symm⟩

/-! ### Six-bit values -/

/-- The six-bit values of bytes. The last value is filled up with zero bits. -/
def sextets : List UInt8 → List Nat
  | [] => []
  | [a] => [a.toNat / 4, a.toNat % 4 * 16]
  | [a, b] => [a.toNat / 4, a.toNat % 4 * 16 + b.toNat / 16, b.toNat % 16 * 4]
  | a :: b :: c :: rest =>
    a.toNat / 4 :: (a.toNat % 4 * 16 + b.toNat / 16) :: (b.toNat % 16 * 4 + c.toNat / 64)
      :: c.toNat % 64 :: sextets rest

/-- How many bytes fill up the last group of `n` values. -/
def filling (n : Nat) : Nat := (4 - n % 4) % 4

/-- The text of values: their symbols, and what fills up the last group. -/
def groups (vs : List Nat) : List UInt8 := vs.map symbol ++ List.replicate (filling vs.length) pad

/-- Whether values come from bytes: they do not leave one value alone in the last group, and the
bits of the last value that no byte takes up are zero. -/
def isTight : List Nat → Bool
  | _ :: _ :: _ :: _ :: rest => isTight rest
  | [_] => false
  | vs => !hasLooseBits vs

/-- The text of bytes is that of their six-bit values. -/
theorem encode_eq (bytes : List UInt8) :
    encode bytes = groups (sextets bytes) := by
  fun_induction sextets bytes with
  | case1 => rfl
  | case2 a => rfl
  | case3 a b => rfl
  | case4 a b c rest ih =>
    have hfilling :
        filling ((sextets rest).length + 1 + 1 + 1 + 1) = filling (sextets rest).length := by
      unfold filling
      omega
    simp only [encode, ih, groups, List.map_cons, List.cons_append, List.length_cons, hfilling]

/-- Six bits make a value below 64. -/
theorem lt_of_mem_sextets {bytes : List UInt8} {v : Nat} (h : v ∈ sextets bytes) : v < 64 := by
  fun_induction sextets bytes with
  | case1 => cases h
  | case2 a =>
    have ha := a.toNat_lt
    simp only [List.mem_cons, List.not_mem_nil, or_false] at h
    omega
  | case3 a b =>
    have ha := a.toNat_lt
    have hb := b.toNat_lt
    simp only [List.mem_cons, List.not_mem_nil, or_false] at h
    omega
  | case4 a b c rest ih =>
    have ha := a.toNat_lt
    have hb := b.toNat_lt
    have hc := c.toNat_lt
    simp only [List.mem_cons] at h
    rcases h with h | h | h | h | h
    · omega
    · omega
    · omega
    · omega
    · exact ih h

/-- The values of bytes are tight. -/
theorem isTight_sextets (bytes : List UInt8) : isTight (sextets bytes) = true := by
  fun_induction sextets bytes with
  | case1 => rfl
  | case2 a => simp [isTight, hasLooseBits]
  | case3 a b => simp [isTight, hasLooseBits]
  | case4 a b c rest ih => exact ih

/-- Bytes that are taken apart are packed to the same bytes. -/
theorem pack_sextets (bytes : List UInt8) : pack (sextets bytes) = bytes := by
  fun_induction sextets bytes with
  | case1 => rfl
  | case2 a =>
    have ha := a.toNat_lt
    simp only [pack]
    rw [toUInt8_eq (b := a) (by omega)]
  | case3 a b =>
    have hb := b.toNat_lt
    simp only [pack]
    rw [toUInt8_eq (b := a) (by omega), toUInt8_eq (b := b) (by omega)]
  | case4 a b c rest ih =>
    have hb := b.toNat_lt
    have hc := c.toNat_lt
    simp only [pack]
    rw [toUInt8_eq (b := a) (by omega), toUInt8_eq (b := b) (by omega),
      toUInt8_eq (b := c) (by omega), ih]

/-- Values that come from bytes are those of the bytes that they are packed into. -/
theorem sextets_pack {vs : List Nat} (hlt : ∀ v ∈ vs, v < 64) (htight : isTight vs = true) :
    sextets (pack vs) = vs := by
  fun_induction pack vs with
  | case1 a b c d rest ih =>
    have ha := hlt a (by simp)
    have hb := hlt b (by simp)
    have hc := hlt c (by simp)
    have hd := hlt d (by simp)
    have hrest : sextets (pack rest) = rest := ih (fun v hv => hlt v (by simp [hv])) htight
    rw [sextets, toNat_toUInt8 (by omega), toNat_toUInt8 (by omega),
      toNat_toUInt8 (by omega), hrest]
    congr 1
    · omega
    congr 1
    · omega
    congr 1
    · omega
    congr 1
    omega
  | case2 a b c =>
    have ha := hlt a (by simp)
    have hb := hlt b (by simp)
    have hc := hlt c (by simp)
    -- two bits of the third value belong to no byte, and are zero
    have hloose : c % 4 = 0 := by simpa [isTight, hasLooseBits] using htight
    rw [sextets, toNat_toUInt8 (by omega), toNat_toUInt8 (by omega)]
    congr 1
    · omega
    congr 1
    · omega
    congr 1
    omega
  | case3 a b =>
    have ha := hlt a (by simp)
    have hb := hlt b (by simp)
    have hloose : b % 16 = 0 := by simpa [isTight, hasLooseBits] using htight
    rw [sextets, toNat_toUInt8 (by omega)]
    congr 1
    · omega
    congr 1
    omega
  | case4 vs hfour hthree htwo =>
    -- one value alone makes no byte, and the longer lists are the cases before
    rcases vs with _ | ⟨a, _ | ⟨b, _ | ⟨c, _ | ⟨d, rest⟩⟩⟩⟩
    · rfl
    · cases htight
    · exact absurd rfl (htwo a b)
    · exact absurd rfl (hthree a b c)
    · exact absurd rfl (hfour a b c d rest)

/-- Only the last group decides whether values come from bytes. -/
theorem isTight_append {front vs : List Nat} (h : front.length % 4 = 0) :
    isTight (front ++ vs) = isTight vs := by
  fun_induction isTight front with
  | case1 a b c d rest ih =>
    simp only [List.length_cons] at h
    exact ih (by omega)
  | case2 a => simp at h
  | case3 front hfour hone =>
    rcases front with _ | ⟨a, _ | ⟨b, _ | ⟨c, _ | ⟨d, rest⟩⟩⟩⟩
    · rfl
    · simp at h
    · simp at h
    · simp at h
    · exact absurd rfl (hfour a b c d rest)

/-- In a group of two to four values nothing but loose bits can be wrong. -/
theorem isTight_eq_not_hasLooseBits {vs : List Nat} (htwo : 2 ≤ vs.length) (hfour : vs.length ≤ 4) :
    isTight vs = !hasLooseBits vs := by
  rcases vs with _ | ⟨a, _ | ⟨b, _ | ⟨c, _ | ⟨d, _ | ⟨e, rest⟩⟩⟩⟩⟩
  · simp at htwo
  · simp at htwo
  · rfl
  · rfl
  · rfl
  · simp only [List.length_cons] at hfour
    omega

/-- Tight values leave none alone in the last group. -/
theorem length_ne_one_of_isTight {vs : List Nat} (h : isTight vs = true) : vs.length % 4 ≠ 1 := by
  fun_induction isTight vs with
  | case1 a b c d rest ih =>
    have := ih h
    simp only [List.length_cons]
    omega
  | case2 a => cases h
  | case3 vs hfour hone =>
    rcases vs with _ | ⟨a, _ | ⟨b, _ | ⟨c, _ | ⟨d, rest⟩⟩⟩⟩
    · simp
    · exact absurd rfl (hone a)
    · simp
    · simp
    · exact absurd rfl (hfour a b c d rest)

/-! ### Reading symbols -/

/-- A text of full groups is read if and only if it is one of symbols, and as their values. -/
theorem values_eq_ok_iff {offset : Nat} {text : List UInt8} {vs : List Nat} :
    values offset text = .ok vs ↔ text = vs.map symbol ∧ ∀ v ∈ vs, v < 64 := by
  induction text generalizing offset vs with
  | nil =>
    cases vs with
    | nil => simp [values]
    | cons v vs => simp [values]
  | cons b text ih =>
    rw [values]
    cases hvalue : value? b with
    | none =>
      -- a byte that is no symbol is an error, and does not start a list of symbols
      refine iff_of_false (fun h => by cases h) ?_
      rintro ⟨htext, hlt⟩
      cases vs with
      | nil => cases htext
      | cons v vs =>
        obtain ⟨rfl, -⟩ := List.cons.inj htext
        rw [value?_symbol (hlt v List.mem_cons_self)] at hvalue
        cases hvalue
    | some v =>
      obtain ⟨hv, rfl⟩ := value?_eq_some hvalue
      simp only [Except.map_eq_ok_iff, ih]
      constructor
      · rintro ⟨vs, ⟨rfl, hlt⟩, rfl⟩
        exact ⟨rfl, List.forall_mem_cons.mpr ⟨hv, hlt⟩⟩
      · rintro ⟨htext, hlt⟩
        cases vs with
        | nil => cases htext
        | cons w vs =>
          obtain ⟨hw, hvs⟩ := List.forall_mem_cons.mp hlt
          obtain ⟨hsymbol, rfl⟩ := List.cons.inj htext
          obtain rfl := symbol_inj hv hw hsymbol
          exact ⟨vs, ⟨rfl, hvs⟩, rfl⟩

/-- After a filling byte only filling bytes may follow. -/
theorem lastGroup_some_eq_ok_iff {start index first filled count : Nat} {group : List UInt8}
    {vs : List Nat} :
    lastGroup start index (some (first, filled)) group = .ok (vs, count) ↔
      vs = [] ∧ ∃ n, group = List.replicate n pad ∧ count = filled + n := by
  induction group generalizing index filled with
  | nil =>
    rw [lastGroup]
    constructor
    · intro h
      obtain ⟨rfl, rfl⟩ := Prod.mk.inj (Except.ok.inj h)
      exact ⟨rfl, 0, rfl, rfl⟩
    · rintro ⟨rfl, n, hgroup, rfl⟩
      obtain rfl := (List.replicate_eq_nil_iff _).mp hgroup.symm
      rfl
  | cons b group ih =>
    rw [lastGroup]
    by_cases hpad : b = pad
    · simp only [hpad, if_true, ih]
      refine and_congr_right fun _ => ?_
      constructor
      · rintro ⟨n, rfl, rfl⟩
        exact ⟨n + 1, rfl, by omega⟩
      · rintro ⟨n, hgroup, rfl⟩
        cases n with
        | zero => cases hgroup
        | succ n => exact ⟨n, (List.cons.inj hgroup).2, by omega⟩
    · simp only [hpad, if_false]
      refine iff_of_false (fun h => by cases h) ?_
      rintro ⟨-, n, hgroup, -⟩
      exact hpad (List.eq_of_mem_replicate (hgroup ▸ List.mem_cons_self))

/-- The last group is made of symbols and, from its third byte on, of filling bytes. -/
theorem lastGroup_eq_ok_iff {start index count : Nat} {group : List UInt8} {vs : List Nat} :
    lastGroup start index none group = .ok (vs, count) ↔
      group = vs.map symbol ++ List.replicate count pad ∧ (∀ v ∈ vs, v < 64) ∧
        (count = 0 ∨ 2 ≤ index + vs.length) := by
  induction group generalizing index vs count with
  | nil =>
    rw [lastGroup]
    constructor
    · intro h
      obtain ⟨rfl, rfl⟩ := Prod.mk.inj (Except.ok.inj h)
      simp
    · rintro ⟨hgroup, -, -⟩
      obtain ⟨hvs, hcount⟩ := List.append_eq_nil_iff.mp hgroup.symm
      obtain rfl := List.map_eq_nil_iff.mp hvs
      obtain rfl := (List.replicate_eq_nil_iff _).mp hcount
      rfl
  | cons b group ih =>
    rw [lastGroup]
    by_cases hpad : b = pad
    · subst hpad
      rw [if_pos rfl]
      -- a filling byte is no symbol, so the symbols have ended
      have hnil : ∀ {vs : List Nat}, (∀ v ∈ vs, v < 64) →
          pad :: group = vs.map symbol ++ List.replicate count pad → vs = [] := by
        intro vs hlt hgroup
        cases vs with
        | nil => rfl
        | cons v vs =>
          exact absurd (List.cons.inj hgroup).1.symm (symbol_ne_pad (hlt v List.mem_cons_self))
      -- filling is refused before the third place of the group
      by_cases hindex : index < 2
      · rw [if_pos hindex]
        refine iff_of_false (fun h => by cases h) ?_
        rintro ⟨hgroup, hlt, hcount⟩
        obtain rfl := hnil hlt hgroup
        rcases hcount with rfl | hcount
        · cases hgroup
        · simp at hcount
          omega
      · rw [if_neg hindex, lastGroup_some_eq_ok_iff]
        constructor
        · rintro ⟨rfl, n, rfl, rfl⟩
          refine ⟨?_, by simp, Or.inr (by simp; omega)⟩
          rw [Nat.add_comm]
          rfl
        · rintro ⟨hgroup, hlt, -⟩
          obtain rfl := hnil hlt hgroup
          cases count with
          | zero => cases hgroup
          | succ n => exact ⟨rfl, n, (List.cons.inj hgroup).2, by omega⟩
    · rw [if_neg hpad]
      cases hvalue : value? b with
      | none =>
        refine iff_of_false (fun h => by cases h) ?_
        rintro ⟨hgroup, hlt, -⟩
        cases vs with
        | nil => exact hpad (List.eq_of_mem_replicate (hgroup ▸ List.mem_cons_self))
        | cons v vs =>
          obtain ⟨rfl, -⟩ := List.cons.inj hgroup
          rw [value?_symbol (hlt v List.mem_cons_self)] at hvalue
          cases hvalue
      | some v =>
        obtain ⟨hv, rfl⟩ := value?_eq_some hvalue
        simp only [Except.map_eq_ok_iff, Prod.exists, ih, Prod.mk.injEq]
        constructor
        · rintro ⟨vs, _, ⟨rfl, hlt, hcount⟩, rfl, rfl⟩
          refine ⟨rfl, List.forall_mem_cons.mpr ⟨hv, hlt⟩, ?_⟩
          simp only [List.length_cons]
          omega
        · rintro ⟨hgroup, hlt, hcount⟩
          cases vs with
          | nil => exact absurd (List.eq_of_mem_replicate (hgroup ▸ List.mem_cons_self)) hpad
          | cons w vs =>
            obtain ⟨hw, hvs⟩ := List.forall_mem_cons.mp hlt
            obtain ⟨hsymbol, rfl⟩ := List.cons.inj hgroup
            obtain rfl := symbol_inj hv hw hsymbol
            simp only [List.length_cons] at hcount
            exact ⟨vs, count, ⟨rfl, hvs, by omega⟩, rfl, rfl⟩

/-! ### Reading bytes -/

/-- The last group is accepted if it has two values, is filled up, and has no loose bits. -/
theorem checkGroup_eq_ok_iff {start count : Nat} {group : List UInt8} {vs : List Nat} :
    checkGroup start group vs count = .ok () ↔
      2 ≤ vs.length ∧ (vs.length + count) % 4 = 0 ∧ hasLooseBits vs = false := by
  unfold checkGroup
  by_cases hshort : vs.length < 2
  · rw [if_pos hshort]
    exact iff_of_false (fun h => by cases h) (by omega)
  · rw [if_neg hshort]
    by_cases hfill : (vs.length + count) % 4 ≠ 0
    · rw [if_pos hfill]
      exact iff_of_false (fun h => by cases h) (by omega)
    · rw [if_neg hfill]
      cases hasLooseBits vs with
      | true => exact iff_of_false (fun h => by cases h) (by simp)
      | false => exact iff_of_true rfl ⟨by omega, by omega, rfl⟩

/-- Text of full groups leaves no byte over. -/
theorem checkLeftOver_of_length {text : List UInt8} (h : text.length % 4 = 0) :
    checkLeftOver text = .ok () := by
  unfold checkLeftOver
  cases text.getLast? with
  | none => rfl
  | some b => simp [h]

/-- What is read of a text that is not empty: its front, in full groups, and the last group. -/
theorem decode_eq_ok_iff_parts {text : List UInt8} (h : text ≠ []) {start : Nat}
    (hstart : (text.length - 1) / 4 * 4 = start) (bytes : List UInt8) :
    decode text = .ok bytes ↔ checkLeftOver text = .ok () ∧ ∃ front vs count,
      values 0 (text.take start) = .ok front ∧
        lastGroup start 0 none (text.drop start) = .ok (vs, count) ∧
        checkGroup start (text.drop start) vs count = .ok () ∧ pack (front ++ vs) = bytes := by
  have hempty : text.isEmpty = false := by simpa using h
  simp only [decode, hempty, hstart, Except.bind_eq_ok_iff, Bool.false_eq_true, if_false,
    Prod.exists]
  constructor
  · rintro ⟨⟨⟩, hleft, front, hfront, vs, count, hgroup, ⟨⟩, hcheck, hpack⟩
    exact ⟨hleft, front, vs, count, hfront, hgroup, hcheck, Except.ok.inj hpack⟩
  · rintro ⟨hleft, front, vs, count, hfront, hgroup, hcheck, rfl⟩
    exact ⟨(), hleft, front, hfront, vs, count, hgroup, (), hcheck, rfl⟩

/-- What is read is the text of values that come from bytes, and these are packed. -/
theorem exists_groups_of_decode {text bytes : List UInt8} (h : decode text = .ok bytes) :
    ∃ vs, (∀ v ∈ vs, v < 64) ∧ isTight vs = true ∧ pack vs = bytes ∧ text = groups vs := by
  by_cases hnil : text = []
  · subst hnil
    obtain rfl := Except.ok.inj h
    exact ⟨[], by simp, rfl, rfl, rfl⟩
  · have hpos : 0 < text.length := List.length_pos_iff.mpr hnil
    rw [decode_eq_ok_iff_parts hnil rfl] at h
    simp only [values_eq_ok_iff, lastGroup_eq_ok_iff, checkGroup_eq_ok_iff] at h
    obtain ⟨-, front, vs, count, ⟨hfront, hfrontLt⟩, ⟨hgroup, hlt, -⟩, ⟨htwo, hfill, hloose⟩,
      rfl⟩ := h
    have hfrontLength := congrArg List.length hfront
    have hgroupLength := congrArg List.length hgroup
    simp only [List.length_take, List.length_drop, List.length_map, List.length_append,
      List.length_replicate] at hfrontLength hgroupLength
    have hcount : filling (front ++ vs).length = count := by
      rw [List.length_append, filling]
      omega
    refine ⟨front ++ vs, List.forall_mem_append.mpr ⟨hfrontLt, hlt⟩, ?_, rfl, ?_⟩
    · rw [isTight_append (by omega), isTight_eq_not_hasLooseBits htwo (by omega), hloose]
      rfl
    · rw [groups, hcount, List.map_append, List.append_assoc, ← hgroup, ← hfront,
        List.take_append_drop]

/-- The text of values that come from bytes is read, and they are packed. -/
theorem decode_groups {vs : List Nat} (hlt : ∀ v ∈ vs, v < 64) (htight : isTight vs = true) :
    decode (groups vs) = .ok (pack vs) := by
  by_cases hnil : vs = []
  · subst hnil
    rfl
  · have hpos : 0 < vs.length := List.length_pos_iff.mpr hnil
    have hone := length_ne_one_of_isTight htight
    have hfilling : filling vs.length = (4 - vs.length % 4) % 4 := rfl
    have hlength : (groups vs).length = vs.length + filling vs.length := by simp [groups]
    have hne : groups vs ≠ [] := List.length_pos_iff.mp (by omega)
    -- the last group holds two to four values
    obtain ⟨start, hstart⟩ : ∃ start, ((groups vs).length - 1) / 4 * 4 = start := ⟨_, rfl⟩
    have hle : start ≤ (vs.map symbol).length := by
      rw [List.length_map]
      omega
    have hdrop : (vs.drop start).length = vs.length - start := List.length_drop
    have hloose : hasLooseBits (vs.drop start) = false := by
      have hsplit : isTight (vs.take start ++ vs.drop start) = isTight (vs.drop start) :=
        isTight_append (by rw [List.length_take]; omega)
      rw [List.take_append_drop, htight,
        isTight_eq_not_hasLooseBits (by omega) (by omega)] at hsplit
      simpa using hsplit
    rw [decode_eq_ok_iff_parts hne hstart]
    simp only [values_eq_ok_iff, lastGroup_eq_ok_iff, checkGroup_eq_ok_iff]
    refine ⟨checkLeftOver_of_length (by omega), vs.take start, vs.drop start, filling vs.length,
      ⟨?_, fun v hv => hlt v (List.mem_of_mem_take hv)⟩,
      ⟨?_, fun v hv => hlt v (List.mem_of_mem_drop hv), by omega⟩, ⟨by omega, by omega, hloose⟩, ?_⟩
    · rw [groups, List.take_append_of_le_length hle, List.map_take]
    · rw [groups, List.drop_append_of_le_length hle, List.map_drop]
    · rw [List.take_append_drop]

/-- A text has the bytes that it was written from, and no others. -/
theorem decode_eq_ok_iff {text bytes : List UInt8} :
    decode text = .ok bytes ↔ text = encode bytes := by
  rw [encode_eq]
  constructor
  · intro h
    obtain ⟨vs, hlt, htight, rfl, rfl⟩ := exists_groups_of_decode h
    rw [sextets_pack hlt htight]
  · rintro rfl
    rw [decode_groups (fun v => lt_of_mem_sextets) (isTight_sextets bytes), pack_sextets]

/-! ### Texts of bytes -/

/-- The base64 text of bytes. -/
def written (bytes : List UInt8) : String := String.ofList ((encode bytes).map Char.ofUInt8)

example : written [77, 97, 110, 33] = "TWFuIQ==" := by decide +kernel

/-- The characters of base64 text are single bytes, and none is a blank, a comma or a colon. -/
theorem symbol_character {n : Nat} (h : n < 64) :
    String.utf8EncodeChar (Char.ofUInt8 (symbol n)) = [symbol n] ∧
      Text.isBlank (Char.ofUInt8 (symbol n)) = false ∧ Char.ofUInt8 (symbol n) ≠ ',' ∧
        Char.ofUInt8 (symbol n) ≠ ':' := by
  have hall : ∀ n < 64, String.utf8EncodeChar (Char.ofUInt8 (symbol n)) = [symbol n] ∧
      Text.isBlank (Char.ofUInt8 (symbol n)) = false ∧ Char.ofUInt8 (symbol n) ≠ ',' ∧
        Char.ofUInt8 (symbol n) ≠ ':' := by decide +kernel
  exact hall n h

/-- Different texts have different bytes. -/
theorem bytes_injective {cs ds : List Char} (h : Text.bytes cs = Text.bytes ds) : cs = ds := by
  have hdecode : some cs.toArray = some ds.toArray := by
    rw [← List.utf8Decode?_utf8Encode, ← List.utf8Decode?_utf8Encode]
    exact congrArg (fun l : List UInt8 => l.toByteArray.utf8Decode?) h
  simpa using hdecode

/-- A byte of a base64 text is a character of its own, and no blank, comma or colon. -/
theorem mem_encode {bytes : List UInt8} {b : UInt8} (h : b ∈ encode bytes) :
    String.utf8EncodeChar (Char.ofUInt8 b) = [b] ∧ Text.isBlank (Char.ofUInt8 b) = false ∧
      Char.ofUInt8 b ≠ ',' ∧ Char.ofUInt8 b ≠ ':' := by
  rw [encode_eq, groups, List.mem_append] at h
  rcases h with h | h
  · obtain ⟨v, hv, rfl⟩ := List.mem_map.mp h
    exact symbol_character (lt_of_mem_sextets hv)
  · obtain rfl := List.eq_of_mem_replicate h
    decide +kernel

/-- A character of a base64 text is no blank, comma or colon. -/
theorem mem_written {bytes : List UInt8} {c : Char} (h : c ∈ (written bytes).toList) :
    Text.isBlank c = false ∧ c ≠ ',' ∧ c ≠ ':' := by
  rw [written, String.toList_ofList] at h
  obtain ⟨b, hb, rfl⟩ := List.mem_map.mp h
  exact (mem_encode hb).2

/-- The bytes of a base64 text are those that were encoded. -/
theorem bytes_written (bytes : List UInt8) : Text.bytes (written bytes).toList = encode bytes := by
  have hchars : ∀ l : List UInt8, (∀ b ∈ l, String.utf8EncodeChar (Char.ofUInt8 b) = [b]) →
      Text.bytes (l.map Char.ofUInt8) = l := by
    intro l hl
    induction l with
    | nil => rfl
    | cons b l ih =>
      obtain ⟨hb, hrest⟩ := List.forall_mem_cons.mp hl
      rw [List.map_cons, Text.bytes, List.flatMap_cons, hb]
      exact congrArg (b :: ·) (ih hrest)
  rw [written, String.toList_ofList]
  exact hchars _ fun b hb => (mem_encode hb).1

/-- An image is decoded if and only if its payload is the base64 text of the bytes. -/
theorem decodeImage_eq_ok_iff_payload (text : String) (bytes : List UInt8) :
    decodeImage text = .ok bytes ↔ payload text = (written bytes).toList := by
  rw [decodeImage, decode_eq_ok_iff, ← bytes_written]
  exact ⟨bytes_injective, fun h => by rw [h]⟩

/-! ### Blanks and headers -/

/-- Blanks around a text without blanks are trimmed. -/
theorem trim_append {before core after : List Char} (hbefore : ∀ c ∈ before, Text.isBlank c = true)
    (hcore : ∀ c ∈ core, Text.isBlank c = false) (hafter : ∀ c ∈ after, Text.isBlank c = true) :
    Text.trim (before ++ core ++ after) = core := by
  have hreverse : ∀ c ∈ after.reverse, Text.isBlank c = true := fun c hc =>
    hafter c (List.mem_reverse.mp hc)
  have hstays :
      ∀ l : List Char, (∀ c ∈ l, Text.isBlank c = false) → l.dropWhile Text.isBlank = l := by
    intro l hl
    cases l with
    | nil => rfl
    | cons c l => exact List.dropWhile_cons_of_neg (by simp [hl c List.mem_cons_self])
  rw [Text.trim, List.append_assoc, List.dropWhile_append_of_pos hbefore]
  cases core with
  | nil =>
    have hnil : after.dropWhile Text.isBlank = [] := List.dropWhile_eq_nil_iff.mpr hafter
    simp [hnil]
  | cons c core =>
    have hc : Text.isBlank c = false := hcore c List.mem_cons_self
    rw [List.cons_append, List.dropWhile_cons_of_neg (by simp [hc]), ← List.cons_append,
      List.reverse_append, List.dropWhile_append_of_pos hreverse,
      hstays _ fun d hd => hcore d (List.mem_reverse.mp hd), List.reverse_reverse]

/-- What is trimmed off are blanks. -/
theorem exists_trim (cs : List Char) :
    ∃ before after, (∀ c ∈ before, Text.isBlank c = true) ∧ (∀ c ∈ after, Text.isBlank c = true) ∧
      cs = before ++ Text.trim cs ++ after := by
  have hblank : ∀ (l : List Char), ∀ c ∈ l.takeWhile Text.isBlank, Text.isBlank c = true :=
    fun l c hc => List.mem_takeWhile_imp hc
  refine ⟨cs.takeWhile Text.isBlank,
    ((cs.dropWhile Text.isBlank).reverse.takeWhile Text.isBlank).reverse, hblank cs,
    fun c hc => hblank _ c (List.mem_reverse.mp hc), ?_⟩
  rw [Text.trim, List.append_assoc, ← List.reverse_append, List.takeWhile_append_dropWhile,
    List.reverse_reverse, List.takeWhile_append_dropWhile]

/-- What may stand before the text of an image: nothing, or the start of a data address up to the
first comma. Where there is no comma, the start is `data:` alone. -/
inductive IsHeader : String → Prop
  | absent : IsHeader ""
  | address (media : String) (h : ',' ∉ media.toList) : IsHeader ("data:" ++ media ++ ",")
  | bare : IsHeader "data:"

/-- What follows the first comma. -/
theorem afterComma_append {cs : List Char} (h : ',' ∉ cs) (rest : List Char) :
    afterComma (cs ++ ',' :: rest) = rest := by
  have hcs : ∀ c ∈ cs, decide (c ≠ ',') = true := fun c hc => by
    simpa using fun heq : c = ',' => h (heq ▸ hc)
  rw [afterComma, List.dropWhile_append_of_pos hcs, List.dropWhile_cons_of_neg (by simp)]

/-- Without a comma the whole text is taken. -/
theorem afterComma_of_not_mem {cs : List Char} (h : ',' ∉ cs) : afterComma cs = cs := by
  have hcs : cs.dropWhile (· ≠ ',') = [] := List.dropWhile_eq_nil_iff.mpr fun c hc => by
    simpa using fun heq : c = ',' => h (heq ▸ hc)
  rw [afterComma, hcs]

/-- A text with a comma is what is before the first one and what follows it. -/
theorem exists_eq_append_afterComma {cs : List Char} (h : ',' ∈ cs) :
    ∃ media, ',' ∉ media ∧ cs = media ++ ',' :: afterComma cs := by
  obtain ⟨media, rest, rfl, hmedia⟩ := List.eq_append_cons_of_mem h
  exact ⟨media, hmedia, by rw [afterComma_append hmedia]⟩

/-- The payload of a data address follows its comma. -/
theorem payload_address (rest : String) :
    payload ("data:" ++ rest) = Text.trim (afterComma rest.toList) := by
  have hdata : "data:".toList.isPrefixOf ("data:" ++ rest).toList = true := by simp
  simp only [payload, hdata, if_true]
  simp

/-- The payload of any other text is the text itself. -/
theorem payload_plain {text : String} (h : ¬ "data:".toList <+: text.toList) :
    payload text = Text.trim text.toList := by
  have hdata : ¬ "data:".toList.isPrefixOf text.toList = true := fun hp =>
    h (List.isPrefixOf_iff_prefix.mp hp)
  simp only [payload, if_neg hdata]

/-- A header is left out, and the rest is trimmed. -/
theorem payload_header {header rest : String} (hheader : IsHeader header)
    (hcomma : ',' ∉ rest.toList) (hcolon : ':' ∉ rest.toList) :
    payload (header ++ rest) = Text.trim rest.toList := by
  cases hheader with
  | absent =>
    rw [String.empty_append]
    exact payload_plain fun hdata => hcolon (hdata.subset (by decide))
  | address media hmedia =>
    have htext : "data:" ++ media ++ "," ++ rest = "data:" ++ (media ++ "," ++ rest) := by
      simp only [String.append_assoc]
    have hlist : (media ++ "," ++ rest).toList = media.toList ++ ',' :: rest.toList := by simp
    rw [htext, payload_address, hlist, afterComma_append hmedia]
  | bare => rw [payload_address, afterComma_of_not_mem hcomma]

/-- Every text is made of a header and a rest, which is trimmed. -/
theorem exists_header (text : String) :
    ∃ header rest : String, IsHeader header ∧ text = header ++ rest ∧
      payload text = Text.trim rest.toList := by
  by_cases hdata : "data:".toList <+: text.toList
  · obtain ⟨rest, hrest⟩ := hdata
    obtain rfl : text = "data:" ++ String.ofList rest := by
      rw [← String.ofList_toList (s := text), ← hrest, String.ofList_append, String.ofList_toList]
    by_cases hcomma : ',' ∈ rest
    · obtain ⟨media, hmedia, heq⟩ := exists_eq_append_afterComma hcomma
      refine ⟨"data:" ++ String.ofList media ++ ",", String.ofList (afterComma rest),
        .address _ (by simpa using hmedia), String.toList_inj.mp ?_, by simp [payload_address]⟩
      simpa using heq
    · exact ⟨"data:", String.ofList rest, .bare, rfl,
        by rw [payload_address, String.toList_ofList, afterComma_of_not_mem hcomma]⟩
  · exact ⟨"", text, .absent, (String.empty_append).symm, payload_plain hdata⟩

/-- What stands between blanks behind a header is what is left of a text. -/
theorem payload_eq_toList_iff {text core : String}
    (hcore : ∀ c ∈ core.toList, Text.isBlank c = false ∧ c ≠ ',' ∧ c ≠ ':') :
    payload text = core.toList ↔ ∃ header before after : String, IsHeader header ∧
      Text.isBlankText before = true ∧ Text.isBlankText after = true ∧
        text = header ++ (before ++ core ++ after) := by
  constructor
  · intro h
    obtain ⟨header, rest, hheader, rfl, hpayload⟩ := exists_header text
    obtain ⟨before, after, hbefore, hafter, hrest⟩ := exists_trim rest.toList
    refine ⟨header, String.ofList before, String.ofList after, hheader,
      by simpa [Text.isBlankText] using hbefore, by simpa [Text.isBlankText] using hafter,
      congrArg (header ++ ·) (String.toList_inj.mp ?_)⟩
    rw [← hpayload, h] at hrest
    simpa using hrest
  · rintro ⟨header, before, after, hheader, hbefore, hafter, rfl⟩
    rw [Text.isBlankText, List.all_eq_true] at hbefore hafter
    -- neither the blanks nor the text between them hold a comma or a colon
    have hplain : ∀ d : Char, Text.isBlank d = false → (∀ c ∈ core.toList, c ≠ d) →
        d ∉ (before ++ core ++ after).toList := by
      intro d hd hne hmem
      simp only [String.toList_append, List.mem_append] at hmem
      rcases hmem with (hmem | hmem) | hmem
      · exact Bool.noConfusion (hd.symm.trans (hbefore d hmem))
      · exact hne d hmem rfl
      · exact Bool.noConfusion (hd.symm.trans (hafter d hmem))
    rw [payload_header hheader (hplain ',' (by decide) fun c hc => (hcore c hc).2.1)
      (hplain ':' (by decide) fun c hc => (hcore c hc).2.2),
      String.toList_append, String.toList_append]
    exact trim_append hbefore (fun c hc => (hcore c hc).1) hafter

/-! ### Images -/

/-- The base64 text of bytes is read as these bytes, plainly and behind the header of a data
address, with any blanks around it; and every text that is read as these bytes is their base64 text,
but for a header and for blanks around it. -/
theorem decodeImage_eq_ok_iff (bytes : List UInt8) :
    (∀ before after : String, Text.isBlankText before = true → Text.isBlankText after = true →
      decodeImage (before ++ written bytes ++ after) = .ok bytes ∧
        ∀ media : String, ',' ∉ media.toList →
          decodeImage ("data:" ++ media ++ "," ++ (before ++ written bytes ++ after)) = .ok bytes) ∧
      ∀ text : String, decodeImage text = .ok bytes ↔
        ∃ header before after : String, IsHeader header ∧ Text.isBlankText before = true ∧
          Text.isBlankText after = true ∧ text = header ++ (before ++ written bytes ++ after) := by
  have hiff : ∀ text : String, decodeImage text = .ok bytes ↔
      ∃ header before after : String, IsHeader header ∧ Text.isBlankText before = true ∧
        Text.isBlankText after = true ∧ text = header ++ (before ++ written bytes ++ after) :=
  fun text =>
    (decodeImage_eq_ok_iff_payload text bytes).trans (payload_eq_toList_iff fun c => mem_written)
  refine ⟨fun before after hbefore hafter => ⟨?_, fun media hmedia => ?_⟩, hiff⟩
  · exact (hiff _).mpr ⟨"", before, after, .absent, hbefore, hafter, String.empty_append.symm⟩
  · exact (hiff _).mpr ⟨_, before, after, .address media hmedia, hbefore, hafter, rfl⟩

/-- Four bytes behind the header of a data address, with blanks around them. -/
theorem decodeImage_data_address :
    decodeImage ("data:" ++ "image/png;base64" ++ "," ++ (" " ++ written [77, 97, 110, 33] ++ "\n"))
      = .ok [77, 97, 110, 33] :=
  ((decodeImage_eq_ok_iff [77, 97, 110, 33]).1 " " "\n" (by decide +kernel) (by decide +kernel)).2
    "image/png;base64" (by decide +kernel)

end Viewsmith.Base64
