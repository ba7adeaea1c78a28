import Mathlib.Data.List.Basic
import Viewsmith.Assets.Font
import Viewsmith.Json.Quoted

/-!
# Families in a query

The rule that imports a hosted font names the family in a query, byte by byte: a space is written as
a plus, and every byte that is not plain as an escape. Whatever reads the query undoes this. A plus
is a space, an escape is a byte, and the bytes are those of a text.

A family is found again in what is written for it. Nothing in there ends the family or takes part in
the rule around it, so that the rule tells where the family ends, and so which family it imports.

## Main definitions

* `Query.text?`: the text that a component of a query stands for.
* `Query.separators`, `Query.Escaped`: what a written family keeps out.

## Main statements

* `Query.bytes?_flatMap_encodeByte`: the bytes are read back.
* `FontName.importRule_eq_iff`: the fonts that have the same rule.
* `FontName.encodeFamily_lossless`: a family is read back from its query, and the rule determines
  it.
-/

namespace Viewsmith

/-! ### Reading a query -/

namespace Query

/-- The bytes that a component of a query stands for: a plus is a space, two hexadecimal digits
after a percent sign are a byte, and any other character stands for its own bytes. A percent sign
alone is refused. -/
def bytes? : List Char → Option (List UInt8)
  | [] => some []
  | c :: cs =>
    if c = '+' then (bytes? cs).map (32 :: ·)
    else if c = '%' then
      match cs with
      | high :: low :: rest =>
        (Json.hexDigit? high).bind fun h => (Json.hexDigit? low).bind fun l =>
          (bytes? rest).map ((16 * h + l).toUInt8 :: ·)
      | _ => none
    else (bytes? cs).map (String.utf8EncodeChar c ++ ·)

/-- The text that a component of a query stands for. -/
def text? (component : String) : Option String :=
  (bytes? component.toList).bind fun bytes => String.fromUTF8? bytes.toByteArray

/-- The characters that end a family, or have a meaning in the query, the rule or the markup around
it. -/
def separators : List Char := [' ', ':', '&', '@', ',', '"', '\\', '<', '>']

/-- Every percent sign begins an escape. -/
def Escaped (cs : List Char) : Prop :=
  ∀ before after, cs = before ++ '%' :: after →
    ∃ high low rest, after = high :: low :: rest ∧ high.isHexDigit = true ∧ low.isHexDigit = true

/-- A character that stands for itself in a query. -/
structure IsPlain (c : Char) : Prop where
  ascii : c.toNat < 128
  not_separator : c ∉ separators
  ne_plus : c ≠ '+'
  ne_percent : c ≠ '%'

/-- A plus is read as a space. -/
theorem bytes?_plus (cs : List Char) : bytes? ('+' :: cs) = (bytes? cs).map (32 :: ·) := by
  rw [bytes?.eq_def]
  exact if_pos rfl

/-- A percent sign with two digits is read as a byte. -/
theorem bytes?_escape {high low : Char} {h l : Nat} (hhigh : Json.hexDigit? high = some h)
    (hlow : Json.hexDigit? low = some l) (cs : List Char) :
    bytes? ('%' :: high :: low :: cs) = (bytes? cs).map ((16 * h + l).toUInt8 :: ·) := by
  rw [bytes?, if_neg (by decide), if_pos rfl]
  simp only [hhigh, hlow, Option.bind_some]

/-- A plain character is read as its own byte. -/
theorem bytes?_plain {c : Char} (h : IsPlain c) (cs : List Char) :
    bytes? (c :: cs) = (bytes? cs).map (c.toNat.toUInt8 :: ·) := by
  have hbyte : String.utf8EncodeChar c = [c.toNat.toUInt8] :=
    if_pos (Nat.le_of_lt_succ h.ascii)
  rw [bytes?.eq_def]
  simp only [if_neg h.ne_plus, if_neg h.ne_percent, hbyte, List.singleton_append]

namespace Escaped

/-- In no characters every percent sign begins an escape. -/
theorem nil : Escaped [] := by
  intro before after h
  simp at h

/-- Another character than a percent sign needs no escape. -/
theorem cons {c : Char} (hc : c ≠ '%') {cs : List Char} (h : Escaped cs) : Escaped (c :: cs) := by
  intro before after heq
  cases before with
  | nil => exact absurd (List.cons.inj heq).1 hc
  | cons d before => exact h before after (List.cons.inj heq).2

/-- A percent sign with two digits is an escape. -/
theorem escape {high low : Char} (hhigh : high.isHexDigit = true) (hlow : low.isHexDigit = true)
    {cs : List Char} (h : Escaped cs) : Escaped ('%' :: high :: low :: cs) := by
  have hne : ∀ {c : Char}, c.isHexDigit = true → c ≠ '%' := by
    rintro c hc rfl
    exact absurd hc (by decide)
  intro before after heq
  cases before with
  | nil => exact ⟨high, low, cs, (List.cons.inj heq).2.symm, hhigh, hlow⟩
  | cons d before => exact ((h.cons (hne hlow)).cons (hne hhigh)) before after (List.cons.inj heq).2

end Escaped

/-- The bytes of a text are read as the text. -/
theorem fromUTF8?_bytes (s : String) :
    String.fromUTF8? (Text.bytes s.toList).toByteArray = some s := by
  have hbytes : (Text.bytes s.toList).toByteArray = s.toByteArray := String.utf8Encode_toList
  rw [hbytes, String.fromUTF8?, dif_pos s.isValidUTF8]
  rfl

end Query

/-! ### What is written for a family -/

namespace FontName

open Query

/-- A digit is read back, and it is an ASCII character that separates nothing. -/
theorem upperHexDigit_spec {n : Nat} (h : n < 16) :
    Json.hexDigit? (upperHexDigit n) = some n ∧ (upperHexDigit n).isHexDigit = true ∧
      (upperHexDigit n).toNat < 128 ∧ upperHexDigit n ∉ separators := by
  have hall :
      ∀ n < 16, Json.hexDigit? (upperHexDigit n) = some n ∧ (upperHexDigit n).isHexDigit = true ∧
      (upperHexDigit n).toNat < 128 ∧ upperHexDigit n ∉ separators := by decide
  exact hall n h

/-- A byte that is written as it is stands for a plain character. -/
theorem isPlain_of_isUnreserved {b : UInt8} (h : isUnreserved b = true) :
    IsPlain (Char.ofNat b.toNat) ∧ (Char.ofNat b.toNat).toNat = b.toNat := by
  have hall : ∀ n < 256, isUnreserved n.toUInt8 = true →
      (Char.ofNat n).toNat < 128 ∧ Char.ofNat n ∉ separators ∧ Char.ofNat n ≠ '+' ∧
        Char.ofNat n ≠ '%' ∧ (Char.ofNat n).toNat = n := by decide +kernel
  obtain ⟨hascii, hseparator, hplus, hpercent, hnat⟩ := hall b.toNat b.toNat_lt (by simpa using h)
  exact ⟨⟨hascii, hseparator, hplus, hpercent⟩, hnat⟩

/-- A byte is written as a plus, as a plain character or as an escape. -/
theorem encodeByte_cases (b : UInt8) :
    (b = 32 ∧ encodeByte b = ['+']) ∨
      (∃ c, IsPlain c ∧ c.toNat = b.toNat ∧ encodeByte b = [c]) ∨
        ∃ h < 16, ∃ l < 16, 16 * h + l = b.toNat ∧
          encodeByte b = ['%', upperHexDigit h, upperHexDigit l] := by
  have hlt := b.toNat_lt
  unfold encodeByte
  by_cases hspace : b.toNat = 32
  · exact Or.inl ⟨UInt8.toNat_inj.mp hspace, if_pos hspace⟩
  · rw [if_neg hspace]
    by_cases hplain : isUnreserved b = true
    · obtain ⟨hc, hnat⟩ := isPlain_of_isUnreserved hplain
      exact Or.inr (Or.inl ⟨_, hc, hnat, if_pos hplain⟩)
    · exact Or.inr (Or.inr
        ⟨b.toNat / 16, by omega, b.toNat % 16, by omega, by omega, if_neg hplain⟩)

end FontName

namespace Query

open FontName

/-- A byte is read back from what is written for it, whatever follows. -/
theorem bytes?_encodeByte_append (b : UInt8) (cs : List Char) :
    bytes? (encodeByte b ++ cs) = (bytes? cs).map (b :: ·) := by
  rcases encodeByte_cases b with ⟨rfl, h⟩ | ⟨c, hplain, hnat, h⟩ | ⟨high, hhigh, low, hlow, hsum, h⟩
  · rw [h]
    exact bytes?_plus cs
  · have hb : c.toNat.toUInt8 = b := by simp [hnat]
    rw [h, List.singleton_append, bytes?_plain hplain, hb]
  · have hb : (16 * high + low).toUInt8 = b := by simp [hsum]
    rw [h]
    simp only [List.cons_append, List.nil_append]
    rw [bytes?_escape (upperHexDigit_spec hhigh).1 (upperHexDigit_spec hlow).1, hb]

/-- Bytes are read back from what is written for them. -/
theorem bytes?_flatMap_encodeByte (bs : List UInt8) : bytes? (bs.flatMap encodeByte) = some bs := by
  induction bs with
  | nil => rfl
  | cons b bs ih => rw [List.flatMap_cons, bytes?_encodeByte_append, ih, Option.map_some]

/-- In what is written for bytes every percent sign begins an escape. -/
theorem escaped_flatMap_encodeByte (bs : List UInt8) : Escaped (bs.flatMap encodeByte) := by
  induction bs with
  | nil => exact .nil
  | cons b bs ih =>
    rw [List.flatMap_cons]
    rcases encodeByte_cases b with ⟨-, h⟩ | ⟨c, hplain, -, h⟩ | ⟨high, hhigh, low, hlow, -, h⟩
    · rw [h]
      exact ih.cons (by decide)
    · rw [h]
      exact ih.cons hplain.ne_percent
    · rw [h]
      exact ih.escape (upperHexDigit_spec hhigh).2.1 (upperHexDigit_spec hlow).2.1

/-- No separator is written for a byte, and nothing that is not a single byte itself. -/
theorem not_separator_of_mem_encodeByte {b : UInt8} {c : Char} (hc : c ∈ encodeByte b) :
    c.toNat < 128 ∧ c ∉ separators := by
  rcases encodeByte_cases b with ⟨-, h⟩ | ⟨d, hplain, -, h⟩ | ⟨high, hhigh, low, hlow, -, h⟩
  · rw [h, List.mem_singleton] at hc
    subst hc
    decide
  · rw [h, List.mem_singleton] at hc
    subst hc
    exact ⟨hplain.ascii, hplain.not_separator⟩
  · simp only [h, List.mem_cons, List.not_mem_nil, or_false] at hc
    rcases hc with rfl | rfl | rfl
    · decide
    · exact (upperHexDigit_spec hhigh).2.2
    · exact (upperHexDigit_spec hlow).2.2

end Query

namespace FontName

open Query

/-- A family is written byte by byte. -/
theorem toList_encodeFamily (family : String) :
    (encodeFamily family).toList = (Text.bytes family.toList).flatMap encodeByte :=
  String.toList_ofList

/-- A family is read back from what is written for it. -/
theorem text?_encodeFamily (family : String) : Query.text? (encodeFamily family) = some family := by
  rw [Query.text?, toList_encodeFamily, bytes?_flatMap_encodeByte, Option.bind_some,
    fromUTF8?_bytes]

/-- Different families are written differently. -/
theorem encodeFamily_injective {family other : String}
    (h : encodeFamily family = encodeFamily other) : family = other := by
  have hread : some family = some other := by
    rw [← text?_encodeFamily family, h, text?_encodeFamily]
  exact Option.some.inj hread

/-- What is written for a family is ASCII, and no separator is in it. -/
theorem not_separator_of_mem_encodeFamily {family : String} {c : Char}
    (h : c ∈ (encodeFamily family).toList) : c.toNat < 128 ∧ c ∉ separators := by
  rw [toList_encodeFamily, List.mem_flatMap] at h
  obtain ⟨b, -, hc⟩ := h
  exact not_separator_of_mem_encodeByte hc

/-- A family ends at the first colon after it. -/
theorem takeWhile_encodeFamily (family : String) (rest : List Char) :
    ((encodeFamily family).toList ++ ':' :: rest).takeWhile (· ≠ ':') =
      (encodeFamily family).toList := by
  have hcolon : ∀ c ∈ (encodeFamily family).toList, decide (c ≠ ':') = true := by
    intro c hc
    have hne : c ≠ ':' := by
      rintro rfl
      exact (not_separator_of_mem_encodeFamily hc).2 (by decide)
    simpa using hne
  rw [List.takeWhile_append_of_pos hcolon, List.takeWhile_cons_of_neg (by simp), List.append_nil]

/-- The rule of a font: the same text around every family and its axes, and a colon between the
two. -/
theorem exists_importRule_eq : ∃ opening closing : String, ∀ font : FontName,
    font.importRule = opening ++ encodeFamily font.family ++ ":" ++ axes font.style ++ closing :=
  ⟨_, _, fun _ => rfl⟩

/-- Two fonts have the same rule if and only if their families are the same and their styles ask for
the same weight and slant. -/
theorem importRule_eq_iff (font other : FontName) :
    font.importRule = other.importRule ↔
      font.family = other.family ∧ axes font.style = axes other.style := by
  obtain ⟨opening, closing, hrule⟩ := exists_importRule_eq
  constructor
  · intro h
    have hinner : encodeFamily font.family ++ (":" ++ (axes font.style ++ closing)) =
        encodeFamily other.family ++ (":" ++ (axes other.style ++ closing)) := by
      simpa only [hrule, String.append_assoc, String.append_right_inj] using h
    have hfamily : font.family = other.family := by
      have htake := congrArg (fun s : String => s.toList.takeWhile (· ≠ ':')) hinner
      simp only [String.toList_append] at htake
      exact encodeFamily_injective (String.toList_inj.mp
        ((takeWhile_encodeFamily _ _).symm.trans (htake.trans (takeWhile_encodeFamily _ _))))
    rw [hfamily, String.append_right_inj, String.append_right_inj, String.append_left_inj] at hinner
    exact ⟨hfamily, hinner⟩
  · rintro ⟨hfamily, haxes⟩
    rw [hrule, hrule, hfamily, haxes]

/-- **Families.** What is written for a family in a query stands for the family. It has single bytes
only, none of the separators, and no percent sign that does not begin an escape. So the rule of a
font determines its family: the rules of two fonts are the same if and only if their families are
the same and their styles ask for the same weight and slant. -/
theorem encodeFamily_lossless (family : String) :
    Query.text? (encodeFamily family) = some family ∧
      (∀ c ∈ (encodeFamily family).toList, c.toNat < 128 ∧ c ∉ Query.separators) ∧
      Query.Escaped (encodeFamily family).toList ∧
      ∀ style other otherStyle : String,
        importRule ⟨family, style⟩ = importRule ⟨other, otherStyle⟩ ↔
          family = other ∧ axes style = axes otherStyle := by
  refine ⟨text?_encodeFamily family, fun c hc => not_separator_of_mem_encodeFamily hc, ?_, ?_⟩
  · rw [toList_encodeFamily]
    exact escaped_flatMap_encodeByte _
  · intro style other otherStyle
    exact importRule_eq_iff ⟨family, style⟩ ⟨other, otherStyle⟩

/-- A plus, text that looks like its escape, a space and a letter of two bytes. A percent sign is
written only where it begins an escape, styles without a weight of their own have the same rule, and
a family with a space has not the rule of one with a plus. -/
theorem encodeFamily_lossless_plus :
    encodeFamily "+%2B é" = "%2B%252B+%C3%A9" ∧
      Query.text? "%2B%252B+%C3%A9" = some "+%2B é" ∧
      ('%' ∈ (encodeFamily "+%2B é").toList ∧ '%'.toNat < 128 ∧ '%' ∉ Query.separators) ∧
      (∃ high low rest, "2B%252B+%C3%A9".toList = high :: low :: rest ∧ high.isHexDigit = true ∧
        low.isHexDigit = true) ∧
      importRule ⟨"+%2B é", "Regular"⟩ = importRule ⟨"+%2B é", "Book"⟩ ∧
      importRule ⟨"+%2B é", "Regular"⟩ ≠ importRule ⟨"++ é", "Book"⟩ := by
  have hwritten : encodeFamily "+%2B é" = "%2B%252B+%C3%A9" := by decide +kernel
  obtain ⟨hread, hplain, hescaped, hrule⟩ := encodeFamily_lossless "+%2B é"
  have hmem : '%' ∈ (encodeFamily "+%2B é").toList := by
    rw [hwritten]
    decide
  refine ⟨hwritten, hwritten ▸ hread, ⟨hmem, hplain '%' hmem⟩, hescaped [] _ ?_, ?_, ?_⟩
  · rw [hwritten]
    decide
  · exact (hrule "Regular" _ "Book").mpr ⟨rfl, by decide +kernel⟩
  · intro h
    exact absurd ((hrule "Regular" "++ é" "Book").mp h).1 (by decide)

end FontName

end Viewsmith
