import Mathlib.Data.List.DropRight
import Mathlib.Data.List.Induction
import Mathlib.Data.List.Nodup
import Viewsmith.Assets.Basic

/-!
# The store of assets and its history

A store of assets is used operation by operation: a collection is started, fonts and files are
recorded, and what was collected is taken out. What it holds can be read off the operations since it
was last emptied: of the fonts that were to be recorded the first of each name, and of the bytes
that were offered the first of each hash whose kind is recognized, in the order of these first
times.

Files are kept by hash, and are named for the hash and the kind. The names are distinct
nevertheless, because no extension has a point in it, so that the hash can be read off the name.

## Main definitions

* `firsts`: the first entry of each key.
* `Assets.Operation`, `Assets.perform`: the operations, with their answers.
* `Assets.recordedFonts`, `Assets.recordedMedia`: what a history says about the store.

## Main statements

* `firsts_concat`: one more entry is kept if its key is new.
* `Assets.Reflects.perform`, `Assets.reflects_after`: a step, and a history.
* `Assets.after_history`: the store holds what its history says, and answers accordingly.
-/

namespace Viewsmith

/-! ### The first entry of each key -/

section Firsts

variable {α κ : Type} [DecidableEq κ]

/-- The first entry of each key, in order: the first entry of all, and then the others without those
of its key. -/
def firsts (key : α → κ) : List α → List α
  | [] => []
  | a :: l => a :: (firsts key l).filter fun b => key b ≠ key a

variable {key : α → κ}

/-- No key is lost. -/
theorem mem_map_firsts {l : List α} {k : κ} : k ∈ (firsts key l).map key ↔ k ∈ l.map key := by
  induction l with
  | nil => exact Iff.rfl
  | cons a l ih =>
    rw [firsts, List.map_cons, List.map_cons, List.mem_cons, List.mem_cons, ← ih]
    by_cases hk : k = key a
    · simp [hk]
    · simp only [hk, false_or, List.mem_map, List.mem_filter, decide_eq_true_eq]
      constructor
      · rintro ⟨b, ⟨hb, -⟩, rfl⟩
        exact ⟨b, hb, rfl⟩
      · rintro ⟨b, hb, rfl⟩
        exact ⟨b, ⟨hb, hk⟩, rfl⟩

/-- The first entries stand in the order of the list. -/
theorem firsts_sublist (l : List α) : (firsts key l).Sublist l := by
  induction l with
  | nil => exact .slnil
  | cons a l ih => exact (List.filter_sublist.trans ih).cons_cons a

/-- No key is left twice. -/
theorem nodup_map_firsts (l : List α) : ((firsts key l).map key).Nodup := by
  induction l with
  | nil => exact List.nodup_nil
  | cons a l ih =>
    rw [firsts, List.map_cons, List.nodup_cons]
    constructor
    · simp
    · exact ih.sublist (List.filter_sublist.map key)

/-- Of further entries those with new keys are kept. -/
theorem firsts_append (l m : List α) :
    firsts key (l ++ m) = firsts key l ++ (firsts key m).filter fun b => key b ∉ l.map key := by
  induction l with
  | nil => simp [firsts]
  | cons a l ih =>
    rw [List.cons_append, firsts, ih, firsts, List.filter_append, List.filter_filter,
      List.cons_append]
    congr 2
    apply List.filter_congr
    intro b _
    simp

/-- One more entry is kept if its key is new. -/
theorem firsts_concat (l : List α) (a : α) :
    firsts key (l ++ [a]) = if key a ∈ l.map key then firsts key l else firsts key l ++ [a] := by
  rw [firsts_append]
  split <;> simp_all [firsts]

/-- What is kept of a list is all that matters for a longer one. -/
theorem firsts_append_congr {l l' m m' : List α} (hl : firsts key l = firsts key l')
    (hm : firsts key m = firsts key m') : firsts key (l ++ m) = firsts key (l' ++ m') := by
  have hkeys (k : κ) : k ∈ l.map key ↔ k ∈ l'.map key := by
    rw [← mem_map_firsts, hl, mem_map_firsts]
  rw [firsts_append, firsts_append, hl, hm]
  simp only [hkeys]

/-- Lists with the same first entries have the same ones when they are joined. -/
theorem firsts_flatMap_congr {β : Type} {f g : β → List α} (l : List β)
    (h : ∀ b ∈ l, firsts key (f b) = firsts key (g b)) :
    firsts key (l.flatMap f) = firsts key (l.flatMap g) := by
  induction l with
  | nil => rfl
  | cons b l ih =>
    rw [List.flatMap_cons, List.flatMap_cons]
    exact firsts_append_congr (h b List.mem_cons_self)
      (ih fun c hc => h c (List.mem_cons_of_mem b hc))

/-- The first entries of a mapped list are those by the key of the image. -/
theorem firsts_map {β : Type} (f : β → α) (l : List β) :
    firsts key (l.map f) = (firsts (fun b => key (f b)) l).map f := by
  induction l with
  | nil => rfl
  | cons b l ih =>
    rw [List.map_cons, firsts, ih, firsts, List.map_cons, List.filter_map]
    rfl

end Firsts

/-- The name of a file tells its hash, since no extension has a point in it. -/
theorem Media.hash_eq_of_filename_eq {hash hash' : String} {kind kind' : MediaKind}
    (h : hash ++ "." ++ kind.extension = hash' ++ "." ++ kind'.extension) : hash = hash' := by
  have hpoint (k : MediaKind) : ∀ c ∈ k.extension.toList.reverse, (c != '.') = true := by
    rw [← List.all_eq_true]
    cases k <;> rfl
  -- backwards, what is left after the extension
  have hrest (name : String) (k : MediaKind) :
      (name ++ "." ++ k.extension).toList.reverse.dropWhile (· != '.') =
        '.' :: name.toList.reverse := by
    rw [String.toList_append, String.toList_append, List.reverse_append, List.reverse_append,
      List.dropWhile_append_of_pos (hpoint k)]
    rfl
  have heq := hrest hash kind
  rw [h, hrest hash' kind'] at heq
  exact String.toList_injective (List.reverse_injective (List.cons.inj heq).2).symm

namespace Assets

/-! ### Operations -/

/-- What can be done with a store. -/
inductive Operation where
  /-- Start a collection. -/
  | start
  | clear
  /-- Record a font that the catalog classifies. -/
  | register (name : FontName)
  /-- Record a font that is classified already. -/
  | record (font : Font)
  /-- Offer the bytes of a hash. -/
  | offer (hash : String) (bytes : List UInt8)
  /-- Take everything out. -/
  | drain

/-- What a store answers. -/
inductive Answer where
  | nothing
  /-- Whether the font was new. -/
  | stored (new : Bool)
  /-- The file that is kept for the hash. -/
  | file (media : Option Media)
  | collected (collected : Collected)

/-- The answer to an operation, and the store afterwards. -/
def perform (assets : Assets) : Operation → Answer × Assets
  | .start => (.nothing, assets.clear)
  | .clear => (.nothing, assets.clear)
  | .register name => (.nothing, assets.registerFont name)
  | .record font => (.stored (!assets.hasFont font.name), assets.keepFont font)
  | .offer hash bytes =>
    let (kept, assets) := assets.keepMedia hash bytes
    (.file kept, assets)
  | .drain => (.collected assets.collected, assets.clear)

/-- The store after a history of operations. -/
def after (assets : Assets) (history : List Operation) : Assets :=
  history.foldl (fun assets operation => (assets.perform operation).2) assets

/-! ### What a history says -/

namespace Operation

/-- Whether the store is empty afterwards. -/
def empties : Operation → Bool
  | .start | .clear | .drain => true
  | _ => false

/-- The font that is to be recorded. -/
def font? (catalog : Catalog) : Operation → Option Font
  | .register name => some ⟨catalog.origin name.family, name⟩
  | .record font => some font
  | _ => none

/-- The file that is to be kept, with its hash: it is of the kind of the bytes, and named for the
hash and the kind. Bytes of no recognized kind make no file. -/
def file? : Operation → Option (String × Media)
  | .offer hash bytes =>
    (MediaKind.sniff bytes).map fun kind => (hash, ⟨kind, hash ++ "." ++ kind.extension, bytes⟩)
  | _ => none

end Operation

/-- The operations since the store was last emptied. -/
def sinceEmpty (history : List Operation) : List Operation := history.rtakeWhile fun o => !o.empties

/-- The fonts that a history leaves in the store. -/
def recordedFonts (catalog : Catalog) (history : List Operation) : List Font :=
  firsts Font.name ((sinceEmpty history).filterMap (Operation.font? catalog))

/-- The files that a history leaves in the store, with their hashes. -/
def recordedMedia (history : List Operation) : List (String × Media) :=
  firsts Prod.fst ((sinceEmpty history).filterMap Operation.file?)

/-- The last operation is performed on the store that the others leave. -/
theorem after_concat (assets : Assets) (history : List Operation) (operation : Operation) :
    assets.after (history ++ [operation]) = ((assets.after history).perform operation).2 := by
  unfold after
  rw [List.foldl_append]
  rfl

/-- An operation that empties the store starts the count anew. -/
theorem sinceEmpty_concat (history : List Operation) (operation : Operation) :
    sinceEmpty (history ++ [operation]) =
      if operation.empties then [] else sinceEmpty history ++ [operation] := by
  unfold sinceEmpty
  cases h : operation.empties with
  | true => exact List.rtakeWhile_concat_neg _ _ _ (by simp [h])
  | false => exact List.rtakeWhile_concat_pos _ _ _ (by simp [h])

/-- What is made of one more element comes last. -/
theorem filterMap_concat_toList {α β : Type} (f : α → Option β) (l : List α) (a : α) :
    (l ++ [a]).filterMap f = l.filterMap f ++ (f a).toList := by
  rw [List.filterMap_append, List.filterMap_cons]
  cases f a <;> rfl

/-! ### Recording -/

/-- Recording a font keeps the catalog. -/
theorem catalog_keepFont (assets : Assets) (font : Font) :
    (assets.keepFont font).catalog = assets.catalog := by
  unfold keepFont
  split <;> rfl

/-- Recording a font keeps the files. -/
theorem media_keepFont (assets : Assets) (font : Font) :
    (assets.keepFont font).media = assets.media := by
  unfold keepFont
  split <;> rfl

/-- Registering a font keeps the catalog. -/
theorem catalog_registerFont (assets : Assets) (name : FontName) :
    (assets.registerFont name).catalog = assets.catalog :=
  assets.catalog_keepFont _

/-- Recording a file keeps the catalog. -/
theorem catalog_keepMedia (assets : Assets) (hash : String) (bytes : List UInt8) :
    (assets.keepMedia hash bytes).2.catalog = assets.catalog := by
  unfold keepMedia
  split
  · rfl
  · split <;> rfl

/-- Recording a file keeps the fonts. -/
theorem fonts_keepMedia (assets : Assets) (hash : String) (bytes : List UInt8) :
    (assets.keepMedia hash bytes).2.fonts = assets.fonts := by
  unfold keepMedia
  split
  · rfl
  · split <;> rfl

variable {assets : Assets}

/-- A font is recorded if its name is among the recorded ones. -/
theorem hasFont_iff {name : FontName} :
    assets.hasFont name = true ↔ name ∈ assets.fonts.map Font.name := by
  simp [hasFont]

/-- No file is found for a hash that is not among the recorded ones. -/
theorem media?_eq_none_iff {hash : String} :
    assets.media? hash = none ↔ hash ∉ assets.media.map Prod.fst := by
  unfold media?
  rw [← not_iff_not, not_not, ← ne_eq, Option.ne_none_iff_isSome, List.lookup_isSome_iff,
    List.mem_map]
  refine exists_congr fun entry => and_congr_right fun _ => ?_
  rw [beq_iff_eq, eq_comm]

/-- A font of a recorded name changes nothing. -/
theorem keepFont_of_mem {font : Font} (h : font.name ∈ assets.fonts.map Font.name) :
    assets.keepFont font = assets := by
  unfold keepFont
  rw [if_pos (hasFont_iff.mpr h)]

/-- A font is recorded as the first of its name. -/
theorem fonts_keepFont {l : List Font} (h : assets.fonts = firsts Font.name l) (font : Font) :
    (assets.keepFont font).fonts = firsts Font.name (l ++ [font]) := by
  have hkept : font.name ∈ assets.fonts.map Font.name ↔ font.name ∈ l.map Font.name := by
    rw [h, mem_map_firsts]
  rw [firsts_concat]
  split
  case isTrue hold => rw [keepFont_of_mem (hkept.mpr hold), h]
  case isFalse hnew =>
    unfold keepFont
    rw [if_neg (mt (hasFont_iff.trans hkept).mp hnew), h]

/-- The file of an offer is made of its bytes. -/
theorem file?_offer (hash : String) (bytes : List UInt8) :
    (Operation.offer hash bytes).file? =
      (Media.ofBytes? hash bytes).map fun media => (hash, media) := by
  unfold Operation.file? Media.ofBytes?
  rw [Option.map_map]
  rfl

/-- Bytes of a hash that has a file are not recorded. -/
theorem keepMedia_of_media? {hash : String} {media : Media} (h : assets.media? hash = some media)
    (bytes : List UInt8) : assets.keepMedia hash bytes = (some media, assets) := by
  unfold keepMedia
  rw [h]

/-- Bytes of a new hash are recorded if they make a file. -/
theorem keepMedia_of_media?_eq_none {hash : String} (h : assets.media? hash = none)
    (bytes : List UInt8) :
    assets.keepMedia hash bytes =
      (Media.ofBytes? hash bytes,
        { assets with media := assets.media ++ (Operation.offer hash bytes).file?.toList }) := by
  rw [file?_offer]
  unfold keepMedia
  rw [h]
  cases Media.ofBytes? hash bytes with
  | none => simp
  | some media => rfl

/-- A file is kept as the first of its hash. -/
theorem media_keepMedia {l : List (String × Media)} (h : assets.media = firsts Prod.fst l)
    (hash : String) (bytes : List UInt8) :
    (assets.keepMedia hash bytes).2.media =
      firsts Prod.fst (l ++ (Operation.offer hash bytes).file?.toList) := by
  have hkept : hash ∈ assets.media.map Prod.fst ↔ hash ∈ l.map Prod.fst := by
    rw [h, mem_map_firsts]
  cases hold : assets.media? hash with
  | some media =>
    -- an earlier file has the hash already, and the first of a hash is kept
    have hmem : hash ∈ l.map Prod.fst := by
      by_contra hnew
      rw [media?_eq_none_iff.mpr (mt hkept.mp hnew)] at hold
      cases hold
    rw [keepMedia_of_media? hold, file?_offer]
    cases Media.ofBytes? hash bytes with
    | none => simpa using h
    | some other =>
      show assets.media = firsts Prod.fst (l ++ [(hash, other)])
      rw [firsts_concat, if_pos hmem, h]
  | none =>
    have hnew : hash ∉ l.map Prod.fst := mt hkept.mpr (media?_eq_none_iff.mp hold)
    rw [keepMedia_of_media?_eq_none hold, file?_offer]
    cases Media.ofBytes? hash bytes with
    | none => simpa using h
    | some media =>
      show assets.media ++ [(hash, media)] = firsts Prod.fst (l ++ [(hash, media)])
      rw [firsts_concat, if_neg hnew, h]

/-! ### Steps and histories -/

/-- The store holds what the history says. -/
structure Reflects (catalog : Catalog) (history : List Operation) (assets : Assets) : Prop where
  catalog_eq : assets.catalog = catalog
  fonts_eq : assets.fonts = recordedFonts catalog history
  media_eq : assets.media = recordedMedia history

namespace Reflects

variable {catalog : Catalog} {history : List Operation}

/-- Step: after an operation that empties it, a cleared store holds what the history says. -/
theorem of_empties (h : assets.Reflects catalog history) {operation : Operation}
    (ho : operation.empties = true) : assets.clear.Reflects catalog (history ++ [operation]) := by
  have hsince : sinceEmpty (history ++ [operation]) = [] := by rw [sinceEmpty_concat, if_pos ho]
  refine ⟨h.catalog_eq, ?_, ?_⟩
  · rw [recordedFonts, hsince]
    rfl
  · rw [recordedMedia, hsince]
    rfl

/-- Step: a store that adds what an operation asks for holds what the longer history says. -/
theorem of_not_empties {assets later : Assets} (h : assets.Reflects catalog history)
    {operation : Operation} (ho : operation.empties = false)
    (hcatalog : later.catalog = assets.catalog)
    (hfonts : ∀ l, assets.fonts = firsts Font.name l →
      later.fonts = firsts Font.name (l ++ (operation.font? catalog).toList))
    (hmedia : ∀ l, assets.media = firsts Prod.fst l →
      later.media = firsts Prod.fst (l ++ operation.file?.toList)) :
    later.Reflects catalog (history ++ [operation]) := by
  have hsince : sinceEmpty (history ++ [operation]) = sinceEmpty history ++ [operation] := by
    rw [sinceEmpty_concat, if_neg (by simp [ho])]
  refine ⟨hcatalog.trans h.catalog_eq, ?_, ?_⟩
  · rw [recordedFonts, hsince, filterMap_concat_toList]
    exact hfonts _ h.fonts_eq
  · rw [recordedMedia, hsince, filterMap_concat_toList]
    exact hmedia _ h.media_eq

/-- Step: an operation does to the store what it says. -/
theorem perform (h : assets.Reflects catalog history) (operation : Operation) :
    (assets.perform operation).2.Reflects catalog (history ++ [operation]) := by
  cases operation with
  | start => exact h.of_empties rfl
  | clear => exact h.of_empties rfl
  | drain => exact h.of_empties rfl
  | register name =>
    refine h.of_not_empties rfl (assets.catalog_registerFont name) (fun l hl => ?_) (fun l hl => ?_)
    · rw [Operation.font?, ← h.catalog_eq]
      exact fonts_keepFont hl _
    · show (assets.registerFont name).media = firsts Prod.fst (l ++ [])
      rw [List.append_nil]
      exact (assets.media_keepFont _).trans hl
  | record font =>
    refine h.of_not_empties rfl (assets.catalog_keepFont font) (fun l hl => fonts_keepFont hl font)
      (fun l hl => ?_)
    show (assets.keepFont font).media = firsts Prod.fst (l ++ [])
    rw [List.append_nil]
    exact (assets.media_keepFont font).trans hl
  | offer hash bytes =>
    refine h.of_not_empties rfl (assets.catalog_keepMedia hash bytes) (fun l hl => ?_)
      (fun l hl => media_keepMedia hl hash bytes)
    show (assets.keepMedia hash bytes).2.fonts = firsts Font.name (l ++ [])
    rw [List.append_nil]
    exact (assets.fonts_keepMedia hash bytes).trans hl

end Reflects

/-- Run: a store that was empty holds what its history says. -/
theorem reflects_after (catalog : Catalog) (history : List Operation) :
    (({ catalog } : Assets).after history).Reflects catalog history := by
  induction history using List.reverseRecOn with
  | nil => exact ⟨rfl, rfl, rfl⟩
  | append_singleton history operation ih =>
    rw [after_concat]
    exact ih.perform operation

/-! ### What the store answers -/

/-- Every file of a history is named for its hash and for its kind. -/
theorem filename_of_mem_recordedMedia {history : List Operation} {entry : String × Media}
    (h : entry ∈ recordedMedia history) :
    entry.2.filename = entry.1 ++ "." ++ entry.2.kind.extension := by
  obtain ⟨operation, -, hfile⟩ := List.mem_filterMap.mp ((firsts_sublist _).mem h)
  cases operation with
  | offer hash bytes =>
    obtain ⟨kind, -, rfl⟩ := Option.map_eq_some_iff.mp hfile
    rfl
  | _ => cases hfile

/-- Files of different hashes have different names. -/
theorem nodup_filename_recordedMedia (history : List Operation) :
    ((recordedMedia history).map fun entry => entry.2.filename).Nodup := by
  have hnodup : ((recordedMedia history).map Prod.fst).Nodup := nodup_map_firsts _
  refine (List.nodup_map_iff_inj_on (hnodup.of_map _)).mpr fun a ha b hb hname => ?_
  rw [filename_of_mem_recordedMedia ha, filename_of_mem_recordedMedia hb] at hname
  exact List.inj_on_of_nodup_map hnodup ha hb (Media.hash_eq_of_filename_eq hname)

/-- What is kept for a hash is what is found. -/
theorem media?_eq_some_of_mem (hn : (assets.media.map Prod.fst).Nodup) {hash : String}
    {media : Media} (h : (hash, media) ∈ assets.media) : assets.media? hash = some media := by
  obtain ⟨before, after, hl⟩ := List.append_of_mem h
  refine List.lookup_eq_some_iff.mpr ⟨before, after, hl, fun entry he => ?_⟩
  rw [hl, List.map_append, List.map_cons] at hn
  rw [bne_iff_ne]
  rintro rfl
  exact List.disjoint_of_nodup_append hn (List.mem_map_of_mem he) List.mem_cons_self

/-- Bytes make no file if and only if their kind is not recognized. -/
theorem ofBytes?_eq_none_iff (hash : String) {bytes : List UInt8} :
    Media.ofBytes? hash bytes = none ↔ MediaKind.sniff bytes = none :=
  Option.map_eq_none_iff

/-- An offer fails if nothing is kept for the hash and the bytes are of no recognized kind. -/
theorem keepMedia_eq_none_iff {hash : String} {bytes : List UInt8} :
    (assets.keepMedia hash bytes).1 = none ↔
      hash ∉ assets.media.map Prod.fst ∧ MediaKind.sniff bytes = none := by
  rw [← media?_eq_none_iff, ← ofBytes?_eq_none_iff hash]
  cases h : assets.media? hash with
  | some media => simp [keepMedia_of_media? h]
  | none => simp [keepMedia_of_media?_eq_none h]

/-- An offer that fails changes nothing. -/
theorem keepMedia_of_eq_none {hash : String} {bytes : List UInt8}
    (h : (assets.keepMedia hash bytes).1 = none) : (assets.keepMedia hash bytes).2 = assets := by
  obtain ⟨hnew, hkind⟩ := keepMedia_eq_none_iff.mp h
  rw [keepMedia_of_media?_eq_none (media?_eq_none_iff.mpr hnew), file?_offer,
    (ofBytes?_eq_none_iff hash).mpr hkind]
  simp

/-- Whatever is done with a store that was empty, it holds the first font of each name and the
first file of each hash since it was last emptied, and these are what is taken out. The catalog
stays, and the names of the files are distinct. A font or a hash that is there already changes
nothing, and neither does an offer that fails: one of bytes of no recognized kind, for a hash
that has no file. -/
theorem after_history (catalog : Catalog) (history : List Operation) :
    let assets := ({ catalog } : Assets).after history
    assets = ⟨catalog, recordedFonts catalog history, recordedMedia history⟩ ∧
      (assets.fonts.map Font.name).Nodup ∧
      (assets.media.map Prod.fst).Nodup ∧
      (assets.media.map fun entry => entry.2.filename).Nodup ∧
      assets.perform .drain =
        (.collected ⟨recordedFonts catalog history, (recordedMedia history).map Prod.snd⟩,
          { catalog }) ∧
      (∀ name ∈ assets.fonts.map Font.name, assets.perform (.register name) = (.nothing, assets)) ∧
      (∀ font : Font, font.name ∈ assets.fonts.map Font.name →
        assets.perform (.record font) = (.stored false, assets)) ∧
      (∀ entry ∈ assets.media, ∀ bytes,
        assets.perform (.offer entry.1 bytes) = (.file (some entry.2), assets)) ∧
      ∀ hash bytes,
        ((assets.perform (.offer hash bytes)).1 = .file none ↔
          hash ∉ assets.media.map Prod.fst ∧ MediaKind.sniff bytes = none) ∧
        ((assets.perform (.offer hash bytes)).1 = .file none →
          (assets.perform (.offer hash bytes)).2 = assets) := by
  intro assets
  have h : assets.Reflects catalog history := reflects_after catalog history
  have hmedia : (assets.media.map Prod.fst).Nodup := h.media_eq ▸ nodup_map_firsts _
  have hfile (hash : String) (bytes : List UInt8) :
      (assets.perform (.offer hash bytes)).1 = .file none ↔
        (assets.keepMedia hash bytes).1 = none :=
    (Answer.file.injEq _ _).to_iff
  refine ⟨?_, h.fonts_eq ▸ nodup_map_firsts _, hmedia,
    h.media_eq ▸ nodup_filename_recordedMedia history, ?_, ?_, ?_, ?_,
    fun hash bytes => ⟨(hfile hash bytes).trans keepMedia_eq_none_iff,
      fun hfail => keepMedia_of_eq_none ((hfile hash bytes).mp hfail)⟩⟩
  · rw [← h.fonts_eq, ← h.media_eq, ← h.catalog_eq]
  · show (Answer.collected ⟨assets.fonts, assets.media.map Prod.snd⟩,
      ({ catalog := assets.catalog } : Assets)) = _
    rw [h.fonts_eq, h.media_eq, h.catalog_eq]
  · intro name hname
    show (Answer.nothing, assets.keepFont ⟨assets.catalog.origin name.family, name⟩) = _
    rw [keepFont_of_mem hname]
  · intro font hname
    show (Answer.stored (!assets.hasFont font.name), assets.keepFont font) = _
    rw [keepFont_of_mem hname, hasFont_iff.mpr hname]
    rfl
  · intro entry hentry bytes
    have hkept := keepMedia_of_media? (media?_eq_some_of_mem hmedia hentry) bytes
    show (Answer.file (assets.keepMedia entry.1 bytes).1, (assets.keepMedia entry.1 bytes).2) = _
    rw [hkept]

end Assets

end Viewsmith
