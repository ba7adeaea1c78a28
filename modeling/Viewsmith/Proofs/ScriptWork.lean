import Mathlib.Data.List.Nodup
import Viewsmith.Lowering.Build
import Viewsmith.Proofs.StoreHistory

/-!
# The work of a script

A script finds a file in the store, or it fetches the bytes and offers them. Which of the two
happens depends on what was kept before, by the script itself or by others that share the store.
What comes of the script in the end does not: it is what would come of it in a store that had every
file of the source from the start. That is the work of a script, and it is read off the script and
the source alone.

The invariant is that the store is sound: every file in it is the one that the source has for its
hash. A script is steady when it goes the same way whether it finds a file or fetches it. Then every
request leaves the store sound and the script steady, and what is recorded together with what is
still to be recorded stays the same (`Script.Steady.step`). Nothing is said about who makes the
requests in between, so the step serves for scripts that are performed at once and for scripts that
take turns.

## Main definitions

* `Source.file?`: the file that a source has for a hash.
* `Work`, `Script.work`: the result of a script, and the fonts and files that it records.
* `Script.Steady`: whether a file is found or fetched makes no difference.
* `Assets.Sound`: the fonts and files of a store are those that the catalog and the source
  determine.
* `Script.step?`: perform the next request of a script.

## Main statements

* `Script.work_bind`, `Script.Steady.bind`: composed scripts.
* `Script.Steady.step`: what one request preserves.
* `Script.Steady.run`: what comes of a script that is performed at once.
-/

namespace Viewsmith

/-- The file that a source has for a hash: there are bytes, and their kind is recognized. -/
def Source.file? (source : Source) (hash : String) : Option Media :=
  match source.image hash with
  | .ok (some bytes) => Media.ofBytes? hash bytes
  | _ => Option.none

/-- The file that a source has for a hash, as it is recorded. -/
def Source.record (source : Source) (hash : String) : List (String × Media) :=
  (source.file? hash).toList.map (hash, ·)

/-- The file of a hash is recognized by its bytes. -/
theorem Source.file?_of_bytes {source : Source} {hash : String} {bytes : List UInt8}
    (h : source.image hash = .ok (some bytes)) : source.file? hash = Media.ofBytes? hash bytes := by
  unfold file?
  rw [h]

/-- A file holds the bytes that the source has for the hash, is of their kind, and is named for
both. -/
theorem Source.image_of_file? {source : Source} {hash : String} {media : Media}
    (h : source.file? hash = some media) :
    source.image hash = .ok (some media.bytes) ∧ MediaKind.sniff media.bytes = some media.kind ∧
      media.filename = hash ++ "." ++ media.kind.extension := by
  unfold file? at h
  split at h
  · rename_i bytes himage
    obtain ⟨kind, hkind, rfl⟩ := Option.map_eq_some_iff.mp h
    exact ⟨himage, hkind, rfl⟩
  · cases h

/-- What is recorded for a hash is the file that the source has for it. -/
theorem Source.mem_record {source : Source} {hash : String} {entry : String × Media} :
    entry ∈ source.record hash ↔ entry.1 = hash ∧ source.file? hash = some entry.2 := by
  obtain ⟨key, media⟩ := entry
  cases h : source.file? hash with
  | none => simp [record, h]
  | some file => simp [record, h, eq_comm]

/-- Nothing is recorded for a hash without a file. -/
theorem Source.record_of_none {source : Source} {hash : String}
    (h : source.file? hash = Option.none) : source.record hash = [] := by
  unfold record
  rw [h]
  rfl

/-! ### Work -/

/-- What performing a script amounts to: the result, and the fonts and files that get recorded
unless they are already. -/
structure Work (α : Type) where
  result : Except CompileError α
  fonts : List FontName := []
  files : List (String × Media) := []

namespace Work

variable {α β γ : Type}

/-- Work that records a font before everything else. -/
def addFont (name : FontName) (w : Work α) : Work α := { w with fonts := name :: w.fonts }

/-- Work that records files before everything else. -/
def addFiles (files : List (String × Media)) (w : Work α) : Work α :=
  { w with files := files ++ w.files }

/-- Work followed by other work, unless it fails. -/
def andThen (w : Work α) (f : α → Work β) : Work β :=
  match w.result with
  | .ok a => ⟨(f a).result, w.fonts ++ (f a).fonts, w.files ++ (f a).files⟩
  | .error e => ⟨.error e, w.fonts, w.files⟩

/-- After work with a result, the other work is done on it. -/
theorem andThen_of_ok {w : Work α} {a : α} (h : w.result = .ok a) (f : α → Work β) :
    w.andThen f = ⟨(f a).result, w.fonts ++ (f a).fonts, w.files ++ (f a).files⟩ := by
  unfold andThen
  rw [h]

/-- After work that fails nothing more is done. -/
theorem andThen_of_error {w : Work α} {e : CompileError} (h : w.result = .error e)
    (f : α → Work β) : w.andThen f = ⟨.error e, w.fonts, w.files⟩ := by
  unfold andThen
  rw [h]

/-- A font that is recorded first is recorded first of all. -/
theorem addFont_andThen (name : FontName) (w : Work α) (f : α → Work β) :
    (w.addFont name).andThen f = (w.andThen f).addFont name := by
  unfold andThen addFont
  cases w.result <;> rfl

/-- Files that are recorded first are recorded first of all. -/
theorem addFiles_andThen (files : List (String × Media)) (w : Work α) (f : α → Work β) :
    (w.addFiles files).andThen f = (w.andThen f).addFiles files := by
  unfold andThen addFiles
  cases w.result with
  | ok a => simp
  | error e => simp

/-- Work that succeeds consists of parts that succeed. -/
theorem result_andThen_eq_ok_iff {w : Work α} {f : α → Work β} {b : β} :
    (w.andThen f).result = .ok b ↔ ∃ a, w.result = .ok a ∧ (f a).result = .ok b := by
  cases h : w.result with
  | ok a => simp [andThen_of_ok h]
  | error e => simp [andThen_of_error h]

end Work

namespace Script

variable {α β : Type}

/-- The work of a script: what comes of it in a store that has every file of the source. -/
def work (source : Source) : Script α → Work α
  | .done a => { result := .ok a }
  | .fail e => { result := .error e }
  | .font name next => (next.work source).addFont name
  | .recall hash next => ((next (source.file? hash)).work source).addFiles (source.record hash)
  | .keep hash _ next => ((next (source.file? hash)).work source).addFiles (source.record hash)
  | .warn _ next => next.work source

variable {source : Source}

/-- The work of two scripts in a row is done one after the other. -/
theorem work_bind (x : Script α) (f : α → Script β) :
    (x.bind f).work source = (x.work source).andThen fun a => (f a).work source := by
  induction x with
  | done a => rfl
  | fail e => rfl
  | font name next ih =>
    show ((next.bind f).work source).addFont name = ((next.work source).addFont name).andThen _
    rw [ih, Work.addFont_andThen]
  | «recall» hash next ih =>
    show (((next (source.file? hash)).bind f).work source).addFiles (source.record hash) =
      (((next (source.file? hash)).work source).addFiles (source.record hash)).andThen _
    rw [ih, Work.addFiles_andThen]
  | keep hash bytes next ih =>
    show (((next (source.file? hash)).bind f).work source).addFiles (source.record hash) =
      (((next (source.file? hash)).work source).addFiles (source.record hash)).andThen _
    rw [ih, Work.addFiles_andThen]
  | warn w next ih => exact ih

/-- A composed script that succeeds consists of parts that succeed, and records what they record. -/
theorem parts_of_work_bind {x : Script α} {f : α → Script β} {b : β}
    (h : ((x.bind f).work source).result = .ok b) :
    ∃ a, (x.work source).result = .ok a ∧ ((f a).work source).result = .ok b ∧
      ((x.bind f).work source).files = (x.work source).files ++ ((f a).work source).files := by
  rw [work_bind] at h ⊢
  obtain ⟨a, ha, hb⟩ := Work.result_andThen_eq_ok_iff.mp h
  exact ⟨a, ha, hb, by rw [Work.andThen_of_ok ha]⟩

/-! ### Steady scripts -/

/-- A script is steady when whatever it offers are the bytes that the source has, and when it does
the same work whether it finds a file or not. What is asked of a file that is known to be kept, it
finds. -/
def Steady (source : Source) : Script α → (String → Prop) → Prop
  | .done _, _ => True
  | .fail _, _ => True
  | .font _ next, known => next.Steady source known
  | .recall hash next, known =>
    (next (source.file? hash)).Steady source (fun h => h = hash ∨ known h) ∧
      (¬ known hash → source.file? hash ≠ none →
        (next none).Steady source known ∧
          (next none).work source = (Script.recall hash next).work source)
  | .keep hash bytes next, known =>
    source.image hash = .ok (some bytes) ∧
      (next (source.file? hash)).Steady source fun h => h = hash ∨ known h
  | .warn _ next, known => next.Steady source known

/-- Knowing of more files does no harm; only those that the source has matter. -/
theorem Steady.mono {x : Script α} {known known' : String → Prop} (h : x.Steady source known)
    (hk : ∀ hash, source.file? hash ≠ none → known hash → known' hash) :
    x.Steady source known' := by
  have hor (hash : String) :
      ∀ h, source.file? h ≠ none → h = hash ∨ known h → h = hash ∨ known' h :=
    fun h hf hknown => hknown.imp_right (hk h hf)
  induction x generalizing known known' with
  | done a => trivial
  | fail e => trivial
  | font name next ih => exact ih h hk hor
  | «recall» hash next ih =>
    refine ⟨ih _ h.1 (hor hash) fun other g hf => Or.imp_right (hor hash g hf), fun hn hf => ?_⟩
    obtain ⟨hsteady, hwork⟩ := h.2 (fun hknown => hn (hk hash hf hknown)) hf
    exact ⟨ih none hsteady hk hor, hwork⟩
  | keep hash bytes next ih =>
    exact ⟨h.1, ih _ h.2 (hor hash) fun other g hf => Or.imp_right (hor hash g hf)⟩
  | warn w next ih => exact ih h hk hor

/-- What follows a steady script may rely on the files that it records. -/
theorem Steady.bind {x : Script α} {f : α → Script β} {known : String → Prop}
    (hx : x.Steady source known)
    (hf : ∀ a, (x.work source).result = .ok a →
      (f a).Steady source fun h => known h ∨ ∃ m, (h, m) ∈ (x.work source).files) :
    (x.bind f).Steady source known := by
  -- a file that the source has for the hash just asked for is among those that are recorded
  have hadd :
      ∀ {hash : String} {files : List (String × Media)} {known : String → Prop} (h : String),
      source.file? h ≠ none → (known h ∨ ∃ m, (h, m) ∈ source.record hash ++ files) →
        (h = hash ∨ known h) ∨ ∃ m, (h, m) ∈ files := by
    rintro hash files known h - (hknown | ⟨m, hm⟩)
    · exact Or.inl (Or.inr hknown)
    · rcases List.mem_append.mp hm with hr | hm
      · exact Or.inl (Or.inl (Source.mem_record.mp hr).1)
      · exact Or.inr ⟨m, hm⟩
  induction x generalizing known with
  | done a => exact (hf a rfl).mono fun h _ hk => hk.resolve_right fun ⟨m, hm⟩ => nomatch hm
  | fail e => trivial
  | font name next ih => exact ih hx hf
  | «recall» hash next ih =>
    refine ⟨ih _ hx.1 fun a ha => (hf a ha).mono hadd, fun hn hfile => ?_⟩
    obtain ⟨hsteady, hwork⟩ := hx.2 hn hfile
    refine ⟨ih none hsteady fun a ha => ?_, ?_⟩
    · rw [hwork] at ha ⊢
      exact hf a ha
    · show ((next none).bind f).work source = ((Script.recall hash next).bind f).work source
      rw [work_bind, work_bind, hwork]
  | keep hash bytes next ih => exact ⟨hx.1, ih _ hx.2 fun a ha => (hf a ha).mono hadd⟩
  | warn w next ih => exact ih hx hf

/-- A script that is steady without knowing anything is steady. -/
theorem Steady.of_nothing {x : Script α} (h : x.Steady source fun _ => False)
    (known : String → Prop) : x.Steady source known :=
  h.mono fun _ _ hfalse => hfalse.elim

/-- A steady script may be followed by scripts that are steady without knowing anything. -/
theorem Steady.bind_of_nothing {x : Script α} {f : α → Script β} {known : String → Prop}
    (hx : x.Steady source known) (hf : ∀ a, (f a).Steady source fun _ => False) :
    (x.bind f).Steady source known :=
  hx.bind fun a _ => (hf a).of_nothing _

end Script

/-! ### Sound stores -/

namespace Assets

/-- The names of the recorded fonts. -/
def fontNames (assets : Assets) : List FontName := assets.fonts.map Font.name

/-- A file is recorded for the hash. -/
def Keeps (assets : Assets) (hash : String) : Prop := assets.media? hash ≠ none

/-- Every font is recorded once and as the catalog classifies it, and every file once and as the
source has it. -/
structure Sound (source : Source) (assets : Assets) : Prop where
  nodup_fonts : assets.fontNames.Nodup
  origin : ∀ font ∈ assets.fonts, font.origin = assets.catalog.origin font.name.family
  nodup_media : (assets.media.map Prod.fst).Nodup
  file : ∀ entry ∈ assets.media, source.file? entry.1 = some entry.2

/-- A later state of a store: the catalog is the same, and what was kept is kept. -/
structure Extends (assets later : Assets) : Prop where
  catalog : later.catalog = assets.catalog
  keeps : ∀ hash, assets.Keeps hash → later.Keeps hash

/-- A store is a later state of itself. -/
theorem Extends.refl (assets : Assets) : assets.Extends assets := ⟨rfl, fun _ h => h⟩

/-- A later state of a later state is a later state. -/
theorem Extends.trans {a b c : Assets} (h : a.Extends b) (h' : b.Extends c) : a.Extends c :=
  ⟨h'.catalog.trans h.catalog, fun hash hk => h'.keeps hash (h.keeps hash hk)⟩

/-- A cleared store is sound. -/
theorem sound_clear (source : Source) (assets : Assets) : assets.clear.Sound source where
  nodup_fonts := List.nodup_nil
  origin := fun _ h => absurd h List.not_mem_nil
  nodup_media := List.nodup_nil
  file := fun _ h => absurd h List.not_mem_nil

/-- A file is kept for a hash if the hash is among the recorded ones. -/
theorem keeps_iff {assets : Assets} {hash : String} :
    assets.Keeps hash ↔ hash ∈ assets.media.map Prod.fst := by
  unfold Keeps
  rw [ne_eq, media?_eq_none_iff, not_not]

/-- A hash for which a file is found is kept. -/
theorem keeps_of_media? {assets : Assets} {hash : String} {media : Media}
    (h : assets.media? hash = some media) : assets.Keeps hash := by
  unfold Keeps
  rw [h]
  exact Option.some_ne_none media

variable {source : Source} {assets : Assets}

namespace Sound

/-- In a sound store, what is found for a hash is what the source has. -/
theorem file?_of_media? (hs : assets.Sound source) {hash : String} {media : Media}
    (h : assets.media? hash = some media) : source.file? hash = some media := by
  obtain ⟨before, after, hl, -⟩ := List.lookup_eq_some_iff.mp h
  exact hs.file (hash, media) (hl ▸ List.mem_append_right _ List.mem_cons_self)

/-- What is recorded is what is found. -/
theorem mem_media_iff (hs : assets.Sound source) {entry : String × Media} :
    entry ∈ assets.media ↔ assets.Keeps entry.1 ∧ source.file? entry.1 = some entry.2 := by
  constructor
  · exact fun h => ⟨keeps_iff.mpr (List.mem_map_of_mem h), hs.file entry h⟩
  · rintro ⟨hkept, hfile⟩
    obtain ⟨other, hm, hkey⟩ := List.mem_map.mp (keeps_iff.mp hkept)
    have hother := hs.file other hm
    rw [hkey, hfile] at hother
    have heq : other = entry := Prod.ext hkey (Option.some.inj hother).symm
    exact heq ▸ hm

/-- A font is recorded if its name is, and then as the catalog classifies it. -/
theorem mem_fonts_iff (hs : assets.Sound source) {font : Font} :
    font ∈ assets.fonts ↔
      font.name ∈ assets.fontNames ∧ font.origin = assets.catalog.origin font.name.family := by
  constructor
  · exact fun h => ⟨List.mem_map_of_mem h, hs.origin font h⟩
  · rintro ⟨hname, horigin⟩
    obtain ⟨other, hm, hother⟩ := List.mem_map.mp hname
    have heq : other.origin = font.origin := by
      rw [hs.origin other hm, hother, horigin]
    cases other
    cases hother
    cases heq
    exact hm

/-- Two sound stores that record the same differ only in the order. -/
theorem perm {assets' : Assets} (hs : assets.Sound source) (hs' : assets'.Sound source)
    (hcatalog : assets.catalog = assets'.catalog)
    (hfonts : ∀ n, n ∈ assets.fontNames ↔ n ∈ assets'.fontNames)
    (hmedia : ∀ entry, entry ∈ assets.media ↔ entry ∈ assets'.media) :
    assets.fonts.Perm assets'.fonts ∧ assets.media.Perm assets'.media := by
  constructor
  · rw [List.perm_ext_iff_of_nodup (hs.nodup_fonts.of_map _) (hs'.nodup_fonts.of_map _)]
    intro font
    rw [hs.mem_fonts_iff, hs'.mem_fonts_iff, hfonts, hcatalog]
  · rw [List.perm_ext_iff_of_nodup (hs.nodup_media.of_map _) (hs'.nodup_media.of_map _)]
    exact hmedia

/-- A font is recorded once, under its name. -/
theorem registerFont (hs : assets.Sound source) (name : FontName) :
    (assets.registerFont name).Sound source ∧ assets.Extends (assets.registerFont name) ∧
      (assets.registerFont name).media = assets.media ∧
      ∀ n, n ∈ (assets.registerFont name).fontNames ↔ n ∈ assets.fontNames ∨ n = name := by
  unfold Assets.registerFont keepFont
  by_cases h : assets.hasFont name = true
  · rw [if_pos h]
    have hm : name ∈ assets.fontNames := hasFont_iff.mp h
    refine ⟨hs, .refl assets, rfl, fun n => ⟨Or.inl, ?_⟩⟩
    rintro (hn | rfl)
    · exact hn
    · exact hm
  · rw [if_neg h]
    have hnew : name ∉ assets.fontNames := mt hasFont_iff.mpr h
    refine ⟨⟨?_, ?_, hs.nodup_media, hs.file⟩, ⟨rfl, fun _ hk => hk⟩, rfl, fun n => ?_⟩
    · unfold fontNames
      rw [List.map_append, List.nodup_append]
      refine ⟨hs.nodup_fonts, by simp, ?_⟩
      rintro a ha b hb rfl
      have hname : a = name := List.mem_singleton.mp hb
      exact hnew (hname ▸ ha)
    · intro font hm
      rcases List.mem_append.mp hm with hm | hm
      · exact hs.origin font hm
      · rw [List.mem_singleton.mp hm]
    · simp [fontNames]

/-- The bytes of the source are kept as the file that the source has, and nothing else is
changed. -/
theorem keepMedia (hs : assets.Sound source) {hash : String} {bytes : List UInt8}
    (h : source.image hash = .ok (some bytes)) :
    (assets.keepMedia hash bytes).1 = source.file? hash ∧
      (assets.keepMedia hash bytes).2.Sound source ∧
      assets.Extends (assets.keepMedia hash bytes).2 ∧
      (assets.keepMedia hash bytes).2.fonts = assets.fonts ∧
      ∀ entry, entry ∈ (assets.keepMedia hash bytes).2.media ↔
        entry ∈ assets.media ∨ entry ∈ source.record hash := by
  unfold Assets.keepMedia
  cases hkept : assets.media? hash with
  | some media =>
    have hfile := hs.file?_of_media? hkept
    refine ⟨hfile.symm, hs, .refl assets, rfl, fun entry => ⟨Or.inl, ?_⟩⟩
    rintro (hm | hm)
    · exact hm
    · obtain ⟨hkey, hentry⟩ := Source.mem_record.mp hm
      rw [hs.mem_media_iff, hkey]
      exact ⟨keeps_of_media? hkept, hentry⟩
  | none =>
    rw [Source.file?_of_bytes h]
    cases hmedia : Media.ofBytes? hash bytes with
    | none =>
      have hnone : source.record hash = [] :=
        Source.record_of_none ((Source.file?_of_bytes h).trans hmedia)
      refine ⟨rfl, hs, .refl assets, rfl, fun entry => ?_⟩
      rw [hnone]
      simp
    | some media =>
      have hfile : source.file? hash = some media := (Source.file?_of_bytes h).trans hmedia
      have hmem : ∀ entry, entry ∈ assets.media ++ [(hash, media)] ↔
          entry ∈ assets.media ∨ entry ∈ source.record hash := by
        intro entry
        simp [Source.record, hfile]
      -- only here the store grows, by one entry under a new hash
      refine ⟨rfl, ⟨hs.nodup_fonts, hs.origin, ?_, ?_⟩, ⟨rfl, ?_⟩, rfl, hmem⟩
      · show ((assets.media ++ [(hash, media)]).map Prod.fst).Nodup
        rw [List.map_append, List.nodup_append]
        refine ⟨hs.nodup_media, by simp, ?_⟩
        rintro a ha b hb rfl
        have hkey : a = hash := List.mem_singleton.mp hb
        exact keeps_iff.mpr (hkey ▸ ha) hkept
      · intro entry hm
        rcases (hmem entry).mp hm with hm | hm
        · exact hs.file entry hm
        · obtain ⟨hkey, hentry⟩ := Source.mem_record.mp hm
          rw [hkey]
          exact hentry
      · intro other hk
        rw [keeps_iff] at hk ⊢
        show other ∈ (assets.media ++ [(hash, media)]).map Prod.fst
        rw [List.map_append]
        exact List.mem_append_left _ hk

end Sound

end Assets

/-! ### Requests -/

/-- From the work `w` and a store on the one hand, and the work `w'` and a later store on the other,
the same result is reached, and in the end the same is recorded. -/
structure Work.SameEnd {α : Type} (w w' : Work α) (assets later : Assets) : Prop where
  result : w'.result = w.result
  fonts : ∀ n, n ∈ later.fontNames ∨ n ∈ w'.fonts ↔ n ∈ assets.fontNames ∨ n ∈ w.fonts
  files : ∀ entry, entry ∈ later.media ∨ entry ∈ w'.files ↔ entry ∈ assets.media ∨ entry ∈ w.files

namespace Work.SameEnd

variable {α β : Type} {assets later : Assets}

/-- The same work on the same store ends the same. -/
theorem refl (w : Work α) (assets : Assets) : w.SameEnd w assets assets :=
  ⟨rfl, fun _ => Iff.rfl, fun _ => Iff.rfl⟩

/-- Ends that are the same can be put together. -/
theorem trans {u v w : Work α} {a b c : Assets} (h : u.SameEnd v a b) (h' : v.SameEnd w b c) :
    u.SameEnd w a c :=
  ⟨h'.result.trans h.result, fun n => (h'.fonts n).trans (h.fonts n),
    fun entry => (h'.files entry).trans (h.files entry)⟩

/-- Work that follows is not affected. -/
theorem andThen_left {w w' : Work α} (h : w.SameEnd w' assets later) (f : α → Work β) :
    (w.andThen f).SameEnd (w'.andThen f) assets later := by
  cases hr : w.result with
  | error e =>
    rw [andThen_of_error hr, andThen_of_error (h.result.trans hr)]
    exact ⟨rfl, h.fonts, h.files⟩
  | ok a =>
    rw [andThen_of_ok hr, andThen_of_ok (h.result.trans hr)]
    refine ⟨rfl, fun n => ?_, fun entry => ?_⟩
    · rw [List.mem_append, List.mem_append, ← or_assoc, ← or_assoc, h.fonts]
    · rw [List.mem_append, List.mem_append, ← or_assoc, ← or_assoc, h.files]

/-- Neither is work that comes before, if it succeeds. -/
theorem andThen_right {u : Work α} {a : α} (hu : u.result = .ok a) {f g : α → Work β}
    (h : (f a).SameEnd (g a) assets later) : (u.andThen f).SameEnd (u.andThen g) assets later := by
  rw [andThen_of_ok hu, andThen_of_ok hu]
  refine ⟨h.result, fun n => ?_, fun entry => ?_⟩
  · rw [List.mem_append, List.mem_append, or_left_comm, h.fonts, or_left_comm]
  · rw [List.mem_append, List.mem_append, or_left_comm, h.files, or_left_comm]

end Work.SameEnd

namespace Script

variable {α : Type} {source : Source}

/-- Perform the next request of a script. -/
def step? : Script α → List Warning → Assets → Option (Script α × List Warning × Assets)
  | .done _, _, _ => none
  | .fail _, _, _ => none
  | .font name next, log, assets => some (next, log, assets.registerFont name)
  | .recall hash next, log, assets => some (next (assets.media? hash), log, assets)
  | .keep hash bytes next, log, assets =>
    some (next (assets.keepMedia hash bytes).1, log, (assets.keepMedia hash bytes).2)
  | .warn w next, log, assets => some (next, w :: log, assets)

/-- A script is performed request by request. -/
theorem run_of_step? {x x' : Script α} {log log' : List Warning} {assets assets' : Assets}
    (h : x.step? log assets = some (x', log', assets')) :
    x.run log assets = x'.run log' assets' := by
  cases x <;> cases h <;> rfl

/-- The number of requests of a script, at most: each file is found, or it is not there yet. -/
def length (source : Source) : Script α → Nat
  | .done _ => 0
  | .fail _ => 0
  | .font _ next => next.length source + 1
  | .recall hash next =>
    max ((next none).length source) ((next (source.file? hash)).length source) + 1
  | .keep hash _ next => (next (source.file? hash)).length source + 1
  | .warn _ next => next.length source + 1

/-- Step: a request of a steady script leaves the store sound and the script steady, and the end is
the same as before. -/
theorem Steady.step {x x' : Script α} {log log' : List Warning} {assets assets' : Assets}
    (hx : x.Steady source assets.Keeps) (hs : assets.Sound source)
    (h : x.step? log assets = some (x', log', assets')) :
    x'.Steady source assets'.Keeps ∧ assets'.Sound source ∧ assets.Extends assets' ∧
      (x.work source).SameEnd (x'.work source) assets assets' ∧
      x'.length source < x.length source := by
  cases x with
  | done a => cases h
  | fail e => cases h
  | font name next =>
    cases h
    obtain ⟨hsound, hext, hmedia, hfonts⟩ := hs.registerFont name
    -- the files stay, so what was known is still known
    refine ⟨hx.mono fun hash _ => hext.keeps hash, hsound, hext,
      ⟨rfl, fun n => ?_, fun entry => ?_⟩, Nat.lt_succ_self _⟩
    · rw [hfonts, or_assoc]
      exact or_congr_right List.mem_cons.symm
    · rw [hmedia]
      rfl
  | «recall» hash next =>
    cases h
    have hlt : ∀ {m k : Nat}, m < max m k + 1 ∧ k < max m k + 1 := by omega
    cases hkept : assets.media? hash with
    | some media =>
      have hfile := hs.file?_of_media? hkept
      have hkeeps : assets.Keeps hash := Assets.keeps_of_media? hkept
      rw [← hfile]
      refine ⟨hx.1.mono ?_, hs, .refl assets, ⟨rfl, fun _ => Iff.rfl, fun entry => ?_⟩, hlt.2⟩
      · rintro other - (rfl | hk)
        · exact hkeeps
        · exact hk
      · -- the file that is found is recorded already
        have hrecorded : entry ∈ source.record hash → entry ∈ assets.media := by
          intro hm
          obtain ⟨hkey, hentry⟩ := Source.mem_record.mp hm
          rw [hs.mem_media_iff, hkey]
          exact ⟨hkeeps, hentry⟩
        constructor
        · exact Or.imp_right (List.mem_append_right _)
        · rintro (hm | hm)
          · exact Or.inl hm
          · exact (List.mem_append.mp hm).imp_left hrecorded
    | none =>
      cases hfile : source.file? hash with
      | some media =>
        -- the file is still to be fetched, and going on without it comes to the same
        have hnone : ¬ assets.Keeps hash := fun hk => hk hkept
        obtain ⟨hsteady, hwork⟩ := hx.2 hnone (by rw [hfile]; exact Option.some_ne_none media)
        refine ⟨hsteady, hs, .refl assets, ?_, hlt.1⟩
        rw [hwork]
        exact .refl _ assets
      | none =>
        -- the source has no file either, so the answer adds nothing to what is known
        have hsame := hx.1
        rw [hfile] at hsame
        refine ⟨hsame.mono ?_, hs, .refl assets, ?_, hlt.1⟩
        · rintro other hother (rfl | hk)
          · exact absurd hfile hother
          · exact hk
        · show Work.SameEnd (((next (source.file? hash)).work source).addFiles _) _ _ _
          rw [Source.record_of_none hfile, hfile]
          exact .refl _ assets
  | keep hash bytes next =>
    cases h
    obtain ⟨hanswer, hsound, hext, hfonts, hmedia⟩ := hs.keepMedia hx.1
    rw [hanswer]
    refine ⟨hx.2.mono ?_, hsound, hext, ⟨rfl, fun n => ?_, fun entry => ?_⟩, Nat.lt_succ_self _⟩
    · rintro other hother (rfl | hk)
      · obtain ⟨media, hfile⟩ := Option.ne_none_iff_exists'.mp hother
        rw [Assets.keeps_iff]
        have hm := (hmedia (other, media)).mpr (Or.inr (Source.mem_record.mpr ⟨rfl, hfile⟩))
        exact List.mem_map_of_mem hm
      · exact hext.keeps other hk
    · unfold Assets.fontNames
      rw [hfonts]
      rfl
    · rw [hmedia, or_assoc]
      exact or_congr_right List.mem_append.symm
  | warn w next =>
    cases h
    exact ⟨hx, hs, .refl assets, .refl _ assets, Nat.lt_succ_self _⟩

/-- Run: what comes of a steady script that is performed at once is its work. -/
theorem Steady.run {x : Script α} {assets : Assets} (hx : x.Steady source assets.Keeps)
    (hs : assets.Sound source) (log : List Warning) :
    (x.run log assets).1 = (x.work source).result ∧
      (x.run log assets).2.2.Sound source ∧
      (∀ n, n ∈ (x.run log assets).2.2.fontNames ↔
        n ∈ assets.fontNames ∨ n ∈ (x.work source).fonts) ∧
      ∀ entry, entry ∈ (x.run log assets).2.2.media ↔
        entry ∈ assets.media ∨ entry ∈ (x.work source).files := by
  generalize hn : x.length source = n
  induction n using Nat.strongRecOn generalizing x log assets with
  | ind n ih =>
    cases hstep : x.step? log assets with
    | some next =>
      obtain ⟨x', log', assets'⟩ := next
      obtain ⟨hx', hs', -, hend, hlt⟩ := hx.step hs hstep
      obtain ⟨hresult, hsound, hfonts, hfiles⟩ := ih _ (hn ▸ hlt) hx' hs' log' rfl
      rw [run_of_step? hstep]
      exact ⟨hresult.trans hend.result, hsound, fun n => (hfonts n).trans (hend.fonts n),
        fun entry => (hfiles entry).trans (hend.files entry)⟩
    | none =>
      -- without a next request the script is at its end
      cases x with
      | done a => exact ⟨rfl, hs, by simp [Script.run, work], by simp [Script.run, work]⟩
      | fail e => exact ⟨rfl, hs, by simp [Script.run, work], by simp [Script.run, work]⟩
      | font name next => cases hstep
      | «recall» hash next => cases hstep
      | keep hash bytes next => cases hstep
      | warn w next => cases hstep

end Script

end Viewsmith
