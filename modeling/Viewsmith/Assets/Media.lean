import Viewsmith.Text.Occurs

/-!
# Media

Images are told apart by the bytes they start with.

## Main definitions

* `MediaKind`, `MediaKind.sniff`: the kind of a file, from its bytes.
* `Media`: a file that was collected.
-/

namespace Viewsmith

/-- The kinds of files that are recognized. -/
inductive MediaKind where
  | png
  | jpg
  | webp
  | gif
  | webm
  | mp4
  | avi
  | mov
  | flv
  | mkv
  deriving Repr, DecidableEq, Inhabited

namespace MediaKind

/-- The extension of a file, without the point. -/
def extension : MediaKind → String
  | .png => "png"
  | .jpg => "jpg"
  | .webp => "webp"
  | .gif => "gif"
  | .webm => "webm"
  | .mp4 => "mp4"
  | .avi => "avi"
  | .mov => "mov"
  | .flv => "flv"
  | .mkv => "mkv"

/-- The bytes of a text of plain characters. -/
def ascii (s : String) : List UInt8 := s.toList.map fun c => c.toNat.toUInt8

/-- Whether the bytes are a container of the given form. -/
def isRiff (form : String) (bytes : List UInt8) : Bool :=
  (ascii "RIFF").isPrefixOf bytes && (bytes.drop 8).take 4 == ascii form

/-- How far into the header the document type is looked for. -/
def headerScan : Nat := 64

/-- The kind of a file with the header that two formats share: the document type tells them
apart. -/
def ofDocumentType (bytes : List UInt8) : MediaKind :=
  if Text.occurs (ascii "matroska") (bytes.take headerScan) then .mkv else .webm

/-- The kind of a file, from the bytes it starts with. -/
def sniff (bytes : List UInt8) : Option MediaKind :=
  if [0x89, 0x50, 0x4E, 0x47].isPrefixOf bytes then some .png
  else if [0xFF, 0xD8, 0xFF].isPrefixOf bytes then some .jpg
  else if isRiff "WEBP" bytes then some .webp
  else if (ascii "GIF8").isPrefixOf bytes then some .gif
  else if [0x1A, 0x45, 0xDF, 0xA3].isPrefixOf bytes then some (ofDocumentType bytes)
  else if ([0, 0, 0, 0x18] ++ ascii "ftyp").isPrefixOf bytes then some .mp4
  else if isRiff "AVI " bytes then some .avi
  else if ([0, 0, 0, 0x14] ++ ascii "ftyp").isPrefixOf bytes then some .mov
  else if (ascii "FLV" ++ [1]).isPrefixOf bytes then some .flv
  else none

end MediaKind

/-- A file that was collected. -/
structure Media where
  kind : MediaKind
  filename : String
  bytes : List UInt8
  deriving Repr, DecidableEq, Inhabited

/-- The file of the bytes with the given hash, if their kind is recognized. -/
def Media.ofBytes? (hash : String) (bytes : List UInt8) : Option Media :=
  (MediaKind.sniff bytes).map fun kind => ⟨kind, hash ++ "." ++ kind.extension, bytes⟩

end Viewsmith
