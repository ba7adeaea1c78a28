import Viewsmith.Json.Typed
import Viewsmith.Scene.Node

/-!
# Decoding nodes

The JSON of the parts of a node, and of a document of nodes with their children.

## Main definitions

* `Node.ofFields`: a node from the fields of an object.
* `Spec`: a node with its artwork and its children, as a document holds them.
* `Document`: a whole document.
-/

namespace Viewsmith

open Json

/-! ### Colors and paints -/

/-- A color without an opacity. -/
def Rgb.decode : Decoder Rgb := fun j => do
  let f ← record ["r", "g", "b"] j
  return ⟨← f.required "r" toFloat, ← f.required "g" toFloat, ← f.required "b" toFloat⟩

/-- A color; its opacity is full by default. -/
def Rgba.decode : Decoder Rgba := fun j => do
  let f ← record ["r", "g", "b", "a"] j
  return ⟨← f.required "r" toFloat, ← f.required "g" toFloat, ← f.required "b" toFloat,
    ← f.withDefault "a" 1 toFloat⟩

/-- A color at a place of a gradient. -/
def ColorStop.decode : Decoder ColorStop := fun j => do
  let f ← record ["position", "color"] j
  return ⟨← f.required "position" toFloat, ← f.required "color" Rgba.decode⟩

namespace Paint

/-- The tags of paints. -/
def tags : List String :=
  ["SOLID", "GRADIENT_LINEAR", "GRADIENT_RADIAL", "GRADIENT_ANGULAR", "GRADIENT_DIAMOND", "IMAGE"]

/-- The rest of a solid layer. -/
def decodeSolid : Decoder Paint := fun j => do
  let f ← record ["color", "opacity", "visible"] j
  return .solid (← f.required "color" Rgb.decode) (← f.withDefault "opacity" 1 toFloat)
    (← f.withDefault "visible" true toBool)

/-- The rest of a gradient. -/
def decodeGradient (shape : Gradient) : Decoder Paint := fun j => do
  let f ← record ["gradientStops", "visible"] j
  return .gradient shape (← f.required "gradientStops" (toList ColorStop.decode))
    (← f.withDefault "visible" true toBool)

/-- The rest of an image layer. -/
def decodeImage : Decoder Paint := fun j => do
  let f ← record ["imageHash", "visible"] j
  return .image (← f.withDefault "imageHash" none (toOption toText))
    (← f.withDefault "visible" true toBool)

/-- A layer of paint. A tag that is not known gives an unsupported one. -/
def decode : Decoder Paint := fun j => do
  let (index, rest) ← tagged "type" tags j
  match index with
  | some 0 => decodeSolid rest
  | some 1 => decodeGradient .linear rest
  | some 2 => decodeGradient .radial rest
  | some 3 => decodeGradient .angular rest
  | some 4 => decodeGradient .diamond rest
  | some 5 => decodeImage rest
  | _ => do
    noFields rest
    return .unsupported

end Paint

/-- Fills: a list of layers, or the word for fills that differ along a text. -/
def Fills.decode : Decoder Fills
  | .text s => if s = "MIXED" then .ok .mixed else .error .shape
  | j => (toList Paint.decode j).map .paints

/-- The weight of a stroke: one number, or one for each edge. -/
def StrokeWeight.decode : Decoder StrokeWeight
  | .int n => .ok (.uniform (Float.ofInt n))
  | .float x => .ok (.uniform x)
  | j => do
    let f ← record ["top", "right", "bottom", "left"] j
    return .perEdge (← f.required "top" toFloat) (← f.required "right" toFloat)
      (← f.required "bottom" toFloat) (← f.required "left" toFloat)

/-- The radius of the corners: one number, or one for each corner. -/
def CornerRadius.decode : Decoder CornerRadius
  | .int n => .ok (.uniform (Float.ofInt n))
  | .float x => .ok (.uniform x)
  | j => do
    let f ← record ["topLeft", "topRight", "bottomRight", "bottomLeft"] j
    return .perCorner (← f.required "topLeft" toFloat) (← f.required "topRight" toFloat)
      (← f.required "bottomRight" toFloat) (← f.required "bottomLeft" toFloat)

/-- A point. -/
def Geometry.Point.decode : Decoder (Geometry.Point Float) := fun j => do
  let f ← record ["x", "y"] j
  return ⟨← f.required "x" toFloat, ← f.required "y" toFloat⟩

/-- The rest of a shadow. -/
def Shadow.decode : Decoder Shadow := fun j => do
  let f ← record ["color", "offset", "radius", "spread", "visible"] j
  return {
    color := ← f.required "color" Rgba.decode
    offset := ← f.withDefault "offset" ⟨0, 0⟩ Geometry.Point.decode
    radius := ← f.withDefault "radius" 0 toFloat
    spread := ← f.withDefault "spread" 0 toFloat
    visible := ← f.withDefault "visible" true toBool }

/-- An effect. A tag that is not known gives another effect. -/
def Effect.decode : Decoder Effect := fun j => do
  let (index, rest) ← tagged "type" ["DROP_SHADOW", "INNER_SHADOW"] j
  match index with
  | some 0 => return .dropShadow (← Shadow.decode rest)
  | some 1 => return .innerShadow (← Shadow.decode rest)
  | _ => do
    noFields rest
    return .other

/-! ### Text -/

/-- The name of a font. -/
def FontName.decode : Decoder FontName := fun j => do
  let f ← record ["family", "style"] j
  return ⟨← f.required "family" toText, ← f.required "style" toText⟩

/-- The value of a length with a unit. -/
def decodeLength : Decoder Float := fun j => do
  let f ← record ["value"] j
  f.required "value" toFloat

/-- The space between letters. -/
def LetterSpacing.decode : Decoder LetterSpacing := fun j => do
  let (index, rest) ← tagged "unit" ["PIXELS", "PERCENT"] j
  match index with
  | some 0 => return .pixels (← decodeLength rest)
  | some 1 => return .percent (← decodeLength rest)
  | _ => .error .shape

/-- The height of lines. Nothing else belongs to an automatic one. -/
def LineHeight.decode : Decoder LineHeight := fun j => do
  let (index, rest) ← tagged "unit" ["AUTO", "PIXELS", "PERCENT"] j
  match index with
  | some 0 => do
    noFields rest
    return .auto
  | some 1 => return .pixels (← decodeLength rest)
  | some 2 => return .percent (← decodeLength rest)
  | _ => .error .shape

/-- A run of a text. -/
def TextRun.decode : Decoder TextRun := fun j => do
  let f ← record ["start", "end", "fontName", "fontSize", "fontWeight", "letterSpacing",
    "lineHeight", "textDecoration", "fills"] j
  return {
    start := ← f.required "start" (toNatBelow (Nat.pow 2 64))
    stop := ← f.required "end" (toNatBelow (Nat.pow 2 64))
    font := ← f.required "fontName" FontName.decode
    size := ← f.required "fontSize" toFloat
    weight := ← f.withDefault "fontWeight" 400 (toNatBelow (Nat.pow 2 32))
    letterSpacing := ← f.withDefault "letterSpacing" (.pixels 0) LetterSpacing.decode
    lineHeight := ← f.withDefault "lineHeight" .auto LineHeight.decode
    decoration := ← f.withDefault "textDecoration" .none (choice TextDecoration.tags)
    fills := ← f.withDefault "fills" [] (toList Paint.decode) }

/-- The text of a node. -/
def TextContent.decode : Decoder TextContent := fun j => do
  let f ← record ["characters", "textAlignHorizontal", "maxLines", "runs"] j
  return {
    characters := ← f.required "characters" toText
    alignment := ← f.withDefault "textAlignHorizontal" .left (choice TextAlignment.tags)
    maxLines := ← f.withDefault "maxLines" none (toOption (toNatBelow (Nat.pow 2 32)))
    runs := ← f.withDefault "runs" [] (toList TextRun.decode) }

/-! ### Nodes -/

/-- The constraints of both axes. -/
def Constraints.decode : Decoder Constraints := fun j => do
  let f ← record ["horizontal", "vertical"] j
  return ⟨← f.required "horizontal" (choice Constraint.tags),
    ← f.required "vertical" (choice Constraint.tags)⟩

/-- The component that an instance was made from. -/
def MainComponent.decode : Decoder MainComponent := fun j => do
  let f ← record ["name", "variantSetName", "variantProperties"] j
  return {
    name := ← f.required "name" toText
    variantSet := ← f.withDefault "variantSetName" none (toOption toText)
    properties := ← f.withDefault "variantProperties" none (toOption toTable) }

/-- The names of the fields of a node. -/
def Node.fieldNames : List String :=
  ["type", "id", "name", "visible", "x", "y", "width", "height", "rotation", "constraints",
   "layoutSizingHorizontal", "layoutSizingVertical", "layoutAlign", "layoutGrow",
   "layoutPositioning", "layoutMode", "layoutWrap", "primaryAxisAlignItems",
   "counterAxisAlignItems", "itemSpacing", "paddingTop", "paddingRight", "paddingBottom",
   "paddingLeft", "fills", "strokes", "strokeWeight", "cornerRadius", "effects", "text",
   "variantProperties", "mainComponent"]

/-- A node from the fields of an object. -/
def Node.ofFields (fields : List (String × Json)) : Except Fault Node := do
  let f ← knownFields Node.fieldNames fields
  return {
    kind := Kind.ofTag (← f.required "type" toText)
    key := ← f.withDefault "id" "" toText
    name := ← f.withDefault "name" "" toText
    visible := ← f.withDefault "visible" true toBool
    x := ← f.withDefault "x" 0 toFloat
    y := ← f.withDefault "y" 0 toFloat
    width := ← f.withDefault "width" 0 toFloat
    height := ← f.withDefault "height" 0 toFloat
    rotation := ← f.withDefault "rotation" 0 toFloat
    constraints := ← f.withDefault "constraints" none (toOption Constraints.decode)
    sizingHorizontal := ← f.withDefault "layoutSizingHorizontal" .fixed (choice Sizing.tags)
    sizingVertical := ← f.withDefault "layoutSizingVertical" .fixed (choice Sizing.tags)
    alignment := ← f.withDefault "layoutAlign" .inherit (choice Alignment.tags)
    grow := ← f.withDefault "layoutGrow" 0 toFloat
    positioning := ← f.withDefault "layoutPositioning" .auto (choice Positioning.tags)
    flow := ← f.withDefault "layoutMode" .none (choice Flow.tags)
    wrap := ← f.withDefault "layoutWrap" .noWrap (choice Wrap.tags)
    mainAlignment := ← f.withDefault "primaryAxisAlignItems" .min (choice MainAlignment.tags)
    crossAlignment := ← f.withDefault "counterAxisAlignItems" .min (choice CrossAlignment.tags)
    spacing := ← f.withDefault "itemSpacing" 0 toFloat
    padding := {
      top := ← f.withDefault "paddingTop" 0 toFloat
      right := ← f.withDefault "paddingRight" 0 toFloat
      bottom := ← f.withDefault "paddingBottom" 0 toFloat
      left := ← f.withDefault "paddingLeft" 0 toFloat }
    fills := ← f.withDefault "fills" (.paints []) Fills.decode
    strokes := ← f.withDefault "strokes" [] (toList Paint.decode)
    strokeWeight := ← f.withDefault "strokeWeight" (.uniform 1) StrokeWeight.decode
    cornerRadius := ← f.withDefault "cornerRadius" (.uniform 0) CornerRadius.decode
    effects := ← f.withDefault "effects" [] (toList Effect.decode)
    text := ← f.withDefault "text" none (toOption TextContent.decode)
    properties := ← f.withDefault "variantProperties" none (toOption toTable)
    mainComponent := ← f.withDefault "mainComponent" none (toOption MainComponent.decode) }

/-! ### Documents -/

/-- A node as a document holds it: with its artwork and its children. -/
inductive Spec where
  | mk (node : Node) (svg : Option String) (children : List Spec)

/-- What has been read of a node: its own fields backwards, its artwork and its children. -/
structure Spec.Draft where
  fields : List (String × Json) := []
  svg : Option (Option String) := none
  children : Option (List Spec) := none

/-- The node of a draft. -/
def Spec.Draft.finish (d : Spec.Draft) : Except Fault Spec := do
  let node ← Node.ofFields d.fields.reverse
  return .mk node (d.svg.getD none) (d.children.getD [])

/-- Read the members of a node, given a reader of its children. The fields of the node itself are
held until all of it has been read. -/
def Spec.Draft.read (children : Reader (List Spec)) (limits : Limits) :
    (steps : Nat) → (first : Bool) → Spec.Draft → Reader Spec.Draft
  | 0, _, _ => throw .endOfText
  | steps + 1, first, d => do
    match ← nextKey string first with
    | none => return d
    | some key =>
      if key = "children" then
        if d.children.isSome then throw .shape
        expect ':'
        let specs ← children
        Spec.Draft.read children limits steps false { d with children := some specs }
      else if key = "svg" then
        if d.svg.isSome then throw .shape
        expect ':'
        let svg ← Typed.option Typed.text limits
        Spec.Draft.read children limits steps false { d with svg := some svg }
      else
        expect ':'
        let v ← holding.value limits.size limits.room
        Spec.Draft.read children limits steps false { d with fields := (key, v) :: d.fields }

namespace Spec

mutual

/-- Read a node, which has to be an object. -/
def read (size : Nat) : (room : Nat) → Reader Spec
  | 0 => fun cs =>
    match skipSpace cs with
    | '{' :: _ => .error .malformed
    | cs => Typed.mismatch cs
  | room + 1 => fun cs =>
    match skipSpace cs with
    | '{' :: cs => do
      let (d, rest) ← Spec.Draft.read (readAll size room) ⟨room, size⟩ size true {} cs
      return (← d.finish, rest)
    | cs => Typed.mismatch cs

/-- Read a list of nodes. -/
def readAll (size : Nat) : (room : Nat) → Reader (List Spec)
  | 0 => fun cs =>
    match skipSpace cs with
    | '[' :: _ => .error .malformed
    | cs => Typed.mismatch cs
  | room + 1 => fun cs =>
    match skipSpace cs with
    | '[' :: cs => items (read size room) size true [] cs
    | cs => Typed.mismatch cs

end

end Spec

/-- A document: the texts of its images by hash, and its nodes. -/
structure Document where
  images : List (String × String) := []
  nodes : List Spec := []

/-- The fields of a document. -/
def Document.fields : List (Typed.Field Document) :=
  [Typed.field "images" Typed.table fun v d => { d with images := v },
   Typed.field "nodes" (fun limits => Spec.readAll limits.size limits.room) fun v d =>
     { d with nodes := v }]

/-- Read a document. -/
def Document.read : String → Except Fault Document :=
  Typed.document (Typed.record Document.fields {})

end Viewsmith
