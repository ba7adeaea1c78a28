import Viewsmith.Proofs.ShownText

/-!
# The nesting of markup

The lines of markup are read back here as they stand: by their spaces, their brackets, and the names
of their tags. The start of an element is put on a stack, and an end has to have the name of the
innermost start. A text takes three lines, of which the second may hold anything. Remarks are passed
over, and the lines of artwork are not read but kept as they are, since artwork can hold anything as
well. Every line has to stand as far to the right as there are open elements around it.

What is read is the tree: its elements with their tags and attributes, each around its children in
their order. Of blank elements nothing is left, nor of anything below a text, artwork or a blank
element.

## Main definitions

* `Nesting`: what is read.
* `Nesting.step`, `Nesting.read`: the reader, line by line.
* `Element.written`: the lines of a tree, with a mark on those of artwork.
* `Element.nesting`: the tree as it should be read.

## Main statements

* `Nesting.run_written`: reading the lines of a tree adds the tree to what was read before.
* `Element.lines_shift`: below the root, the depth of a tree only moves its lines.
* `Element.read_markup`: the nesting of the markup is that of the tree, and its layout.
-/

namespace Viewsmith

/-- What is read from lines of markup. -/
inductive Nesting where
  /-- An element between a start and an end, or on a line of its own. -/
  | element (tag attributes : String) (inside : List Nesting)
  /-- The three lines of a text. -/
  | text (attributes markup : String)
  /-- A line of artwork. -/
  | artwork (line : String)

/-- A line of markup, and whether it belongs to artwork. -/
structure WrittenLine where
  artwork : Bool
  text : String

namespace Nesting

/-! ### Tags -/

/-- What a line outside of texts and artwork is. -/
inductive Token where
  | start (tag attributes : String)
  | single (tag attributes : String)
  | finish (tag : String)
  | remark

/-- A start tag, given its name and what follows: the attributes up to the last bracket. -/
def namedToken (name rest : List Char) : Option Token :=
  match rest.reverse with
  | '>' :: '/' :: attributes =>
    some (.single (String.ofList name) (String.ofList attributes.reverse))
  | '>' :: attributes => some (.start (String.ofList name) (String.ofList attributes.reverse))
  | _ => none

/-- A start tag after its first bracket. The name goes up to the first space. -/
def startToken (cs : List Char) : Option Token :=
  namedToken (cs.takeWhile (· ≠ ' ')) (cs.drop ((cs.takeWhile (· ≠ ' ')).length + 1))

/-- An end tag after its slash. -/
def endToken (cs : List Char) : Option Token :=
  match cs.reverse with
  | '>' :: name => some (.finish (String.ofList name.reverse))
  | _ => none

/-- What a line without the spaces before it is. -/
def token : List Char → Option Token
  | '<' :: cs => if cs.head? = some '/' then endToken cs.tail else startToken cs
  | '{' :: cs => if ['/', '*'].isPrefixOf cs then some .remark else none
  | _ => none

/-- What a line is, with the number of spaces before it. -/
def tokenAt (line : String) : Option (Nat × Token) :=
  (token (line.toList.dropWhile (· = ' '))).map ((line.toList.takeWhile (· = ' ')).length, ·)

/-- A line without the `n` spaces that it has to start with. -/
def unpad (n : Nat) (line : String) : Option String :=
  if (Text.spaces n).toList.isPrefixOf line.toList then
    some (String.ofList (line.toList.drop n))
  else none

/-! ### The reader -/

/-- An element that was started, and what was read before it. -/
structure Frame where
  tag : String
  attributes : String
  before : List Nesting

/-- Where a reader of lines stands, with the elements that are open, the innermost first, and what
was read in the innermost one. -/
inductive Reader where
  | content (stack : List Frame) (inside : List Nesting)
  /-- After the start of a text. -/
  | textBody (stack : List Frame) (inside : List Nesting) (attributes : String)
  /-- After the markup of a text. -/
  | textEnd (stack : List Frame) (inside : List Nesting) (attributes markup : String)

/-- What comes after a line, and the number of elements that have to be open around it. An end has
to have the name of the innermost start. -/
def place (stack : List Frame) (inside : List Nesting) : Token → Option (Nat × Reader)
  | .remark => some (stack.length, .content stack inside)
  | .single tag attributes =>
    some (stack.length, .content stack (inside ++ [.element tag attributes []]))
  | .start tag attributes =>
    if tag = Tag.text.name then some (stack.length, .textBody stack inside attributes)
    else some (stack.length, .content (⟨tag, attributes, inside⟩ :: stack) [])
  | .finish tag =>
    match stack with
    | [] => none
    | frame :: stack =>
      if tag = frame.tag then
        some (stack.length, .content stack (frame.before ++ [.element tag frame.attributes inside]))
      else none

/-- One line of the markup of a tree that stands at `depth`. -/
def step (indent depth : Nat) : Reader → WrittenLine → Option Reader
  | .content stack inside, line =>
    if line.artwork then
      (unpad ((depth + stack.length) * indent) line.text).map fun text =>
        .content stack (inside ++ [.artwork text])
    else
      (tokenAt line.text).bind fun (pad, token) =>
        (place stack inside token).bind fun (level, next) =>
          if pad = (depth + level) * indent then some next else none
  | .textBody stack inside attributes, line =>
    (unpad ((depth + stack.length + 1) * indent) line.text).map (.textEnd stack inside attributes)
  | .textEnd stack inside attributes markup, line =>
    if line.text = Text.spaces ((depth + stack.length) * indent) ++ "</Text>" then
      some (.content stack (inside ++ [.text attributes markup]))
    else none

/-- Several lines of markup. -/
def run (indent depth : Nat) : Reader → List WrittenLine → Option Reader
  | reader, [] => some reader
  | reader, line :: lines =>
    (step indent depth reader line).bind fun next => run indent depth next lines

/-- What is read from lines of markup. All elements have to be ended. -/
def read (indent depth : Nat) (lines : List WrittenLine) : Option (List Nesting) :=
  match run indent depth (.content [] []) lines with
  | some (.content [] nestings) => some nestings
  | _ => none

end Nesting

namespace Line

/-- Whether a line belongs to artwork. -/
def isArtwork : Line → Bool
  | .artwork _ => true
  | _ => false

/-- A line at its depth, with `indent` spaces for each level. -/
def written (indent : Nat) (line : Nat × Line) : WrittenLine :=
  ⟨line.2.isArtwork, Text.spaces (line.1 * indent) ++ line.2.text⟩

/-- The attributes of a container. -/
def attributes (name : String) (image : Option String) : String :=
  styleReference name ++ sourceAttribute image

/-- The attributes of a text. -/
def textAttributes (name : String) (maxLines : Option Nat) : String :=
  styleReference name ++ lineLimit maxLines

end Line

namespace Element

/-- The markup of a tree with a mark on the lines of artwork. -/
def written (indent depth : Nat) (e : Element) : List WrittenLine :=
  (e.lines depth).map (Line.written indent)

mutual

/-- The nesting of a tree without blank elements and all that stands below a text, artwork or a
blank element. -/
def nesting : Element → List Nesting
  | .mk name content _ children =>
    match content with
    | .blank => []
    | .vector svg => (artworkLines name svg).map .artwork
    | .text markup maxLines => [.text (Line.textAttributes name maxLines) markup]
    | content =>
      [.element (containerTag content).name (Line.attributes name content.image)
        (nestingAll children)]

/-- The nesting of several trees. -/
def nestingAll : List Element → List Nesting
  | [] => []
  | e :: es => e.nesting ++ nestingAll es

end

/-- The nesting of a container is one element around that of its children. -/
theorem nesting_of_isBox {content : Content} (h : content.isBox = true) (name : String)
    (style : Style) (children : List Element) :
    nesting (.mk name content style children) =
      [.element (containerTag content).name (Line.attributes name content.image)
        (nestingAll children)] := by
  cases content
  case text | vector | blank => cases h
  all_goals rfl

/-- Without the marks on artwork the written lines are the markup. -/
theorem map_text_written (indent depth : Nat) (e : Element) :
    (e.written indent depth).map WrittenLine.text = e.markup indent depth := by
  rw [written, markup, List.map_map]
  rfl

end Element

namespace Nesting

/-! ### Reading tags -/

/-- The spaces before a line are taken off again. -/
theorem unpad_spaces_append (n : Nat) (text : String) :
    unpad n (Text.spaces n ++ text) = some text := by
  unfold unpad
  rw [if_pos]
  · rw [String.toList_append, List.drop_left' (by rw [Text.toList_spaces, List.length_replicate]),
      String.ofList_toList]
  · rw [String.toList_append, List.isPrefixOf_iff_prefix]
    exact List.prefix_append _ _

/-- A tag behind spaces is found with the number of these. -/
theorem tokenAt_spaces_append {text : String} {t : Token} (h : token text.toList = some t)
    (n : Nat) : tokenAt (Text.spaces n ++ text) = some (n, t) := by
  have hspaces : ∀ c ∈ List.replicate n ' ', decide (c = ' ') = true := by
    intro c hc
    exact decide_eq_true (List.eq_of_mem_replicate hc)
  unfold tokenAt
  rw [String.toList_append, Text.toList_spaces, List.dropWhile_append_of_pos hspaces,
    List.takeWhile_append_of_pos hspaces]
  cases hcs : text.toList with
  | nil =>
    rw [hcs] at h
    cases h
  | cons c cs =>
    rw [hcs] at h
    have hc : decide (c = ' ') = false := by
      rw [decide_eq_false_iff_not]
      rintro rfl
      cases h
    rw [List.dropWhile_cons_of_neg (by simp [hc]), List.takeWhile_cons_of_neg (by simp [hc]), h]
    simp

/-- A name ends at the first space. -/
theorem startToken_append {name : List Char} (hname : ' ' ∉ name) (rest : List Char) :
    startToken (name ++ ' ' :: rest) = namedToken name rest := by
  have hkeep : ∀ c ∈ name, decide (c ≠ ' ') = true := by
    intro c hc
    refine decide_eq_true ?_
    rintro rfl
    exact hname hc
  have htake : (name ++ ' ' :: rest).takeWhile (· ≠ ' ') = name := by
    rw [List.takeWhile_append_of_pos hkeep, List.takeWhile_cons_of_neg (by simp), List.append_nil]
  have hdrop : (name ++ ' ' :: rest).drop (name.length + 1) = rest := by
    rw [← List.drop_drop, List.drop_left, List.drop_one, List.tail_cons]
  unfold startToken
  rw [htake, hdrop]

/-- The names of tags are names that a reader finds. -/
structure IsName (name : String) : Prop where
  space : ' ' ∉ name.toList
  slash : name.toList.head? ≠ some '/'
  visible : name ≠ ""

/-- The names of tags can be found by a reader. -/
theorem isName_tag (tag : Tag) : IsName tag.name := by
  cases tag <;> exact ⟨by decide, by decide, by decide⟩

/-- A bracket that is followed by a name starts an element. -/
theorem token_open {name : String} (h : IsName name) (rest : List Char) :
    token (("<" ++ name ++ " ").toList ++ rest) = startToken (name.toList ++ ' ' :: rest) := by
  have hhead : (name.toList ++ ' ' :: rest).head? ≠ some '/' := by
    rw [List.head?_append_of_ne_nil _ (by simpa using h.visible)]
    exact h.slash
  have hcs : ("<" ++ name ++ " ").toList ++ rest = '<' :: (name.toList ++ ' ' :: rest) := by
    simp
  rw [hcs, token, if_neg hhead]

/-- Attributes end with a brace, so a slash after them belongs to the tag. -/
theorem token_start {name attributes : String} (h : IsName name)
    (hlast : attributes.toList.getLast? = some '}') :
    token ("<" ++ name ++ " " ++ attributes ++ ">").toList = some (.start name attributes) := by
  obtain ⟨inner, hinner⟩ := List.getLast?_eq_some_iff.mp hlast
  have hcs : ("<" ++ name ++ " " ++ attributes ++ ">").toList =
      ("<" ++ name ++ " ").toList ++ (attributes.toList ++ ['>']) := by
    simp
  have hreverse : (attributes.toList ++ ['>']).reverse = '>' :: '}' :: inner.reverse := by
    rw [hinner]
    simp
  rw [hcs, token_open h, startToken_append h.space, namedToken, hreverse]
  simp [← hinner]

/-- A tag that ends with a slash is an element on a line of its own. -/
theorem token_single {name attributes : String} (h : IsName name) :
    token ("<" ++ name ++ " " ++ attributes ++ "/>").toList = some (.single name attributes) := by
  have hcs : ("<" ++ name ++ " " ++ attributes ++ "/>").toList =
      ("<" ++ name ++ " ").toList ++ (attributes.toList ++ ['/', '>']) := by
    simp
  have hreverse :
      (attributes.toList ++ ['/', '>']).reverse = '>' :: '/' :: attributes.toList.reverse := by
    simp
  rw [hcs, token_open h, startToken_append h.space, namedToken, hreverse]
  simp

/-- A tag that starts with a slash is an end. -/
theorem token_finish (name : String) :
    token ("</" ++ name ++ ">").toList = some (.finish name) := by
  have hcs : ("</" ++ name ++ ">").toList = '<' :: '/' :: (name.toList ++ ['>']) := by
    simp
  have hreverse : (name.toList ++ ['>']).reverse = '>' :: name.toList.reverse := by
    simp
  rw [hcs, token, if_pos List.head?_cons, List.tail_cons, endToken, hreverse]
  simp

/-- The attributes of a container end with a brace. -/
theorem getLast?_attributes (name : String) (image : Option String) :
    (Line.attributes name image).toList.getLast? = some '}' := by
  unfold Line.attributes Line.styleReference Line.sourceAttribute
  cases image <;> simp only [String.toList_append, List.getLast?_append] <;> rfl

/-- The attributes of a text end with a brace. -/
theorem getLast?_textAttributes (name : String) (maxLines : Option Nat) :
    (Line.textAttributes name maxLines).toList.getLast? = some '}' := by
  unfold Line.textAttributes Line.styleReference Line.lineLimit
  cases maxLines <;> simp only [String.toList_append, List.getLast?_append] <;> rfl

/-! ### Lines -/

section

variable {indent depth : Nat} (stack : List Frame) (inside : List Nesting)

/-- A tag at the depth where it has to stand. -/
theorem step_token {line : Line} (hline : line.isArtwork = false) {t : Token}
    (ht : token line.text.toList = some t) {level : Nat} {next : Reader}
    (hplace : place stack inside t = some (level, next)) :
    step indent depth (.content stack inside) (Line.written indent (depth + level, line)) =
      some next := by
  unfold step Line.written
  simp only [hline, Bool.false_eq_true, if_false, tokenAt_spaces_append ht, Option.bind_some,
    hplace, if_true]

/-- The line that starts a container opens an element. -/
theorem step_start {tag : Tag} (htag : tag ≠ .text) (name : String) (image : Option String) :
    step indent depth (.content stack inside)
        (Line.written indent (depth + stack.length, .start tag name image)) =
      some (.content (⟨tag.name, Line.attributes name image, inside⟩ :: stack) []) := by
  have hne : tag.name ≠ Tag.text.name := by
    revert htag
    cases tag <;> decide
  have htoken : token (Line.start tag name image).text.toList =
      some (.start tag.name (Line.attributes name image)) := by
    have htext : (Line.start tag name image).text =
        "<" ++ tag.name ++ " " ++ Line.attributes name image ++ ">" := by
      simp only [Line.text_start, Line.attributes, String.append_assoc]
    rw [htext]
    exact token_start (isName_tag tag) (getLast?_attributes name image)
  exact step_token stack inside rfl htoken (by rw [place, if_neg hne])

/-- The line of a container without children is an element. -/
theorem step_single (tag : Tag) (name : String) (image : Option String) :
    step indent depth (.content stack inside)
        (Line.written indent (depth + stack.length, .single tag name image)) =
      some (.content stack (inside ++ [.element tag.name (Line.attributes name image) []])) := by
  have htoken : token (Line.single tag name image).text.toList =
      some (.single tag.name (Line.attributes name image)) := by
    have htext : (Line.single tag name image).text =
        "<" ++ tag.name ++ " " ++ Line.attributes name image ++ "/>" := by
      simp only [Line.text_single, Line.attributes, String.append_assoc]
    rw [htext]
    exact token_single (isName_tag tag)
  exact step_token stack inside rfl htoken rfl

/-- The line that ends a container closes the innermost element. -/
theorem step_finish (tag : Tag) (attributes : String) (before : List Nesting) :
    step indent depth (.content (⟨tag.name, attributes, before⟩ :: stack) inside)
        (Line.written indent (depth + stack.length, .finish tag)) =
      some (.content stack (before ++ [.element tag.name attributes inside])) := by
  have htoken : token (Line.finish tag).text.toList = some (.finish tag.name) :=
    token_finish tag.name
  exact step_token _ inside rfl htoken (by rw [place, if_pos rfl])

/-- A remark is passed over. -/
theorem step_remark (component : String) (props : List (String × String)) :
    step indent depth (.content stack inside)
        (Line.written indent (depth + stack.length, .remark component props)) =
      some (.content stack inside) := by
  have htoken : token (Line.remark component props).text.toList = some .remark := by
    show token ("\x7b/* can be replaced with <" ++ Text.capitalized component ++
      Line.propAttributes props ++ " /> */\x7d").toList = _
    simp only [String.toList_append]
    rfl
  exact step_token stack inside rfl htoken rfl

/-- A line of artwork is taken as it is. -/
theorem step_artwork (text : String) :
    step indent depth (.content stack inside)
        (Line.written indent (depth + stack.length, .artwork text)) =
      some (.content stack (inside ++ [.artwork text])) := by
  show (unpad _ (Text.spaces _ ++ text)).map _ = _
  rw [unpad_spaces_append]
  rfl

/-- The three lines of a text are read as one element, whatever its markup is. -/
theorem run_text (name : String) (markup : String) (maxLines : Option Nat) :
    run indent depth (.content stack inside)
        ([(depth + stack.length, Line.textStart name maxLines),
          (depth + stack.length + 1, Line.textBody markup),
          (depth + stack.length, Line.finish .text)].map (Line.written indent)) =
      some (.content stack (inside ++ [.text (Line.textAttributes name maxLines) markup])) := by
  have htoken : token (Line.textStart name maxLines).text.toList =
      some (.start Tag.text.name (Line.textAttributes name maxLines)) := by
    have htext : (Line.textStart name maxLines).text =
        "<" ++ Tag.text.name ++ " " ++ Line.textAttributes name maxLines ++ ">" := by
      rw [Line.text_textStart, Line.textAttributes, ← String.append_assoc]
      rfl
    rw [htext]
    exact token_start (isName_tag .text) (getLast?_textAttributes name maxLines)
  have hstart : step indent depth (.content stack inside)
      (Line.written indent (depth + stack.length, Line.textStart name maxLines)) =
        some (.textBody stack inside (Line.textAttributes name maxLines)) :=
    step_token stack inside rfl htoken (by rw [place, if_pos rfl])
  -- the line after the start of a text is taken as it is, even if it looks like a tag
  have hbody : step indent depth (.textBody stack inside (Line.textAttributes name maxLines))
      (Line.written indent (depth + stack.length + 1, Line.textBody markup)) =
        some (.textEnd stack inside (Line.textAttributes name maxLines) markup) := by
    show (unpad _ (Text.spaces _ ++ markup)).map _ = _
    rw [unpad_spaces_append]
    rfl
  have hend : step indent depth (.textEnd stack inside (Line.textAttributes name maxLines) markup)
      (Line.written indent (depth + stack.length, Line.finish .text)) =
        some (.content stack (inside ++ [.text (Line.textAttributes name maxLines) markup])) :=
    if_pos rfl
  simp only [List.map_cons, List.map_nil, run, hstart, hbody, hend, Option.bind_some]

/-- Lines are read one after the other. -/
theorem run_append {reader next : Reader} {lines : List WrittenLine}
    (h : run indent depth reader lines = some next) (more : List WrittenLine) :
    run indent depth reader (lines ++ more) = run indent depth next more := by
  induction lines generalizing reader with
  | nil =>
    cases h
    rfl
  | cons line lines ih =>
    rw [run] at h
    obtain ⟨mid, hmid, hrest⟩ := Option.bind_eq_some_iff.mp h
    rw [List.cons_append, run, hmid, Option.bind_some, ih hrest]

/-- Reading takes one step for each line. -/
theorem run_cons {reader next : Reader} {line : WrittenLine}
    (h : step indent depth reader line = some next) (lines : List WrittenLine) :
    run indent depth reader (line :: lines) = run indent depth next lines := by
  rw [run, h, Option.bind_some]

/-- All remarks before an element are passed over. -/
theorem run_remarks (name : String) (content : Content) :
    run indent depth (.content stack inside)
        ((Element.remarks (depth + stack.length) name content).map (Line.written indent)) =
      some (.content stack inside) := by
  unfold Element.remarks
  split
  · rfl
  · rfl
  · rw [List.map_singleton, run_cons (step_remark stack inside _ _)]
    rfl

/-- Lines of artwork are taken as they are, in order. -/
theorem run_artwork (ls : List String) :
    run indent depth (.content stack inside)
        ((ls.map fun l => (depth + stack.length, Line.artwork l)).map (Line.written indent)) =
      some (.content stack (inside ++ ls.map .artwork)) := by
  induction ls generalizing inside with
  | nil => simp [run]
  | cons l ls ih =>
    rw [List.map_cons, List.map_cons, run_cons (step_artwork stack inside l), ih, List.append_assoc]
    rfl

end

/-! ### Trees -/

/-- No container has the tag of a text. -/
theorem containerTag_ne_text (content : Content) : Element.containerTag content ≠ .text := by
  unfold Element.containerTag
  split <;> decide

mutual

/-- Reading the lines of a tree adds the tree to what was read before, with any elements open around
it. -/
theorem run_written (indent depth : Nat) :
    (e : Element) → ∀ (stack : List Frame) (inside : List Nesting),
      run indent depth (.content stack inside) (e.written indent (depth + stack.length)) =
        some (.content stack (inside ++ e.nesting))
  | .mk name content style children, stack, inside => by
      by_cases hbox : content.isBox = true
      · rw [Element.written, Element.lines_of_isBox hbox, Element.nesting_of_isBox hbox,
          List.map_append, run_append (run_remarks stack inside name content)]
        by_cases hc : children.isEmpty = true
        · rw [if_pos hc, List.map_singleton, run_cons (step_single stack inside _ name _),
            List.isEmpty_iff.mp hc]
          rfl
        · -- the children are read with this element open, which is why the stack is general
          have hchildren := run_written_all indent depth children
            (⟨(Element.containerTag content).name, Line.attributes name content.image, inside⟩ ::
              stack) []
          rw [if_neg hc, List.map_cons,
            run_cons (step_start stack inside (containerTag_ne_text content) name content.image),
            List.map_append, Nat.add_assoc]
          rw [List.nil_append, List.length_cons] at hchildren
          rw [run_append hchildren, List.map_singleton, run_cons (step_finish stack _ _ _ inside)]
          rfl
      · cases content with
        | blank => rw [Element.written, Element.lines, Element.nesting, List.append_nil]; rfl
        | vector svg => exact run_artwork stack inside (artworkLines name svg)
        | text markup maxLines => exact run_text stack inside name markup maxLines
        | _ => exact absurd rfl hbox

/-- Reading the lines of several trees adds them in order. -/
theorem run_written_all (indent depth : Nat) :
    (es : List Element) → ∀ (stack : List Frame) (inside : List Nesting),
      run indent depth (.content stack inside)
          ((Element.linesAll (depth + stack.length) es).map (Line.written indent)) =
        some (.content stack (inside ++ Element.nestingAll es))
  | [], stack, inside => by rw [Element.nestingAll, List.append_nil]; rfl
  | e :: es, stack, inside => by
      rw [Element.linesAll, List.map_append, Element.nestingAll]
      have hhead := run_written indent depth e stack inside
      rw [Element.written] at hhead
      rw [run_append hhead, run_written_all indent depth es stack, List.append_assoc]

end

/-- The written lines of a tree are read as its nesting. -/
theorem read_written (e : Element) (indent depth : Nat) :
    read indent depth (e.written indent depth) = some e.nesting := by
  have hrun := run_written indent depth e [] []
  unfold read
  rw [List.length_nil, Nat.add_zero, List.nil_append] at hrun
  rw [hrun]

end Nesting

namespace Element

/-! ### Layout -/

/-- The remarks of an element move with its depth. -/
theorem remarks_shift (depth k : Nat) (name : String) (content : Content) :
    remarks (depth + 1 + k) name content =
      (remarks (depth + 1) name content).map fun line => (line.1 + k, line.2) := by
  unfold remarks
  cases replacement? name content with
  | none => cases hk : depth + 1 + k <;> rfl
  | some replacement =>
    have hk : depth + 1 + k = (depth + k) + 1 := by omega
    rw [hk]
    simp only [List.map_singleton]
    rw [← hk]

mutual

/-- Below the root, the depth of a tree only moves its lines. -/
theorem lines_shift :
    (e : Element) → ∀ depth k : Nat,
      e.lines (depth + 1 + k) = (e.lines (depth + 1)).map fun line => (line.1 + k, line.2)
  | .mk name content style children, depth, k => by
      by_cases hbox : content.isBox = true
      · rw [lines_of_isBox hbox, lines_of_isBox hbox, remarks_shift, List.map_append]
        congr 1
        by_cases hc : children.isEmpty = true
        · rw [if_pos hc, if_pos hc]
          rfl
        · have hchildren := linesAll_shift children (depth + 1) k
          have hdepth : depth + 1 + 1 + k = depth + 1 + k + 1 := by omega
          rw [hdepth] at hchildren
          rw [if_neg hc, if_neg hc, hchildren, List.map_cons, List.map_append]
          rfl
      · cases content with
        | blank => rfl
        | vector svg => rw [lines, lines, List.map_map]; rfl
        | text markup maxLines =>
          have hdepth : depth + 1 + k + 1 = depth + 1 + 1 + k := by omega
          rw [lines, lines, hdepth]
          rfl
        | _ => exact absurd rfl hbox

/-- The lines of several trees move with their depth. -/
theorem linesAll_shift :
    (es : List Element) → ∀ depth k : Nat,
      linesAll (depth + 1 + k) es = (linesAll (depth + 1) es).map fun line => (line.1 + k, line.2)
  | [], depth, k => rfl
  | e :: es, depth, k => by
      rw [linesAll, linesAll, List.map_append, lines_shift e depth k, linesAll_shift es depth k]

end

mutual

/-- No line of a tree stands further to the left than the tree. -/
theorem le_of_mem_lines :
    (e : Element) → ∀ {depth : Nat} {line : Nat × Line}, line ∈ e.lines depth → depth ≤ line.1
  | .mk name content style children, depth, line, h => by
      by_cases hbox : content.isBox = true
      · rw [lines_of_isBox hbox, List.mem_append] at h
        rcases h with h | h
        · unfold remarks at h
          split at h
          · exact absurd h List.not_mem_nil
          · exact absurd h List.not_mem_nil
          · rw [List.mem_singleton.mp h]
        · by_cases hc : children.isEmpty = true
          · rw [if_pos hc] at h
            rw [List.mem_singleton.mp h]
          · rw [if_neg hc, List.mem_cons, List.mem_append, List.mem_singleton] at h
            rcases h with rfl | h | rfl
            · exact Nat.le_refl depth
            · exact Nat.le_of_succ_le (le_of_mem_linesAll children h)
            · exact Nat.le_refl depth
      · cases content with
        | blank => exact absurd h List.not_mem_nil
        | vector svg =>
          obtain ⟨l, -, rfl⟩ := List.mem_map.mp h
          exact Nat.le_refl depth
        | text markup maxLines =>
          simp only [lines, List.mem_cons, List.not_mem_nil, or_false] at h
          rcases h with rfl | rfl | rfl
          · exact Nat.le_refl depth
          · exact Nat.le_succ depth
          · exact Nat.le_refl depth
        | _ => exact absurd rfl hbox

/-- No line of several trees stands at a lower depth than the trees. -/
theorem le_of_mem_linesAll :
    (es : List Element) → ∀ {depth : Nat} {line : Nat × Line}, line ∈ linesAll depth es →
      depth ≤ line.1
  | [], depth, line, h => absurd h List.not_mem_nil
  | e :: es, depth, line, h => by
      rw [linesAll, List.mem_append] at h
      rcases h with h | h
      · exact le_of_mem_lines e h
      · exact le_of_mem_linesAll es h

end

/-- Every line of the markup of a tree is indented at least as the tree. -/
theorem spaces_prefix_of_mem_markup {e : Element} {indent depth : Nat} {line : String}
    (h : line ∈ e.markup indent depth) : (Text.spaces (depth * indent)).toList <+: line.toList := by
  obtain ⟨⟨d, l⟩, hmem, rfl⟩ := List.mem_map.mp h
  obtain ⟨k, rfl⟩ := Nat.exists_eq_add_of_le (le_of_mem_lines e hmem)
  show _ <+: (Text.spaces ((depth + k) * indent) ++ l.text).toList
  rw [Nat.add_mul, ← Text.spaces_append, String.append_assoc, String.toList_append]
  exact List.prefix_append _ _

/-- The markup of a tree deeper down is the same with more spaces before each line. -/
theorem markup_shift (e : Element) (indent depth k : Nat) :
    e.markup indent (depth + 1 + k) =
      (e.markup indent (depth + 1)).map (Text.spaces (k * indent) ++ ·) := by
  unfold markup
  rw [lines_shift, List.map_map, List.map_map]
  apply List.map_congr_left
  rintro ⟨d, l⟩ -
  show Text.spaces ((d + k) * indent) ++ l.text =
    Text.spaces (k * indent) ++ (Text.spaces (d * indent) ++ l.text)
  rw [← String.append_assoc, Text.spaces_append, ← Nat.add_mul, Nat.add_comm k d]

/-- **Markup.** The lines of a tree at any depth can be read back: starts and ends match by name,
and what is read is the nesting of the tree. No line stands further to the left than the depth of
the tree, and below the root a greater depth only moves the lines to the right. -/
theorem read_markup (e : Element) (indent depth : Nat) :
    (e.written indent depth).map WrittenLine.text = e.markup indent depth ∧
      Nesting.read indent depth (e.written indent depth) = some e.nesting ∧
      (∀ line ∈ e.markup indent depth, (Text.spaces (depth * indent)).toList <+: line.toList) ∧
      ∀ k, e.markup indent (depth + 1 + k) =
        (e.markup indent (depth + 1)).map (Text.spaces (k * indent) ++ ·) :=
  ⟨map_text_written indent depth e, Nesting.read_written e indent depth,
    fun _ h => spaces_prefix_of_mem_markup h, markup_shift e indent depth⟩

/-- A component with a blank element, an instance and a group. The text and the artwork in the
instance hold tags that are not read: an end of a container, and a start. -/
theorem read_markup_card :
    let e : Element := .mk "card" (.component [] none) {} [
      .mk "card" .blank {} [],
      .mk "hero" (.instanceOf "banner" [] (some "a.png")) {} [
        .mk "icon" (.vector "<svg />\n  <View >") {} [],
        .mk "label" (.text "</ImageBackground>" (some 2)) {} []],
      .mk "bg" .group {} []]
    Nesting.read 2 1 (e.written 2 1) = some [
        .element "View" "style=\x7bstyles.card\x7d" [
          .element "ImageBackground"
            "style=\x7bstyles.hero\x7d source=\x7b\x7b uri: 'a.png' \x7d\x7d" [
            .artwork "<svg style=\x7bstyles.icon\x7d />", .artwork "  <View >",
            .text "style=\x7bstyles.label\x7d numberOfLines=\x7b2\x7d" "</ImageBackground>"],
          .element "View" "style=\x7bstyles.bg\x7d" []]] ∧
      "        <View >" ∈ e.markup 2 1 ∧
      (Text.spaces (1 * 2)).toList <+: "        <View >".toList := by
  intro e
  have hmem : "        <View >" ∈ e.markup 2 1 := by decide +kernel
  have hart : artworkLines "icon" "<svg />\n  <View >" =
      ["<svg style=\x7bstyles.icon\x7d />", "  <View >"] := by decide +kernel
  have hcard : Line.attributes "card" none = "style=\x7bstyles.card\x7d" := by decide +kernel
  have hhero : Line.attributes "hero" (some "a.png") =
      "style=\x7bstyles.hero\x7d source=\x7b\x7b uri: 'a.png' \x7d\x7d" := by decide +kernel
  have hlabel : Line.textAttributes "label" (some 2) =
      "style=\x7bstyles.label\x7d numberOfLines=\x7b2\x7d" := by decide +kernel
  have hbg : Line.attributes "bg" none = "style=\x7bstyles.bg\x7d" := by decide +kernel
  obtain ⟨-, hread, hpad, -⟩ := read_markup e 2 1
  refine ⟨?_, hmem, hpad _ hmem⟩
  rw [hread, ← hcard, ← hhero, ← hlabel, ← hbg]
  simp only [e, nesting, nestingAll, hart]
  rfl

end Element

end Viewsmith
