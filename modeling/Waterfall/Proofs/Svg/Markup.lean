import Mathlib.Data.List.Forall2
import Mathlib.Tactic.SplitIfs
import Waterfall.Proofs.Svg.Entities

/-!
# A reader of markup

Tags, attributes in double quotes and text in between, read character by character into a tree. The
reader is strict: an end tag has to name the element that is open, attribute names do not repeat, a `<`
stands for nothing but the start of a tag, an ampersand begins an entity, and there is nothing outside of
the one root.

Reading is compositional. `Reads text elements` says what a piece of text adds to whatever element is
open; pieces put one after the other add their elements one after the other, and a start tag and its end
tag around a piece make one element of it.
-/

namespace Waterfall.Xml

/-- An element: its attributes in order, the text directly inside it, and the elements inside it. -/
structure Element where
  name : String
  attributes : List (String × String) := []
  text : String := ""
  children : List Element := []

namespace Element

def value? (e : Element) (key : String) : Option String := e.attributes.lookup key

def addText (e : Element) (text : String) : Element := { e with text := e.text ++ text }

def addChildren (e : Element) (elements : List Element) : Element :=
  { e with children := e.children ++ elements }

@[simp] theorem addText_empty (e : Element) : e.addText "" = e := by
  obtain ⟨name, attributes, text, children⟩ := e
  simp [addText]

@[simp] theorem addChildren_nil (e : Element) : e.addChildren [] = e := by
  obtain ⟨name, attributes, text, children⟩ := e
  simp [addChildren]

theorem addChildren_append (e : Element) (elements elements' : List Element) :
    (e.addChildren elements).addChildren elements' = e.addChildren (elements ++ elements') := by
  simp [addChildren]

mutual
/-- The element and all elements inside it, in the order of their start tags. -/
def all : Element → List Element
  | ⟨name, attributes, text, children⟩ => ⟨name, attributes, text, children⟩ :: allOf children

/-- All elements of a list of elements, in the order of their start tags. -/
def allOf : List Element → List Element
  | [] => []
  | e :: rest => e.all ++ allOf rest
end

end Element

/-! ## The reader -/

/-- The characters of the names of elements and attributes. -/
def isNameChar (c : Char) : Bool := c.isAlphanum || c == '-' || c == ':' || c == '_'

/-- What the reader is in the middle of, with what it has seen of that. -/
inductive Mode where
  | text (raw : List Char)
  | tag
  | name (seen : List Char)
  | inTag (name : String) (attributes : List (String × String))
  | key (name : String) (attributes : List (String × String)) (seen : List Char)
  | equals (name : String) (attributes : List (String × String)) (key : String)
  | value (name : String) (attributes : List (String × String)) (key : String) (raw : List Char)
  | slash (name : String) (attributes : List (String × String))
  | endName (seen : List Char)

/-- The element that is open, those around it from the inside out, and the mode. -/
structure Reader where
  current : Element
  outer : List Element
  mode : Mode

namespace Reader

variable (current : Element) (outer : List Element)

/-- After a name or a value in a start tag: a blank before an attribute, or the end of the tag. -/
def afterItem (name : String) (attributes : List (String × String)) (c : Char) : Option Reader :=
  if c = ' ' then some ⟨current, outer, .key name attributes []⟩
  else if c = '/' then some ⟨current, outer, .slash name attributes⟩
  else if c = '>' then some ⟨{ name, attributes }, current :: outer, .text []⟩
  else none

/-- After an end tag: it has to be that of the element that is open. -/
def close (name : String) : Option Reader :=
  match outer with
  | [] => none
  | parent :: rest =>
    if name = current.name then some ⟨parent.addChildren [current], rest, .text []⟩ else none

/-- Reads one character. -/
def step (r : Reader) (c : Char) : Option Reader :=
  match r with
  | ⟨current, outer, .text raw⟩ =>
    if c = '<' then (decode? raw).map fun text => ⟨current.addText (.ofList text), outer, .tag⟩
    else some ⟨current, outer, .text (raw ++ [c])⟩
  | ⟨current, outer, .tag⟩ =>
    if c = '/' then some ⟨current, outer, .endName []⟩
    else if isNameChar c then some ⟨current, outer, .name [c]⟩
    else none
  | ⟨current, outer, .name seen⟩ =>
    if isNameChar c then some ⟨current, outer, .name (seen ++ [c])⟩
    else afterItem current outer (.ofList seen) [] c
  | ⟨current, outer, .inTag name attributes⟩ => afterItem current outer name attributes c
  | ⟨current, outer, .key name attributes seen⟩ =>
    if isNameChar c then some ⟨current, outer, .key name attributes (seen ++ [c])⟩
    else if c = '=' ∧ seen ≠ [] ∧ String.ofList seen ∉ attributes.map Prod.fst then
      some ⟨current, outer, .equals name attributes (.ofList seen)⟩
    else none
  | ⟨current, outer, .equals name attributes key⟩ =>
    if c = '"' then some ⟨current, outer, .value name attributes key []⟩ else none
  | ⟨current, outer, .value name attributes key raw⟩ =>
    if c = '"' then
      (decode? raw).map fun value =>
        ⟨current, outer, .inTag name (attributes ++ [(key, .ofList value)])⟩
    else if c = '<' then none
    else some ⟨current, outer, .value name attributes key (raw ++ [c])⟩
  | ⟨current, outer, .slash name attributes⟩ =>
    if c = '>' then some ⟨current.addChildren [{ name, attributes }], outer, .text []⟩ else none
  | ⟨current, outer, .endName seen⟩ =>
    if c = '>' then close current outer (.ofList seen)
    else if isNameChar c then some ⟨current, outer, .endName (seen ++ [c])⟩
    else none

/-- Reads a text. -/
def run (r : Reader) (cs : List Char) : Option Reader := cs.foldlM step r

end Reader

/-- The root element of a document, if the text is one. -/
def read (text : String) : Option Element :=
  match Reader.run ⟨{ name := "" }, [], .text []⟩ text.toList with
  | some ⟨document, [], .text []⟩ =>
    match document.children with
    | [root] => if document.text = "" then some root else none
    | _ => none
  | _ => none

/-! ## Runs of the reader -/

namespace Reader

variable {current : Element} {outer : List Element}

theorem run_append (r : Reader) (as bs : List Char) :
    r.run (as ++ bs) = (r.run as).bind (·.run bs) := by
  simp [run, List.foldlM_append, Option.bind_eq_bind]

theorem run_cons (r : Reader) (c : Char) (cs : List Char) : r.run (c :: cs) = (r.step c).bind (·.run cs) := by
  simp [run, Option.bind_eq_bind]

theorem run_singleton (r : Reader) (c : Char) : r.run [c] = r.step c := by
  simp [run]

/-- A mode that takes in characters one by one takes in a run of them. -/
theorem run_gather {mode : List Char → Mode} {takes : Char → Prop}
    (hstep : ∀ seen c, takes c → step ⟨current, outer, mode seen⟩ c =
      some ⟨current, outer, mode (seen ++ [c])⟩)
    {cs : List Char} (h : ∀ c ∈ cs, takes c) (seen : List Char) :
    run ⟨current, outer, mode seen⟩ cs = some ⟨current, outer, mode (seen ++ cs)⟩ := by
  induction cs generalizing seen with
  | nil => simp [run]
  | cons c rest ih =>
    rw [run_cons, hstep seen c (h c (by simp)), Option.bind_some, ih fun d hd => h d (by simp [hd])]
    simp

end Reader

/-- The text can be the name of an element or an attribute. -/
structure IsName (s : String) : Prop where
  nonempty : s.toList ≠ []
  chars : ∀ c ∈ s.toList, isNameChar c

instance (s : String) : Decidable (IsName s) :=
  decidable_of_iff (s.toList ≠ [] ∧ s.toList.all isNameChar)
    ⟨fun h => ⟨h.1, List.all_eq_true.mp h.2⟩, fun h => ⟨h.nonempty, List.all_eq_true.mpr h.chars⟩⟩

/-- An attribute as it is written denotes one with its value. -/
structure AttributeDenotes (raw parsed : String × String) : Prop where
  key : raw.1 = parsed.1
  isName : IsName parsed.1
  value : Denotes raw.2 parsed.2

/-- Attributes as they are written denote attributes with values, no name coming twice. -/
structure AttributesDenote (raws attributes : List (String × String)) : Prop where
  each : List.Forall₂ AttributeDenotes raws attributes
  distinct : (attributes.map Prod.fst).Nodup

theorem forall₂_attributeDenotes_of_plain {attributes : List (String × String)}
    (h : ∀ a ∈ attributes, IsName a.1 ∧ Plain a.2) :
    List.Forall₂ AttributeDenotes attributes attributes :=
  List.forall₂_same.mpr fun a ha => ⟨rfl, (h a ha).1, (h a ha).2.denotes⟩

/-- Attributes as they stand in a tag. -/
def inTag (attributes : List (String × String)) : String :=
  String.join (attributes.map fun (key, value) => StyleAttributes.inTag key value)

/-- A start tag up to its end. -/
def tag (name : String) (attributes : List (String × String)) : String :=
  "<" ++ name ++ inTag attributes

@[simp] theorem inTag_nil : inTag [] = "" := rfl

@[simp] theorem inTag_cons (key value : String) (attributes : List (String × String)) :
    inTag ((key, value) :: attributes) = StyleAttributes.inTag key value ++ inTag attributes := by
  simp [inTag]

@[simp] theorem inTag_append (attributes attributes' : List (String × String)) :
    inTag (attributes ++ attributes') = inTag attributes ++ inTag attributes' := by
  simp [inTag]

@[simp] theorem toList_attribute (key value : String) :
    (StyleAttributes.inTag key value).toList =
      ' ' :: (key.toList ++ '=' :: '"' :: value.toList ++ ['"']) := by
  simp [StyleAttributes.inTag]

@[simp] theorem toList_tag (name : String) (attributes : List (String × String)) :
    (tag name attributes).toList = '<' :: (name.toList ++ (inTag attributes).toList) := by
  simp [tag]

namespace Reader

variable {current : Element} {outer : List Element} {name : String}

theorem run_text {cs : List Char} (h : ∀ c ∈ cs, c ≠ '<') (raw : List Char) :
    run ⟨current, outer, .text raw⟩ cs = some ⟨current, outer, .text (raw ++ cs)⟩ :=
  run_gather (fun seen c hc => by simp [step, hc]) h raw

/-- One attribute is read in. -/
theorem run_inTag {seen : List (String × String)} {key raw value : String}
    (hname : IsName key) (hnew : key ∉ seen.map Prod.fst) (h : Denotes raw value) :
    run ⟨current, outer, .key name seen []⟩ (key.toList ++ '=' :: '"' :: raw.toList ++ ['"']) =
      some ⟨current, outer, .inTag name (seen ++ [(key, value)])⟩ := by
  have hattribute : run ⟨current, outer, .key name seen []⟩ key.toList =
      some ⟨current, outer, .key name seen key.toList⟩ :=
    run_gather (fun seen c hc => by simp [step, hc]) hname.chars []
  have hequals : step ⟨current, outer, .key name seen key.toList⟩ '=' =
      some ⟨current, outer, .equals name seen key⟩ := by
    have hdelimiter : isNameChar '=' = false := by decide
    simp [step, hdelimiter, hname.nonempty, hnew]
  have hvalue : run ⟨current, outer, .value name seen key []⟩ raw.toList =
      some ⟨current, outer, .value name seen key raw.toList⟩ :=
    run_gather (fun seen c hc => by simp [step, hc])
      h.undelimited []
  have hquote : step ⟨current, outer, .value name seen key raw.toList⟩ '"' =
      some ⟨current, outer, .inTag name (seen ++ [(key, value)])⟩ := by
    simp [step, h.decoded]
  rw [List.append_assoc, run_append, hattribute, Option.bind_some, List.cons_append, run_cons, hequals,
    Option.bind_some, List.cons_append, run_cons]
  simp only [step, if_true, Option.bind_some]
  rw [run_append, hvalue, Option.bind_some, run_singleton, hquote]

/-- A name is left at the first character that cannot be part of it. -/
theorem run_name_eq {c : Char} (hc : isNameChar c = false) (cs : List Char) :
    run ⟨current, outer, .name name.toList⟩ (c :: cs) = run ⟨current, outer, .inTag name []⟩ (c :: cs) := by
  simp [run_cons, step, hc]

/-- The attributes of a tag are read in, one after the other. -/
theorem run_attributes {raws values : List (String × String)}
    (h : List.Forall₂ AttributeDenotes raws values)
    {seen : List (String × String)} (hnodup : ((seen ++ values).map Prod.fst).Nodup) :
    run ⟨current, outer, .inTag name seen⟩ (inTag raws).toList =
      some ⟨current, outer, .inTag name (seen ++ values)⟩ := by
  induction h generalizing seen with
  | nil => simp [run]
  | @cons raw v raws values hraw _ ih =>
    obtain ⟨hkey, hname, hvalue⟩ := hraw
    obtain ⟨key, raw⟩ := raw
    obtain ⟨_, value⟩ := v
    obtain rfl : key = _ := hkey
    rw [List.append_cons] at hnodup
    have hnew : key ∉ seen.map Prod.fst := by
      rw [List.map_append, List.map_append, List.nodup_append, List.nodup_append] at hnodup
      exact fun hmem => hnodup.1.2.2 key hmem key (by simp) rfl
    have hblank : step ⟨current, outer, .inTag name seen⟩ ' ' = some ⟨current, outer, .key name seen []⟩ :=
      rfl
    rw [inTag_cons, String.toList_append, toList_attribute, List.cons_append, run_cons, hblank,
      Option.bind_some, run_append, run_inTag hname hnew hvalue, Option.bind_some, ih hnodup,
      ← List.append_cons]

/-- A start tag is read up to the character that ends it. -/
theorem run_tag {raws values : List (String × String)} (hname : IsName name)
    (h : AttributesDenote raws values) {c : Char} (hc : isNameChar c = false) :
    run ⟨current, outer, .text []⟩ ((tag name raws).toList ++ [c]) =
      afterItem current outer name values c := by
  have hopen : step ⟨current, outer, .text []⟩ '<' = some ⟨current, outer, .tag⟩ := by
    simp [step, decode?]
  have hread : run ⟨current, outer, .tag⟩ name.toList = some ⟨current, outer, .name name.toList⟩ := by
    obtain ⟨hne, hchars⟩ := hname
    cases hcs : name.toList with
    | nil => exact absurd hcs hne
    | cons c rest =>
      rw [hcs] at hchars
      have hfirst : isNameChar c := hchars c (by simp)
      have hslash : c ≠ '/' := by
        rintro rfl
        exact absurd hfirst (by decide)
      have hstep : step ⟨current, outer, .tag⟩ c = some ⟨current, outer, .name [c]⟩ := by
        simp [step, hslash, hfirst]
      rw [run_cons, hstep, Option.bind_some,
        run_gather (fun seen d hd => by simp [step, hd]) (fun d hd => hchars d (by simp [hd])) [c]]
      rfl
  have hattributes : run ⟨current, outer, .name name.toList⟩ ((inTag raws).toList ++ [c]) =
      run ⟨current, outer, .inTag name []⟩ ((inTag raws).toList ++ [c]) := by
    cases raws with
    | nil => exact run_name_eq hc []
    | cons raw raws =>
      rw [inTag_cons, String.toList_append, toList_attribute]
      exact run_name_eq (by decide) _
  have htext : (tag name raws).toList ++ [c] = '<' :: (name.toList ++ ((inTag raws).toList ++ [c])) := by
    simp
  rw [htext, run_cons, hopen, Option.bind_some, run_append, hread, Option.bind_some, hattributes,
    run_append, run_attributes h.each (by simpa using h.distinct), Option.bind_some, run_singleton]
  rfl

/-- An end tag closes the element of its name, once the text before it has been decoded. -/
theorem run_endTag (element parent : Element) (outer : List Element) {raw text : List Char}
    (hname : IsName element.name) (h : decode? raw = some text) :
    run ⟨element, parent :: outer, .text raw⟩ ('<' :: '/' :: element.name.toList ++ ['>']) =
      some ⟨parent.addChildren [element.addText (.ofList text)], outer, .text []⟩ := by
  have hopen : step ⟨element, parent :: outer, .text raw⟩ '<' =
      some ⟨element.addText (.ofList text), parent :: outer, .tag⟩ := by
    simp [step, h]
  have hslash : step ⟨element.addText (.ofList text), parent :: outer, .tag⟩ '/' =
      some ⟨element.addText (.ofList text), parent :: outer, .endName []⟩ := rfl
  have hread : run ⟨element.addText (.ofList text), parent :: outer, .endName []⟩ element.name.toList =
      some ⟨element.addText (.ofList text), parent :: outer, .endName element.name.toList⟩ :=
    run_gather (fun seen c hc => by
      have hend : c ≠ '>' := by
        rintro rfl
        exact absurd hc (by decide)
      simp [step, hend, hc]) hname.chars []
  have hclose : step ⟨element.addText (.ofList text), parent :: outer, .endName element.name.toList⟩ '>' =
      some ⟨parent.addChildren [element.addText (.ofList text)], outer, .text []⟩ := by
    simp [step, close, Element.addText]
  rw [List.cons_append, List.cons_append, run_cons, hopen, Option.bind_some, run_cons, hslash,
    Option.bind_some, run_append, hread, Option.bind_some, run_singleton, hclose]

end Reader

/-! ## Pieces of text and their elements -/

/-- The text adds these elements to whatever element is open, and leaves it open. -/
def Reads (text : String) (elements : List Element) : Prop :=
  ∀ current outer, Reader.run ⟨current, outer, .text []⟩ text.toList =
    some ⟨current.addChildren elements, outer, .text []⟩

theorem reads_empty : Reads "" [] := by
  intro current outer
  simp [Reader.run]

theorem Reads.append {text text' : String} {elements elements' : List Element} (h : Reads text elements)
    (h' : Reads text' elements') : Reads (text ++ text') (elements ++ elements') := by
  intro current outer
  rw [String.toList_append, Reader.run_append, h, Option.bind_some, h', Element.addChildren_append]

section Elements

variable {name : String} {raws values : List (String × String)} (hname : IsName name)
  (h : AttributesDenote raws values)

include hname h

/-- A tag that ends itself is an element with nothing inside. -/
theorem reads_empty_element : Reads (tag name raws ++ "/>") [{ name, attributes := values }] := by
  intro current outer
  have htext : (tag name raws ++ "/>").toList = (tag name raws).toList ++ ['/'] ++ ['>'] := by simp
  rw [htext, Reader.run_append, Reader.run_tag hname h (by decide)]
  rfl

/-- Tags around pieces make one element of them. -/
theorem reads_element {inner : String} {children : List Element} (hinner : Reads inner children) :
    Reads (tag name raws ++ ">" ++ inner ++ "</" ++ name ++ ">")
      [{ name, attributes := values, children }] := by
  intro current outer
  have htext : (tag name raws ++ ">" ++ inner ++ "</" ++ name ++ ">").toList =
      (tag name raws).toList ++ ['>'] ++ (inner.toList ++ ('<' :: '/' :: name.toList ++ ['>'])) := by simp
  have hopen : Reader.afterItem current outer name values '>' =
      some ⟨{ name, attributes := values }, current :: outer, .text []⟩ := rfl
  rw [htext, Reader.run_append, Reader.run_tag hname h (by decide), hopen, Option.bind_some,
    Reader.run_append, hinner, Option.bind_some]
  have hend := Reader.run_endTag { name, attributes := values, children } current outer hname
    (show decode? [] = some [] from rfl)
  simpa [Element.addChildren] using hend

/-- Tags around a text make an element with what the text denotes. -/
theorem reads_text_element {raw text : String} (htext : Denotes raw text) :
    Reads (tag name raws ++ ">" ++ raw ++ "</" ++ name ++ ">")
      [{ name, attributes := values, text }] := by
  intro current outer
  have hlist : (tag name raws ++ ">" ++ raw ++ "</" ++ name ++ ">").toList =
      (tag name raws).toList ++ ['>'] ++ (raw.toList ++ ('<' :: '/' :: name.toList ++ ['>'])) := by simp
  have hopen : Reader.afterItem current outer name values '>' =
      some ⟨{ name, attributes := values }, current :: outer, .text []⟩ := rfl
  rw [hlist, Reader.run_append, Reader.run_tag hname h (by decide), hopen, Option.bind_some,
    Reader.run_append, Reader.run_text fun c hc => (htext.undelimited c hc).1, Option.bind_some]
  have hend := Reader.run_endTag { name, attributes := values } current outer hname htext.decoded
  simpa [Element.addText] using hend

end Elements

/-- A piece of one element is a document. -/
theorem read_eq_some {text : String} {root : Element} (h : Reads text [root]) : read text = some root := by
  have hrun := h { name := "" } []
  simp [read, hrun, Element.addChildren]

end Waterfall.Xml
