import Waterfall.Drawing
import Waterfall.Proofs.Decode.Records
import Waterfall.Proofs.Layout.Connection
import Waterfall.Proofs.Layout.Palette
import Waterfall.Proofs.Svg.Document

/-!
# Characters that XML does not allow

XML 1.0 allows the tab, the two line ends, and all characters from the blank on but the last two of the
first plane. Any other character cannot stand in a document at all, not even as an entity. Escaping looks
at five characters and copies the rest, so a character that is not allowed in an id, a label, an actor or a
message gets into the picture as it is.

`Xml.forbidden` lists the characters of a text that are not allowed, in order. That list reads off the
parts of a picture as their texts do: literals, numbers and styles add nothing to it, and escaping takes
nothing away. So the list of a picture is that of the texts of the trace in it
(`Picture.forbidden_renderSvg`), and a reader of XML accepts the characters of a picture exactly if it
accepts those of the texts.
-/

namespace Waterfall

/-! ## Characters of texts -/

namespace Xml

/-- XML 1.0 allows the character in a document. -/
def IsChar (c : Char) : Prop :=
  c = '\t' ∨ c = '\n' ∨ c = '\r' ∨ (0x20 ≤ c.toNat ∧ c.toNat ≤ 0xD7FF) ∨
    (0xE000 ≤ c.toNat ∧ c.toNat ≤ 0xFFFD) ∨ (0x10000 ≤ c.toNat ∧ c.toNat ≤ 0x10FFFF)

instance (c : Char) : Decidable (IsChar c) :=
  inferInstanceAs (Decidable (c = '\t' ∨ c = '\n' ∨ c = '\r' ∨ (0x20 ≤ c.toNat ∧ c.toNat ≤ 0xD7FF) ∨
    (0xE000 ≤ c.toNat ∧ c.toNat ≤ 0xFFFD) ∨ (0x10000 ≤ c.toNat ∧ c.toNat ≤ 0x10FFFF)))

/-- All characters of the text are allowed. -/
def Allowed (s : String) : Prop := ∀ c ∈ s.toList, IsChar c

instance (s : String) : Decidable (Allowed s) := List.decidableBAll IsChar s.toList

/-- The characters of a text that are not allowed, in order. -/
def forbidden (s : String) : List Char := s.toList.filter fun c => ¬ IsChar c

theorem mem_forbidden_iff {s : String} {c : Char} : c ∈ forbidden s ↔ c ∈ s.toList ∧ ¬ IsChar c := by
  simp [forbidden]

theorem forbidden_eq_nil_iff {s : String} : forbidden s = [] ↔ Allowed s := by
  simp [forbidden, Allowed]

/-- The characters of a literal are compared one by one, without writing them to bytes first. -/
theorem allowed_ofList {cs : List Char} (h : cs.all fun c => IsChar c) : Allowed (.ofList cs) := by
  simpa [Allowed] using h

theorem forbidden_of_allowed {s : String} (h : Allowed s) : forbidden s = [] := forbidden_eq_nil_iff.mpr h

@[simp] theorem forbidden_append (s t : String) : forbidden (s ++ t) = forbidden s ++ forbidden t := by
  simp [forbidden]

theorem forbidden_join (parts : List String) : forbidden (String.join parts) = parts.flatMap forbidden := by
  induction parts with
  | nil => rfl
  | cons s rest ih => rw [String.join_cons, forbidden_append, ih, List.flatMap_cons]

/-- Where each character is replaced by a text with the same forbidden characters, these stay. -/
theorem forbidden_flatMap {f : Char → List Char}
    (h : ∀ c, forbidden (.ofList (f c)) = forbidden (.ofList [c])) (s : String) :
    forbidden (.ofList (s.toList.flatMap f)) = forbidden s := by
  simp only [forbidden, String.toList_ofList] at h ⊢
  rw [List.filter_flatMap]
  simp only [h]
  rw [← List.filter_flatMap, List.flatMap_singleton']

/-- Escaping leaves forbidden characters as they are. -/
@[simp] theorem forbidden_escaped (s : String) : forbidden (escaped s) = forbidden s := by
  refine forbidden_flatMap (fun c => ?_) s
  unfold escapeChar entity?
  split_ifs with hamp hlt hgt hquot hapos
  · subst hamp; decide
  · subst hlt; decide
  · subst hgt; decide
  · subst hquot; decide
  · subst hapos; decide
  · rfl

@[simp] theorem forbidden_quotesEscaped (family : String) :
    forbidden (StyleAttributes.quotesEscaped family) = forbidden family := by
  refine forbidden_flatMap (fun c => ?_) family
  split_ifs with hquot
  · subst hquot; decide
  · rfl

theorem allowed_of_ofNumberChars {s : String} (h : OfNumberChars s.toList) : Allowed s := by
  have hchars : Allowed (.ofList numberChars) := allowed_ofList (by decide)
  exact fun c hc => hchars c (by simpa using h c hc)

@[simp] theorem forbidden_twoPlaces (x : Float32) : forbidden (twoPlaces x) = [] :=
  forbidden_of_allowed (allowed_of_ofNumberChars (ofNumberChars_twoPlaces x))

@[simp] theorem forbidden_textOfSingle (x : Float32) : forbidden (textOfSingle x) = [] :=
  forbidden_of_allowed (allowed_of_ofNumberChars (ofNumberChars_textOfSingle x))

@[simp] theorem forbidden_inTag (attributes : List (String × String)) :
    forbidden (inTag attributes) = attributes.flatMap fun a => forbidden a.1 ++ forbidden a.2 := by
  induction attributes with
  | nil => rfl
  | cons a rest ih =>
    obtain ⟨key, value⟩ := a
    simp (disch := (apply Xml.allowed_ofList; decide)) [StyleAttributes.inTag, forbidden_of_allowed, ih]

end Xml

open Xml (Allowed forbidden)

/-! ## Styles -/

/-- The colours and the font of the theme are allowed. -/
structure Theme.Allowed (t : Theme) : Prop where
  colors : ∀ color ∈ t.colors ++ t.palette, Xml.Allowed color
  fontFamily : Xml.Allowed t.fontFamily

/-- The built-in themes are allowed. -/
theorem Theme.allowed_of_byName? {name : String} {t : Theme} (h : byName? name = some t) : t.Allowed := by
  have hclassic : classic.Allowed := by
    constructor <;> decide
  have hmodern : modern.Allowed := by
    constructor <;> decide
  unfold byName? at h
  split at h
  · cases h; exact hclassic
  · split at h
    · cases h; exact hmodern
    · cases h

namespace StyleAttributes

theorem mem_given_iff {settings : List (String × Option String)} {name value : String} :
    (name, value) ∈ given settings ↔ (name, some value) ∈ settings := by
  simp only [given, List.mem_filterMap, Option.map_eq_some_iff, Prod.mk.injEq, Prod.exists]
  constructor
  · rintro ⟨_, _, hmem, value, rfl, rfl, rfl⟩
    exact hmem
  · intro hmem
    exact ⟨name, some value, hmem, value, rfl, rfl, rfl⟩

/-- Attributes have forbidden characters from their colours and their font only. -/
theorem forbidden_toList {a : StyleAttributes} (hcolors : ∀ color ∈ a.colors, Allowed color)
    (hfamily : ∀ family ∈ a.fontFamily, Allowed family) : forbidden (Xml.inTag a.toList) = [] := by
  rw [Xml.forbidden_inTag, List.flatMap_eq_nil_iff]
  rintro ⟨name, value⟩ hmem
  show forbidden name ++ forbidden value = []
  have hgiven := mem_given_iff.mp (show (name, value) ∈ given _ from hmem)
  simp only [List.mem_cons, List.not_mem_nil, or_false, Prod.mk.injEq] at hgiven
  have hcolor : value ∈ a.colors → forbidden value = [] := fun hc =>
    Xml.forbidden_of_allowed (hcolors value hc)
  have hnumber : ∀ x : Option Float32, some value = x.map textOfSingle → forbidden value = [] := by
    intro x hx
    obtain ⟨y, -, rfl⟩ := Option.map_eq_some_iff.mp hx.symm
    exact Xml.forbidden_textOfSingle y
  rw [List.append_eq_nil_iff]
  -- One case for each attribute, in the order in which they are written.
  rcases hgiven with ⟨rfl, h⟩ | ⟨rfl, h⟩ | ⟨rfl, h⟩ | ⟨rfl, h⟩ | ⟨rfl, h⟩ | ⟨rfl, h⟩
  · exact ⟨by decide, hcolor (by simp [colors, ← h])⟩
  · exact ⟨by decide, hcolor (by simp [colors, ← h])⟩
  · exact ⟨by decide, hnumber _ h⟩
  · exact ⟨by decide, hnumber _ h⟩
  · exact ⟨by decide, hnumber _ h⟩
  · obtain ⟨family, hf, rfl⟩ := Option.map_eq_some_iff.mp h.symm
    refine ⟨by decide, ?_⟩
    rw [Xml.forbidden_quotesEscaped]
    exact Xml.forbidden_of_allowed (hfamily family hf)

end StyleAttributes

/-- The standard styles of an allowed theme and colour add no forbidden character. -/
theorem StyleResolvers.forbidden_standard {ctx : StyleContext} (htheme : ctx.theme.Allowed)
    (hcolor : ∀ s ∈ ctx.color, Allowed s) (kind : ElementKind) :
    forbidden (Xml.inTag (standard.resolve kind ctx).toList) = [] := by
  obtain ⟨hcolors, hfamily⟩ := standard_sets kind ctx
  apply StyleAttributes.forbidden_toList
  · intro color hmem
    rcases hcolors color hmem with hgiven | hown | hfixed
    · exact hcolor color hgiven
    · exact htheme.colors color (List.mem_append_left _ hown)
    · exact (by decide : ∀ color ∈ ["#000000", "none"], Allowed color) color hfixed
  · intro family hmem
    rw [hfamily family hmem]
    exact htheme.fontFamily

/-! ## Parts of the picture -/

/-- What the layout adds to the texts of the trace is allowed. -/
structure TraceLayout.Allowed (l : TraceLayout) : Prop where
  rows : ∀ r ∈ l.rows, Xml.Allowed r.color
  legend : ∀ c ∈ l.legend, Xml.Allowed c.color
  ticks : ∀ t ∈ l.ticks, Xml.Allowed t.label

namespace Picture

/-- The characters of the picture in standard style that are not allowed. -/
def forbidden (p : Picture) : List Char := Xml.forbidden (p.render .standard)

@[simp] theorem forbidden_append (p q : Picture) : forbidden (p ++ q) = forbidden p ++ forbidden q := by
  rw [forbidden, render_append, Xml.forbidden_append]
  rfl

@[simp] theorem forbidden_nil : forbidden [] = [] := rfl

@[simp] theorem forbidden_literal_cons (text : String) (p : Picture) :
    forbidden (.literal text :: p) = Xml.forbidden text ++ forbidden p := by
  simp [forbidden]

@[simp] theorem forbidden_hole_cons (kind : ElementKind) (ctx : StyleContext) (p : Picture) :
    forbidden (.hole kind ctx :: p) =
      Xml.forbidden (Xml.inTag (StyleResolvers.standard.resolve kind ctx).toList) ++ forbidden p := by
  simp only [forbidden, render_hole_cons, Xml.forbidden_append]

theorem forbidden_flatMap {α : Type} {picture : α → Picture} {f : α → List Char} {items : List α}
    (h : ∀ a ∈ items, forbidden (picture a) = f a) : forbidden (items.flatMap picture) = items.flatMap f := by
  induction items with
  | nil => rfl
  | cons a rest ih =>
    rw [List.flatMap_cons, List.flatMap_cons, forbidden_append, h a (by simp),
      ih fun b hb => h b (by simp [hb])]

section Parts

variable {theme : Theme} (htheme : theme.Allowed)

include htheme

theorem forbidden_plain (kind : ElementKind) :
    Xml.forbidden (Xml.inTag (StyleResolvers.standard.resolve kind (plain theme)).toList) = [] :=
  StyleResolvers.forbidden_standard htheme (by simp [plain]) kind

theorem forbidden_colored {color : String} (hcolor : Allowed color) (isError : Bool)
    (kind : ElementKind) : Xml.forbidden
      (Xml.inTag (StyleResolvers.standard.resolve kind (colored theme color isError)).toList) = [] :=
  StyleResolvers.forbidden_standard htheme (by simpa [colored] using hcolor) kind

theorem forbidden_opening (l : TraceLayout) : forbidden (opening l theme) = [] := by
  have hbackground := Xml.forbidden_of_allowed (htheme.colors theme.background (by simp [Theme.colors]))
  simp (disch := (apply Xml.allowed_ofList; decide)) [opening, hbackground, Xml.forbidden_of_allowed]

theorem forbidden_diagnostic (e : ErrorPanel) : forbidden (diagnostic theme e) = Xml.forbidden e.message := by
  simp (disch := (apply Xml.allowed_ofList; decide)) [diagnostic, forbidden_plain htheme,
    Xml.forbidden_of_allowed]

-- The literal of the marker is long.
set_option maxRecDepth 1000 in
theorem forbidden_arrowhead : forbidden (arrowhead theme) = [] := by
  have hline := Xml.forbidden_of_allowed (htheme.colors theme.lineColor (by simp [Theme.colors]))
  simp (disch := (apply Xml.allowed_ofList; decide)) [arrowhead, hline, Xml.forbidden_of_allowed]

theorem forbidden_chip {c : Chip} (hcolor : Allowed c.color) :
    forbidden (chip theme c) = Xml.forbidden c.actor := by
  simp (disch := (apply Xml.allowed_ofList; decide)) [chip, box, forbidden_colored htheme hcolor,
    Xml.forbidden_of_allowed]

theorem forbidden_legend {chips : List Chip} (hcolors : ∀ c ∈ chips, Allowed c.color) :
    forbidden (legend theme chips) = chips.flatMap fun c => Xml.forbidden c.actor := by
  have hchips := forbidden_flatMap fun c hc => forbidden_chip htheme (hcolors c hc)
  simp (disch := (apply Xml.allowed_ofList; decide)) [legend, hchips, Xml.forbidden_of_allowed]

theorem forbidden_tick (length : Float32) {t : Tick} (hlabel : Allowed t.label) :
    forbidden (tick theme length t) = [] := by
  simp (disch := (apply Xml.allowed_ofList; decide)) [tick, forbidden_plain htheme,
    Xml.forbidden_of_allowed hlabel, Xml.forbidden_of_allowed]

theorem forbidden_axis (config : LayoutConfig) {l : TraceLayout} (hticks : ∀ t ∈ l.ticks, Allowed t.label)
    (a : Axis) : forbidden (axis theme config l a) = [] := by
  have hmarks : forbidden (l.ticks.flatMap (tick theme (tickLength config))) = l.ticks.flatMap fun _ => [] :=
    forbidden_flatMap fun t ht => forbidden_tick htheme (tickLength config) (hticks t ht)
  unfold axis shift
  simp (disch := (apply Xml.allowed_ofList; decide)) [hmarks, forbidden_plain htheme,
    Xml.forbidden_of_allowed]

theorem forbidden_rowLabel {color : String} (hcolor : Allowed color) (isError : Bool) (label : RowLabel) :
    forbidden (rowLabel (colored theme color isError) label) = Xml.forbidden label.text := by
  unfold rowLabel
  split
  · next hempty =>
    rw [String.isEmpty_iff.mp hempty]
    rfl
  · simp (disch := (apply Xml.allowed_ofList; decide)) [forbidden_colored htheme hcolor,
      Xml.forbidden_of_allowed]

theorem forbidden_row {r : Row} (hcolor : Allowed r.color) (hitWidth : Float32) :
    forbidden (row theme hitWidth r) = [r.node.id, r.node.label, r.label.text].flatMap Xml.forbidden := by
  simp (disch := (apply Xml.allowed_ofList; decide)) [row, box, forbidden_colored htheme hcolor,
    forbidden_rowLabel htheme hcolor, Xml.forbidden_of_allowed]

omit htheme in
theorem forbidden_pathData (points : List Point) : Xml.forbidden (pathData points) = [] := by
  cases points with
  | nil => rfl
  | cons p rest =>
    simp (disch := (apply Xml.allowed_ofList; decide)) [pathData, Xml.forbidden_join, List.flatMap_map,
      Xml.forbidden_of_allowed]

theorem forbidden_connector (c : Connector) : forbidden (connector theme c) = [] := by
  simp (disch := (apply Xml.allowed_ofList; decide)) [connector, forbidden_pathData,
    forbidden_plain htheme, Xml.forbidden_of_allowed]

theorem forbidden_chart {l : TraceLayout} (hrows : ∀ r ∈ l.rows, Allowed r.color) :
    forbidden (chart theme l) =
      l.rows.flatMap fun r => [r.node.id, r.node.label, r.label.text].flatMap Xml.forbidden := by
  have hconnectors : forbidden (l.connectors.flatMap (connector theme)) = l.connectors.flatMap fun _ => [] :=
    forbidden_flatMap fun c _ => forbidden_connector htheme c
  have hall : ∀ hitWidth, forbidden (l.rows.flatMap (row theme hitWidth)) =
      l.rows.flatMap fun r => [r.node.id, r.node.label, r.label.text].flatMap Xml.forbidden :=
    fun hitWidth => forbidden_flatMap fun r hr => forbidden_row htheme (hrows r hr) hitWidth
  unfold chart shift
  simp (disch := (apply Xml.allowed_ofList; decide)) [hall, hconnectors, Xml.forbidden_of_allowed]

end Parts

/-! ## The whole picture -/

/-- The texts of the trace in a layout, in the order in which they are drawn. -/
def texts (l : TraceLayout) : List String :=
  match l.error with
  | some e => [e.message]
  | none => l.legend.map (·.actor) ++ l.rows.flatMap fun r => [r.node.id, r.node.label, r.label.text]

/-- **The forbidden characters of a picture are those of its texts**, in order. -/
theorem forbidden_renderSvg {l : TraceLayout} {theme : Theme} (htheme : theme.Allowed) (hl : l.Allowed)
    (config : LayoutConfig) :
    Xml.forbidden (renderSvg l theme config) = (texts l).flatMap Xml.forbidden := by
  have hclosing : forbidden closing = [] := by decide
  have hcontent : forbidden (content theme config l) = (texts l).flatMap Xml.forbidden := by
    unfold content texts
    -- Of a panel the message is drawn alone, of a trace everything but a message.
    cases l.error with
    | some e => simpa using forbidden_diagnostic htheme e
    | none =>
      have haxis : forbidden ((l.axis.map (axis theme config l)).getD []) = [] := by
        cases l.axis with
        | none => rfl
        | some a => exact forbidden_axis htheme config hl.ticks a
      simp only [forbidden_append, forbidden_arrowhead htheme, forbidden_legend htheme hl.legend, haxis,
        forbidden_chart htheme hl.rows, List.flatMap_append, List.flatMap_map, List.flatMap_assoc,
        List.nil_append, List.append_nil]
  show forbidden (ofLayout l theme config) = _
  rw [ofLayout_eq, forbidden_append, forbidden_append, forbidden_opening htheme, hcontent, hclosing,
    List.nil_append, List.append_nil]

end Picture

/-! ## Layouts of spans -/

/-- The names of spans in the message of a defect. -/
def Defect.names : Defect → List String
  | .empty | .multipleRoots _ => []
  | .duplicateId id _ _ | .missingRoot id | .negativeDuration id _ _ | .timeOutOfRange id _ _ => [id]
  | .danglingParent id parent | .parentAfterChild id parent _ _ => [id, parent]

theorem Xml.forbidden_decimal (n : Int) : forbidden (decimal n) = [] := by
  refine forbidden_of_allowed (allowed_of_ofNumberChars ?_)
  rw [decimal, String.toList_ofList]
  exact Digits.ofNumberChars_ofInt n

/-- Messages quote names as they are. -/
theorem TraceError.forbidden_message_defect (d : Defect) :
    forbidden (TraceError.defect d).message = d.names.flatMap forbidden := by
  show forbidden ("invalid trace structure: " ++ d.message) = _
  rw [Xml.forbidden_append, Xml.forbidden_of_allowed (by decide), List.nil_append]
  cases d <;> simp (disch := (apply Xml.allowed_ofList; decide)) [Defect.message, Defect.names, ticked,
    Xml.forbidden_decimal, Xml.forbidden_of_allowed]

/-- A label that is cut shows no characters but its own and the ellipsis. -/
theorem Label.mem_clip {α : Type} [Length α] {text : List Char} {room fontSize charWidth : α} {c : Char}
    (h : c ∈ (clip text room fontSize charWidth).1) : c ∈ text ∨ c = ellipsis := by
  unfold clip at h
  split at h
  · exact .inl h
  · simp only at h
    split at h
    · simp at h
    · rcases List.mem_append.mp h with h | h
      · exact .inl (List.mem_of_mem_take h)
      · exact .inr (List.mem_singleton.mp h)

namespace ActorColors

theorem mem_actors_assign_iff {palette : List String} {c : ActorColors} {actor other : String} :
    other ∈ (c.assign palette actor).entries.map Prod.fst ↔
      other ∈ c.entries.map Prod.fst ∨ other = actor := by
  cases hactor : c.slotOf? actor with
  | some slot =>
    obtain ⟨color, hentry⟩ := exists_entry_of_slotOf? hactor
    have hmem : actor ∈ c.entries.map Prod.fst := List.mem_map_of_mem (List.mem_of_getElem? hentry)
    rw [assign_of_some palette hactor]
    exact ⟨.inl, fun h => h.elim id fun heq => heq ▸ hmem⟩
  | none => simp [assign_of_none palette hactor, push]

/-- The actors noted on the way are all that appeared. -/
theorem mem_actors_assignAll_iff {palette : List String} {c : ActorColors} {actors : List String}
    {other : String} : other ∈ (c.assignAll palette actors).entries.map Prod.fst ↔
      other ∈ c.entries.map Prod.fst ∨ other ∈ actors := by
  induction actors generalizing c with
  | nil => simp [assignAll]
  | cons actor rest ih =>
    have hstep : c.assignAll palette (actor :: rest) = (c.assign palette actor).assignAll palette rest := rfl
    rw [hstep, ih, mem_actors_assign_iff, List.mem_cons, or_assoc]

end ActorColors

namespace TraceLayout

variable (spans : List Span) (theme : Theme) (config : LayoutConfig) (containerWidth : Float32)

variable {theme} in
/-- Layouts add colours of their theme and numbers. -/
theorem allowed_computeOrError (htheme : theme.Allowed) :
    (computeOrError spans theme config containerWidth).Allowed := by
  have hcolor : ∀ color, ActorColors.FromPalette theme.palette color → Xml.Allowed color := by
    rintro color (hmem | rfl)
    · exact htheme.colors color (List.mem_append_right _ hmem)
    · decide
  cases hvalid : validate spans config.rootPolicy with
  | error d =>
    rw [computeOrError_of_error hvalid]
    exact ⟨by simp [ofMessage], by simp [ofMessage], by simp [ofMessage]⟩
  | ok =>
    rw [computeOrError_of_ok hvalid]
    refine ⟨fun r hr => hcolor _ (fromPalette_rows spans theme config containerWidth r hr),
      fun c hc => hcolor _ (fromPalette_legend spans theme config containerWidth c hc), fun t ht => ?_⟩
    obtain ⟨value, -, rfl⟩ := List.mem_map.mp ht
    apply Xml.allowed_of_ofNumberChars
    rw [Axis.tickAt, String.toList_ofList]
    exact Binary.ofNumberChars_fixed _ _

/-- The legend names the actors of all spans and no others. -/
theorem mem_actors_legend_iff {actor : String} :
    actor ∈ (ofValid spans theme config containerWidth).legend.map (·.actor) ↔
      actor ∈ spans.map (·.actor) := by
  have hentries := Legend.map_entry_chips (Node.ofSpans spans theme.palette).2 containerWidth theme config
  have hactors : (ofValid spans theme config containerWidth).legend.map (·.actor) =
      (Node.ofSpans spans theme.palette).2.entries.map Prod.fst := by
    rw [← hentries, List.map_map]
    rfl
  rw [hactors, Node.ofSpans, Node.ofSpansFrom_snd, ActorColors.mem_actors_assignAll_iff]
  simp

/-- A label in a row shows the characters of the label of its span, and perhaps the ellipsis. -/
theorem mem_label_row {r : Row} (hr : r ∈ (ofValid spans theme config containerWidth).rows) {c : Char}
    (hc : c ∈ r.label.text.toList) : c ∈ r.node.label.toList ∨ c = Label.ellipsis := by
  obtain ⟨i, hi, rfl⟩ := List.mem_mapIdx.mp hr
  rw [Row.ofNode, Row.labelOf, String.toList_ofList] at hc
  exact Label.mem_clip hc

/-- Rows show the ids and the labels of the spans. -/
theorem map_id_label_rows :
    ((ofValid spans theme config containerWidth).rows.map fun r => (r.node.id, r.node.label)) =
      spans.map fun s => (s.id, s.label) :=
  map_rows (f := fun n => (n.id, n.label)) (g := fun s => (s.id, s.label)) rfl fun _ _ _ _ => rfl

/-- A trace and its layout have the same forbidden characters: a cut label has none that the whole label
has not, and no id, label or actor is left out. -/
theorem mem_forbidden_texts_ofValid_iff {c : Char} :
    (∃ text ∈ Picture.texts (ofValid spans theme config containerWidth), c ∈ forbidden text) ↔
      ∃ text ∈ spans.flatMap fun s => [s.id, s.label, s.actor], c ∈ forbidden text := by
  have htexts : Picture.texts (ofValid spans theme config containerWidth) =
      (ofValid spans theme config containerWidth).legend.map (·.actor) ++
        (ofValid spans theme config containerWidth).rows.flatMap fun r =>
          [r.node.id, r.node.label, r.label.text] := rfl
  have hrows := map_id_label_rows spans theme config containerWidth
  rw [htexts]
  constructor
  · rintro ⟨text, hmem, hc⟩
    rcases List.mem_append.mp hmem with hactor | hrow
    · obtain ⟨s, hs, rfl⟩ := List.mem_map.mp ((mem_actors_legend_iff ..).mp hactor)
      exact ⟨s.actor, List.mem_flatMap.mpr ⟨s, hs, by simp⟩, hc⟩
    · obtain ⟨r, hr, htext⟩ := List.mem_flatMap.mp hrow
      obtain ⟨s, hs, hpair⟩ := List.mem_map.mp (hrows ▸ List.mem_map_of_mem hr)
      obtain ⟨hid, hlabel⟩ := Prod.mk.inj hpair
      simp only [List.mem_cons, List.not_mem_nil, or_false] at htext
      rcases htext with rfl | rfl | rfl
      · exact ⟨s.id, List.mem_flatMap.mpr ⟨s, hs, by simp⟩, hid ▸ hc⟩
      · exact ⟨s.label, List.mem_flatMap.mpr ⟨s, hs, by simp⟩, hlabel ▸ hc⟩
      · -- The ellipsis of a cut label is allowed, so the character comes from the label itself.
        obtain ⟨hshown, hforbidden⟩ := Xml.mem_forbidden_iff.mp hc
        rcases mem_label_row spans theme config containerWidth hr hshown with hown | rfl
        · refine ⟨s.label, List.mem_flatMap.mpr ⟨s, hs, by simp⟩, ?_⟩
          exact hlabel ▸ Xml.mem_forbidden_iff.mpr ⟨hown, hforbidden⟩
        · exact absurd (by decide) hforbidden
  · rintro ⟨text, hmem, hc⟩
    obtain ⟨s, hs, htext⟩ := List.mem_flatMap.mp hmem
    obtain ⟨r, hr, hpair⟩ := List.mem_map.mp (hrows ▸ List.mem_map_of_mem hs)
    obtain ⟨hid, hlabel⟩ := Prod.mk.inj hpair
    simp only [List.mem_cons, List.not_mem_nil, or_false] at htext
    rcases htext with rfl | rfl | rfl
    · refine ⟨r.node.id, List.mem_append_right _ (List.mem_flatMap.mpr ⟨r, hr, by simp⟩), hid ▸ hc⟩
    · refine ⟨r.node.label, List.mem_append_right _ (List.mem_flatMap.mpr ⟨r, hr, by simp⟩), hlabel ▸ hc⟩
    · have hactor := (mem_actors_legend_iff spans theme config containerWidth).mpr (List.mem_map_of_mem hs)
      exact ⟨s.actor, List.mem_append_left _ hactor, hc⟩

end TraceLayout

/-! ## Main statement -/

/-- The texts of spans that their picture shows: ids, labels and actors of a trace, or the names in the
defect that is shown in place of one. -/
def shownTexts (spans : List Span) (policy : RootPolicy) : List String :=
  match validate spans policy with
  | .error d => d.names
  | .ok () => spans.flatMap fun s => [s.id, s.label, s.actor]

/-- A picture has the forbidden characters of the texts that it shows and no others. -/
theorem Config.mem_forbidden_draw_iff {config : Config} (htheme : config.theme.Allowed) (spans : List Span)
    {c : Char} : c ∈ forbidden (config.draw spans) ↔
      ∃ text ∈ shownTexts spans config.layout.rootPolicy, c ∈ forbidden text := by
  have hallowed := TraceLayout.allowed_computeOrError spans config.layout config.width htheme
  rw [draw, layOut, Picture.forbidden_renderSvg htheme hallowed, List.mem_flatMap]
  unfold shownTexts
  cases hvalid : validate spans config.layout.rootPolicy with
  | ok =>
    rw [TraceLayout.computeOrError_of_ok hvalid]
    exact TraceLayout.mem_forbidden_texts_ofValid_iff ..
  | error d =>
    rw [TraceLayout.computeOrError_of_error hvalid, ← List.mem_flatMap, ← List.mem_flatMap,
      ← TraceError.forbidden_message_defect]
    simp [Picture.texts, TraceLayout.ofMessage]

/-- **The picture of an accepted document is as allowed as its texts.** In a built-in theme it has just those
forbidden characters that the texts shown in it have; so all its characters are allowed exactly if all
characters of these texts are. -/
theorem allowed_renderTrace_iff {input : String} {spans : List Span} (config : Config) {name : String}
    (hspans : parseTrace input = .ok spans) (htheme : Theme.byName? name = some config.theme) :
    ∃ svg, renderTrace input config = .ok svg ∧
      (∀ c, ¬ Xml.IsChar c →
        (c ∈ svg.toList ↔ ∃ text ∈ shownTexts spans config.layout.rootPolicy, c ∈ text.toList)) ∧
      (Xml.Allowed svg ↔ ∀ text ∈ shownTexts spans config.layout.rootPolicy, Xml.Allowed text) := by
  have hmem : ∀ c, c ∈ forbidden (config.draw spans) ↔
      ∃ text ∈ shownTexts spans config.layout.rootPolicy, c ∈ forbidden text := fun c =>
    Config.mem_forbidden_draw_iff (Theme.allowed_of_byName? htheme) spans
  refine ⟨config.draw spans, ?_, ?_, ?_⟩
  · rw [renderTrace, hspans]
    rfl
  · intro c hc
    simpa only [Xml.mem_forbidden_iff, hc, not_false_eq_true, and_true] using hmem c
  · simp only [← Xml.forbidden_eq_nil_iff, List.eq_nil_iff_forall_not_mem, hmem, not_exists, not_and]
    exact ⟨fun h text ht c hc => h c text ht hc, fun h c text ht hc => h text ht c hc⟩

/-- A trace whose label looks like markup. -/
def markupLabel : String :=
  "[\x7b\"id\":\"a\",\"startTime\":0,\"endTime\":9,\"label\":\"<b> & c\"\x7d]"

def markupLabelSpans : List Span :=
  [{ id := "a", parentId := none, startTime := 0, endTime := 9, label := "<b> & c", actor := "" }]

theorem markupLabel_allowed :
    ∃ svg, renderTrace markupLabel { theme := .modern } = .ok svg ∧ Xml.Allowed svg := by
  have hspans : parseTrace markupLabel = .ok markupLabelSpans :=
    eq_ok_of_toOption_eq_some (by decide +kernel)
  have hshown : shownTexts markupLabelSpans .disconnected = ["a", "<b> & c", ""] := rfl
  obtain ⟨svg, hsvg, -, hallowed⟩ := allowed_renderTrace_iff { theme := .modern } hspans
    (show Theme.byName? "modern" = some .modern from rfl)
  exact ⟨svg, hsvg, hallowed.mpr (hshown ▸ by decide)⟩

/-- A trace whose label switches a terminal to bold. -/
def boldLabel : String :=
  "[\x7b\"id\":\"a\",\"startTime\":0,\"endTime\":9,\"label\":\"\\u001b[1mb\"\x7d]"

def boldLabelSpans : List Span :=
  [{ id := "a", parentId := none, startTime := 0, endTime := 9, label := "\x1b[1mb", actor := "" }]

/-- Its picture has the escape character of the label, which XML does not allow. -/
theorem boldLabel_not_allowed :
    parseTrace boldLabel = .ok boldLabelSpans ∧
      ∃ svg, renderTrace boldLabel { theme := .classic } = .ok svg ∧ '\x1b' ∈ svg.toList ∧
        ¬ Xml.IsChar '\x1b' ∧ ¬ Xml.Allowed svg := by
  have hspans : parseTrace boldLabel = .ok boldLabelSpans :=
    eq_ok_of_toOption_eq_some (by decide +kernel)
  have hshown : shownTexts boldLabelSpans .disconnected = ["a", "\x1b[1mb", ""] := rfl
  have hclassic : Theme.classic.Allowed :=
    Theme.allowed_of_byName? (show Theme.byName? "classic" = some .classic from rfl)
  have hmem : '\x1b' ∈ forbidden (Config.draw { theme := .classic } boldLabelSpans) := by
    rw [Config.mem_forbidden_draw_iff hclassic]
    exact ⟨"\x1b[1mb", hshown ▸ by decide, by decide⟩
  obtain ⟨hsvg, hforbidden⟩ := Xml.mem_forbidden_iff.mp hmem
  refine ⟨hspans, Config.draw { theme := .classic } boldLabelSpans, ?_, hsvg, hforbidden, ?_⟩
  · rw [renderTrace, hspans]
    rfl
  · intro hallowed
    exact hforbidden (hallowed _ hsvg)

end Waterfall
