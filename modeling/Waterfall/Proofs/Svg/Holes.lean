import Waterfall.Proofs.Svg.Document

/-!
# The holes of a picture

Styles reach the text of a picture through its holes only. So what a style can change is told by the list
of holes, and for the picture of a layout that list is read off the layout (`holes_ofLayout`): one entry
for each styled element, in the order of the document, with the colour and the error flag of its chip or
row where it has one.

Each hole stands in the tag of an element of its kind (`Tagged`), after the attributes that no style has a
part in.
-/

namespace Waterfall

namespace Picture

/-- The style that a piece asks for. -/
def hole? : PicturePiece → Option (ElementKind × StyleContext)
  | .literal _ => none
  | .hole kind ctx => some (kind, ctx)

/-- The styles that a picture asks for, in order. -/
def holes (p : Picture) : List (ElementKind × StyleContext) := p.filterMap hole?

@[simp] theorem holes_nil : holes [] = [] := rfl

@[simp] theorem holes_literal_cons (text : String) (p : Picture) :
    holes (.literal text :: p) = holes p := rfl

@[simp] theorem holes_hole_cons (kind : ElementKind) (ctx : StyleContext) (p : Picture) :
    holes (.hole kind ctx :: p) = (kind, ctx) :: holes p := rfl

@[simp] theorem holes_append (p q : Picture) : holes (p ++ q) = holes p ++ holes q :=
  List.filterMap_append

@[simp] theorem holes_flatMap {α : Type} (items : List α) (f : α → Picture) :
    holes (items.flatMap f) = items.flatMap fun a => holes (f a) := by
  induction items with
  | nil => rfl
  | cons a rest ih => rw [List.flatMap_cons, holes_append, ih, List.flatMap_cons]

theorem mem_holes_iff {p : Picture} {kind : ElementKind} {ctx : StyleContext} :
    (kind, ctx) ∈ p.holes ↔ .hole kind ctx ∈ p := by
  rw [holes, List.mem_filterMap]
  constructor
  · rintro ⟨piece, hpiece, hhole⟩
    cases piece with
    | literal text => cases hhole
    | hole other ctx' =>
      obtain ⟨rfl, rfl⟩ := Prod.mk.inj (Option.some.inj hhole)
      exact hpiece
  · exact fun h => ⟨_, h, rfl⟩

/-! ## Replacing a style -/

section Replace

variable (styles : StyleResolvers) {kind : ElementKind} (r : StyleResolver)

theorem fill_replace_self (ctx : StyleContext) :
    fill (styles.replace kind r) (.hole kind ctx) = (r ctx).toSvg := by
  rw [fill, StyleResolvers.resolve_replace_self]

/-- A piece is filled as before unless it is a hole of that kind. -/
theorem fill_replace_of_ne {piece : PicturePiece} (h : ∀ ctx, piece ≠ .hole kind ctx) :
    fill (styles.replace kind r) piece = fill styles piece := by
  cases piece with
  | literal text => rfl
  | hole other ctx =>
    have hother : other ≠ kind := fun heq => h ctx (heq ▸ rfl)
    rw [fill, StyleResolvers.resolve_replace_of_ne r ctx hother, fill]

/-- A style that no element asks for has no part in the text. -/
theorem render_replace_of_notMem {p : Picture} (h : ∀ ctx, (kind, ctx) ∉ p.holes) :
    p.render (styles.replace kind r) = p.render styles := by
  refine congrArg String.join (List.map_congr_left fun piece hpiece => ?_)
  exact fill_replace_of_ne styles r fun ctx heq => h ctx (mem_holes_iff.mpr (heq ▸ hpiece))

theorem length_render_cons (piece : PicturePiece) (p : Picture) :
    (render styles (piece :: p)).length = (fill styles piece).length + (render styles p).length := by
  simp [render]

/-- The text of a picture is at least as long as that of each of its pieces. -/
theorem length_fill_le {p : Picture} {piece : PicturePiece} (h : piece ∈ p) :
    (fill styles piece).length ≤ (p.render styles).length := by
  induction p with
  | nil => cases h
  | cons first rest ih =>
    rw [length_render_cons]
    rcases List.mem_cons.mp h with rfl | hrest
    · omega
    · have := ih hrest
      omega

theorem length_lt_length_toSvg_fill (text : String) :
    text.length < ({ fill := some text } : StyleAttributes).toSvg.length := by
  have htext : ({ fill := some text } : StyleAttributes).toSvg = " fill=\"" ++ text ++ "\"" := by
    simp [StyleAttributes.toSvg, StyleAttributes.toList, StyleAttributes.inTag]
  have hquote : "\"".length = 1 := rfl
  rw [htext, String.length_append, String.length_append, hquote]
  omega

/-- A style that an element asks for can change the text: a long colour makes it longer. -/
theorem exists_render_replace_ne {p : Picture} {ctx : StyleContext} (h : (kind, ctx) ∈ p.holes) :
    ∃ r, p.render (styles.replace kind r) ≠ p.render styles := by
  -- With the whole old text as its colour, the element alone is longer than that text.
  refine ⟨fun _ => { fill := some (p.render styles) }, fun heq => ?_⟩
  have hlong := length_fill_le (styles.replace kind fun _ => { fill := some (p.render styles) })
    (mem_holes_iff.mp h)
  rw [fill_replace_self, heq] at hlong
  have := length_lt_length_toSvg_fill (p.render styles)
  omega

end Replace

/-! ## Tags -/

end Picture

/-- How the tags of the elements of a kind begin. -/
def ElementKind.tags : ElementKind → List String
  | .bar => ["<rect class=\"bar\" "]
  | .hitArea => ["<rect class=\"hit\" "]
  | .label => ["<text "]
  | .connector => ["<path class=\"connector\" "]
  | .axisLine => ["<path ", "<line "]
  | .axisTick => ["<text "]
  | .legendChip => ["<rect "]
  | .legendLabel => ["<text "]
  | .diagnostic => ["<text class=\"diagnostic\" "]

/-- The text begins with a tag of an element of that kind. -/
def ElementKind.Opens (kind : ElementKind) (text : String) : Prop :=
  ∃ tag ∈ kind.tags, tag.toList <+: text.toList

instance (kind : ElementKind) (text : String) : Decidable (kind.Opens text) :=
  inferInstanceAs (Decidable (∃ tag ∈ kind.tags, tag.toList <+: text.toList))

theorem ElementKind.Opens.append {kind : ElementKind} {text : String} (h : kind.Opens text) (rest : String) :
    kind.Opens (text ++ rest) := by
  obtain ⟨tag, htag, hopens⟩ := h
  exact ⟨tag, htag, by rw [String.toList_append]; exact hopens.trans (List.prefix_append ..)⟩

namespace Picture

/-- After a text, if there is one, each hole follows the tag of an element of its kind. -/
def TaggedAfter : Option String → Picture → Prop
  | _, [] => True
  | _, .literal text :: rest => TaggedAfter (some text) rest
  | last, .hole kind _ :: rest => (∃ text ∈ last, kind.Opens text) ∧ TaggedAfter none rest

/-- Each hole follows the tag of an element of its kind. -/
def Tagged (p : Picture) : Prop := TaggedAfter none p

theorem TaggedAfter.of_none {p : Picture} (h : TaggedAfter none p) (last : Option String) :
    TaggedAfter last p := by
  cases p with
  | nil => trivial
  | cons piece rest =>
    cases piece with
    | literal text => exact h
    | hole kind ctx =>
      obtain ⟨⟨text, hnone, -⟩, -⟩ := h
      cases hnone

theorem TaggedAfter.append {last : Option String} {p q : Picture} (hp : TaggedAfter last p) (hq : q.Tagged) :
    TaggedAfter last (p ++ q) := by
  induction p generalizing last with
  | nil => exact TaggedAfter.of_none hq last
  | cons piece rest ih =>
    cases piece with
    | literal text => exact @ih (some text) hp
    | hole kind ctx => exact ⟨hp.1, ih hp.2⟩

theorem Tagged.append {p q : Picture} (hp : p.Tagged) (hq : q.Tagged) : (p ++ q).Tagged :=
  TaggedAfter.append hp hq

theorem tagged_flatMap {α : Type} (items : List α) {f : α → Picture} (h : ∀ a, (f a).Tagged) :
    Tagged (items.flatMap f) := by
  induction items with
  | nil => trivial
  | cons a rest ih => exact (h a).append ih

theorem tagged_nil : Tagged [] := trivial

theorem tagged_literal_cons {text : String} {p : Picture} (hp : p.Tagged) : Tagged (.literal text :: p) :=
  TaggedAfter.of_none hp (some text)

theorem tagged_literal (text : String) : Tagged [.literal text] := tagged_literal_cons tagged_nil

/-- A hole with the tag that it stands in. -/
theorem tagged_element {kind : ElementKind} {ctx : StyleContext} {text : String} {p : Picture}
    (h : kind.Opens text) (hp : p.Tagged) : Tagged (.literal text :: .hole kind ctx :: p) :=
  ⟨⟨text, rfl, h⟩, hp⟩

end Picture

/-! ## The styled elements of a layout -/

open Picture (plain colored)

/-- The box of a chip and its text. -/
def Chip.styledElements (theme : Theme) (c : Chip) : List (ElementKind × StyleContext) :=
  [(.legendChip, colored theme c.color false), (.legendLabel, colored theme c.color false)]

/-- A tick mark, which has the style of the axis, and its label. -/
def Tick.styledElements (theme : Theme) (_ : Tick) : List (ElementKind × StyleContext) :=
  [(.axisLine, plain theme), (.axisTick, plain theme)]

/-- The bar of a row, the area that reacts to the pointer, and the label if there is any. -/
def Row.styledElements (theme : Theme) (r : Row) : List (ElementKind × StyleContext) :=
  [(.bar, colored theme r.color r.node.isError), (.hitArea, colored theme r.color r.node.isError)] ++
    if r.label.text.isEmpty then [] else [(.label, colored theme r.color r.node.isError)]

/-- The styled elements of a layout in the order of the document, with what they are styled from. -/
def TraceLayout.styledElements (theme : Theme) (l : TraceLayout) : List (ElementKind × StyleContext) :=
  match l.error with
  | some _ => [(.diagnostic, plain theme)]
  | none =>
    l.legend.flatMap (Chip.styledElements theme) ++
    (if l.axis.isSome then (.axisLine, plain theme) :: l.ticks.flatMap (Tick.styledElements theme) else []) ++
    l.rows.flatMap (Row.styledElements theme) ++
    l.connectors.map fun _ => (.connector, plain theme)

namespace Picture

section Parts

variable (theme : Theme)

theorem holes_chip (c : Chip) : (chip theme c).holes = c.styledElements theme := rfl

theorem holes_legend (chips : List Chip) :
    (legend theme chips).holes = chips.flatMap (Chip.styledElements theme) := by
  simp [legend, holes_chip]

theorem holes_tick (length : Float32) (t : Tick) :
    (tick theme length t).holes = t.styledElements theme := rfl

theorem holes_axis (config : LayoutConfig) (l : TraceLayout) (a : Axis) :
    (axis theme config l a).holes = (.axisLine, plain theme) :: l.ticks.flatMap (Tick.styledElements theme) := by
  simp [axis, holes_tick]

theorem holes_rowLabel (ctx : StyleContext) (label : RowLabel) :
    (rowLabel ctx label).holes = if label.text.isEmpty then [] else [(.label, ctx)] := by
  unfold rowLabel
  split <;> rfl

theorem holes_row (hitWidth : Float32) (r : Row) :
    (row theme hitWidth r).holes = r.styledElements theme := by
  simp [row, holes_rowLabel, Row.styledElements]

theorem holes_chart (l : TraceLayout) : (chart theme l).holes =
    l.rows.flatMap (Row.styledElements theme) ++ l.connectors.map fun _ => (.connector, plain theme) := by
  simp [chart, holes_row, connector, ← List.map_eq_flatMap]

/-- The holes of the picture of a layout are its styled elements. -/
theorem holes_ofLayout (l : TraceLayout) (config : LayoutConfig) :
    (ofLayout l theme config).holes = l.styledElements theme := by
  have hcontent : (content theme config l).holes = l.styledElements theme := by
    unfold content TraceLayout.styledElements
    cases l.error with
    | some e => rfl
    | none =>
      cases l.axis <;> simp [arrowhead, holes_legend, holes_axis, holes_chart]
  rw [ofLayout_eq, holes_append, holes_append, hcontent]
  simp [opening, closing]

theorem tagged_diagnostic (e : ErrorPanel) : (diagnostic theme e).Tagged := by
  refine tagged_element ?_ (tagged_literal _)
  repeat apply ElementKind.Opens.append
  decide

theorem tagged_chip (c : Chip) : (chip theme c).Tagged := by
  refine tagged_element ?_ (tagged_literal_cons (tagged_element ?_ (tagged_literal _)))
  all_goals
    repeat apply ElementKind.Opens.append
    decide

theorem tagged_legend (chips : List Chip) : (legend theme chips).Tagged :=
  (tagged_literal_cons (tagged_flatMap chips (tagged_chip theme))).append (tagged_literal _)

theorem tagged_tick (length : Float32) (t : Tick) : (tick theme length t).Tagged := by
  refine tagged_element ?_ (tagged_literal_cons (tagged_element ?_ (tagged_literal _)))
  all_goals
    repeat apply ElementKind.Opens.append
    decide

theorem tagged_axis (config : LayoutConfig) (l : TraceLayout) (a : Axis) : (axis theme config l a).Tagged := by
  refine (Tagged.append (tagged_literal_cons (tagged_element ?_ (tagged_literal _)))
    (tagged_flatMap l.ticks (tagged_tick theme _))).append (tagged_literal _)
  repeat apply ElementKind.Opens.append
  decide

theorem tagged_rowLabel (ctx : StyleContext) (label : RowLabel) : (rowLabel ctx label).Tagged := by
  unfold rowLabel
  split
  · exact tagged_nil
  · refine tagged_element ?_ (tagged_literal _)
    repeat apply ElementKind.Opens.append
    decide

theorem tagged_row (hitWidth : Float32) (r : Row) : (row theme hitWidth r).Tagged := by
  refine (Tagged.append (tagged_literal_cons (tagged_element ?_ (tagged_literal_cons (tagged_element ?_
    (tagged_literal _))))) (tagged_rowLabel _ r.label)).append (tagged_literal _)
  all_goals
    repeat apply ElementKind.Opens.append
    decide

theorem tagged_connector (c : Connector) : (connector theme c).Tagged := by
  refine tagged_element ?_ (tagged_literal _)
  repeat apply ElementKind.Opens.append
  decide

theorem tagged_chart (l : TraceLayout) : (chart theme l).Tagged :=
  ((tagged_literal_cons (tagged_flatMap l.rows (tagged_row theme _))).append
    (tagged_flatMap l.connectors (tagged_connector theme))).append (tagged_literal _)

theorem tagged_arrowhead : (arrowhead theme).Tagged :=
  tagged_literal_cons (tagged_literal_cons (tagged_literal _))

theorem tagged_ofLayout (l : TraceLayout) (config : LayoutConfig) : (ofLayout l theme config).Tagged := by
  have hcontent : (content theme config l).Tagged := by
    unfold content
    cases l.error with
    | some e => exact tagged_diagnostic theme e
    | none =>
      have haxis : Tagged ((l.axis.map (axis theme config l)).getD []) := by
        cases l.axis with
        | none => exact tagged_nil
        | some a => exact tagged_axis theme config l a
      exact (((tagged_arrowhead theme).append (tagged_legend theme l.legend)).append haxis).append
        (tagged_chart theme l)
  exact (Tagged.append (tagged_literal_cons (tagged_literal _)) hcontent).append (tagged_literal _)

end Parts

end Picture

/-! ## Main statement -/

namespace TraceLayout

/-- The chart has no element that is styled as a message. -/
theorem kind_ne_diagnostic (theme : Theme) {l : TraceLayout} (h : l.error = none) :
    ∀ x ∈ l.styledElements theme, x.1 ≠ .diagnostic := by
  simp only [styledElements, h, List.forall_mem_append, List.forall_mem_flatMap, List.forall_mem_map]
  refine ⟨⟨⟨fun c _ => by simp [Chip.styledElements], ?_⟩, fun r _ => ?_⟩, fun _ _ => by simp⟩
  · split
    · rw [List.forall_mem_cons, List.forall_mem_flatMap]
      exact ⟨by simp, fun t _ => by simp [Tick.styledElements]⟩
    · simp
  · unfold Row.styledElements
    split <;> simp

/-- The bars are styled row by row. -/
theorem filter_bar_styledElements (theme : Theme) {l : TraceLayout} (h : l.error = none) :
    (l.styledElements theme).filter (·.1 = .bar) =
      l.rows.map fun r => (.bar, colored theme r.color r.node.isError) := by
  have hrow : ∀ r, (Row.styledElements theme r).filter (·.1 = .bar) =
      [(.bar, colored theme r.color r.node.isError)] := by
    intro r
    unfold Row.styledElements
    split <;> rfl
  have hlegend : (l.legend.flatMap (Chip.styledElements theme)).filter (·.1 = .bar) = [] := by
    rw [List.filter_flatMap]
    exact List.flatMap_eq_nil_iff.mpr fun _ _ => rfl
  have hticks : (l.ticks.flatMap (Tick.styledElements theme)).filter (·.1 = .bar) = [] := by
    rw [List.filter_flatMap]
    exact List.flatMap_eq_nil_iff.mpr fun _ _ => rfl
  simp only [styledElements, h, List.filter_append, hlegend]
  split <;> simp [hticks, List.filter_flatMap, hrow, ← List.map_eq_flatMap]

end TraceLayout

namespace Picture

/-- The texts of the layout in all styles are that of one picture, whose holes are the styled elements. -/
structure DrawsStyled (p : Picture) (l : TraceLayout) (theme : Theme) (config : LayoutConfig) : Prop where
  text : ∀ styles, renderSvgWith styles l theme config = p.render styles
  holes : p.holes = l.styledElements theme
  tagged : p.Tagged
  own : ∀ (styles : StyleResolvers) (kind : ElementKind) (r : StyleResolver) (ctx : StyleContext),
    fill (styles.replace kind r) (.hole kind ctx) = (r ctx).toSvg
  others : ∀ (styles : StyleResolvers) (kind : ElementKind) (r : StyleResolver), ∀ piece ∈ p,
    (∀ ctx, piece ≠ .hole kind ctx) → fill (styles.replace kind r) piece = fill styles piece
  /-- The style of a kind has a part in the text exactly if an element of that kind is drawn. -/
  unchanged_iff : ∀ kind, (∀ (styles : StyleResolvers) (r : StyleResolver),
    renderSvgWith (styles.replace kind r) l theme config = renderSvgWith styles l theme config) ↔
      ∀ ctx, (kind, ctx) ∉ l.styledElements theme
  panel : l.error.isSome → ∀ (styles : StyleResolvers) (kind : ElementKind) (r : StyleResolver),
    kind ≠ .diagnostic →
      renderSvgWith (styles.replace kind r) l theme config = renderSvgWith styles l theme config
  chart : l.error = none → ∀ (styles : StyleResolvers) (r : StyleResolver),
    renderSvgWith (styles.replace .diagnostic r) l theme config = renderSvgWith styles l theme config
  bars : l.error = none → p.holes.filter (·.1 = .bar) =
    l.rows.map fun r => (.bar, colored theme r.color r.node.isError)

/-- **Styles fill holes and change nothing else.** For every layout there is one picture whose holes are the
styled elements of the layout, each in the tag of an element of its kind, and whose literal text is the same
in all styles. Replacing the style of one kind fills the holes of that kind anew and leaves all other pieces
as they were: in an error panel nothing changes but with the style of the message, in a chart nothing with
it, and the bars are styled by the colour and the error flag of their own rows. -/
theorem exists_drawsStyled (l : TraceLayout) (theme : Theme) (config : LayoutConfig) :
    ∃ p : Picture, p.DrawsStyled l theme config := by
  have hholes := holes_ofLayout theme l config
  have hkept : ∀ styles kind r, (∀ ctx, (kind, ctx) ∉ l.styledElements theme) →
      renderSvgWith (styles.replace kind r) l theme config = renderSvgWith styles l theme config := by
    intro styles kind r h
    exact render_replace_of_notMem styles r fun ctx => by rw [hholes]; exact h ctx
  refine ⟨ofLayout l theme config, fun _ => rfl, hholes, tagged_ofLayout theme l config,
    fun styles kind r ctx => fill_replace_self styles r ctx,
    fun styles kind r piece _ h => fill_replace_of_ne styles r h, fun kind => ⟨?_, ?_⟩, ?_, ?_, ?_⟩
  · intro hsame ctx hdrawn
    obtain ⟨r, hr⟩ := exists_render_replace_ne .standard (hholes ▸ hdrawn)
    exact hr (hsame .standard r)
  · exact fun h styles r => hkept styles kind r h
  · intro herror styles kind r hkind
    refine hkept styles kind r fun ctx hdrawn => ?_
    obtain ⟨e, he⟩ := Option.isSome_iff_exists.mp herror
    simp [TraceLayout.styledElements, he, hkind] at hdrawn
  · intro herror styles r
    exact hkept styles .diagnostic r fun ctx hdrawn => TraceLayout.kind_ne_diagnostic theme herror _ hdrawn rfl
  · intro herror
    rw [hholes]
    exact TraceLayout.filter_bar_styledElements theme herror

end Picture

end Waterfall
