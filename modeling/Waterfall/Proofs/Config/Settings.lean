import Waterfall.Config.Overlay
import Waterfall.Proofs.Decode.Forms

/-!
# Settings one by one

A settings file is laid over the defaults setting by setting. `Setting.all` lists the settings with the
key that gives each, how what is given is read, and where in the result it goes; `SetFrom` says that each is
what its own key gives, or else what it is in the theme that the file names.

A record is read field by field (`Fields.From`) and applied field by field. What is left is that a file
reaches the settings of the theme and of the layout through a record inside a record, and that the theme
is replaced before its settings are.
-/

namespace Waterfall

open Json5

/-! ## What a file gives -/

/-- What an object has under one of the names, or a list at the place. -/
def Json5.under? (names : List String) (place : Nat) : Json5 → Option Json5
  | .object members => Fields.memberOf? textOf members names
  | .list items => items[place]?
  | _ => none

def Json5.isNull : Json5 → Bool
  | .null => true
  | _ => false

/-- What is found there, unless it is null. -/
def Json5.given? (tree : Json5) (names : List String) (place : Nat) : Option Json5 :=
  (tree.under? names place).filter fun v => !v.isNull

/-- The part of a file where a setting stands. -/
inductive SettingsPart where
  | whole
  | theme
  | layout
  deriving DecidableEq

/-- The part of a file, if it has it; that of the layout goes by two names. -/
def SettingsPart.of? (tree : Json5) : SettingsPart → Option Json5
  | .whole => some tree
  | .theme => tree.given? ["themeVariables"] 1
  | .layout => tree.given? ["layout", "traceStack"] 2

/-- A setting: its key in the file and the part of the result that it decides. -/
structure Setting (α : Type) where
  part : SettingsPart
  name : String
  /-- Where it stands if its part is a list. -/
  place : Nat
  read : Json5Decoder α
  get : Config → α
  /-- A value that does not count is as good as none. -/
  counts : α → Bool := fun _ => true

namespace Setting

variable {α : Type}

/-- What a file gives for a setting. -/
def given? (s : Setting α) (tree : Json5) : Option Json5 :=
  (s.part.of? tree).bind (·.given? [s.name] s.place)

/-- The value that is given, if it can be read. -/
def value? (s : Setting α) (tree : Json5) : Option α :=
  (s.given? tree).bind fun v => (s.read v).toOption

/-- A setting of the theme. -/
def ofTheme (name : String) (place : Nat) (read : Json5Decoder α) (get : Theme → α) : Setting α where
  part := .theme
  name
  place
  read
  get config := get config.theme

/-- A setting of the layout. -/
def ofLayout (name : String) (place : Nat) (read : Json5Decoder α) (get : LayoutConfig → α) :
    Setting α where
  part := .layout
  name
  place
  read
  get config := get config.layout

/-- All settings. -/
def all : List (Σ α : Type, Setting α) := [
  ⟨_, ofTheme "fontFamily" 0 asText Theme.fontFamily⟩,
  ⟨_, ofTheme "fontSize" 1 asSingle Theme.fontSize⟩,
  ⟨_, ofTheme "textColor" 2 asText Theme.textColor⟩,
  ⟨_, ofTheme "lineColor" 3 asText Theme.lineColor⟩,
  ⟨_, ofTheme "axisColor" 4 asText Theme.axisColor⟩,
  ⟨_, ofTheme "background" 5 asText Theme.background⟩,
  ⟨_, ofTheme "errorBorderColor" 6 asText Theme.errorBorderColor⟩,
  ⟨_, ofTheme "legendTextColor" 7 asText Theme.legendTextColor⟩,
  ⟨_, { ofTheme "palette" 8 (asList asText) Theme.palette with counts := fun colors => !colors.isEmpty }⟩,
  ⟨_, ofLayout "rowHeight" 0 asSingle LayoutConfig.rowHeight⟩,
  ⟨_, ofLayout "barMargin" 1 asSingle LayoutConfig.barMargin⟩,
  ⟨_, ofLayout "connectorThreshold" 2 asSingle LayoutConfig.connectorThreshold⟩,
  ⟨_, ofLayout "doglegOffsetX" 3 asSingle LayoutConfig.doglegOffsetX⟩,
  ⟨_, ofLayout "doglegOffsetY" 4 asSingle LayoutConfig.doglegOffsetY⟩,
  ⟨_, ofLayout "axisHeight" 5 asSingle LayoutConfig.axisHeight⟩,
  ⟨_, ofLayout "axisTicks" 6 asUnsigned LayoutConfig.axisTicks⟩,
  ⟨_, ofLayout "labelOffsetX" 7 asSingle LayoutConfig.labelOffsetX⟩,
  ⟨_, ofLayout "labelCharWidth" 8 asSingle LayoutConfig.labelCharWidth⟩,
  ⟨_, ofLayout "legendHeight" 9 asSingle LayoutConfig.legendHeight⟩,
  ⟨_, ofLayout "legendChipPadding" 10 asSingle LayoutConfig.legendChipPadding⟩,
  ⟨_, ofLayout "legendGap" 11 asSingle LayoutConfig.legendGap⟩,
  ⟨_, ofLayout "containerPadding" 12 asSingle LayoutConfig.containerPadding⟩,
  ⟨_, ofLayout "rootPolicy" 13 (asVariant RootPolicy.known) LayoutConfig.rootPolicy⟩,
  ⟨_, { part := .whole, name := "width", place := 3, read := asSingle, get := Config.width }⟩]

end Setting

/-- The settings that a named theme and the defaults amount to; any other name is as good as none. -/
def Config.named (name : Option String) : Config where
  theme := if name = some "modern" then .modern else .classic

/-- What a setting is when nothing is given for it. Only the theme has settings that depend on a name. -/
def Setting.base {α : Type} (s : Setting α) (name : Option String) : α :=
  s.get (if s.part = .theme then .named name else {})

/-- The name of the theme that a file asks for. -/
def themeName? (tree : Json5) : Option String :=
  (tree.given? ["theme"] 0).bind fun v => (asText v).toOption

/-! ## Reading what is given -/

/-- What is given is read, and nothing comes of nothing. -/
def ReadsGiven {α : Type} (read : Json5Decoder α) (given : Option Json5) (v : Option α) : Prop :=
  match given with
  | none => v = none
  | some node => ∃ a, read node = .ok a ∧ v = some a

namespace ReadsGiven

variable {α β : Type} {read : Json5Decoder α} {given : Option Json5} {v : Option α}

theorem none_iff : ReadsGiven read none v ↔ v = none :=
  Iff.rfl

theorem some_iff {node : Json5} : ReadsGiven read (some node) v ↔ ∃ a, read node = .ok a ∧ v = some a :=
  Iff.rfl

theorem value_eq (h : ReadsGiven read given v) : (given.bind fun node => (read node).toOption) = v := by
  cases given with
  | none => exact h.symm
  | some node =>
    obtain ⟨a, hread, rfl⟩ := h
    simp [hread, Except.toOption]

theorem readable (h : ReadsGiven read given v) {node : Json5} (hnode : given = some node) :
    ∃ a, read node = .ok a := by
  subst hnode
  obtain ⟨a, hread, -⟩ := h
  exact ⟨a, hread⟩

/-- A field of a record inside a record. -/
theorem nested {inner : Json5Decoder β} {find : Json5 → Option Json5} {said : α → Option β}
    (h : ReadsGiven read given v)
    (hfield : ∀ node a, read node = .ok a → ReadsGiven inner (find node) (said a)) :
    ReadsGiven inner (given.bind find) (v.bind said) := by
  cases given with
  | none =>
    cases h
    rfl
  | some node =>
    obtain ⟨a, hread, rfl⟩ := h
    exact hfield node a hread

end ReadsGiven

theorem asOptional_of_isNull {α : Type} (read : Json5Decoder α) {node : Json5} (h : node.isNull = true) :
    asOptional read node = .ok none := by
  cases node with
  | null => rfl
  | flag _ | number _ | text _ | list _ | object _ => cases h

theorem asOptional_of_not_isNull {α : Type} (read : Json5Decoder α) {node : Json5}
    (h : node.isNull = false) : asOptional read node = (read node).map some := by
  cases node with
  | null => cases h
  | flag _ | number _ | text _ | list _ | object _ => rfl

/-- A field that may be null takes what is given unless it is null. -/
theorem maybe_of_iff {α : Type} {name : String} {read : Json5Decoder α} {found : Option Json5}
    {v : Option α} :
    (maybe name read).Of found v ↔ ReadsGiven read (found.filter fun node => !node.isNull) v := by
  cases found with
  | none =>
    change some none = some v ↔ v = none
    simp [eq_comm]
  | some node =>
    change asOptional read node = .ok v ↔ _
    cases hnull : node.isNull with
    | true =>
      rw [asOptional_of_isNull read hnull, Option.filter_some_neg (by simp [hnull]), ReadsGiven.none_iff]
      simp [eq_comm]
    | false =>
      rw [asOptional_of_not_isNull read hnull, Option.filter_some_pos (by simp [hnull]), ReadsGiven.some_iff,
        map_eq_ok_iff]
      simp [eq_comm]

/-- **A record is read field by field**, be it an object or a list. -/
theorem from_of_asRecord_eq_ok {ts : List Type} {fs : Fields Json5Decoder ts} (hnames : fs.allNames.Nodup)
    {title : String} {tree : Json5} {vs : Values ts} (h : asRecord title fs tree = .ok vs) :
    fs.From (fun names place => tree.under? names place) 0 vs := by
  cases tree with
  | object members => exact Fields.from_of_ofMembers_eq_ok hnames h
  | list items =>
    obtain ⟨⟨ws, left⟩, hitems, rfl⟩ := map_eq_ok_iff.mp h
    exact Fields.from_of_ofItems_eq_ok (fun _ i => by simp [under?]) hitems
  | null | flag _ | number _ | text _ =>
    obtain ⟨_, _, h⟩ := bind_eq_ok_iff.mp h
    cases h

/-- What is said of each theme setting is what its key gives. -/
structure ThemeOverlay.ReadFrom (tree : Json5) (o : ThemeOverlay) : Prop where
  fontFamily : ReadsGiven asText (tree.given? ["fontFamily"] 0) o.fontFamily
  fontSize : ReadsGiven asSingle (tree.given? ["fontSize"] 1) o.fontSize
  textColor : ReadsGiven asText (tree.given? ["textColor"] 2) o.textColor
  lineColor : ReadsGiven asText (tree.given? ["lineColor"] 3) o.lineColor
  axisColor : ReadsGiven asText (tree.given? ["axisColor"] 4) o.axisColor
  background : ReadsGiven asText (tree.given? ["background"] 5) o.background
  errorBorderColor : ReadsGiven asText (tree.given? ["errorBorderColor"] 6) o.errorBorderColor
  legendTextColor : ReadsGiven asText (tree.given? ["legendTextColor"] 7) o.legendTextColor
  palette : ReadsGiven (asList asText) (tree.given? ["palette"] 8) o.palette

theorem ThemeOverlay.readFrom {tree : Json5} {o : ThemeOverlay} (h : ofJson5 tree = .ok o) :
    ReadFrom tree o := by
  obtain ⟨vs, hrecord, heq⟩ := bind_eq_ok_iff.mp h
  obtain rfl := Except.ok.inj heq
  have hfields := from_of_asRecord_eq_ok (by decide) hrecord
  simp only [Fields.From, maybe_of_iff] at hfields
  obtain ⟨h₁, h₂, h₃, h₄, h₅, h₆, h₇, h₈, h₉, -⟩ := hfields
  exact ⟨h₁, h₂, h₃, h₄, h₅, h₆, h₇, h₈, h₉⟩

/-- What is said of each layout setting is what its key gives. -/
structure LayoutOverlay.ReadFrom (tree : Json5) (o : LayoutOverlay) : Prop where
  rowHeight : ReadsGiven asSingle (tree.given? ["rowHeight"] 0) o.rowHeight
  barMargin : ReadsGiven asSingle (tree.given? ["barMargin"] 1) o.barMargin
  connectorThreshold : ReadsGiven asSingle (tree.given? ["connectorThreshold"] 2) o.connectorThreshold
  doglegOffsetX : ReadsGiven asSingle (tree.given? ["doglegOffsetX"] 3) o.doglegOffsetX
  doglegOffsetY : ReadsGiven asSingle (tree.given? ["doglegOffsetY"] 4) o.doglegOffsetY
  axisHeight : ReadsGiven asSingle (tree.given? ["axisHeight"] 5) o.axisHeight
  axisTicks : ReadsGiven asUnsigned (tree.given? ["axisTicks"] 6) o.axisTicks
  labelOffsetX : ReadsGiven asSingle (tree.given? ["labelOffsetX"] 7) o.labelOffsetX
  labelCharWidth : ReadsGiven asSingle (tree.given? ["labelCharWidth"] 8) o.labelCharWidth
  legendHeight : ReadsGiven asSingle (tree.given? ["legendHeight"] 9) o.legendHeight
  legendChipPadding : ReadsGiven asSingle (tree.given? ["legendChipPadding"] 10) o.legendChipPadding
  legendGap : ReadsGiven asSingle (tree.given? ["legendGap"] 11) o.legendGap
  containerPadding : ReadsGiven asSingle (tree.given? ["containerPadding"] 12) o.containerPadding
  rootPolicy : ReadsGiven (asVariant RootPolicy.known) (tree.given? ["rootPolicy"] 13) o.rootPolicy

theorem LayoutOverlay.readFrom {tree : Json5} {o : LayoutOverlay} (h : ofJson5 tree = .ok o) :
    ReadFrom tree o := by
  obtain ⟨vs, hrecord, heq⟩ := bind_eq_ok_iff.mp h
  obtain rfl := Except.ok.inj heq
  have hfields := from_of_asRecord_eq_ok (by decide) hrecord
  simp only [Fields.From, maybe_of_iff] at hfields
  obtain ⟨h₁, h₂, h₃, h₄, h₅, h₆, h₇, h₈, h₉, h₁₀, h₁₁, h₁₂, h₁₃, h₁₄, -⟩ := hfields
  exact ⟨h₁, h₂, h₃, h₄, h₅, h₆, h₇, h₈, h₉, h₁₀, h₁₁, h₁₂, h₁₃, h₁₄⟩

theorem ConfigOverlay.reads {tree : Json5} {o : ConfigOverlay} (h : ofJson5 tree = .ok o) :
    ReadsGiven asText (tree.given? ["theme"] 0) o.theme ∧
    ReadsGiven ThemeOverlay.ofJson5 (tree.given? ["themeVariables"] 1) o.themeVariables ∧
    ReadsGiven LayoutOverlay.ofJson5 (tree.given? ["layout", "traceStack"] 2) o.layout ∧
    ReadsGiven asSingle (tree.given? ["width"] 3) o.width := by
  obtain ⟨vs, hrecord, heq⟩ := bind_eq_ok_iff.mp h
  obtain rfl := Except.ok.inj heq
  have hfields := from_of_asRecord_eq_ok (by decide) hrecord
  obtain ⟨htheme, hvariables, hlayout, hwidth, -⟩ := hfields
  -- The layout is an optional field like the others but for its second name.
  have hlayout : (maybe "layout" LayoutOverlay.ofJson5).Of
      (tree.under? ["layout", "traceStack"] 2) _ := hlayout
  exact ⟨maybe_of_iff.mp htheme, maybe_of_iff.mp hvariables, maybe_of_iff.mp hlayout,
    maybe_of_iff.mp hwidth⟩

/-! ## Applying what was read -/

theorem ConfigOverlay.baseTheme_classic (o : ConfigOverlay) :
    o.baseTheme .classic = (Config.named o.theme).theme := by
  unfold baseTheme Config.named
  cases o.theme with
  | none => rfl
  | some name =>
    by_cases hclassic : name = "classic" ∨ name = "default"
    · rcases hclassic with rfl | rfl <;> rfl
    · by_cases hmodern : name = "modern" <;> simp [Theme.byName?, hclassic, hmodern]

theorem Config.named_palette_ne_nil (name : Option String) : (named name).theme.palette ≠ [] := by
  unfold named
  dsimp only
  split <;> decide

theorem ThemeOverlay.palette_ne_nil (o : ThemeOverlay) {t : Theme} (h : t.palette ≠ []) :
    (o.apply t).palette ≠ [] := by
  change o.usablePalette.getD t.palette ≠ []
  cases husable : o.usablePalette with
  | none => exact h
  | some colors =>
    have hcounts := (Option.filter_eq_some_iff.mp husable).2
    simpa using hcounts

theorem ConfigOverlay.palette_ne_nil (o : ConfigOverlay) : (o.apply {}).theme.palette ≠ [] := by
  have hbase := Config.named_palette_ne_nil o.theme
  change (overlaid ThemeOverlay.apply o.themeVariables (o.baseTheme .classic)).palette ≠ []
  rw [o.baseTheme_classic]
  cases o.themeVariables with
  | none => exact hbase
  | some v => exact v.palette_ne_nil hbase

/-- A setting is what its key gives, or else what the named theme and the defaults have; and what is
given for it can be read. -/
structure Setting.Follows {α : Type} (s : Setting α) (tree : Json5) (config : Config) : Prop where
  value : s.get config = ((s.value? tree).filter s.counts).getD (s.base (themeName? tree))
  readable : ∀ node, s.given? tree = some node → ∃ a, s.read node = .ok a

namespace Setting

variable {α : Type} {tree : Json5} {o : ConfigOverlay}

/-- Where every value counts, no value is left out. -/
theorem filter_counting_all (v : Option α) : v.filter (fun _ => true) = v := by
  cases v <;> rfl

theorem follows_of_reads {s : Setting α} {v : Option α} (h : ConfigOverlay.ofJson5 tree = .ok o)
    (hreads : ReadsGiven s.read (s.given? tree) v)
    (hget : s.get (o.apply {}) = (v.filter s.counts).getD (s.base o.theme)) :
    s.Follows tree (o.apply {}) where
  value := by
    have hname : themeName? tree = o.theme := (ConfigOverlay.reads h).1.value_eq
    rw [hname, value?, hreads.value_eq, hget]
  readable _ := hreads.readable

/-- A setting of the theme is laid over the theme that the file names. -/
theorem follows_of_theme {s : Setting α} (get : Theme → α) {said : ThemeOverlay → Option α}
    (h : ConfigOverlay.ofJson5 tree = .ok o) (hpart : s.part = .theme)
    (hget : s.get = fun config => get config.theme)
    (hreads : ∀ {part v}, ThemeOverlay.ReadFrom part v →
      ReadsGiven s.read (part.given? [s.name] s.place) (said v))
    (happly : ∀ v base, get (ThemeOverlay.apply v base) = ((said v).filter s.counts).getD (get base)) :
    s.Follows tree (o.apply {}) := by
  have hvariables := (ConfigOverlay.reads h).2.1
  have hnested := hvariables.nested fun part v hv => hreads (ThemeOverlay.readFrom hv)
  refine follows_of_reads h (by rw [given?, hpart]; exact hnested) ?_
  rw [base, if_pos hpart, hget]
  change get (overlaid _ _ (o.baseTheme .classic)) = _
  rw [o.baseTheme_classic]
  cases o.themeVariables with
  | none => rfl
  | some v => exact happly v _

theorem ofTheme_follows {name : String} {place : Nat} {read : Json5Decoder α} {get : Theme → α}
    {said : ThemeOverlay → Option α} (h : ConfigOverlay.ofJson5 tree = .ok o)
    (hreads : ∀ {part v}, ThemeOverlay.ReadFrom part v → ReadsGiven read (part.given? [name] place) (said v))
    (happly : ∀ v base, get (ThemeOverlay.apply v base) = (said v).getD (get base)) :
    (ofTheme name place read get).Follows tree (o.apply {}) :=
  follows_of_theme get h rfl rfl hreads fun v base =>
    (happly v base).trans (congrArg (·.getD (get base)) (filter_counting_all _).symm)

/-- A setting of the layout is laid over the default. -/
theorem ofLayout_follows {name : String} {place : Nat} {read : Json5Decoder α} {get : LayoutConfig → α}
    {said : LayoutOverlay → Option α} (h : ConfigOverlay.ofJson5 tree = .ok o)
    (hreads : ∀ {part v}, LayoutOverlay.ReadFrom part v → ReadsGiven read (part.given? [name] place) (said v))
    (happly : ∀ v base, get (LayoutOverlay.apply v base) = (said v).getD (get base)) :
    (ofLayout name place read get).Follows tree (o.apply {}) := by
  have hpart := (ConfigOverlay.reads h).2.2.1
  refine follows_of_reads h (hpart.nested fun part v hv => hreads (LayoutOverlay.readFrom hv)) ?_
  change get (overlaid _ _ {}) = _
  cases hlayout : o.layout with
  | none => rfl
  | some v =>
    change get (LayoutOverlay.apply v {}) = ((said v).filter fun _ => true).getD (get {})
    rw [filter_counting_all, happly]

/-- Each setting that is read is applied. -/
theorem follows (h : ConfigOverlay.ofJson5 tree = .ok o) : ∀ s ∈ all, s.2.Follows tree (o.apply {}) := by
  simp only [all, List.forall_mem_cons, List.not_mem_nil, false_imp_iff, implies_true, and_true]
  exact ⟨
    ofTheme_follows h (·.fontFamily) fun _ _ => rfl,
    ofTheme_follows h (·.fontSize) fun _ _ => rfl,
    ofTheme_follows h (·.textColor) fun _ _ => rfl,
    ofTheme_follows h (·.lineColor) fun _ _ => rfl,
    ofTheme_follows h (·.axisColor) fun _ _ => rfl,
    ofTheme_follows h (·.background) fun _ _ => rfl,
    ofTheme_follows h (·.errorBorderColor) fun _ _ => rfl,
    ofTheme_follows h (·.legendTextColor) fun _ _ => rfl,
    follows_of_theme Theme.palette h rfl rfl (·.palette) fun _ _ => rfl,
    ofLayout_follows h (·.rowHeight) fun _ _ => rfl,
    ofLayout_follows h (·.barMargin) fun _ _ => rfl,
    ofLayout_follows h (·.connectorThreshold) fun _ _ => rfl,
    ofLayout_follows h (·.doglegOffsetX) fun _ _ => rfl,
    ofLayout_follows h (·.doglegOffsetY) fun _ _ => rfl,
    ofLayout_follows h (·.axisHeight) fun _ _ => rfl,
    ofLayout_follows h (·.axisTicks) fun _ _ => rfl,
    ofLayout_follows h (·.labelOffsetX) fun _ _ => rfl,
    ofLayout_follows h (·.labelCharWidth) fun _ _ => rfl,
    ofLayout_follows h (·.legendHeight) fun _ _ => rfl,
    ofLayout_follows h (·.legendChipPadding) fun _ _ => rfl,
    ofLayout_follows h (·.legendGap) fun _ _ => rfl,
    ofLayout_follows h (·.containerPadding) fun _ _ => rfl,
    ofLayout_follows h (·.rootPolicy) fun _ _ => rfl,
    follows_of_reads h (ConfigOverlay.reads h).2.2.2 (by rw [filter_counting_all]; rfl)⟩

/-- There is nothing to the settings but these. -/
theorem eq_of_get_eq {config other : Config} (h : ∀ s ∈ all, s.2.get other = s.2.get config) :
    other = config := by
  obtain ⟨⟨_, _, _, _, _, _, _, _, _⟩, ⟨_, _, _, _, _, _, _, _, _, _, _, _, _, _⟩, _⟩ := config
  obtain ⟨⟨_, _, _, _, _, _, _, _, _⟩, ⟨_, _, _, _, _, _, _, _, _, _, _, _, _, _⟩, _⟩ := other
  simp only [all, List.forall_mem_cons, List.not_mem_nil, false_imp_iff, implies_true, and_true,
    ofTheme, ofLayout] at h
  simp only [Config.mk.injEq, Theme.mk.injEq, LayoutConfig.mk.injEq]
  tauto

end Setting

/-! ## Main statement -/

/-- The settings are those that the file gives, each by itself. -/
structure SetFrom (tree : Json5) (config : Config) : Prop where
  settings : ∀ s ∈ Setting.all, s.2.Follows tree config
  /-- There is nothing else to the result. -/
  complete : ∀ other : Config, (∀ s ∈ Setting.all, s.2.get other = s.2.get config) → other = config
  /-- No other key has a say: a file that gives the same for a setting, and names the same theme if it is
  one of the theme, comes to the same there. -/
  alone : ∀ (contents : String) (tree' : Json5) (config' : Config),
    Json5.ofText contents.toList = some tree' → parseConfig contents = .ok config' →
    ∀ s ∈ Setting.all, s.2.value? tree' = s.2.value? tree →
    (s.2.part = .theme → themeName? tree' = themeName? tree) → s.2.get config' = s.2.get config
  palette_ne_nil : config.theme.palette ≠ []

theorem parseConfig_eq_ok {contents : String} {tree : Json5} {o : ConfigOverlay}
    (htext : Json5.ofText contents.toList = some tree) (hdecoded : ConfigOverlay.ofJson5 tree = .ok o) :
    parseConfig contents = .ok (o.apply {}) := by
  simp only [parseConfig, htext, hdecoded]

theorem exists_overlay_of_parseConfig_eq_ok {contents : String} {tree : Json5} {config : Config}
    (htext : Json5.ofText contents.toList = some tree) (h : parseConfig contents = .ok config) :
    ∃ o, ConfigOverlay.ofJson5 tree = .ok o ∧ config = o.apply {} := by
  simp only [parseConfig, htext] at h
  split at h
  · cases h
  · next o hdecoded => exact ⟨o, hdecoded, (Except.ok.inj h).symm⟩

/-- **A settings file is laid over the defaults setting by setting.** Every file that can be read comes to
settings of which each is what its own key gives. -/
theorem parseConfig_setFrom {contents : String} {tree : Json5} {o : ConfigOverlay}
    (htext : Json5.ofText contents.toList = some tree) (hdecoded : ConfigOverlay.ofJson5 tree = .ok o) :
    ∃ config, parseConfig contents = .ok config ∧ SetFrom tree config := by
  refine ⟨o.apply {}, parseConfig_eq_ok htext hdecoded, ?_⟩
  have hfollows := Setting.follows hdecoded
  refine ⟨hfollows, fun other => Setting.eq_of_get_eq, ?alone, o.palette_ne_nil⟩
  case alone =>
    intro contents' tree' config' htext' hparse s hs hvalue hname
    obtain ⟨o', hdecoded', rfl⟩ := exists_overlay_of_parseConfig_eq_ok htext' hparse
    have hbase : s.2.base (themeName? tree') = s.2.base (themeName? tree) := by
      unfold Setting.base
      split
      · next hpart => rw [hname hpart]
      · rfl
    rw [(Setting.follows hdecoded' s hs).value, (hfollows s hs).value, hvalue, hbase]

/-- A file that names its theme after it has changed some of it, and the layout by its second name. -/
def changedTheme : String :=
  "\x7btraceStack: \x7brootPolicy: 'reject'\x7d, themeVariables: \x7btextColor: '#000', palette: []\x7d, " ++
    "theme: 'modern'\x7d"

theorem parseConfig_setFrom_changedTheme :
    ∃ tree config, Json5.ofText changedTheme.toList = some tree ∧
      parseConfig changedTheme = .ok config ∧ SetFrom tree config := by
  have hdecodes : ((Json5.ofText changedTheme.toList).bind fun tree =>
      (ConfigOverlay.ofJson5 tree).toOption).isSome = true := by
    decide +kernel
  obtain ⟨o, hoverlay⟩ := Option.isSome_iff_exists.mp hdecodes
  obtain ⟨tree, htext, hdecoded⟩ := Option.bind_eq_some_iff.mp hoverlay
  obtain ⟨config, hparse, hset⟩ := parseConfig_setFrom htext (eq_ok_of_toOption_eq_some hdecoded)
  exact ⟨tree, config, htext, hparse, hset⟩

example : (parseConfig changedTheme).toOption.map
      (fun c => (c.theme.textColor, c.theme.lineColor, c.theme.palette.length, c.layout.rootPolicy)) =
    some ("#000", "#7A8AA6", 12, .reject) := by
  decide +kernel

end Waterfall
