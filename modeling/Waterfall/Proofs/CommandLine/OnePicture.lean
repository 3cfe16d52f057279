import Waterfall.Proofs.CommandLine.Delivery
import Waterfall.View

/-!
# One picture, however it is asked for

A picture is asked for by a host page with options, by a caller with settings at hand, on the command
line with a settings file and perhaps a width, or by opening a view on the spans. Each way looks up the
theme, falls back on defaults and overrides settings for itself.

They agree because they come to the same settings: what the options of a page stand for is what a file
and a command line amount to that say the same (`adjust_apply`). From there on every way draws the one
layout that these settings give.
-/

namespace Waterfall

deriving instance DecidableEq for HostOptions, ThemeOverlay, LayoutOverlay, ConfigOverlay, CommandLine.Arguments

/-! ## The same settings, said twice -/

/-- A settings file that says nothing. -/
def ConfigOverlay.empty : ConfigOverlay where
  theme := none
  themeVariables := none
  layout := none
  width := none

/-- What a settings file says about the theme when it says nothing but how texts are written. -/
def ThemeOverlay.ofFont (fontFamily : Option String) (fontSize : Option Float32) : ThemeOverlay where
  fontFamily
  fontSize
  textColor := none
  lineColor := none
  axisColor := none
  background := none
  errorBorderColor := none
  legendTextColor := none
  palette := none

namespace HostOptions

/-- The options of a host page, which may give none. -/
inductive Given : Option String → HostOptions → Prop where
  | nothing : Given none {}
  | text {text : String} {o : HostOptions} (read : ofText text = .ok o) : Given (some text) o

/-- A host page knows the classic theme by no name at all, and a settings file by two; since it is
also what they fall back on, they find the same theme under every name. -/
theorem baseTheme_eq (o : HostOptions) : o.baseTheme = (o.theme.bind Theme.byName?).getD .classic := by
  unfold baseTheme
  cases o.theme with
  | none => rfl
  | some name =>
    by_cases hmodern : name = "modern"
    · subst hmodern
      rfl
    · by_cases hclassic : name = "classic" ∨ name = "default" <;>
        simp [Theme.byName?, hmodern, hclassic]

/-- A settings file and a width beside it, which goes before that of the file, say what the options of
a host page say, and nothing else. -/
structure SaidBy (o : HostOptions) (overlay : ConfigOverlay) (width : Option Float32) : Prop where
  theme : overlay.theme = o.theme
  fontFamily : overlay.themeVariables.bind (·.fontFamily) = o.fontFamily
  fontSize : overlay.themeVariables.bind (·.fontSize) = o.fontSize
  width : width.or overlay.width = o.width
  noColors : ∀ v, overlay.themeVariables = some v → v = .ofFont v.fontFamily v.fontSize
  noMeasures : overlay.layout = none

end HostOptions

namespace CommandLine

variable {o : HostOptions} {overlay : ConfigOverlay} {a : Arguments}

/-- A file and a command line that say what the options of a host page say come to the settings that
the options stand for. -/
theorem adjust_apply (h : o.SaidBy overlay a.width) : a.adjust (overlay.apply {}) = o.toConfig := by
  have htheme : (overlay.apply {}).theme = o.toConfig.theme := by
    simp only [ConfigOverlay.apply, ConfigOverlay.baseTheme, HostOptions.toConfig, h.theme,
      ← o.baseTheme_eq, ← h.fontFamily, ← h.fontSize]
    cases hvariables : overlay.themeVariables with
    | none => rfl
    | some v =>
      rw [h.noColors v hvariables]
      rfl
  have hlayout : (overlay.apply {}).layout = o.toConfig.layout := by
    simp only [ConfigOverlay.apply, h.noMeasures]
    rfl
  have hwidth : a.width.getD (overlay.apply {}).width = o.toConfig.width := by
    simp only [ConfigOverlay.apply, HostOptions.toConfig, ← h.width]
    cases a.width <;> rfl
  unfold Arguments.adjust
  rw [hwidth, htheme, hlayout]

/-- What the settings file of a run says; a run without one is told nothing. -/
inductive Surroundings.Says (s : Surroundings) : Option String → ConfigOverlay → Prop where
  | nothing : s.Says none .empty
  | file {path text : String} {tree : Json5} {overlay : ConfigOverlay}
    (read : s.directory.readText path = .ok text) (json5 : Json5.ofText text.toList = some tree)
    (decoded : ConfigOverlay.ofJson5 tree = .ok overlay) : s.Says (some path) overlay

theorem Surroundings.Says.config_eq {s : Surroundings} {settings : Option String}
    (h : s.Says settings overlay) : s.config settings = .ok (overlay.apply {}) := by
  cases h with
  | nothing => rfl
  | file read json5 decoded =>
    simp [Surroundings.config, parseConfig, read, json5, decoded, Except.mapError, bind, Except.bind]

/-! ## Main statement -/

/-- A host page, a caller, a run and a view give one picture of a document, or the same reason why
there is none. -/
structure OnePicture (input : String) (options : Option String) (o : HostOptions)
    (args : List String) (output : Option String) (s : Surroundings) : Prop where
  picture : ∀ spans, parseTrace input = .ok spans → ∃ svg,
    renderForHost input options = .ok svg ∧
    renderTrace input o.toConfig = .ok svg ∧
    (TraceView.ofSpans spans o.toConfig.width o.toConfig.theme o.toConfig.layout).svg = svg ∧
    Delivered s (runIn args s).2 output svg ""
  refusal : ∀ e, parseTrace input = .error e →
    renderForHost input options = .error (.trace e) ∧
    (HostError.trace e).message = e.message ∧
    renderTrace input o.toConfig = .error e ∧
    (runIn args s).1 = ⟨1, some ("error: " ++ e.message)⟩ ∧
    (runIn args s).2.printed = s.printed ∧
    (runIn args s).2.directory = s.directory

theorem renderForHost_eq {options : Option String} (h : HostOptions.Given options o) (input : String) :
    renderForHost input options = (renderTrace input o.toConfig).mapError .trace := by
  cases h with
  | nothing => rfl
  | @text text _ read =>
    show (HostOptions.ofText text >>= fun o => (renderTrace input o.toConfig).mapError .trace) = _
    rw [read]
    rfl

/-- **All ways to ask for a picture agree**: as long as the settings file and the width on the command
line say what the options of the host page say, the four pictures are one string, be it of a trace or
of a defect, and a document that is no trace is refused with one message. -/
theorem onePicture_of_saidBy {input : String} {options : Option String} {args : List String}
    {s : Surroundings} (hoptions : HostOptions.Given options o)
    (hargs : Arguments.ofList args = .ok a) (hspan : a.span = none) (hformat : a.outputFormat = .svg)
    (hwritable : ∀ path, a.output = some path → s.directory.Writable path)
    (hinput : s.traceText a.input = .ok input) (hsettings : s.Says a.settings overlay)
    (hsaid : o.SaidBy overlay a.width) : OnePicture input options o args a.output s := by
  refine ⟨?picture, ?refusal⟩
  case picture =>
    intro spans hspans
    have hdraw : renderTrace input o.toConfig = .ok (o.toConfig.draw spans) := by
      rw [renderTrace, hspans]
      rfl
    have hreads : s.Reads a o.toConfig spans :=
      ⟨⟨_, hsettings.config_eq, (adjust_apply hsaid).symm⟩, input, hinput, hspans⟩
    have hpng : a.outputFormat ≠ .png := by simp [hformat]
    have hdocument : a.document o.toConfig (o.toConfig.layOut spans) = o.toConfig.draw spans := by
      simp [Arguments.document, hformat, Config.draw]
    have hending : a.ending = "" := by simp [Arguments.ending, hspan, hformat]
    obtain ⟨-, hdelivered⟩ := runIn_of_format hargs hwritable hreads hspan hpng
    rw [hdocument, hending] at hdelivered
    refine ⟨o.toConfig.draw spans, ?_, hdraw, rfl, hdelivered⟩
    rw [renderForHost_eq hoptions, hdraw]
    rfl
  case refusal =>
    intro e he
    have hdraw : renderTrace input o.toConfig = .error e := by
      rw [renderTrace, he]
      rfl
    have hproduct : s.product a = .error (.trace e) := by
      simp [Surroundings.product, hsettings.config_eq, hinput, he, Except.mapError, bind, Except.bind]
    refine ⟨?_, rfl, hdraw, runIn_of_error hargs hproduct⟩
    rw [renderForHost_eq hoptions, hdraw]
    rfl

/-- A trace of one span. -/
def soleSpan : String := "[\x7b\"id\":\"a\",\"startTime\":0,\"endTime\":4\x7d]"

/-- Options of a page for a modern picture of a width. -/
def modernOptions : String := "\x7b\"theme\":\"modern\",\"fontSize\":14,\"width\":900\x7d"

/-- A settings file for a modern picture of another width. -/
def modernSettings : String := "\x7btheme:'modern',themeVariables:\x7bfontSize:14\x7d,width:700\x7d"

def modernSurroundings : Surroundings where
  directory := .ofList
    [("settings.json5", bytesOfText modernSettings), ("trace.json", bytesOfText soleSpan)]

/-- The page and the run draw one picture, the width of the file being set right on the command line. -/
theorem soleSpan_one_modern_picture :
    ∃ svg, renderForHost soleSpan (some modernOptions) = .ok svg ∧
      (runIn ["-i", "trace.json", "-c", "settings.json5", "-w", "900"] modernSurroundings).2.printed =
        svg := by
  have hoptions : HostOptions.Given (some modernOptions)
      { theme := some "modern", fontSize := some 14, width := some 900 } :=
    .text (eq_ok_of_toOption_eq_some (by decide +kernel))
  have hargs : Arguments.ofList ["-i", "trace.json", "-c", "settings.json5", "-w", "900"] =
      .ok { input := some "trace.json", settings := some "settings.json5", width := some 900 } :=
    eq_ok_of_toOption_eq_some (by decide +kernel)
  have hinput : modernSurroundings.traceText (some "trace.json") = .ok soleSpan :=
    eq_ok_of_toOption_eq_some (by decide +kernel)
  have hread : modernSurroundings.directory.readText "settings.json5" = .ok modernSettings :=
    eq_ok_of_toOption_eq_some (by decide +kernel)
  have hdecoded : ((Json5.ofText modernSettings.toList).bind fun tree =>
      (ConfigOverlay.ofJson5 tree).toOption) =
        some { theme := some "modern", themeVariables := some (.ofFont none (some 14)), layout := none,
               width := some 700 } := by
    decide +kernel
  obtain ⟨tree, htree, hoverlay⟩ := Option.bind_eq_some_iff.mp hdecoded
  have hsaid : HostOptions.SaidBy { theme := some "modern", fontSize := some 14, width := some 900 }
      { theme := some "modern", themeVariables := some (.ofFont none (some 14)), layout := none,
        width := some 700 } (some 900) :=
    ⟨rfl, rfl, rfl, rfl, fun v hv => by obtain rfl := Option.some.inj hv; rfl, rfl⟩
  obtain ⟨spans, hspans⟩ : ∃ spans, parseTrace soleSpan = .ok spans :=
    ⟨[{ id := "a", parentId := none, startTime := 0, endTime := 4, label := "", actor := "" }],
      eq_ok_of_toOption_eq_some (by decide +kernel)⟩
  obtain ⟨svg, hhost, -, -, hprinted, -⟩ :=
    (onePicture_of_saidBy hoptions hargs rfl rfl (fun path h => by cases h) hinput
      (.file hread htree (eq_ok_of_toOption_eq_some hoverlay)) hsaid).picture spans hspans
  exact ⟨svg, hhost, by simpa [modernSurroundings] using hprinted⟩

end CommandLine

end Waterfall
