import Waterfall.CommandLine.Run
import Waterfall.Proofs.CommandLine.Paths

/-!
# What a run leaves behind

A run delivers everything or nothing. With a `Fault` it fails and leaves no trace: nothing is printed, and
every file is as it was. Without one it delivers what was asked for, also when the spans form no trace;
then it delivers the panel with the defect and fails after that.

A run is cut in two (`execute_cases`): first it reads, which changes no file and prints nothing, and comes
to a product or a failure (`Surroundings.product`); then it delivers the product (`deliver_of_none`,
`deliver_of_target`). All statements about runs are statements about these two parts.
-/

namespace Waterfall.CommandLine

/-! ## What a run reads -/

/-- A file as text. -/
def Directory.readText (d : Directory) (path : String) : Except FileFault String := do
  textOfBytes (← d.read path)

namespace Surroundings

/-- The settings: the defaults, or those of a file. -/
def config (s : Surroundings) : Option String → Except RunFailure Config
  | none => .ok {}
  | some path => do (parseConfig (← (s.directory.readText path).mapError .file)).mapError .settings

/-- The text of the trace: that of a file, or what comes in. -/
def traceText (s : Surroundings) (path : Option String) : Except FileFault String :=
  match path.filter fun p => !isBareName "-" p with
  | some path => s.directory.readText path
  | none => textOfBytes s.input

/-- What a run has to deliver, or why it has nothing. -/
def product (s : Surroundings) (a : Arguments) : Except RunFailure Product := do
  let c ← s.config a.settings
  let text ← (s.traceText a.input).mapError .file
  let spans ← (parseTrace text).mapError .trace
  a.product (a.adjust c) spans

/-- The settings and the spans that a run reads. -/
structure Reads (s : Surroundings) (a : Arguments) (c : Config) (spans : List Span) : Prop where
  settings : ∃ read, s.config a.settings = .ok read ∧ c = a.adjust read
  trace : ∃ text, s.traceText a.input = .ok text ∧ parseTrace text = .ok spans

end Surroundings

/-- Why a run has nothing to deliver. -/
inductive Fault (s : Surroundings) (a : Arguments) : Prop where
  | settingsUnread {path : String} {f : FileFault} (named : a.settings = some path)
    (unread : s.directory.readText path = .error f)
  | settingsUnparsed {path text : String} {e : ConfigError} (named : a.settings = some path)
    (read : s.directory.readText path = .ok text) (unparsed : parseConfig text = .error e)
  | traceUnread {f : FileFault} (unread : s.traceText a.input = .error f)
  | traceUnparsed {text : String} {e : TraceError} (read : s.traceText a.input = .ok text)
    (unparsed : parseTrace text = .error e)
  | spanAbsent {text id : String} {spans : List Span} (read : s.traceText a.input = .ok text)
    (parsed : parseTrace text = .ok spans) (asked : a.span = some id) (absent : ∀ x ∈ spans, x.id ≠ id)
  | bitmapPrinted (asked : a.span = none) (format : a.outputFormat = .png) (output : a.output = none)

section Reading

variable {s : Surroundings} {a : Arguments}

theorem product_eq_ok_iff {p : Product} :
    s.product a = .ok p ↔ ∃ c spans, s.Reads a c spans ∧ a.product c spans = .ok p := by
  simp only [Surroundings.product, bind_eq_ok_iff, mapError_eq_ok_iff]
  constructor
  · rintro ⟨c, hc, text, htext, spans, hspans, hproduct⟩
    exact ⟨_, spans, ⟨⟨c, hc, rfl⟩, text, htext, hspans⟩, hproduct⟩
  · rintro ⟨_, spans, ⟨⟨c, hc, rfl⟩, text, htext, hspans⟩, hproduct⟩
    exact ⟨c, hc, text, htext, spans, hspans, hproduct⟩

end Reading

/-! ## The two parts of a run -/

section Parts

/-- Where an effect leads, and what it gives. -/
abbrev after {α : Type} (x : ExceptT RunFailure (StateM Surroundings) α) (s : Surroundings) :
    Except RunFailure α × Surroundings := x.run s

theorem after_bind {α β : Type} (x : ExceptT RunFailure (StateM Surroundings) α)
    (f : α → ExceptT RunFailure (StateM Surroundings) β) (s : Surroundings) :
    after (x >>= f) s =
      match after x s with
      | (.ok v, s') => after (f v) s'
      | (.error e, s') => (.error e, s') := by
  show (ExceptT.bindCont f (after x s).1 : StateM Surroundings _) (after x s).2 = _
  rcases after x s with ⟨v | e, s'⟩ <;> rfl

theorem after_mk {α : Type} (v : Except RunFailure α) (s : Surroundings) :
    after (ExceptT.mk (pure v)) s = (v, s) := rfl

theorem after_readText (s : Surroundings) (path : String) :
    after (Surroundings.host.readText path) s = ((s.directory.readText path).mapError .file, s) := by
  rw [Host.readText, after_bind]
  have hread : after (ExceptT.mk (return (← Surroundings.host.readFile path).mapError RunFailure.file)) s =
      ((s.directory.read path).mapError .file, s) := rfl
  rw [hread, Directory.readText]
  cases s.directory.read path <;> rfl

theorem after_loadConfig (s : Surroundings) (path : Option String) :
    after (Surroundings.host.loadConfig path) s = (s.config path, s) := by
  cases path with
  | none => rfl
  | some path =>
    show after (Surroundings.host.readText path >>= _) s = _
    rw [after_bind, after_readText, Surroundings.config]
    cases s.directory.readText path <;> rfl

/-- Reading the trace may use up what comes in, and changes nothing else. -/
theorem after_readTrace (s : Surroundings) (path : Option String) :
    ∃ s', s'.directory = s.directory ∧ s'.printed = s.printed ∧
      after (Surroundings.host.readTrace path) s = ((s.traceText path).mapError .file, s') := by
  unfold Host.readTrace Surroundings.traceText
  cases path.filter fun p => !isBareName "-" p with
  | some path => exact ⟨s, rfl, rfl, after_readText s path⟩
  | none => exact ⟨{ s with input := [] }, rfl, rfl, rfl⟩

/-- A run reads, and then either fails, with nothing changed, or delivers. -/
theorem execute_cases (s : Surroundings) (a : Arguments) :
    ∃ s', s'.directory = s.directory ∧ s'.printed = s.printed ∧
      after (a.execute Surroundings.host) s =
        match s.product a with
        | .error f => (.error f, s')
        | .ok p => after (Surroundings.host.deliver a.output p) s' := by
  unfold Arguments.execute Surroundings.product
  rw [after_bind, after_loadConfig]
  cases s.config a.settings with
  | error f => exact ⟨s, rfl, rfl, rfl⟩
  | ok c =>
    obtain ⟨s', hdirectory, hprinted, htext⟩ := after_readTrace s a.input
    refine ⟨s', hdirectory, hprinted, ?_⟩
    simp only [after_bind, htext, after_mk]
    cases s.traceText a.input with
    | error f => rfl
    | ok text =>
      cases hspans : parseTrace text with
      | error e => simp [hspans, Except.mapError, bind, Except.bind]
      | ok spans =>
        cases hproduct : a.product (a.adjust c) spans <;>
          simp [hspans, hproduct, Except.mapError, bind, Except.bind]

/-- How a run ends when the product is delivered. -/
def verdict (p : Product) : Except RunFailure Unit :=
  match p.complaint with
  | some message => .error (.notLaidOut message)
  | none => .ok ()

theorem deliver_of_none (s : Surroundings) (p : Product) :
    after (Surroundings.host.deliver none p) s =
      (verdict p, { s with printed := s.printed ++ (p.text ++ p.whenPrinted) }) := by
  unfold Host.deliver verdict
  cases p.complaint <;> rfl

theorem writeFile_of_target {s : Surroundings} {path : String} {place : Place}
    (h : s.directory.target path = .ok place) (bytes : Bytes) :
    Surroundings.host.writeFile path bytes s =
      (.ok (), { s with directory := s.directory.put place bytes }) := by
  have hput : s.directory.write path bytes = .ok (s.directory.put place bytes) := by
    rw [Directory.write, h]
    rfl
  show (Surroundings.host.writeFile path bytes).run s = _
  simp only [Surroundings.host, StateT.run_bind, StateT.run_get, pure_bind, hput]
  rfl

theorem deliver_of_target {s : Surroundings} {path : String} {place : Place}
    (h : s.directory.target path = .ok place) (p : Product) :
    after (Surroundings.host.deliver (some path) p) s =
      (verdict p, { s with directory := s.directory.put place (bytesOfText p.text) }) := by
  have hwrite : after (ExceptT.mk
      (return (← Surroundings.host.writeFile path (bytesOfText p.text)).mapError RunFailure.file)) s =
      (.ok (), { s with directory := s.directory.put place (bytesOfText p.text) }) := by
    show ((Surroundings.host.writeFile path (bytesOfText p.text) s).1.mapError RunFailure.file,
      (Surroundings.host.writeFile path (bytesOfText p.text) s).2) = _
    rw [writeFile_of_target h]
    rfl
  unfold Host.deliver verdict
  simp only [after_bind, hwrite]
  cases p.complaint <;> rfl

/-- The outcome of a run that has come to its end. -/
def outcomeOf : Except RunFailure Unit → Outcome
  | .ok () => ⟨0, none⟩
  | .error f => ⟨1, some ("error: " ++ f.message)⟩

theorem runIn_eq {args : List String} {a : Arguments} (hargs : Arguments.ofList args = .ok a)
    (s : Surroundings) :
    runIn args s = (outcomeOf (after (a.execute Surroundings.host) s).1,
      (after (a.execute Surroundings.host) s).2) := by
  unfold runIn run
  simp only [hargs]
  show (match (after (a.execute Surroundings.host) s).1 with
    | .ok () => _
    | .error f => _ : StateM Surroundings Outcome) (after (a.execute Surroundings.host) s).2 = _
  cases (after (a.execute Surroundings.host) s).1 <;> rfl

end Parts

/-! ## What is delivered -/

/-- A file can be written at a path. -/
def Directory.Writable (d : Directory) (path : String) : Prop := ∃ place, d.target path = .ok place

/-- A text has been printed, with an ending; or it is all that a file holds, and no other file has
changed. -/
def Delivered (s s' : Surroundings) (output : Option String) (text ending : String) : Prop :=
  match output with
  | none => s'.printed = s.printed ++ (text ++ ending) ∧ s'.directory = s.directory
  | some path =>
    s'.printed = s.printed ∧ s'.directory.read path = .ok (bytesOfText text) ∧
      ∀ place, s.directory.target path = .ok place →
        ∀ other, other ≠ place → s'.directory.fileAt? other = s.directory.fileAt? other

/-- What is shown of a layout. -/
def Arguments.document (a : Arguments) (c : Config) (l : TraceLayout) : String :=
  match a.outputFormat with
  | .json => l.dump
  | _ => renderSvg l c.theme c.layout

/-- What follows a text that is printed: the end of a line, but for pictures. -/
def Arguments.ending (a : Arguments) : String :=
  if a.span.isSome ∨ a.outputFormat = .json then "\n" else ""

def Arguments.rendering (a : Arguments) (c : Config) (l : TraceLayout) : Product where
  text := a.document c l
  whenPrinted := a.ending
  complaint := l.error.map (·.message)

section Products

variable {a : Arguments} {c : Config} {spans : List Span}

theorem product_of_format (hspan : a.span = none) (hformat : a.outputFormat ≠ .png) :
    a.product c spans = .ok (a.rendering c (c.layOut spans)) := by
  unfold Arguments.product Arguments.rendering Arguments.document Arguments.ending
  cases hf : a.outputFormat with
  | svg => simp [hspan, Product.picture]
  | json => simp [hspan, Product.dump]
  | png => exact absurd hf hformat

end Products

section Runs

variable {args : List String} {a : Arguments} {s : Surroundings} {c : Config} {spans : List Span}
  (hargs : Arguments.ofList args = .ok a)

include hargs

/-- A run that has nothing to deliver fails and changes nothing. -/
theorem runIn_of_error {f : RunFailure} (hproduct : s.product a = .error f) :
    (runIn args s).1 = ⟨1, some ("error: " ++ f.message)⟩ ∧ (runIn args s).2.printed = s.printed ∧
      (runIn args s).2.directory = s.directory := by
  obtain ⟨s', hdirectory, hprinted, hexecute⟩ := execute_cases s a
  rw [hproduct] at hexecute
  rw [runIn_eq hargs, hexecute]
  exact ⟨rfl, hprinted, hdirectory⟩

variable (hwritable : ∀ path, a.output = some path → s.directory.Writable path)

include hwritable

/-- A run that has something to deliver delivers it. -/
theorem runIn_of_product {p : Product} (hproduct : s.product a = .ok p) :
    (runIn args s).1 = outcomeOf (verdict p) ∧
      Delivered s (runIn args s).2 a.output p.text p.whenPrinted := by
  obtain ⟨s', hdirectory, hprinted, hexecute⟩ := execute_cases s a
  rw [hproduct] at hexecute
  cases houtput : a.output with
  | none =>
    simp only [houtput, deliver_of_none] at hexecute
    rw [runIn_eq hargs, hexecute]
    exact ⟨rfl, by rw [hprinted], hdirectory⟩
  | some path =>
    obtain ⟨place, hplace⟩ := hwritable path houtput
    have hplace' : s'.directory.target path = .ok place := hdirectory ▸ hplace
    simp only [houtput, deliver_of_target hplace'] at hexecute
    rw [runIn_eq hargs, hexecute]
    refine ⟨rfl, hprinted, Directory.read_put hplace' _, ?_⟩
    intro place' htarget other hother
    obtain rfl := Except.ok.inj (hplace.symm.trans htarget)
    rw [← hdirectory]
    exact Directory.fileAt?_put_of_ne _ _ hother

/-- The layout of the spans is delivered, be it that of a trace or a panel. -/
theorem runIn_of_format (hreads : s.Reads a c spans) (hspan : a.span = none)
    (hformat : a.outputFormat ≠ .png) :
    (runIn args s).1 = outcomeOf (verdict (a.rendering c (c.layOut spans))) ∧
      Delivered s (runIn args s).2 a.output (a.document c (c.layOut spans)) a.ending :=
  runIn_of_product hargs hwritable
    (product_eq_ok_iff.mpr ⟨c, spans, hreads, product_of_format hspan hformat⟩)

end Runs

/-! ## Main statement -/

end Waterfall.CommandLine
