import Waterfall.Layout.Colors
import Waterfall.Layout.Row

/-!
# The legend

One chip for each actor, packed in lines from left to right. A chip that would end beyond the right
margin starts the next line, unless it stands at the left margin already.
-/

namespace Waterfall

structure Chip where
  actor : String
  color : String
  x : Float32
  y : Float32
  width : Float32
  height : Float32

namespace Legend

/-- The fixed measures of a legend. -/
structure Measures where
  chipHeight : Float32
  lineHeight : Float32
  /-- The left margin. -/
  startX : Float32
  /-- The right margin. -/
  maxX : Float32
  gap : Float32

def measures (containerWidth : Float32) (theme : Theme) (config : LayoutConfig) : Measures :=
  let chipHeight := theme.fontSize + config.legendChipPadding * 2
  let startX := config.containerPadding / 2
  { chipHeight
    lineHeight := larger chipHeight config.legendHeight
    startX
    -- In a container narrower than its padding every chip has a line to itself.
    maxX := larger (containerWidth - startX) startX
    gap := config.legendGap }

/-- The width of the chip of an actor. -/
def chipWidth (theme : Theme) (config : LayoutConfig) (actor : String) : Float32 :=
  Label.textWidth actor.toList theme.fontSize config.labelCharWidth + config.legendChipPadding * 2

/-- Whether a chip that would start at `x` has to go to the next line. -/
def overflows (m : Measures) (x width : Float32) : Bool := m.startX < x && m.maxX < x + width

/-- Where a chip goes that would start at a place: there, or at the start of the next line. -/
def place (m : Measures) (x y width : Float32) : Point :=
  if overflows m x width then ⟨m.startX, y + m.lineHeight⟩ else ⟨x, y⟩

/-- The chips of the entries, the first of which would start at the given place. -/
def chipsFrom (m : Measures) (width : String → Float32) :
    Float32 → Float32 → List (String × String) → List Chip
  | _, _, [] => []
  | x, y, (actor, color) :: rest =>
    let w := width actor
    let p := place m x y w
    { actor, color, x := p.x, y := p.y, width := w, height := m.chipHeight } ::
      chipsFrom m width (p.x + (w + m.gap)) p.y rest

/-- The chips of all actors. -/
def chips (colors : ActorColors) (containerWidth : Float32) (theme : Theme) (config : LayoutConfig) :
    List Chip :=
  let m := measures containerWidth theme config
  chipsFrom m (chipWidth theme config) m.startX 0 colors.entries

/-- The lower edge of the lowest chip. -/
def height (chips : List Chip) : Float32 :=
  chips.foldl (fun h chip => larger h (chip.y + chip.height)) 0

theorem map_entry_chipsFrom (m : Measures) (width : String → Float32) (x y : Float32)
    (entries : List (String × String)) :
    (chipsFrom m width x y entries).map (fun c => (c.actor, c.color)) = entries := by
  induction entries generalizing x y with
  | nil => rfl
  | cons e rest ih => simp [chipsFrom, ih]

/-- The legend shows the actors with their colours, in order. -/
theorem map_entry_chips (colors : ActorColors) (containerWidth : Float32) (theme : Theme)
    (config : LayoutConfig) :
    (chips colors containerWidth theme config).map (fun c => (c.actor, c.color)) = colors.entries :=
  map_entry_chipsFrom ..

end Legend

end Waterfall
