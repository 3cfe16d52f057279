/-!
# Themes

Colours, fonts and the palette from which actors get their colours.
-/

namespace Waterfall

structure Theme where
  fontFamily : String
  fontSize : Float32
  textColor : String
  lineColor : String
  axisColor : String
  background : String
  errorBorderColor : String
  legendTextColor : String
  /-- Actor colours, given out in order of first appearance and used again from the start. -/
  palette : List String

namespace Theme

def classic : Theme where
  fontFamily := "\"Helvetica Neue\", Helvetica, Arial, sans-serif"
  fontSize := 12
  textColor := "#333333"
  lineColor := "#333333"
  axisColor := "#666666"
  background := "#FFFFFF"
  errorBorderColor := "#D9363E"
  legendTextColor := "#333333"
  palette := [
    "#F2C2CE", "#A7D8F0", "#FADDA2", "#8691C5", "#E8DB62", "#BDC8E7", "#F2A7A8", "#F5E586",
    "#91C3ED", "#96B87F", "#EE8D87", "#BDDCAB", "#68B9C7", "#93DAD6", "#EEBE84", "#83B085",
    "#8CCCD2", "#C5DFE8", "#F2B75B", "#C8DC60"]

def modern : Theme where
  fontFamily := "Inter, Segoe UI, system-ui, -apple-system, sans-serif"
  fontSize := 12
  textColor := "#1C2430"
  lineColor := "#7A8AA6"
  axisColor := "#7A8AA6"
  background := "#FFFFFF"
  errorBorderColor := "#EF4444"
  legendTextColor := "#1C2430"
  palette := [
    "#93C5FD", "#FCA5A5", "#86EFAC", "#FDE68A", "#C4B5FD", "#F9A8D4", "#67E8F9", "#FDBA74",
    "#A5B4FC", "#BEF264", "#5EEAD4", "#D8B4FE"]

/-- The built-in theme of a name. -/
def byName? (name : String) : Option Theme :=
  if name == "classic" || name == "default" then some classic
  else if name == "modern" then some modern
  else none

end Theme

end Waterfall
