import Floorplan.Screen.Style

set_option autoImplicit false

/-! # Palette

The colours and the styles of the application. -/

namespace Floorplan.Screen

/-- Headings, and the text of the selected row. -/
def dark : Color := ⟨0x1F, 0x2F, 0x3C⟩

/-- The assistant. -/
def accent : Color := ⟨0x58, 0x6B, 0x71⟩

/-- Behind the selected row. -/
def selection : Color := ⟨0xC3, 0xD3, 0xE0⟩

/-- Numbers of floors, and what is attached. -/
def green : Color := ⟨0x82, 0x9A, 0x68⟩

/-- What asks for attention. -/
def orange : Color := ⟨0x9E, 0x68, 0x3C⟩

/-- What stands back. -/
def muted : Color := ⟨0x71, 0x65, 0x65⟩

/-- A style that sets a colour. -/
def Color.style (c : Color) : Style := { foreground := some c }

/-- Headings. -/
def headingStyle : Style := { foreground := some dark, bold := true }

/-- The selected row of the panel that takes the keys. -/
def selectedStyle : Style :=
  { foreground := some dark, background := some selection, bold := true }

/-- A row, by whether it is selected and whether its panel takes the keys. -/
def rowStyle (selected focused : Bool) : Style :=
  if selected && focused then selectedStyle else if selected then { bold := true } else {}

/-- A border, by whether its panel takes the keys. -/
def borderStyle (focused : Bool) : Style := if focused then orange.style else {}

end Floorplan.Screen
