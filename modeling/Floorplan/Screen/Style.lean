set_option autoImplicit false

/-! # Styles

A style sets colours and the shape of letters, and leaves open what it does not set: drawn over a cell
it keeps what the cell had there. -/

namespace Floorplan.Screen

/-- A colour by its red, green and blue parts. -/
structure Color where
  red : UInt8
  green : UInt8
  blue : UInt8
  deriving DecidableEq, Repr

/-- What a style sets. -/
structure Style where
  foreground : Option Color := none
  background : Option Color := none
  bold : Bool := false
  italic : Bool := false
  deriving DecidableEq, Repr

namespace Style

/-- The style of a cell of style `base` after something of style `s` is drawn over it. -/
def onto (s base : Style) : Style where
  foreground := s.foreground.or base.foreground
  background := s.background.or base.background
  bold := s.bold || base.bold
  italic := s.italic || base.italic

end Style

end Floorplan.Screen
