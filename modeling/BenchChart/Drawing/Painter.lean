import BenchChart.Disk
import BenchChart.Drawing

/-!
# Painters

The font and the library that turn a drawing into the bytes of an image are not part of this
development. A painter stands for both of them: it may lack its font, it adds the axes to what is
drawn of a figure, and it has its own words for what goes wrong.
-/

namespace BenchChart

structure Painter where
  hasFont : Bool
  /-- The image of a figure from its size and shapes, or why it cannot be painted. -/
  paint : Figure → UInt32 × UInt32 × List Shape → Except String (List UInt8)
  wording : Disk.Fault → String

/-- The painter with the font that comes with the program. That font cannot be loaded, so nothing is
ever painted. -/
def Painter.bundled : Painter := ⟨false, fun _ _ => .ok [], Disk.Fault.message⟩

end BenchChart
