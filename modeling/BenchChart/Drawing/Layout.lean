import BenchChart.Figure

/-!
# The layout of an image

The title lines stand in a band at the top of the image, and the panels share what is below it. In
the area of a panel, a margin surrounds the caption, the labels of the axes and the plot itself.
Coordinates are pixels, `y` downwards; the right and bottom edge of an area are the first pixels
outside.

Coordinates are words of 32 bits with a sign, and all arithmetic on them wraps. An image that is
wider or higher than they reach has its right or bottom edge below zero. Edges are put in order
wherever an area is cut, so even then each part lies between neighbouring edges.
-/

namespace BenchChart

structure Pixel where
  x : Int32
  y : Int32
  deriving DecidableEq, Repr

structure Area where
  left : Int32
  top : Int32
  right : Int32
  bottom : Int32
  deriving DecidableEq, Repr

namespace Area

def width (a : Area) : UInt32 := (a.right - a.left).toUInt32

def height (a : Area) : UInt32 := (a.bottom - a.top).toUInt32

def isEmpty (a : Area) : Bool := a.width == 0 || a.height == 0

def ofSize (width height : UInt32) : Area := ⟨0, 0, width.toInt32, height.toInt32⟩

/-- The place that is right of and below the top left corner by the given numbers of pixels. -/
def place (a : Area) (x y : Int32) : Pixel := ⟨a.left + x, a.top + y⟩

/-- The place in the area that is nearest to a place. The edges outside count as in the area. -/
def confine (a : Area) (p : Pixel) : Pixel :=
  ⟨max a.left (min a.right p.x), max a.top (min a.bottom p.y)⟩

end Area

namespace Drawing

/-- The edges of the parts of a span, in order: its ends and the cuts, counted from its start. -/
def edges (first last : Int32) (cuts : List Int32) : List Int32 :=
  (first :: last :: cuts.map (first + ·)).mergeSort fun a b => decide (a ≤ b)

def between : List Int32 → List (Int32 × Int32)
  | first :: last :: rest => (first, last) :: between (last :: rest)
  | _ => []

def titlePadding : Nat := 5

def titleLineHeight : Nat := 26

def titleBand (figure : Figure) : Nat :=
  titlePadding + titleLineHeight * figure.title.length + titlePadding

def titleAnchor (image : Area) (line : Nat) : Pixel :=
  image.place (image.width / 2).toInt32 (Int32.ofNat (titlePadding + titleLineHeight * line))

def body (figure : Figure) (image : Area) : Area :=
  { image with top := image.top + (min (titleBand figure).toUInt32 image.height).toInt32 }

def panelAreas (figure : Figure) (body : Area) : List Area :=
  let cuts := (figure.rowBreakpoints body.height).map UInt32.toInt32
  (between (edges body.left body.right [])).flatMap fun (left, right) =>
    (between (edges body.top body.bottom cuts)).map fun (top, bottom) => ⟨left, top, right, bottom⟩

def margin : Int32 := 8

def withinMargin (area : Area) : Area :=
  ⟨area.left + margin, area.top + margin, area.right - margin, area.bottom - margin⟩

/-- The height of a panel's caption, the space below it included. -/
def captionHeight : Int32 := 22

def captionDrop : Int32 := 5

def captionAnchor (area : Area) : Pixel :=
  let inner := withinMargin area
  inner.place ((inner.right - inner.left) / 2) captionDrop

def belowCaption (area : Area) : Area :=
  let inner := withinMargin area
  { inner with top := inner.top + captionHeight }

def yLabelWidth : Int32 := 60

/-- The height of the labels below a plot: more if the axis has a name. -/
def xLabelHeight (panel : Panel) : Int32 := if panel.xLabel.isSome then 40 else 25

structure Frame where
  plot : Area
  above : Area
  below : Area
  before : Area
  after : Area
  deriving DecidableEq, Repr

def Frame.ofEdges (xs ys : List Int32) : Frame :=
  let cell (i j : Nat) : Area := ⟨xs.getD i 0, ys.getD j 0, xs.getD (i + 1) 0, ys.getD (j + 1) 0⟩
  { plot := cell 1 1, above := cell 1 0, below := cell 1 2, before := cell 0 1, after := cell 2 1 }

def frame (panel : Panel) (area : Area) : Frame :=
  let inner := belowCaption area
  .ofEdges (edges inner.left inner.right [yLabelWidth, inner.width.toInt32])
    (edges inner.top inner.bottom [0, inner.height.toInt32 - xLabelHeight panel])

/-- The font size of the names of the axes: 12, or twelve hundredths of the shorter side of the
plot, rounded, if that is less. -/
def axisFontSize (plot : Area) : Nat :=
  min 12 ((12 * min plot.width.toNat plot.height.toNat + 50) / 100)

def legendGap : Int32 := 10

def legendKeyArea : Int32 := 30

def legendKeyWidth : Int32 := 20

def legendFontSize : Nat := 12

def legendTextHeight : Int32 := 9

def legendStep : Int32 := 15

/-- The width of a label in a legend: each character is half as wide as the font size. -/
def labelWidth (label : String) : Nat := label.length * (legendFontSize / 2)

def maxLabelWidth (labels : List String) : Nat := (labels.map labelWidth).foldl max 0

def legendDrop (k : Nat) : Int32 := legendStep * Int32.ofNat k

structure Legend where
  left : Int32
  top : Int32
  width : Int32
  height : Int32
  deriving DecidableEq, Repr

/-- The legend of a plot, halfway down at its left edge. -/
def legend (plot : Area) (labels : List String) : Legend :=
  let height := 2 * legendGap + legendDrop (labels.length - 1) + legendTextHeight
  { left := 5
    top := (plot.height.toInt32 - height) / 2
    width := 2 * legendGap + legendKeyArea + Int32.ofNat (maxLabelWidth labels)
    height := height }

def legendArea (plot : Area) (l : Legend) : Area :=
  let first := plot.confine (plot.place l.left l.top)
  let last := plot.confine (plot.place (l.left + l.width) (l.top + l.height))
  ⟨first.x, first.y, last.x, last.y⟩

/-- Where a label of a legend hangs. Only the first one is kept in the plot. -/
def legendLabelAnchor (plot : Area) (l : Legend) (k : Nat) : Pixel :=
  let first := plot.confine (plot.place (l.left + legendKeyArea + legendGap) (l.top + legendGap))
  { first with y := Int32.ofInt (min (first.y.toInt + (legendDrop k).toInt) Int32.maxValue.toInt) }

/-- The ends of the line beside a label of a legend, level with the middle of the label. -/
def legendKey (plot : Area) (l : Legend) (k : Nat) : List Pixel :=
  let top := l.top + legendGap + legendDrop k
  let middle := (top + (top + legendTextHeight)) / 2
  [plot.confine (plot.place (l.left + legendGap) middle),
    plot.confine (plot.place (l.left + legendGap + legendKeyWidth) middle)]

@[simp] theorem between_single (edge : Int32) : between [edge] = [] := rfl

@[simp] theorem between_cons_cons (first last : Int32) (rest : List Int32) :
    between (first :: last :: rest) = (first, last) :: between (last :: rest) := rfl

theorem length_edges (first last : Int32) (cuts : List Int32) :
    (edges first last cuts).length = cuts.length + 2 := by
  simp [edges]

end Drawing

end BenchChart
