import BenchChart.Drawing.Layout

/-!
# The drawing of a figure

A drawing is a list of shapes, each painted over those before it. The points of a curve are moved
into the ranges of the axes and then mapped to pixels of the plot, so no curve leaves its plot.
What is drawn in a plot is also kept in it pixel by pixel, which matters only if coordinates wrap.
Grid lines, ticks and their numbers are left to whoever paints the axes.
-/

namespace BenchChart

structure Paint where
  red : UInt8
  green : UInt8
  blue : UInt8
  /-- From zero to one. -/
  alpha : Binary64
  deriving DecidableEq

/-- Which point of a text stands at its place, horizontally. -/
inductive HorizontalAnchor where
  | left
  | center
  | right
  deriving DecidableEq, Repr

/-- Which point of a text stands at its place, vertically. -/
inductive VerticalAnchor where
  | top
  | center
  | bottom
  deriving DecidableEq, Repr

inductive Shape where
  | box (area : Area) (paint : Paint) (filled : Bool)
  /-- A text, turned clockwise by a number of degrees. -/
  | text (content : String) (place : Pixel) (size : Nat) (horizontal : HorizontalAnchor)
      (vertical : VerticalAnchor) (turn : Nat)
  /-- A line through all pixels. -/
  | path (pixels : List Pixel) (paint : Paint) (width : Nat)
  deriving DecidableEq

namespace Paint

def solid (red green blue : UInt8) : Paint := ⟨red, green, blue, Binary64.ofNat 1⟩

def white : Paint := solid 255 255 255

def black : Paint := solid 0 0 0

/-- What a legend stands on: the plot below it shows through. -/
def haze : Paint := { white with alpha := Binary64.ofRatio false 8 10 }

def ofColor : Color → Paint
  | .yellow => solid 255 255 0
  | .black => solid 0 0 0
  | .red => solid 255 0 0
  | .green => solid 0 255 0
  | .cyan => solid 0 255 255
  | .blue => solid 0 0 255

end Paint

namespace Drawing

def titleFontSize : Nat := 22

def captionFontSize : Nat := 16

def lineWidth : Nat := 2

/-- A thousandth of a pixel: what is this close to a pixel is drawn there. -/
def tolerance : Binary64 := Binary64.ofRatio false 1 1000

def fraction (range : Range) (v : Binary64) : Binary64 := (v - range.lo) / (range.hi - range.lo)

/-- The pixel of a number if the range starts at pixel `first` and ends at pixel `last`. A number
between two pixels takes the one nearer to `first`; NaN is drawn at `first`. -/
def coordinate (range : Range) (first last : Int32) (v : Binary64) : Int32 :=
  let span := last - first
  let length := Binary64.ofInt span.toInt * fraction range v
  if span = 0 then last
  else if 0 < span then first + Int32.ofInt ((length + tolerance).floor?.getD 0)
  else first + Int32.ofInt ((length - tolerance).ceil?.getD 0)

/-- The number in a range that is nearest to a number. A range with its ends out of order does not
move it. -/
def confine (range : Range) (v : Binary64) : Binary64 :=
  (Binary64.clamp? range.lo range.hi v).getD v

def pixel (plot : Area) (xRange yRange : Range) (p : Point) : Pixel :=
  plot.confine
    { x := coordinate xRange plot.left (plot.right - 1) (confine xRange p.x)
      y := coordinate yRange (plot.bottom - 1) plot.top (confine yRange p.y) }

def curveShapes (plot : Area) (xRange yRange : Range) (curve : Curve) : List Shape :=
  if curve.points.isEmpty then []
  else [.path (curve.points.map (pixel plot xRange yRange)) (Paint.ofColor curve.color) lineWidth]

def axisName (name : Option String) (size : Nat) (area : Area) (x y : UInt32)
    (vertical : VerticalAnchor) (turn : Nat) : List Shape :=
  match name with
  | none => []
  | some name =>
    if area.isEmpty then []
    else [.text name (area.place x.toInt32 y.toInt32) size .center vertical turn]

/-- The names of the axes, on all sides of the plot where there is room for labels. -/
def axisShapes (panel : Panel) (frame : Frame) : List Shape :=
  let size := axisFontSize frame.plot
  axisName panel.xLabel size frame.above (frame.above.width / 2) 0 .top 0 ++
    axisName panel.yLabel size frame.before 0 (frame.before.height / 2) .top 270 ++
    axisName panel.xLabel size frame.below (frame.below.width / 2) frame.below.height .bottom 0 ++
    axisName panel.yLabel size frame.after frame.after.width (frame.after.height / 2) .top 90

def legendShapes (panel : Panel) (plot : Area) : List Shape :=
  let l := legend plot (panel.curves.map Curve.label)
  let box := legendArea plot l
  let entries := panel.curves.zipIdx
  [.box box Paint.haze true, .box box Paint.black false] ++
    entries.map (fun (curve, k) =>
      Shape.text curve.label (legendLabelAnchor plot l k) legendFontSize .left .top 0) ++
    entries.map (fun (curve, k) =>
      Shape.path (legendKey plot l k) (Paint.ofColor curve.color) lineWidth)

def panelShapes (xRange : Range) (panel : Panel) (area : Area) : List Shape :=
  let parts := frame panel area
  .text panel.title (captionAnchor area) captionFontSize .center .top 0 ::
    axisShapes panel parts ++
    panel.curves.flatMap (curveShapes parts.plot xRange panel.yRange) ++
    if panel.legend then legendShapes panel parts.plot else []

def titleShapes (image : Area) (lines : List String) : List Shape :=
  lines.zipIdx.map fun (line, n) =>
    .text line (titleAnchor image n) titleFontSize .center .top 0

def ofFigure (figure : Figure) (width height : UInt32) : List Shape :=
  let image := Area.ofSize width height
  .box image Paint.white true ::
    titleShapes image figure.title ++
    (figure.panels.zip (panelAreas figure (body figure image))).flatMap fun (panel, area) =>
      panelShapes figure.xRange panel area

/-- The size of the image of a run and its drawing. -/
def ofRun (run : Run) (series : Series) (settings : Settings) : UInt32 × UInt32 × List Shape :=
  let usable := settings.supported
  (usable.width, usable.height,
    ofFigure (Figure.ofRun run series usable) usable.width usable.height)

theorem curveShapes_nil {plot : Area} {xRange yRange : Range} {curve : Curve}
    (h : curve.points = []) : curveShapes plot xRange yRange curve = [] := by
  simp [curveShapes, h]

end Drawing

end BenchChart
