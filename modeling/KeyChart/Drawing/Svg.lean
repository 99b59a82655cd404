import KeyChart.Drawing.Shape
import KeyChart.Measure
import KeyChart.Schema

/-!
# Drawings as SVG

Each group of rows becomes a `g` element and each row an element in it. Values
enter the document as attributes and as text, with the four characters of
markup written as entities.
-/

namespace KeyChart.Svg

/-- A character of text or of an attribute. -/
def escapeChar : Char → List Char
  | '&' => "&amp;".toList
  | '<' => "&lt;".toList
  | '>' => "&gt;".toList
  | '"' => "&quot;".toList
  | c => [c]

/-- Text without characters of markup. -/
def escape (s : String) : String := String.ofList (s.toList.flatMap escapeChar)

/-- A number of the document. -/
def number (x : Float) : String := Decimal.plain.render x

/-- An attribute, with a blank before it. -/
def attr (name value : String) : String := " " ++ name ++ "=\"" ++ value ++ "\""

/-- The channels that are written as attributes of the element. -/
def styleChannels : List String := ["fill", "stroke", "stroke-width", "opacity"]

/-- The radius of a circle without one. -/
def defaultRadius : Float := 3

/-- A number of a row, or the given one if the row has none. -/
def numberOr (row : Record) (channel : String) (default : Float) : Float :=
  ((row.find? channel).bind Value.toFloat?).getD default

/-- The style attributes of a row; null values have none. -/
def style (row : Record) : String :=
  String.join (styleChannels.filterMap fun name =>
    match row.find? name with
    | none | some .null => none
    | some v => some (attr name (escape v.toLabel)))

/-- An element and the box that it takes. -/
structure Placed where
  element : String
  box : Box

/-- A row as a rectangle; what it leaves open is that of the group's box. -/
def rect (row : Record) (box : Box) : Placed :=
  let x := numberOr row "x" box.x
  let y := numberOr row "y" box.y
  let w := numberOr row "width" box.width
  let h := numberOr row "height" box.height
  ⟨"<rect" ++ attr "x" (number x) ++ attr "y" (number y) ++
    attr "width" (number w) ++ attr "height" (number h) ++ style row ++ " />",
   ⟨x, y, w, h⟩⟩

/-- A row as a circle around its point. -/
def circle (row : Record) (box : Box) : Placed :=
  let cx := numberOr row "x" box.x
  let cy := numberOr row "y" box.y
  let r := numberOr row "r" defaultRadius
  ⟨"<circle" ++ attr "cx" (number cx) ++ attr "cy" (number cy) ++
    attr "r" (number r) ++ style row ++ " />",
   ⟨cx - r, cy - r, r * 2, r * 2⟩⟩

/-- The text that a row shows. -/
def shownText (row : Record) : String := ((row.find? "text").map Value.toLabel).getD ""

/-- A row as text, as large as the text is. -/
def text (m : TextMetrics) (row : Record) (box : Box) : Placed :=
  let shown := shownText row
  let x := numberOr row "x" box.x
  let y := numberOr row "y" box.y
  let size := m.textSize shown
  ⟨"<text" ++ attr "x" (number (x + m.paddingX)) ++ attr "y" (number (y + m.paddingY)) ++
    attr "dominant-baseline" "hanging" ++ attr "font-family" "monospace" ++ style row ++
    ">" ++ escape shown ++ "</text>",
   ⟨x, y, size.1, size.2⟩⟩

/-- A row as its shape. -/
def place (m : TextMetrics) (shape : Shape) (row : Record) (box : Box) : Placed :=
  match shape with
  | .rect => rect row box
  | .circle => circle row box
  | .text => text m row box

/-- The attributes of a drawn row: its channels, and the box that it takes. -/
def attributes (shape : Shape) (row : Record) (box : Box) : Record :=
  let row :=
    match shape with
    | .text => row.insert "text" (.text (shownText row))
    | _ => row
  (((row.insert "x" (.float box.x)).insert "y" (.float box.y)).insert
    "width" (.float box.width)).insert "height" (.float box.height)

/-- Draws the rows of a group. -/
def drawRows (m : TextMetrics) (shape : Shape) (rows : List Record) (box : Box) : Drawing :=
  let placed := rows.map fun row => place m shape row box
  ⟨"<g" ++ attr "class" shape.label ++ ">\n" ++
    String.join (placed.map fun p => p.element ++ "\n") ++ "</g>\n",
   (rows.zip placed).map fun (row, p) => attributes shape row p.box⟩

/-- Draws a group of rows, as many as there are row identities. -/
def draw (m : TextMetrics) (shape : Shape) (arrays : ChannelArrays) (box : Box) : Drawing :=
  let count := ((arrays.find? rowId).map List.length).getD 0
  drawRows m shape ((List.range count).map arrays.row) box

/-- A document of the given size with the given fragments. -/
def compose (box : Box) (fragments : List String) : String :=
  let viewBox := " ".intercalate (([box.x, box.y, box.width, box.height]).map number)
  "<svg" ++ attr "xmlns" "http://www.w3.org/2000/svg" ++
    attr "width" (number box.width) ++ attr "height" (number box.height) ++
    attr "viewBox" viewBox ++ ">\n" ++ String.join fragments ++ "</svg>\n"

/-- SVG as a renderer. -/
def renderer (m : TextMetrics) (ρ : Type) : Renderer ρ where
  draw shape arrays box := pure (draw m shape arrays box)
  compose box fragments := .ok (compose box fragments)

end KeyChart.Svg
