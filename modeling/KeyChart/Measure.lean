import KeyChart.Box
import KeyChart.Text.Lines
import KeyChart.Text.Width

/-!
# Size of text

The room that text takes in a font of fixed width.
-/

namespace KeyChart

/-- The measures of a font and the padding around text. -/
structure TextMetrics where
  charWidth : Float := 8
  lineHeight : Float := 16
  paddingX : Float := 2
  paddingY : Float := 2

namespace TextMetrics

/-- The width of one line. -/
def textWidth (m : TextMetrics) (text : String) : Float :=
  Float.ofNat (Text.width text) * m.charWidth

/-- Width and height of a text with its padding. A text takes one line at least. -/
def textSize (m : TextMetrics) (text : String) : Float × Float :=
  let lines := Text.lines text
  let widest := (lines.map m.textWidth).foldl larger 0
  (widest + m.paddingX * 2, Float.ofNat (max lines.length 1) * m.lineHeight + m.paddingY * 2)

end TextMetrics

end KeyChart
