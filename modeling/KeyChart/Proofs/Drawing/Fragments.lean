import KeyChart.Proofs.Drawing.Markup
import KeyChart.Proofs.Mark.Placement

/-!
# Fragments of a drawing

A drawn group of rows is read as a group tag around one tag or two for each row, with the
attributes that the renderer writes and the values of the row in them. So no value can bring in
a tag, an attribute or a quote, whatever text it is.
-/

namespace KeyChart

/-- The rows that are drawn, as many as there are row identities. -/
def ChannelArrays.rows (arrays : ChannelArrays) : List Record :=
  (List.range (((arrays.find? rowId).map List.length).getD 0)).map arrays.row

namespace Markup

open Svg

/-! ## Numbers -/

theorem plain_append {s t : String} (hs : Plain s) (ht : Plain t) : Plain (s ++ t) := by
  intro c hc
  rw [String.toList_append, List.mem_append] at hc
  exact hc.elim (hs c) (ht c)

theorem plain_digitsOf (n : Nat) : Plain (Decimal.digitsOf n) := by
  intro c hc hspecial
  rw [Decimal.digitsOf, String.toList_ofList] at hc
  have hdigit := Nat.isDigit_of_mem_toDigits (by decide) (by decide) hc
  rcases mem_special hspecial with rfl | rfl | rfl | rfl <;> cases hdigit

theorem plain_zeros (n : Nat) : Plain (Decimal.zeros n) := by
  intro c hc
  rw [Decimal.zeros, String.toList_ofList] at hc
  rw [List.eq_of_mem_replicate hc]
  decide

theorem plain_of_subset {cs : List Char} {s : String} (h : Plain s) (hcs : cs ⊆ s.toList) :
    Plain (String.ofList cs) := by
  intro c hc
  rw [String.toList_ofList] at hc
  exact h c (hcs hc)

theorem plain_positional (style : Decimal.Style) (s : Decimal.Scaled) :
    Plain (style.positional s) := by
  unfold Decimal.Style.positional
  split
  · refine plain_append (plain_append (plain_digitsOf _) (plain_zeros _)) ?_
    split <;> decide
  · have hpadded : Plain (Decimal.zeros ((-s.exponent).toNat + 1 -
        (Decimal.digitsOf s.digits).length) ++ Decimal.digitsOf s.digits) :=
      plain_append (plain_zeros _) (plain_digitsOf _)
    refine plain_append (plain_append ?_ (by decide)) ?_
    · exact plain_of_subset hpadded (List.take_subset _ _)
    · exact plain_of_subset hpadded (List.drop_subset _ _)

/-- Numbers are displayed without special characters. -/
theorem plain_number (x : Float) : Plain (number x) := by
  unfold number Decimal.Style.render
  split
  · decide
  · extract_lets text
    have htext : Plain text := by
      unfold text
      split
      · decide
      · split
        · exact plain_positional _ _
        · exact plain_positional _ _
    split
    · exact plain_append (by decide) htext
    · exact htext

/-! ## Tags of a drawing -/

/-- The style attributes that a row has, with the labels of their values. -/
def styleValues (row : Record) : List (String × String) :=
  styleChannels.filterMap fun name =>
    match row.find? name with
    | none | some .null => none
    | some v => some (name, v.toLabel)

/-- The attributes that the element of a row has by its shape. -/
def ownValues (m : TextMetrics) (shape : Shape) (row : Record) (box : Box) :
    List (String × String) :=
  let value (channel : String) (default : Float) : String := number (numberOr row channel default)
  match shape with
  | .rect => [("x", value "x" box.x), ("y", value "y" box.y), ("width", value "width" box.width),
      ("height", value "height" box.height)]
  | .circle => [("cx", value "x" box.x), ("cy", value "y" box.y), ("r", value "r" defaultRadius)]
  | .text => [("x", number (numberOr row "x" box.x + m.paddingX)),
      ("y", number (numberOr row "y" box.y + m.paddingY)), ("dominant-baseline", "hanging"),
      ("font-family", "monospace")]

/-- The tags of a row: a text stands between two of them, the other shapes are empty. -/
def rowPieces (m : TextMetrics) (shape : Shape) (box : Box) (row : Record) : List Piece :=
  let attributes := ownValues m shape row box ++ styleValues row
  match shape with
  | .text => [⟨.opening "text" attributes, shownText row⟩, ⟨.closing "text", "\n"⟩]
  | _ => [⟨.empty shape.label attributes, "\n"⟩]

/-- The tags of a group of rows. -/
def drawingPieces (m : TextMetrics) (shape : Shape) (rows : List Record) (box : Box) :
    List Piece :=
  ⟨.opening "g" [("class", shape.label)], "\n"⟩ ::
    (rows.flatMap (rowPieces m shape box) ++ [⟨.closing "g", "\n"⟩])

/-- The attributes that come with a shape are numbers and words. -/
theorem plain_of_mem_ownValues {m : TextMetrics} {shape : Shape} {row : Record} {box : Box}
    {a : String × String} (h : a ∈ ownValues m shape row box) : Plain a.2 := by
  cases shape with
  | rect | circle =>
    simp only [ownValues, List.mem_cons, List.not_mem_nil, or_false] at h
    obtain rfl | rfl | rfl | rfl := h <;> exact plain_number _
  | text =>
    simp only [ownValues, List.mem_cons, List.not_mem_nil, or_false] at h
    obtain rfl | rfl | rfl | rfl := h
    · exact plain_number _
    · exact plain_number _
    · decide
    · decide

theorem style_eq (row : Record) : style row = writeAttributes (styleValues row) := by
  rw [style, writeAttributes, styleValues, List.map_filterMap]
  congr 2
  funext name
  cases row.find? name with
  | none => rfl
  | some v => cases v <;> rfl

/-- The attributes of a row as they are written. -/
theorem writeAttributes_row (m : TextMetrics) (shape : Shape) (row : Record) (box : Box) :
    writeAttributes (ownValues m shape row box ++ styleValues row) =
      String.join ((ownValues m shape row box).map fun a => attr a.1 a.2) ++ style row := by
  have hown : (ownValues m shape row box).map (fun a => attr a.1 (escape a.2)) =
      (ownValues m shape row box).map fun a => attr a.1 a.2 := by
    refine List.map_congr_left fun a ha => ?_
    rw [escape_of_plain (plain_of_mem_ownValues ha)]
  rw [style_eq, writeAttributes, List.map_append, String.join_append, hown]
  rfl

/-- A row is written as its tags. -/
theorem place_eq (m : TextMetrics) (shape : Shape) (box : Box) (row : Record) :
    (place m shape row box).element ++ "\n" =
      String.join ((rowPieces m shape box row).map Piece.write) := by
  have hnewline : escape "\n" = "\n" := escape_of_plain (by decide)
  rw [← String.toList_inj]
  cases shape with
  | rect =>
    simp only [rowPieces, List.map_cons, List.map_nil, Piece.write, Tag.inside, writeAttributes_row]
    simp [place, Svg.rect, ownValues, Shape.label, hnewline]
  | circle =>
    simp only [rowPieces, List.map_cons, List.map_nil, Piece.write, Tag.inside, writeAttributes_row]
    simp [place, Svg.circle, ownValues, Shape.label, hnewline]
  | text =>
    simp only [rowPieces, List.map_cons, List.map_nil, Piece.write, Tag.inside, writeAttributes_row]
    simp [place, Svg.text, ownValues, hnewline]

/-- A group is written as its tags. -/
theorem fragment_drawRows (m : TextMetrics) (shape : Shape) (rows : List Record) (box : Box) :
    (drawRows m shape rows box).fragment =
      String.join ((drawingPieces m shape rows box).map Piece.write) := by
  have hnewline : escape "\n" = "\n" := escape_of_plain (by decide)
  have hlabel : escape shape.label = shape.label := by
    refine escape_of_plain ?_
    cases shape <;> decide
  have hrows : String.join
      ((rows.map fun row => place m shape row box).map fun p => p.element ++ "\n") =
        String.join ((rows.flatMap (rowPieces m shape box)).map Piece.write) := by
    induction rows with
    | nil => rfl
    | cons row rows ih =>
      rw [List.map_cons, List.map_cons, String.join_cons, ih, place_eq, List.flatMap_cons,
        List.map_append, String.join_append]
  rw [drawRows, hrows, drawingPieces, List.map_cons, List.map_append, String.join_cons,
    String.join_append, ← String.toList_inj]
  simp [Piece.write, Tag.inside, writeAttributes, hnewline, hlabel]

theorem isName_of_mem_styleValues {row : Record} {a : String × String} (h : a ∈ styleValues row) :
    isName a.1 = true := by
  have hchannels : ∀ name ∈ styleChannels, isName name = true := by decide
  obtain ⟨name, hname, ha⟩ := List.mem_filterMap.mp h
  split at ha
  · cases ha
  · cases ha
  · cases ha
    exact hchannels name hname

theorem isName_of_mem_ownValues {m : TextMetrics} {shape : Shape} {row : Record} {box : Box}
    {a : String × String} (h : a ∈ ownValues m shape row box) : isName a.1 = true := by
  have hname := List.mem_map_of_mem (f := Prod.fst) h
  cases shape with
  | rect =>
    have hnames : ∀ name ∈ ["x", "y", "width", "height"], isName name = true := by decide
    exact hnames _ hname
  | circle =>
    have hnames : ∀ name ∈ ["cx", "cy", "r"], isName name = true := by decide
    exact hnames _ hname
  | text =>
    have hnames : ∀ name ∈ ["x", "y", "dominant-baseline", "font-family"],
        isName name = true := by decide
    exact hnames _ hname

/-- Tags and attributes have names that the renderer chooses. -/
theorem isNamed_of_mem {m : TextMetrics} {shape : Shape} {rows : List Record} {box : Box}
    {p : Piece} (h : p ∈ drawingPieces m shape rows box) : p.tag.isNamed = true := by
  have hlabel : isName shape.label = true := by
    cases shape <;> decide
  have hrow : ∀ row, ((ownValues m shape row box ++ styleValues row).all
      fun a => isName a.1) = true := by
    intro row
    rw [List.all_eq_true]
    intro a ha
    exact (List.mem_append.mp ha).elim isName_of_mem_ownValues isName_of_mem_styleValues
  rw [drawingPieces, List.mem_cons, List.mem_append, List.mem_flatMap, List.mem_singleton] at h
  obtain rfl | ⟨row, -, hp⟩ | rfl := h
  · cases shape <;> decide
  · have hnamed := Bool.and_eq_true_iff.mpr ⟨hlabel, hrow row⟩
    cases shape with
    | rect => exact List.mem_singleton.mp hp ▸ hnamed
    | circle => exact List.mem_singleton.mp hp ▸ hnamed
    | text =>
      rcases List.mem_pair.mp hp with rfl | rfl
      · exact hnamed
      · decide
  · decide

/-! ## What a drawing needs -/

/-- The tags that a row of a shape needs. -/
def tagsPerRow : Shape → Nat
  | .text => 2
  | _ => 1

/-- The attributes that a row of a shape has, whatever its values are. -/
def ownCount : Shape → Nat
  | .circle => 3
  | _ => 4

theorem length_ownValues (m : TextMetrics) (shape : Shape) (row : Record) (box : Box) :
    (ownValues m shape row box).length = ownCount shape := by
  cases shape <;> rfl

theorem length_drawingPieces (m : TextMetrics) (shape : Shape) (rows : List Record) (box : Box) :
    (drawingPieces m shape rows box).length = 2 + tagsPerRow shape * rows.length := by
  have hrow : ∀ row, (rowPieces m shape box row).length = tagsPerRow shape := by
    intro row
    cases shape <;> rfl
  have hrows : (rows.flatMap (rowPieces m shape box)).length = tagsPerRow shape * rows.length := by
    induction rows with
    | nil => rfl
    | cons row rows ih =>
      rw [List.flatMap_cons, List.length_append, hrow, ih, List.length_cons, Nat.mul_succ,
        Nat.add_comm]
  rw [drawingPieces, List.length_cons, List.length_append, List.length_singleton, hrows]
  omega

theorem attributes_drawingPieces (m : TextMetrics) (shape : Shape) (rows : List Record)
    (box : Box) :
    ((drawingPieces m shape rows box).map fun p => p.tag.attributes.length).sum =
      1 + (rows.map fun row => ownCount shape + (styleValues row).length).sum := by
  have hrow : ∀ row, ((rowPieces m shape box row).map fun p => p.tag.attributes.length).sum =
      ownCount shape + (styleValues row).length := by
    intro row
    rw [← length_ownValues m shape row box, ← List.length_append]
    cases shape <;> rfl
  have hrows : ((rows.flatMap (rowPieces m shape box)).map
      fun p => p.tag.attributes.length).sum =
        (rows.map fun row => ownCount shape + (styleValues row).length).sum := by
    induction rows with
    | nil => rfl
    | cons row rows ih =>
      rw [List.flatMap_cons, List.map_append, List.sum_append, hrow, ih, List.map_cons,
        List.sum_cons]
  rw [drawingPieces, List.map_cons, List.map_append, List.sum_cons, List.sum_append, hrows]
  rfl

/-! ## Values cannot become markup -/

/-- What is known of the text of a drawing: it has just the tags and the quotes that are needed
for its rows, and it is read as these tags with the values and the texts of the rows. -/
structure OwnMarkup (m : TextMetrics) (shape : Shape) (rows : List Record) (box : Box)
    (fragment : String) : Prop where
  tags : fragment.toList.count '<' = 2 + tagsPerRow shape * rows.length
  quotes : fragment.toList.count '"' =
    2 * (1 + (rows.map fun row => ownCount shape + (styleValues row).length).sum)
  read : pieces? fragment.toList = some (drawingPieces m shape rows box)

theorem ownMarkup_drawRows (m : TextMetrics) (shape : Shape) (rows : List Record) (box : Box) :
    OwnMarkup m shape rows box (drawRows m shape rows box).fragment := by
  have hnamed : ∀ p ∈ drawingPieces m shape rows box, p.tag.isNamed = true :=
    fun p hp => isNamed_of_mem hp
  obtain ⟨htags, hquotes⟩ := count_join hnamed
  rw [length_drawingPieces] at htags
  rw [attributes_drawingPieces] at hquotes
  rw [fragment_drawRows]
  exact ⟨htags, hquotes, pieces?_join hnamed⟩

/-- A group of rows is drawn with the markup of the renderer alone: the tags and quotes in it
are counted by the rows, and a reader gets back the displayed values from the attributes and
the texts. Decoding undoes the replacement of the four characters one after the other, for
entities that a text already has are kept apart from those that are put in. -/
theorem draw_own_markup {arrays : ChannelArrays} {count : Nat} (h : arrays.Filled count)
    (m : TextMetrics) (shape : Shape) (box : Box) :
    draw? m shape arrays box = some (draw m shape arrays box) ∧
      OwnMarkup m shape arrays.rows box (draw m shape arrays box).fragment ∧
      ∀ text : List Char, unescape? (replaced '"' "&quot;" (replaced '>' "&gt;"
        (replaced '<' "&lt;" (replaced '&' "&amp;" text)))) = some text := by
  refine ⟨draw?_eq h m shape box, ownMarkup_drawRows m shape arrays.rows box, ?_⟩
  intro text
  have hdecode := unescape?_escape (String.ofList text)
  rw [toList_escape_eq_replaced, String.toList_ofList] at hdecode
  exact hdecode

/-- Two texts: one would bring in a tag, the other is full of entities; only the first has a
colour, which would bring in an attribute. -/
def forgedArrays : ChannelArrays where
  entries := [("fill", [.text "red\" onload=\"x", .null]), ("id", [.int 1, .int 2]),
    ("text", [.text "</text><g class=\"a\">", .text "&lt;&amp;lt;"])]
  sorted := by decide

theorem draw_own_markup_forged :
    let box : Box := ⟨10, 20, 100, 50⟩
    let drawing := draw {} .text forgedArrays box
    forgedArrays.Filled 2 ∧ draw? {} .text forgedArrays box = some drawing ∧
      OwnMarkup {} .text forgedArrays.rows box drawing.fragment ∧
      drawing.fragment.toList.count '<' = 6 ∧ drawing.fragment.toList.count '"' = 20 := by
  intro box drawing
  have hfilled : forgedArrays.Filled 2 := by
    intro name values hfind
    have hlength : ∀ e ∈ forgedArrays.entries, e.2.length = 2 := by decide
    exact hlength _ (SortedMap.find?_eq_some_iff_mem.mp hfind)
  obtain ⟨hdraw, hown, -⟩ := draw_own_markup hfilled {} .text box
  refine ⟨hfilled, hdraw, hown, ?_, ?_⟩
  · rw [hown.tags]
    decide +kernel
  · rw [hown.quotes]
    decide +kernel

end Markup

end KeyChart
