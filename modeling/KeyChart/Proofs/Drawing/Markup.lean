import KeyChart.Drawing.Svg
import KeyChart.Proofs.Ddl.Spelling
import Mathlib.Algebra.GroupWithZero.Nat
import Mathlib.Data.List.Basic

/-!
# Markup

What a reader makes of the text of a document: tags with their attributes, and behind each tag
the text up to the next one. The reader knows nothing of drawings. It decodes the four entities
and takes a character of markup for nothing else than what it stands for, so that a document
with such a character in the wrong place cannot be read at all. What is written from tags,
attributes and texts is read as just these, whatever the values and the texts are.
-/

namespace KeyChart.Markup

open Svg

/-- The characters that are written as entities. -/
def special : List Char := ['&', '<', '>', '"']

/-- A text without special characters. -/
def Plain (s : String) : Prop := ∀ c ∈ s.toList, c ∉ special

instance (s : String) : Decidable (Plain s) :=
  decidable_of_iff ((s.toList.all fun c => decide (c ∉ special)) = true) (by simp [Plain])

/-! ## Entities -/

/-- The text that entities stand for, if no special character stands for itself. -/
def unescape? : List Char → Option (List Char)
  | [] => some []
  | '&' :: 'a' :: 'm' :: 'p' :: ';' :: cs => (unescape? cs).map ('&' :: ·)
  | '&' :: 'l' :: 't' :: ';' :: cs => (unescape? cs).map ('<' :: ·)
  | '&' :: 'g' :: 't' :: ';' :: cs => (unescape? cs).map ('>' :: ·)
  | '&' :: 'q' :: 'u' :: 'o' :: 't' :: ';' :: cs => (unescape? cs).map ('"' :: ·)
  | c :: cs => if c ∈ special then none else (unescape? cs).map (c :: ·)

/-- Every occurrence of a character replaced by a text. -/
def replaced (c : Char) (text : String) (cs : List Char) : List Char :=
  cs.flatMap fun d => if d = c then text.toList else [d]

theorem toList_escape (s : String) : (escape s).toList = s.toList.flatMap escapeChar :=
  String.toList_ofList

theorem escapeChar_of_not_mem {c : Char} (h : c ∉ special) : escapeChar c = [c] := by
  simp only [special, List.mem_cons, List.not_mem_nil, or_false, not_or] at h
  obtain ⟨hamp, hlt, hgt, hquot⟩ := h
  unfold escapeChar
  split <;> simp_all

theorem mem_special {c : Char} (h : c ∈ special) : c = '&' ∨ c = '<' ∨ c = '>' ∨ c = '"' := by
  simpa [special] using h

theorem unescape?_cons {c : Char} (h : c ∉ special) (cs : List Char) :
    unescape? (c :: cs) = (unescape? cs).map (c :: ·) := by
  have hamp : c ≠ '&' := by
    rintro rfl
    exact h (by decide)
  rw [unescape?.eq_def]
  split <;> simp_all

/-- A character is read back from what it is written as. -/
theorem unescape?_escapeChar (c : Char) (cs : List Char) :
    unescape? (escapeChar c ++ cs) = (unescape? cs).map (c :: ·) := by
  by_cases hc : c ∈ special
  · rcases mem_special hc with rfl | rfl | rfl | rfl <;> rfl
  · rw [escapeChar_of_not_mem hc, List.singleton_append, unescape?_cons hc]

/-- Decoding undoes escaping. -/
theorem unescape?_escape (s : String) : unescape? (escape s).toList = some s.toList := by
  rw [toList_escape]
  induction s.toList with
  | nil => rfl
  | cons c cs ih => rw [List.flatMap_cons, unescape?_escapeChar, ih, Option.map_some]

/-- Escaping is the same as replacing the special characters one after the other, the one that
entities start with first. -/
theorem toList_escape_eq_replaced (s : String) : (escape s).toList =
    replaced '"' "&quot;" (replaced '>' "&gt;" (replaced '<' "&lt;"
      (replaced '&' "&amp;" s.toList))) := by
  rw [toList_escape]
  induction s.toList with
  | nil => rfl
  | cons c cs ih =>
    rw [List.flatMap_cons, ih]
    simp only [replaced, List.flatMap_cons, List.flatMap_append]
    congr 1
    by_cases hc : c ∈ special
    · rcases mem_special hc with rfl | rfl | rfl | rfl <;> rfl
    · rw [escapeChar_of_not_mem hc]
      simp only [special, List.mem_cons, List.not_mem_nil, or_false, not_or] at hc
      simp only [hc, if_false, List.flatMap_cons, List.flatMap_nil, List.append_nil]

theorem escape_of_plain {s : String} (h : Plain s) : escape s = s := by
  rw [← String.toList_inj, toList_escape]
  unfold Plain at h
  generalize s.toList = cs at h
  induction cs with
  | nil => rfl
  | cons c cs ih =>
    rw [List.flatMap_cons, escapeChar_of_not_mem (h c List.mem_cons_self),
      ih fun d hd => h d (List.mem_cons_of_mem _ hd), List.singleton_append]

/-- Nothing but entities starts with a special character in an escaped text. -/
theorem not_mem_escape {c : Char} (hc : c ∈ special) (hamp : c ≠ '&') (s : String) :
    c ∉ (escape s).toList := by
  rw [toList_escape, List.mem_flatMap]
  rintro ⟨d, -, hd⟩
  by_cases hspecial : d ∈ special
  · rcases mem_special hspecial with rfl | rfl | rfl | rfl <;>
      rcases mem_special hc with rfl | rfl | rfl | rfl <;>
        first
        | exact hamp rfl
        | exact absurd hd (by decide)
  · rw [escapeChar_of_not_mem hspecial, List.mem_singleton] at hd
    exact hspecial (hd ▸ hc)

/-! ## Tags -/

/-- A tag with its attributes. An empty one is opening and closing at once. -/
inductive Tag where
  | opening (name : String) (attributes : List (String × String))
  | closing (name : String)
  | empty (name : String) (attributes : List (String × String))

/-- The attributes of a tag. -/
def Tag.attributes : Tag → List (String × String)
  | opening _ attributes | empty _ attributes => attributes
  | closing _ => []

/-- The name of a tag. -/
def Tag.name : Tag → String
  | opening name _ | empty name _ | closing name => name

/-- A tag and the text behind it. -/
structure Piece where
  tag : Tag
  text : String

/-- Attributes with their values between quotes. -/
def writeAttributes (attributes : List (String × String)) : String :=
  String.join (attributes.map fun (name, value) => attr name (escape value))

/-- What stands in a tag behind its first mark. -/
def Tag.inside : Tag → String
  | opening name attributes => name ++ writeAttributes attributes ++ ">"
  | closing name => "/" ++ name ++ ">"
  | empty name attributes => name ++ writeAttributes attributes ++ " />"

/-- A tag and the text behind it as they are written. -/
def Piece.write (p : Piece) : String := "<" ++ p.tag.inside ++ escape p.text

/-- The letters of a name. -/
def isNamePart (c : Char) : Bool := c.isAlpha || c == '-'

/-- Whether a text is a name. -/
def isName (s : String) : Bool := !s.toList.isEmpty && s.toList.all isNamePart

/-! ## Reading -/

/-- The text before a mark and the text behind it. -/
def upTo? (mark : Char) : List Char → Option (List Char × List Char)
  | [] => none
  | c :: cs => if c = mark then some ([], cs) else (upTo? mark cs).map fun r => (c :: r.1, r.2)

/-- Reads an attribute: its name, and its value between quotes. -/
def attribute? (cs : List Char) : Option ((String × String) × List Char) := do
  let (name, rest) ← upTo? '=' cs
  match rest with
  | '"' :: rest =>
    let (value, rest) ← upTo? '"' rest
    let value ← unescape? value
    return ((String.ofList name, String.ofList value), rest)
  | _ => none

theorem length_of_upTo? {mark : Char} {cs before rest : List Char}
    (h : upTo? mark cs = some (before, rest)) : rest.length < cs.length := by
  induction cs generalizing before with
  | nil => cases h
  | cons c cs ih =>
    rw [upTo?] at h
    split at h
    · cases h
      exact Nat.lt_succ_self _
    · obtain ⟨⟨before, rest⟩, hr, heq⟩ := Option.map_eq_some_iff.mp h
      cases heq
      exact Nat.lt_succ_of_lt (ih hr)

theorem length_of_attribute? {cs rest : List Char} {a : String × String}
    (h : attribute? cs = some (a, rest)) : rest.length < cs.length := by
  simp only [attribute?, Option.bind_eq_bind, Option.bind_eq_some_iff] at h
  obtain ⟨⟨name, behind⟩, hname, h⟩ := h
  have hlt := length_of_upTo? hname
  dsimp only at h
  split at h
  · simp only [Option.bind_eq_some_iff, Option.pure_def, Option.some.injEq] at h
    obtain ⟨⟨value, behind⟩, hvalue, value', -, heq⟩ := h
    have hrest : behind = rest := (Prod.mk.inj heq).2
    subst hrest
    have hlt' := length_of_upTo? hvalue
    rw [List.length_cons] at hlt
    omega
  · cases h

/-- Reads attributes, each of them behind a blank. What is left is the end of the tag. -/
def attributes? (cs : List Char) : Option (List (String × String) × List Char) :=
  match cs with
  | ' ' :: '/' :: rest => some ([], ' ' :: '/' :: rest)
  | ' ' :: rest =>
    match _h : attribute? rest with
    | none => none
    | some (first, rest) => (attributes? rest).map fun r => (first :: r.1, r.2)
  | _ => some ([], cs)
termination_by cs.length
decreasing_by
  exact Nat.lt_succ_of_lt (length_of_attribute? _h)

theorem length_of_attributes? {cs rest : List Char} {as : List (String × String)}
    (h : attributes? cs = some (as, rest)) : rest.length ≤ cs.length := by
  fun_induction attributes? cs generalizing as with
  | case1 => cases h; exact Nat.le_refl _
  | case2 => cases h
  | case3 behind _ first behind' hfirst ih =>
    obtain ⟨⟨as', rest'⟩, hr, heq⟩ := Option.map_eq_some_iff.mp h
    cases heq
    have hlt := length_of_attribute? hfirst
    have hle := ih hr
    rw [List.length_cons]
    omega
  | case4 => cases h; exact Nat.le_refl _

/-- Reads the end of a tag. -/
def tagEnd? (name : String) (attributes : List (String × String)) :
    List Char → Option (Tag × List Char)
  | '>' :: rest => some (.opening name attributes, rest)
  | ' ' :: '/' :: '>' :: rest => some (.empty name attributes, rest)
  | _ => none

/-- Reads the name, the attributes and the end of a tag. -/
def opening? (cs : List Char) : Option (Tag × List Char) := do
  let (attributes, rest) ← attributes? (cs.dropWhile isNamePart)
  tagEnd? (String.ofList (cs.takeWhile isNamePart)) attributes rest

/-- Reads a tag behind its first mark. -/
def tag? : List Char → Option (Tag × List Char)
  | '/' :: cs => (upTo? '>' cs).map fun r => (.closing (String.ofList r.1), r.2)
  | cs => opening? cs

theorem length_of_tagEnd? {name : String} {attributes : List (String × String)}
    {cs rest : List Char} {tag : Tag} (h : tagEnd? name attributes cs = some (tag, rest)) :
    rest.length ≤ cs.length := by
  unfold tagEnd? at h
  split at h <;> cases h <;> simp only [List.length_cons] <;> omega

theorem length_of_opening? {cs rest : List Char} {tag : Tag}
    (h : opening? cs = some (tag, rest)) : rest.length ≤ cs.length := by
  simp only [opening?, Option.bind_eq_bind, Option.bind_eq_some_iff] at h
  obtain ⟨⟨attributes, behind⟩, hattributes, hend⟩ := h
  have hbehind := length_of_attributes? hattributes
  have hrest : rest.length ≤ behind.length := length_of_tagEnd? hend
  have hdrop := (List.dropWhile_sublist isNamePart (l := cs)).length_le
  omega

theorem length_of_tag? {cs rest : List Char} {tag : Tag} (h : tag? cs = some (tag, rest)) :
    rest.length ≤ cs.length := by
  unfold tag? at h
  split at h
  · obtain ⟨⟨name, behind⟩, hr, heq⟩ := Option.map_eq_some_iff.mp h
    have hrest : behind = rest := (Prod.mk.inj heq).2
    subst hrest
    have hlt := length_of_upTo? hr
    rw [List.length_cons]
    omega
  · exact length_of_opening? h

/-- Reads a document: tags, and behind each one the text up to the next. -/
def pieces? (cs : List Char) : Option (List Piece) :=
  match cs with
  | [] => some []
  | '<' :: cs =>
    match _h : tag? cs with
    | none => none
    | some (tag, rest) => do
      let text ← unescape? (rest.takeWhile (· ≠ '<'))
      let more ← pieces? (rest.dropWhile (· ≠ '<'))
      return ⟨tag, String.ofList text⟩ :: more
  | _ => none
termination_by cs.length
decreasing_by
  have hle := length_of_tag? _h
  have hdrop := (List.dropWhile_sublist (· ≠ '<') (l := rest)).length_le
  simp only [List.length_cons] at hle ⊢
  omega

/-! ## What is written is read -/

theorem upTo?_append {mark : Char} {cs : List Char} (h : mark ∉ cs) (rest : List Char) :
    upTo? mark (cs ++ mark :: rest) = some (cs, rest) := by
  induction cs with
  | nil => simp [upTo?]
  | cons c cs ih =>
    have hne : c ≠ mark := by
      rintro rfl
      exact h List.mem_cons_self
    rw [List.cons_append, upTo?, if_neg hne, ih fun hmem => h (List.mem_cons_of_mem _ hmem)]
    rfl

theorem isName_iff {s : String} :
    isName s = true ↔ s.toList ≠ [] ∧ ∀ c ∈ s.toList, isNamePart c = true := by
  simp [isName]

theorem isNamePart_of_special {c : Char} (h : c ∈ special) : isNamePart c = false := by
  rcases mem_special h with rfl | rfl | rfl | rfl <;> rfl

theorem not_mem_name {name : String} (h : isName name = true) {c : Char}
    (hc : isNamePart c = false) : c ∉ name.toList := by
  intro hmem
  rw [(isName_iff.mp h).2 c hmem] at hc
  cases hc

theorem toList_attr (name value : String) (rest : List Char) :
    (attr name value).toList ++ rest =
      ' ' :: (name.toList ++ '=' :: '"' :: (value.toList ++ '"' :: rest)) := by
  simp [attr]

theorem attribute?_write {name : String} (h : isName name = true) (value : String)
    (rest : List Char) :
    attribute? (name.toList ++ '=' :: '"' :: ((escape value).toList ++ '"' :: rest)) =
      some ((name, value), rest) := by
  have hvalue := not_mem_escape (c := '"') (by decide) (by decide) value
  simp only [attribute?, upTo?_append (not_mem_name h (c := '=') (by decide)),
    upTo?_append hvalue, unescape?_escape, String.ofList_toList, Option.bind_eq_bind,
    Option.bind_some, Option.pure_def]

theorem writeAttributes_cons (name value : String) (attributes : List (String × String)) :
    writeAttributes ((name, value) :: attributes) =
      attr name (escape value) ++ writeAttributes attributes := by
  rw [writeAttributes, List.map_cons, String.join_cons]
  rfl

theorem toList_writeAttributes_cons (name value : String) (attributes : List (String × String))
    (rest : List Char) :
    (writeAttributes ((name, value) :: attributes)).toList ++ rest =
      ' ' :: (name.toList ++ '=' :: '"' :: ((escape value).toList ++ '"' ::
        ((writeAttributes attributes).toList ++ rest))) := by
  rw [writeAttributes_cons, String.toList_append, List.append_assoc, toList_attr]

/-- No name starts like the end of a tag. -/
theorem head?_name_append {name : String} (h : isName name = true) {c : Char}
    (hc : isNamePart c = false) (rest : List Char) : (name.toList ++ rest).head? ≠ some c := by
  obtain ⟨hne, hparts⟩ := isName_iff.mp h
  cases hchars : name.toList with
  | nil => exact absurd hchars hne
  | cons d cs =>
    have hd := hparts d (by rw [hchars]; exact List.mem_cons_self)
    rw [List.cons_append, List.head?_cons, Ne, Option.some.injEq]
    rintro rfl
    rw [hd] at hc
    cases hc

/-- Behind a blank comes an attribute, if the tag does not end there. -/
theorem attributes?_blank {cs rest : List Char} {a : String × String}
    (hcs : cs.head? ≠ some '/') (h : attribute? cs = some (a, rest)) :
    attributes? (' ' :: cs) = (attributes? rest).map fun r => (a :: r.1, r.2) := by
  rw [attributes?]
  · split
    case h_1 hnone =>
      rw [hnone] at h
      cases h
    case h_2 hsome =>
      rw [hsome] at h
      cases h
      rfl
  · rintro rest rfl
    exact hcs rfl

theorem attributes?_write {attributes : List (String × String)}
    (h : ∀ a ∈ attributes, isName a.1 = true) {rest : List Char}
    (hrest : attributes? rest = some ([], rest)) :
    attributes? ((writeAttributes attributes).toList ++ rest) = some (attributes, rest) := by
  induction attributes with
  | nil => exact hrest
  | cons a attributes ih =>
    obtain ⟨name, value⟩ := a
    have hname := h (name, value) List.mem_cons_self
    have hread := attribute?_write hname value ((writeAttributes attributes).toList ++ rest)
    have hslash := head?_name_append hname (c := '/') (by decide)
    rw [toList_writeAttributes_cons, attributes?_blank (hslash _) hread,
      ih fun a ha => h a (List.mem_cons_of_mem _ ha)]
    rfl

/-- There is no attribute at the end of a tag. -/
theorem attributes?_end (rest : List Char) :
    attributes? ('>' :: rest) = some ([], '>' :: rest) ∧
      attributes? (' ' :: '/' :: '>' :: rest) = some ([], ' ' :: '/' :: '>' :: rest) := by
  constructor
  · rw [attributes?.eq_def]
    rfl
  · rw [attributes?]

/-- The names of a tag are names. -/
def Tag.isNamed (t : Tag) : Bool := isName t.name && t.attributes.all fun a => isName a.1

/-- Only a closing tag starts with a slash. -/
theorem tag?_eq_opening? {cs : List Char} (h : cs.head? ≠ some '/') : tag? cs = opening? cs := by
  unfold tag?
  split
  · exact absurd rfl h
  · rfl

/-- A name and attributes are read, and what comes behind them decides about the tag. -/
theorem tag?_write {name : String} {attributes : List (String × String)}
    (hname : isName name = true) (hattributes : ∀ a ∈ attributes, isName a.1 = true)
    {rest : List Char} (hrest : attributes? rest = some ([], rest))
    (hend : ∀ c ∈ rest.head?, isNamePart c = false) :
    tag? (name.toList ++ ((writeAttributes attributes).toList ++ rest)) =
      tagEnd? name attributes rest := by
  have hhead : ∀ c ∈ ((writeAttributes attributes).toList ++ rest).head?,
      isNamePart c = false := by
    intro c hc
    cases attributes with
    | nil => exact hend c hc
    | cons a attributes =>
      rw [toList_writeAttributes_cons] at hc
      cases hc
      decide
  obtain ⟨htake, hdrop⟩ := Ddl.takeWhile_append_of_head (isName_iff.mp hname).2 hhead
  rw [tag?_eq_opening? (head?_name_append hname (by decide) _), opening?, htake, hdrop,
    attributes?_write hattributes hrest, String.ofList_toList]
  rfl

/-- A tag is read as it is written. -/
theorem tag?_inside {t : Tag} (h : t.isNamed = true) (rest : List Char) :
    tag? (t.inside.toList ++ rest) = some (t, rest) := by
  rw [Tag.isNamed, Bool.and_eq_true, List.all_eq_true] at h
  cases t with
  | opening name attributes =>
    have hinside : (Tag.opening name attributes).inside.toList ++ rest =
        name.toList ++ ((writeAttributes attributes).toList ++ '>' :: rest) := by
      simp [Tag.inside]
    rw [hinside]
    exact tag?_write h.1 h.2 (attributes?_end rest).1 (by simp [isNamePart])
  | closing name =>
    have hmark : '>' ∉ name.toList := not_mem_name h.1 (by decide)
    have hinside : (Tag.closing name).inside.toList ++ rest =
        '/' :: (name.toList ++ '>' :: rest) := by
      simp [Tag.inside]
    rw [hinside, tag?, upTo?_append hmark, Option.map_some, String.ofList_toList]
  | empty name attributes =>
    have hinside : (Tag.empty name attributes).inside.toList ++ rest =
        name.toList ++ ((writeAttributes attributes).toList ++ ' ' :: '/' :: '>' :: rest) := by
      simp [Tag.inside]
    rw [hinside]
    exact tag?_write h.1 h.2 (attributes?_end rest).2 (by simp [isNamePart])

/-- A document is read as it is written. -/
theorem pieces?_write {p : Piece} (h : p.tag.isNamed = true) {rest : List Char}
    (hrest : ∀ c ∈ rest.head?, c = '<') :
    pieces? (p.write.toList ++ rest) = (pieces? rest).map (p :: ·) := by
  have hwrite : p.write.toList ++ rest =
      '<' :: (p.tag.inside.toList ++ ((escape p.text).toList ++ rest)) := by
    simp [Piece.write]
  have hread := tag?_inside h ((escape p.text).toList ++ rest)
  have htext : ∀ c ∈ (escape p.text).toList, decide (c ≠ '<') = true := by
    intro c hc
    rw [decide_eq_true_eq]
    rintro rfl
    exact not_mem_escape (by decide) (by decide) _ hc
  have hnext : ∀ c ∈ rest.head?, decide (c ≠ '<') = false := by simpa using hrest
  obtain ⟨htake, hdrop⟩ := Ddl.takeWhile_append_of_head htext hnext
  rw [hwrite, pieces?]
  split
  case h_1 hnone =>
    rw [hread] at hnone
    cases hnone
  case h_2 tag behind hsome =>
    rw [hread] at hsome
    cases hsome
    rw [htake, hdrop, unescape?_escape]
    cases pieces? rest with
    | none => rfl
    | some more => simp

/-- Pieces are read one after the other, for each of them starts with a mark that none has in
its text. -/
theorem pieces?_join {ps : List Piece} (h : ∀ p ∈ ps, p.tag.isNamed = true) :
    pieces? (String.join (ps.map Piece.write)).toList = some ps := by
  induction ps with
  | nil => rw [List.map_nil, String.join_nil, String.toList_empty, pieces?]
  | cons p ps ih =>
    have hnext : ∀ c ∈ (String.join (ps.map Piece.write)).toList.head?, c = '<' := by
      intro c hc
      cases ps with
      | nil => cases hc
      | cons q qs =>
        rw [List.map_cons, String.join_cons, Piece.write] at hc
        simpa using hc.symm
    rw [List.map_cons, String.join_cons, String.toList_append,
      pieces?_write (h p List.mem_cons_self) hnext, ih fun q hq => h q (List.mem_cons_of_mem _ hq)]
    rfl

/-! ## Marks of a document -/

theorem count_escape {c : Char} (hc : c ∈ special) (hamp : c ≠ '&') (s : String) :
    (escape s).toList.count c = 0 :=
  List.count_eq_zero.mpr (not_mem_escape hc hamp s)

theorem count_name {name : String} (h : isName name = true) {c : Char}
    (hc : isNamePart c = false) : name.toList.count c = 0 :=
  List.count_eq_zero.mpr (not_mem_name h hc)

/-- What is special in an attribute is what is written around its name and its value. -/
theorem count_attr {name : String} (h : isName name = true) (value : String) {c : Char}
    (hc : c ∈ special) (hamp : c ≠ '&') :
    (attr name (escape value)).toList.count c = (attr "" "").toList.count c := by
  simp only [attr, String.toList_append, String.toList_empty, List.count_append, List.count_nil,
    count_name h (isNamePart_of_special hc), count_escape hc hamp]

theorem count_writeAttributes {attributes : List (String × String)}
    (h : ∀ a ∈ attributes, isName a.1 = true) {c : Char} (hc : c ∈ special) (hamp : c ≠ '&') :
    (writeAttributes attributes).toList.count c =
      (attr "" "").toList.count c * attributes.length := by
  induction attributes with
  | nil => rfl
  | cons a attributes ih =>
    obtain ⟨name, value⟩ := a
    rw [writeAttributes_cons, String.toList_append, List.count_append,
      count_attr (h (name, value) List.mem_cons_self) value hc hamp,
      ih fun a ha => h a (List.mem_cons_of_mem _ ha), List.length_cons, Nat.mul_succ, Nat.add_comm]

/-- A piece has one mark where its tag begins, and two quotes for each attribute. -/
theorem count_write {p : Piece} (h : p.tag.isNamed = true) :
    p.write.toList.count '<' = 1 ∧ p.write.toList.count '"' = 2 * p.tag.attributes.length := by
  obtain ⟨tag, text⟩ := p
  have hmarks : (escape text).toList.count '<' = 0 := count_escape (by decide) (by decide) text
  have hquotes : (escape text).toList.count '"' = 0 := count_escape (by decide) (by decide) text
  rw [Tag.isNamed, Bool.and_eq_true, List.all_eq_true] at h
  have hname : tag.name.toList.count '<' = 0 ∧ tag.name.toList.count '"' = 0 :=
    ⟨count_name h.1 (by decide), count_name h.1 (by decide)⟩
  have hnone : (writeAttributes tag.attributes).toList.count '<' = 0 * tag.attributes.length :=
    count_writeAttributes h.2 (by decide) (by decide)
  have htwo : (writeAttributes tag.attributes).toList.count '"' = 2 * tag.attributes.length :=
    count_writeAttributes h.2 (by decide) (by decide)
  cases tag <;>
    simp_all [Piece.write, Tag.inside, Tag.name, Tag.attributes, List.count_append]

theorem count_join {ps : List Piece} (h : ∀ p ∈ ps, p.tag.isNamed = true) :
    (String.join (ps.map Piece.write)).toList.count '<' = ps.length ∧
      (String.join (ps.map Piece.write)).toList.count '"' =
        2 * (ps.map fun p => p.tag.attributes.length).sum := by
  induction ps with
  | nil => exact ⟨rfl, rfl⟩
  | cons p ps ih =>
    obtain ⟨hmarks, hquotes⟩ := ih fun q hq => h q (List.mem_cons_of_mem _ hq)
    obtain ⟨hmark, hquote⟩ := count_write (h p List.mem_cons_self)
    rw [List.map_cons, String.join_cons, String.toList_append, List.count_append, List.count_append,
      hmarks, hquotes, hmark, hquote, List.map_cons, List.sum_cons, List.length_cons]
    omega

end KeyChart.Markup
