import KeyChart.Ddl.Lexer
import KeyChart.Schema

/-!
# How tokens are written

What the text of a script has to look like to be read as given tokens. A word, a number
and a quoted name end where a blank or a punctuation mark follows, so pieces of text with
such marks between them are read one by one.
-/

namespace KeyChart.Text

/-- Two sets of characters without a common member. -/
def CodePoints.apart (r s : CodePoints) : Bool :=
  r.all fun x => s.all fun y => x.2 < y.1 || y.2 < x.1

theorem CodePoints.not_covers {r s : CodePoints} (h : r.apart s = true) {c : Char}
    (hc : r.covers c = true) : s.covers c = false := by
  simp only [apart, List.all_eq_true, Bool.or_eq_true, decide_eq_true_eq] at h
  simp only [covers, List.any_eq_true, Bool.and_eq_true, decide_eq_true_eq] at hc
  obtain ⟨x, hx, hlow, hhigh⟩ := hc
  rw [← Bool.not_eq_true]
  intro hs
  simp only [covers, List.any_eq_true, Bool.and_eq_true, decide_eq_true_eq] at hs
  obtain ⟨y, hy, hlow', hhigh'⟩ := hs
  rcases h x hx y hy with hlt | hlt
  · omega
  · omega

theorem letters_covers {c : Char} (h : isLetter c = true) : letters.covers c = true := by
  have hrange : ∀ r ∈ letters, r.1 ≤ c.toNat → c.toNat ≤ r.2 → letters.covers c = true := by
    intro r hr hlow hhigh
    refine List.any_eq_true.mpr ⟨r, hr, ?_⟩
    simp [hlow, hhigh]
  unfold isLetter at h
  split at h
  · have halpha : (c.isUpper || c.isLower) = true := h
    rcases (Bool.or_eq_true _ _).mp halpha with hupper | hlower
    · have hbounds : 'A'.val ≤ c.val ∧ c.val ≤ 'Z'.val := of_decide_eq_true hupper
      exact hrange (0x41, 0x5A) (by decide) hbounds.1 hbounds.2
    · have hbounds : (decide ('a'.val ≤ c.val) && decide (c.val ≤ 'z'.val)) = true := hlower
      obtain ⟨hlow, hhigh⟩ := (Bool.and_eq_true _ _).mp hbounds
      exact hrange (0x61, 0x7A) (by decide) (of_decide_eq_true hlow) (of_decide_eq_true hhigh)
  · exact h

theorem not_isBlank_of_isLetter {c : Char} (h : isLetter c = true) : isBlank c = false :=
  CodePoints.not_covers (r := letters) (s := blanks) (by decide +kernel) (letters_covers h)

end KeyChart.Text

namespace KeyChart.Ddl

/-! ## Characters -/

/-- The marks between the pieces of a written script. -/
def breaks : List Char := [' ', '(', ')', ',', ';']

/-- A text that is empty or starts with a mark between pieces. -/
def Breaks (cs : List Char) : Prop := ∀ c ∈ cs.head?, c ∈ breaks

/-- What is checked of each character of a list. -/
theorem eq_false_of_all {p : Char → Bool} {cs : List Char} (h : cs.all (fun c => !p c) = true)
    {c : Char} (hc : c ∈ cs) : p c = false := by
  have hp := List.all_eq_true.mp h c hc
  simpa using hp

theorem not_isWordPart_of_break {c : Char} (h : c ∈ breaks) : isWordPart c = false := by
  have hbreaks : breaks.all (fun d => !isWordPart d) = true := by decide +kernel
  exact eq_false_of_all hbreaks h

theorem not_isNumberPart_of_break {c : Char} (h : c ∈ breaks) : isNumberPart c = false := by
  have hbreaks : breaks.all (fun d => !isNumberPart d) = true := by decide
  exact eq_false_of_all hbreaks h

theorem not_isBlank_of_startsWord {c : Char} (h : startsWord c = true) :
    Text.isBlank c = false := by
  simp only [startsWord, Bool.or_eq_true, decide_eq_true_eq] at h
  rcases h with h | rfl
  · exact Text.not_isBlank_of_isLetter h
  · decide

/-- The characters that start something other than a word or a digit. -/
def otherStarts : List Char := ['#', '-', '/', '(', ')', ',', ';', '.', '"', '\x60', '[', '\'']

theorem not_mem_otherStarts_of_startsWord {c : Char} (h : startsWord c = true) :
    c ∉ otherStarts := by
  have hother : otherStarts.all (fun d => !startsWord d) = true := by decide +kernel
  intro hmem
  rw [eq_false_of_all hother hmem] at h
  cases h

theorem not_mem_otherStarts_of_isDigit {c : Char} (h : c.isDigit = true) : c ∉ otherStarts := by
  have hother : otherStarts.all (fun d => !d.isDigit) = true := by decide
  intro hmem
  rw [eq_false_of_all hother hmem] at h
  cases h

theorem not_isBlank_of_isDigit {c : Char} (h : c.isDigit = true) : Text.isBlank c = false := by
  refine Text.CodePoints.not_covers (r := [(0x30, 0x39)]) (s := Text.blanks) (by decide) ?_
  simp only [Char.isDigit, Bool.and_eq_true, decide_eq_true_eq, ge_iff_le,
    UInt32.le_iff_toNat_le] at h
  simp only [Text.CodePoints.covers, List.any_cons, List.any_nil, Bool.or_false,
    Bool.and_eq_true, decide_eq_true_eq]
  exact h

theorem not_isDigit_of_startsWord {c : Char} (h : startsWord c = true) : c.isDigit = false := by
  simp only [startsWord, Bool.or_eq_true, decide_eq_true_eq] at h
  rcases h with h | rfl
  · have hnot := Text.CodePoints.not_covers (r := Text.letters) (s := [(0x30, 0x39)])
      (by decide +kernel) (Text.letters_covers h)
    simp only [Text.CodePoints.covers, List.any_cons, List.any_nil, Bool.or_false,
      Bool.and_eq_false_iff, decide_eq_false_iff_not] at hnot
    simp only [Char.isDigit, Bool.and_eq_false_iff, decide_eq_false_iff_not, ge_iff_le,
      UInt32.le_iff_toNat_le]
    exact hnot
  · decide

/-! ## One token -/

/-- A mark between pieces is a token by itself, or none if it is blank. -/
theorem tokens_break {c : Char} (hc : c ∈ breaks) (rest : List Char) :
    tokens (c :: rest) = (punctuation? c).toList ++ tokens rest := by
  simp only [breaks, List.mem_cons, List.not_mem_nil, or_false] at hc
  rcases hc with rfl | rfl | rfl | rfl | rfl <;> rw [tokens] <;> rfl

theorem tokens_breaks {cs : List Char} (hcs : ∀ c ∈ cs, c ∈ breaks) (rest : List Char) :
    tokens (cs ++ rest) = cs.filterMap punctuation? ++ tokens rest := by
  induction cs with
  | nil => rfl
  | cons c cs ih =>
    have hrest := ih fun d hd => hcs d (by simp [hd])
    rw [List.cons_append, tokens_break (hcs c (by simp)), hrest]
    cases hc : punctuation? c with
    | none => rw [List.filterMap_cons_none hc]; rfl
    | some t => rw [List.filterMap_cons_some hc]; rfl

theorem takeWhile_append_of_head {p : Char → Bool} {cs rest : List Char}
    (hcs : ∀ c ∈ cs, p c = true) (hrest : ∀ c ∈ rest.head?, p c = false) :
    (cs ++ rest).takeWhile p = cs ∧ (cs ++ rest).dropWhile p = rest := by
  rw [List.takeWhile_append_of_pos hcs, List.dropWhile_append_of_pos hcs]
  cases rest with
  | nil => simp
  | cons c rest =>
    have hc := hrest c rfl
    simp [hc]

/-- A character that starts nothing else starts a number or a word, or stands for itself. -/
theorem tokens_cons {c : Char} (hblank : Text.isBlank c = false) (hc : c ∉ otherStarts)
    (rest : List Char) :
    tokens (c :: rest) =
      if c.isDigit then
        .num (String.ofList (c :: rest.takeWhile isNumberPart)) ::
          tokens (rest.dropWhile isNumberPart)
      else if startsWord c then
        wordToken (c :: rest.takeWhile isWordPart) :: tokens (rest.dropWhile isWordPart)
      else .symbol c :: tokens rest := by
  simp only [otherStarts, List.mem_cons, List.not_mem_nil, or_false, not_or] at hc
  have hpunctuation : punctuation? c = none := by
    unfold punctuation?
    split <;> simp_all
  have hclosing : closing? c = none := by
    unfold closing?
    split <;> simp_all
  rw [tokens]
  simp [hblank, hc, hpunctuation, hclosing]

/-- A word ends at the next mark. -/
theorem tokens_word {c : Char} {cs rest : List Char} (hc : startsWord c = true)
    (hcs : ∀ d ∈ cs, isWordPart d = true) (hrest : Breaks rest) :
    tokens (c :: cs ++ rest) = wordToken (c :: cs) :: tokens rest := by
  obtain ⟨htake, hdrop⟩ := takeWhile_append_of_head hcs
    fun d hd => not_isWordPart_of_break (hrest d hd)
  rw [List.cons_append, tokens_cons (not_isBlank_of_startsWord hc)
    (not_mem_otherStarts_of_startsWord hc), htake, hdrop]
  simp [not_isDigit_of_startsWord hc, hc]

/-- A number ends at the next mark. -/
theorem tokens_number {c : Char} {cs rest : List Char} (hc : c.isDigit = true)
    (hcs : ∀ d ∈ cs, isNumberPart d = true) (hrest : Breaks rest) :
    tokens (c :: cs ++ rest) = .num (String.ofList (c :: cs)) :: tokens rest := by
  obtain ⟨htake, hdrop⟩ := takeWhile_append_of_head hcs
    fun d hd => not_isNumberPart_of_break (hrest d hd)
  rw [List.cons_append, tokens_cons (not_isBlank_of_isDigit hc)
    (not_mem_otherStarts_of_isDigit hc), if_pos hc, htake, hdrop]

/-- A sign belongs to the number behind it. -/
theorem tokens_negative {c : Char} {cs rest : List Char} (hc : c.isDigit = true)
    (hcs : ∀ d ∈ cs, isNumberPart d = true) (hrest : Breaks rest) :
    tokens ('-' :: c :: cs ++ rest) = .num (String.ofList ('-' :: c :: cs)) :: tokens rest := by
  have hsign : c ≠ '-' := by
    rintro rfl
    cases hc
  have hpart : isNumberPart c = true := by simp [isNumberPart, hc]
  obtain ⟨htake, hdrop⟩ := takeWhile_append_of_head (List.forall_mem_cons.mpr ⟨hpart, hcs⟩)
    fun d hd => not_isNumberPart_of_break (hrest d hd)
  rw [List.cons_append] at htake hdrop
  rw [List.cons_append, List.cons_append, tokens]
  simp [hsign, hc, htake, hdrop, punctuation?, closing?, show Text.isBlank '-' = false by decide]

theorem delimited_cons_of_ne {close c : Char} (h : c ≠ close) (rest : List Char) :
    delimited close (c :: rest) = (c :: (delimited close rest).1, (delimited close rest).2) := by
  rw [delimited.eq_def]
  simp [h]

theorem delimited_close (close : Char) {rest : List Char} (h : ∀ c ∈ rest.head?, c ≠ close) :
    delimited close (close :: rest) = ([], rest) := by
  cases rest with
  | nil => simp [delimited]
  | cons c rest =>
    have hc := h c rfl
    simp [delimited, hc]

/-- A text in which every mark of one kind is doubled. -/
def doubled (mark : Char) (text : List Char) : List Char :=
  text.flatMap fun c => if c = mark then [mark, mark] else [c]

/-- No mark of the text closes the quoted part, whatever stands behind the text. -/
theorem delimited_doubled_append (mark : Char) (text more : List Char) :
    delimited mark (doubled mark text ++ more) =
      (text ++ (delimited mark more).1, (delimited mark more).2) := by
  induction text with
  | nil => rfl
  | cons c text ih =>
    by_cases hc : c = mark
    · have htext : doubled mark (c :: text) = mark :: mark :: doubled mark text := by
        simp [doubled, hc]
      rw [htext, hc, List.cons_append, List.cons_append]
      simp [delimited, ih]
    · have htext : doubled mark (c :: text) = c :: doubled mark text := by simp [doubled, hc]
      rw [htext, List.cons_append, delimited_cons_of_ne hc, ih, List.cons_append]

/-- A quoted text is read up to the mark that closes it, whatever is in it. -/
theorem delimited_doubled {mark : Char} (text : List Char) {rest : List Char}
    (hrest : ∀ c ∈ rest.head?, c ≠ mark) :
    delimited mark (doubled mark text ++ mark :: rest) = (text, rest) := by
  rw [delimited_doubled_append, delimited_close mark hrest, List.append_nil]

/-- A mark that opens a quoted part starts nothing else. -/
theorem tokens_opening {c close : Char} (h : closing? c = some close) (rest : List Char) :
    tokens (c :: rest) =
      (if c = '\'' then .str (String.ofList (delimited close rest).1)
        else .ident (String.ofList (delimited close rest).1)) ::
        tokens (delimited close rest).2 := by
  have hblank : Text.isBlank c = false ∧ punctuation? c = none ∧ c ∉ ['#', '-', '/'] := by
    unfold closing? at h
    split at h
    · decide
    · decide
    · decide
    · decide
    · cases h
  obtain ⟨hblank, hpunctuation, hother⟩ := hblank
  simp only [List.mem_cons, List.not_mem_nil, or_false, not_or] at hother
  rw [tokens]
  simp [hblank, hpunctuation, h, hother]

/-- A quoted text is one token, unless its mark comes once more behind it. -/
theorem tokens_quoted {mark : Char} (hmark : closing? mark = some mark) (text : String)
    {rest : List Char} (hrest : ∀ c ∈ rest.head?, c ≠ mark) :
    tokens (mark :: (doubled mark text.toList ++ mark :: rest)) =
      (if mark = '\'' then .str text else .ident text) :: tokens rest := by
  rw [tokens_opening hmark, delimited_doubled text.toList hrest, String.ofList_toList]

theorem toList_quoteIdent_append (name : String) (rest : List Char) :
    (quoteIdent name).toList ++ rest = '"' :: (doubled '"' name.toList ++ '"' :: rest) := by
  simp [quoteIdent, doubled]

theorem tokens_quoteIdent (name : String) {rest : List Char} (hrest : Breaks rest) :
    tokens ((quoteIdent name).toList ++ rest) = .ident name :: tokens rest := by
  have hquote : breaks.all (fun d => !(d == '"')) = true := by decide
  have hmark : closing? '"' = some '"' := rfl
  have hname := tokens_quoted hmark name fun c hc =>
    ne_of_beq_false (eq_false_of_all hquote (hrest c hc))
  rw [toList_quoteIdent_append, hname]
  rfl

/-! ## Pieces of a text -/

/-- A text is read as the given tokens, if it ends there or a mark follows. -/
def Spells (s : String) (ts : List Token) : Prop :=
  ∀ rest, Breaks rest → tokens (s.toList ++ rest) = ts ++ tokens rest

/-- A text of nothing but marks, and the tokens among them. -/
structure Marks (s : String) (ts : List Token) : Prop where
  nonempty : s ≠ ""
  breaks : s.toList.all breaks.contains = true
  tokens : s.toList.filterMap punctuation? = ts

variable {s s' m : String} {ts ts' ms : List Token}

theorem Spells.tokens_eq (h : Spells s ts) : tokens s.toList = ts := by
  have hend := h [] fun c hc => by cases hc
  rwa [List.append_nil, tokens, List.append_nil] at hend

theorem spells_empty : Spells "" [] := fun _ _ => rfl

theorem Marks.mem_breaks (h : Marks m ms) : ∀ c ∈ m.toList, c ∈ Ddl.breaks := by
  intro c hc
  have hbreak := List.all_eq_true.mp h.breaks c hc
  simpa using hbreak

theorem Marks.breaks_append (h : Marks m ms) (rest : List Char) : Breaks (m.toList ++ rest) := by
  intro c hc
  cases hm : m.toList with
  | nil => exact absurd (String.toList_eq_nil_iff.mp hm) h.nonempty
  | cons d cs =>
    rw [hm, List.cons_append, List.head?_cons, Option.mem_def, Option.some.injEq] at hc
    exact h.mem_breaks c (by simp [hm, hc])

theorem Marks.spells (hm : Marks m ms) : Spells m ms := by
  intro rest _
  rw [tokens_breaks hm.mem_breaks, hm.tokens]

/-- Two pieces are read one after the other if the second one starts with a mark. -/
theorem Spells.append_of_breaks (h : Spells s ts) (h' : Spells s' ts')
    (hbreaks : ∀ rest, Breaks rest → Breaks (s'.toList ++ rest)) :
    Spells (s ++ s') (ts ++ ts') := by
  intro rest hrest
  rw [String.toList_append, List.append_assoc, List.append_assoc, h _ (hbreaks rest hrest),
    h' rest hrest]

theorem Spells.close (h : Spells s ts) (hm : Marks m ms) : Spells (s ++ m) (ts ++ ms) :=
  h.append_of_breaks hm.spells fun rest _ => hm.breaks_append rest

theorem Marks.append (hm : Marks m ms) (h : Spells s ts) : Spells (m ++ s) (ms ++ ts) := by
  intro rest hrest
  rw [String.toList_append, List.append_assoc, List.append_assoc, tokens_breaks hm.mem_breaks,
    hm.tokens, h rest hrest]

theorem Spells.append (h : Spells s ts) (hm : Marks m ms) (h' : Spells s' ts') :
    Spells (s ++ m ++ s') (ts ++ ms ++ ts') := by
  rw [String.append_assoc, List.append_assoc]
  refine h.append_of_breaks (hm.append h') ?_
  intro rest _
  rw [String.toList_append, List.append_assoc]
  exact hm.breaks_append _

section
variable {α : Type} {text : α → String} {spelled : α → List Token}

/-- Pieces of a list with the same marks between each two of them. -/
theorem spells_intercalate (hm : Marks m ms) (h : ∀ x, Spells (text x) (spelled x))
    (xs : List α) : Spells (m.intercalate (xs.map text)) (ms.intercalate (xs.map spelled)) := by
  induction xs with
  | nil => exact spells_empty
  | cons x xs ih =>
    cases xs with
    | nil => simpa [List.intercalate] using h x
    | cons y xs =>
      simp only [List.map_cons, String.intercalate_cons_cons, List.intercalate_cons_cons]
      exact (h x).append hm ih

/-- Pieces of a list, each behind the same marks. -/
theorem spells_join (hm : Marks m ms) (h : ∀ x, Spells (text x) (spelled x)) (xs : List α) :
    Spells (String.join (xs.map fun x => m ++ text x)) (xs.flatMap fun x => ms ++ spelled x) ∧
      ∀ rest, Breaks rest →
        Breaks ((String.join (xs.map fun x => m ++ text x)).toList ++ rest) := by
  induction xs with
  | nil => exact ⟨spells_empty, fun _ hrest => hrest⟩
  | cons x xs ih =>
    obtain ⟨hrest, hbreaks⟩ := ih
    rw [List.map_cons, String.join_cons, List.flatMap_cons]
    constructor
    · exact (hm.append (h x)).append_of_breaks hrest hbreaks
    · intro rest _
      rw [String.toList_append, String.toList_append, List.append_assoc, List.append_assoc]
      exact hm.breaks_append _

end

theorem spells_quoteIdent (name : String) : Spells (quoteIdent name) [.ident name] :=
  fun _ hrest => tokens_quoteIdent name hrest

theorem spells_word {c : Char} {cs : List Char} (hc : startsWord c = true)
    (hcs : cs.all isWordPart = true) : Spells (String.ofList (c :: cs)) [wordToken (c :: cs)] := by
  intro rest hrest
  rw [String.toList_ofList, tokens_word hc (List.all_eq_true.mp hcs) hrest]
  rfl

/-- Whether a keyword is read in its spelling. -/
def isSpelled (e : Keyword × String) : Bool :=
  match e.2.toList with
  | [] => false
  | c :: cs => startsWord c && cs.all isWordPart && wordToken (c :: cs) = .keyword e.1

theorem all_isSpelled : Keyword.spellings.all isSpelled = true := by decide +kernel

theorem spells_keyword {word : Keyword} (h : (word, s) ∈ Keyword.spellings) :
    Spells s [.keyword word] := by
  have hspelled := List.all_eq_true.mp all_isSpelled _ h
  unfold isSpelled at hspelled
  split at hspelled
  case h_1 => cases hspelled
  case h_2 c cs htext =>
    simp only [Bool.and_eq_true, decide_eq_true_eq] at hspelled
    obtain ⟨⟨hc, hcs⟩, htoken⟩ := hspelled
    have hword := spells_word hc hcs
    rwa [htoken, ← htext, String.ofList_toList] at hword

end KeyChart.Ddl
