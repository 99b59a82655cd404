import KeyChart.Proofs.Ddl.Spelling
import KeyChart.Value

/-!
# Nothing escapes from its quotes

A name stands between double quotes and a text between single ones, and the marks inside
are doubled. Either is read back whatever it holds and whatever follows, as long as that
does not start with the mark itself: then the closing mark and the one behind it are read
as one more mark of the text.
-/

namespace KeyChart.Ddl

/-- Behind one more mark the text goes on. -/
theorem length_lt_delimited_doubled (mark : Char) (text rest : List Char) :
    text.length < (delimited mark (doubled mark text ++ mark :: mark :: rest)).1.length := by
  have hmark : (delimited mark (mark :: mark :: rest)).1 = mark :: (delimited mark rest).1 := by
    simp [delimited]
  rw [delimited_doubled_append, hmark, List.length_append, List.length_cons]
  omega

/-- A quoted text is read back exactly if what follows does not start with its mark. -/
theorem tokens_quoted_iff {mark : Char} (hmark : closing? mark = some mark) (text : String)
    (rest : List Char) :
    tokens (mark :: (doubled mark text.toList ++ mark :: rest)) =
        (if mark = '\'' then .str text else .ident text) :: tokens rest ↔
      rest.head? ≠ some mark := by
  constructor
  · intro hread hhead
    obtain ⟨rest, rfl⟩ := List.head?_eq_some_iff.mp hhead
    rw [tokens_opening hmark] at hread
    have htoken := (List.cons.inj hread).1
    have hlonger := length_lt_delimited_doubled mark text.toList rest
    -- The token determines its text, and the one that is read is too long.
    have htext : (delimited mark (doubled mark text.toList ++ mark :: mark :: rest)).1 =
        text.toList := by
      rw [← String.ofList_inj, String.ofList_toList]
      by_cases hsingle : mark = '\''
      · simpa [hsingle] using htoken
      · simpa [hsingle] using htoken
    rw [htext] at hlonger
    omega
  · intro hhead
    refine tokens_quoted hmark text ?_
    rintro c hc rfl
    exact hhead hc

theorem toList_toLiteral_text_append (s : String) (rest : List Char) :
    (Value.text s).toLiteral.toList ++ rest =
      '\'' :: (doubled '\'' s.toList ++ '\'' :: rest) := by
  simp [Value.toLiteral, doubled]

/-- Quoting cannot be escaped from. In front of any text, a quoted name is read as that
name and then the text, unless the text starts with a double quote; likewise the literal of
a text cell, unless a single quote follows. -/
theorem quoted_text_reads_back (s r : String) :
    (tokens (quoteIdent s ++ r).toList = .ident s :: tokens r.toList ↔
        r.toList.head? ≠ some '"') ∧
      (tokens ((Value.text s).toLiteral ++ r).toList = .str s :: tokens r.toList ↔
        r.toList.head? ≠ some '\'') := by
  have hdouble : closing? '"' = some '"' := rfl
  have hsingle : closing? '\'' = some '\'' := rfl
  rw [String.toList_append, String.toList_append, toList_quoteIdent_append,
    toList_toLiteral_text_append]
  exact ⟨tokens_quoted_iff hdouble s r.toList, tokens_quoted_iff hsingle s r.toList⟩

end KeyChart.Ddl
