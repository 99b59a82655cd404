import KeyChart.Proofs.Ddl.RoundTrip
import KeyChart.Proofs.Except

/-!
# Statements are read one by one

A reader that succeeds has come to the end of its piece. If a semicolon and more tokens are
put behind its own, it reads the same piece, and what it left before is followed by what was
put there.

Most readers stop in front of a semicolon, so this holds of them wherever they stop. Those
inside the parentheses of a table pass over semicolons. For them it holds if they left
something, and in a table that is read to its closing parenthesis they all did.
-/

namespace KeyChart.Ddl

open Written (columnClauses_references tableItems_keyword tableItems_constraint
  tableItems_ident declarations_of_statement)

/-! ## Readers that stop in front of a semicolon -/

section
variable (next : List Token)

theorem eat_semicolon (word : Keyword) (ts : List Token) :
    eat word (ts ++ .semicolon :: next) = eat word ts ++ .semicolon :: next := by
  cases ts with
  | nil => rfl
  | cons t ts =>
    cases t with
    | keyword w => by_cases hw : w = word <;> simp [eat, hw]
    | _ => rfl

theorem eat?_semicolon (word : Keyword) (ts : List Token) :
    eat? word (ts ++ .semicolon :: next) =
      (eat? word ts).map (· ++ .semicolon :: next) := by
  cases ts with
  | nil => rfl
  | cons t ts =>
    cases t with
    | keyword w => by_cases hw : w = word <;> simp [eat?, hw]
    | _ => rfl

theorem ident_semicolon (ts : List Token) :
    ident (ts ++ .semicolon :: next) = ((ident ts).1, (ident ts).2 ++ .semicolon :: next) := by
  cases ts with
  | nil => rfl
  | cons t ts => cases t <;> rfl

theorem qualifiedName_semicolon (ts : List Token) :
    qualifiedName (ts ++ .semicolon :: next) =
      ((qualifiedName ts).1, (qualifiedName ts).2 ++ .semicolon :: next) := by
  fun_induction qualifiedName ts with
  | case1 name rest ih => simpa [qualifiedName] using ih
  | case2 name rest hdot =>
    -- A semicolon is not the dot behind which a name goes on.
    cases rest with
    | nil => rfl
    | cons t rest =>
      cases t with
      | dot => exact absurd rfl (hdot rest)
      | _ => rfl
  | case3 ts hdot hname =>
    cases ts with
    | nil => rfl
    | cons t ts =>
      cases t with
      | ident name => exact absurd rfl (hname name ts)
      | _ => rfl

end

/-- A list of columns is read up to its parenthesis. -/
theorem columnNames_append {ts left : List Token} {names : List String}
    (h : columnNames ts = .ok (names, left)) (more : List Token) :
    columnNames (ts ++ more) = .ok (names, left ++ more) := by
  fun_induction columnNames ts generalizing names with
  | case1 => cases h
  | case2 rest =>
    cases h
    rfl
  | case3 name rest names' left' hnames ih =>
    cases h
    rw [List.cons_append, columnNames, ih hnames]
  | case4 => cases h
  | case5 t rest hclose hname ih =>
    rw [List.cons_append, columnNames, ih h]
    · exact hclose
    · exact hname

section
variable {ts left : List Token} (next : List Token)

theorem columnList_semicolon {names : List String} (h : columnList ts = .ok (names, left)) :
    columnList (ts ++ .semicolon :: next) = .ok (names, left ++ .semicolon :: next) := by
  cases ts with
  | nil =>
    cases h
    rfl
  | cons t ts =>
    cases t with
    | lparen => exact columnNames_append h _
    | _ =>
      cases h
      rfl

/-- The columns of a key, behind a `KEY` that may be left out. -/
theorem keyColumns_semicolon {names : List String}
    (h : columnList (eat .key ts) = .ok (names, left)) :
    columnList (eat .key (ts ++ .semicolon :: next)) =
      .ok (names, left ++ .semicolon :: next) := by
  rw [eat_semicolon]
  exact columnList_semicolon next h

theorem reference_semicolon {target : String × List String}
    (h : reference ts = .ok (target, left)) :
    reference (ts ++ .semicolon :: next) = .ok (target, left ++ .semicolon :: next) := by
  unfold reference at h ⊢
  rw [qualifiedName_semicolon]
  split at h
  case h_1 => cases h
  case h_2 name rest hname =>
    split at h
    case h_1 => cases h
    case h_2 columns rest' hcolumns =>
      cases h
      simp only [hname, columnList_semicolon next hcolumns]

end

/-! ## Readers inside the parentheses of a table -/

section
variable {ts left : List Token} (more : List Token)

theorem groupText_append {depth : Nat} (h : (groupText depth ts).2 ≠ []) :
    groupText depth (ts ++ more) =
      ((groupText depth ts).1, (groupText depth ts).2 ++ more) := by
  fun_induction groupText depth ts with
  | case1 => exact absurd rfl h
  | case2 depth rest parts left hgroup ih =>
    rw [hgroup] at ih
    simp [groupText, ih h]
  | case3 depth rest hdepth => simp [groupText, hdepth]
  | case4 depth rest hdepth parts left hgroup ih =>
    rw [hgroup] at ih
    simp [groupText, hdepth, ih h]
  | case5 depth t rest hopen hclose parts left hgroup ih =>
    rw [hgroup] at ih
    rw [List.cons_append, groupText, ih h]
    all_goals assumption

theorem skipItem_append {depth : Nat} (h : skipItem depth ts ≠ []) :
    skipItem depth (ts ++ more) = skipItem depth ts ++ more := by
  fun_induction skipItem depth ts with
  | case1 => exact absurd rfl h
  | case2 depth rest ih => exact ih h
  | case3 rest => rfl
  | case4 depth rest hdepth ih => simpa [skipItem, hdepth] using ih h
  | case5 rest => rfl
  | case6 depth rest hdepth ih => simpa [skipItem, hdepth] using ih h
  | case7 depth t rest hopen hclose hcomma ih =>
    rw [List.cons_append, skipItem, ih h]
    all_goals assumption

theorem ne_nil_of_length_le (h : left.length ≤ ts.length) (hleft : left ≠ []) : ts ≠ [] := by
  rintro rfl
  exact hleft (List.length_eq_zero_iff.mp (Nat.le_zero.mp h))

theorem typeWords_append {words : List String} (h : (typeWords words ts).2 ≠ []) :
    typeWords words (ts ++ more) =
      ((typeWords words ts).1, (typeWords words ts).2 ++ more) := by
  fun_induction typeWords words ts with
  | case1 words word rest ih => simpa [typeWords] using ih h
  | case2 rest => simp [typeWords]
  | case3 rest last before group ih =>
    -- Something is left of the type, so the group was closed.
    have hleft : group.2 ≠ [] := ne_nil_of_length_le (length_typeWords_le _ _) h
    have hgroup := groupText_append more hleft
    rw [List.cons_append] at hgroup
    rw [List.cons_append, typeWords, hgroup]
    exact ih h
  | case4 words ts hword hopen =>
    cases ts with
    | nil => exact absurd rfl h
    | cons t ts =>
      cases t with
      | ident word => exact absurd rfl (hword word ts)
      | lparen => exact absurd rfl (hopen ts)
      | _ => simp [typeWords]

end

section
variable {body body' : Body} {ts left : List Token} (next : List Token)

theorem columnClauses_semicolon {decl decl' : ColumnDecl}
    (h : columnClauses body decl ts = .ok ((body', decl'), left)) (hleft : left ≠ []) :
    columnClauses body decl (ts ++ .semicolon :: next) =
      .ok ((body', decl'), left ++ .semicolon :: next) := by
  fun_induction columnClauses body decl ts with
  | case1 =>
    cases h
    exact absurd rfl hleft
  | case2 body decl rest | case3 body decl rest =>
    cases h
    rw [List.cons_append, columnClauses]
  | case4 body decl rest ih =>
    have hgroup := groupText_append (.semicolon :: next)
      (ne_nil_of_length_le (length_of_columnClauses h) hleft)
    rw [List.cons_append] at hgroup
    rw [List.cons_append, columnClauses, hgroup]
    exact ih h
  | case5 body decl rest ih | case6 body decl rest ih =>
    rw [List.cons_append, columnClauses, eat_semicolon]
    exact ih h
  | case7 body decl rest ih =>
    rw [List.cons_append, List.cons_append, columnClauses]
    exact ih h
  | case8 => cases h
  | case9 body decl rest target left' href ih =>
    rw [List.cons_append, columnClauses_references (reference_semicolon next href)]
    exact ih h
  | case10 body decl t rest hcomma hclose hopen hprimary hunique hnull hreferences ih =>
    rw [List.cons_append, columnClauses]
    · exact ih h
    · exact hcomma
    · exact hclose
    · exact hopen
    · exact hprimary
    · exact hunique
    · -- A semicolon is not the `NULL` behind a `NOT`.
      intro more hnot hmore
      cases rest with
      | nil => cases hmore
      | cons u rest =>
        cases hmore
        exact hnull rest hnot rfl
    · exact hreferences

theorem column_semicolon {name : String} (h : column body name ts = .ok (body', left))
    (hleft : left ≠ []) :
    column body name (ts ++ .semicolon :: next) = .ok (body', left ++ .semicolon :: next) := by
  unfold column at h ⊢
  simp only at h
  split at h
  case h_1 => cases h
  case h_2 hclauses =>
    cases h
    have htype := typeWords_append (.semicolon :: next)
      (ne_nil_of_length_le (length_of_columnClauses hclauses) hleft)
    simp only [htype, columnClauses_semicolon next hclauses hleft]

theorem tableConstraint_semicolon {name : Option String}
    (h : tableConstraint body name ts = .ok (body', left)) (hleft : left ≠ []) :
    tableConstraint body name (ts ++ .semicolon :: next) =
      .ok (body', left ++ .semicolon :: next) := by
  unfold tableConstraint at h
  split at h
  case h_1 =>
    split at h
    case h_1 => cases h
    case h_2 hcolumns =>
      cases h
      simp only [List.cons_append, tableConstraint, keyColumns_semicolon next hcolumns,
        skipItem_append _ hleft]
  case h_2 =>
    split at h
    case h_1 => cases h
    case h_2 hcolumns =>
      cases h
      simp only [List.cons_append, tableConstraint, keyColumns_semicolon next hcolumns,
        skipItem_append _ hleft]
  case h_3 =>
    split at h
    case h_1 => cases h
    case h_2 hcolumns =>
      split at h
      case h_1 hnone =>
        cases h
        simp only [List.cons_append, tableConstraint, keyColumns_semicolon next hcolumns,
          eat?_semicolon, hnone, Option.map_none, skipItem_append _ hleft]
      case h_2 hsome =>
        split at h
        case h_1 => cases h
        case h_2 href =>
          cases h
          simp only [List.cons_append, tableConstraint, keyColumns_semicolon next hcolumns,
            eat?_semicolon, hsome, Option.map_some, reference_semicolon next href,
            skipItem_append _ hleft]
  case h_4 hprimary hunique hforeign =>
    -- An item of another kind is passed over. It is not empty, as something is left of it.
    cases h
    cases ts with
    | nil => exact absurd rfl hleft
    | cons t ts =>
      rw [tableConstraint, skipItem_append _ hleft]
      · rintro rest ⟨⟩
        exact hprimary ts rfl
      · rintro rest ⟨⟩
        exact hunique ts rfl
      · rintro rest ⟨⟩
        exact hforeign ts rfl

/-- At the end of the tokens no table is closed. So whatever a reader of an item leaves, with
which the table is read further, is not empty. -/
theorem ne_nil_of_tableItems (h : tableItems body ts = .ok (body', left)) : ts ≠ [] := by
  rintro rfl
  rw [tableItems] at h
  cases h

/-- A table that is read to its closing parenthesis is read so whatever comes behind it. -/
theorem tableItems_semicolon (h : tableItems body ts = .ok (body', left)) :
    tableItems body (ts ++ .semicolon :: next) = .ok (body', left ++ .semicolon :: next) := by
  fun_induction tableItems body ts with
  | case1 => cases h
  | case2 body rest =>
    cases h
    rw [List.cons_append, tableItems]
  | case3 => cases h
  | case4 body rest name body'' left' hread ih =>
    have hread' := tableConstraint_semicolon next hread (ne_nil_of_tableItems h)
    rw [List.cons_append, tableItems_constraint, ih h]
    rw [ident_semicolon]
    exact hread'
  | case5 body rest ih | case6 body rest ih =>
    rw [List.cons_append, tableItems, skipItem_append _ (ne_nil_of_tableItems h)]
    exact ih h
  | case7 => cases h
  | case8 body word rest hconstraint hindex hkey hword body'' left' hread ih =>
    have hread' := tableConstraint_semicolon next hread (ne_nil_of_tableItems h)
    rw [List.cons_append] at hread' ⊢
    rw [tableItems_keyword hword hread']
    exact ih h
  | case9 body word rest hconstraint hindex hkey hword ih =>
    rw [List.cons_append, tableItems, if_neg hword]
    · exact ih h
    · exact hconstraint
    · exact hindex
    · exact hkey
  | case10 => cases h
  | case11 body name rest body'' left' hread ih =>
    have hread' := column_semicolon next hread (ne_nil_of_tableItems h)
    rw [List.cons_append, tableItems_ident hread']
    exact ih h
  | case12 body t rest hclose hconstraint hindex hkey hword hident ih =>
    rw [List.cons_append, tableItems, ih h]
    all_goals assumption

theorem tableBody_semicolon {name : String} {script : Script}
    (h : tableBody name ts = .ok (script, left)) :
    tableBody name (ts ++ .semicolon :: next) = .ok (script, left ++ .semicolon :: next) := by
  cases ts with
  | nil =>
    cases h
    rfl
  | cons t ts =>
    cases t with
    | lparen =>
      simp only [tableBody] at h
      split at h
      case h_1 => cases h
      case h_2 hitems =>
        cases h
        simp only [List.cons_append, tableBody, tableItems_semicolon next hitems]
    | _ =>
      cases h
      rfl

end

/-! ## Statements -/

/-- What follows `CREATE TABLE`: a table, if its name comes next. -/
def namedTable (ts : List Token) : Except Fault (Script × List Token) :=
  match qualifiedName ts with
  | (some name, rest) => tableBody name rest
  | (none, rest) => .ok ({}, rest)

/-- The name of a constraint, if one is given. -/
def constraintName (ts : List Token) : Option String × List Token :=
  match eat? .constraint ts with
  | some rest => ident rest
  | none => (none, ts)

/-- A foreign key that is added to a table, if one comes next. -/
def addedKey (name : Option String) (table : String) (ts : List Token) :
    Except Fault (Script × List Token) :=
  match eat? .foreign ts with
  | none => .ok ({}, ts)
  | some rest =>
    match columnList (eat .key rest) with
    | .error e => .error e
    | .ok (columns, rest) =>
      match eat? .references rest with
      | none => .ok ({}, rest)
      | some rest =>
        match reference rest with
        | .error e => .error e
        | .ok (target, rest) =>
          .ok (⟨[], [⟨name, table, columns, target.1, target.2⟩]⟩, rest)

theorem createStatement_eq (ts : List Token) :
    createStatement ts =
      match eat? .table ts with
      | none => .ok ({}, ts)
      | some rest =>
        match eat? .ifWord rest with
        | some rest => namedTable (eat .existsWord (eat .not rest))
        | none => namedTable rest := by
  unfold createStatement
  cases eat? .table ts with
  | none => rfl
  | some rest => cases hif : eat? .ifWord rest <;> simp only [hif] <;> rfl

theorem alterStatement_eq (ts : List Token) :
    alterStatement ts =
      match eat? .table ts with
      | none => .ok ({}, ts)
      | some rest =>
        match qualifiedName (eat .only rest) with
        | (none, rest) => .ok ({}, rest)
        | (some table, rest) =>
          match eat? .add rest with
          | none => .ok ({}, rest)
          | some rest => addedKey (constraintName rest).1 table (constraintName rest).2 := rfl

section
variable {ts left : List Token} {script : Script} (next : List Token)

theorem namedTable_semicolon (h : namedTable ts = .ok (script, left)) :
    namedTable (ts ++ .semicolon :: next) = .ok (script, left ++ .semicolon :: next) := by
  unfold namedTable at h ⊢
  rw [qualifiedName_semicolon]
  split at h
  case h_1 hname =>
    simp only [hname, tableBody_semicolon next h]
  case h_2 hname =>
    cases h
    simp only [hname]

theorem createStatement_semicolon (h : createStatement ts = .ok (script, left)) :
    createStatement (ts ++ .semicolon :: next) = .ok (script, left ++ .semicolon :: next) := by
  rw [createStatement_eq] at h ⊢
  rw [eat?_semicolon]
  cases htable : eat? .table ts with
  | none =>
    rw [htable] at h
    cases h
    rfl
  | some rest =>
    simp only [htable, Option.map_some, eat?_semicolon] at h ⊢
    cases hif : eat? .ifWord rest with
    | none =>
      rw [hif] at h
      exact namedTable_semicolon next h
    | some rest =>
      simp only [hif, Option.map_some, eat_semicolon] at h ⊢
      exact namedTable_semicolon next h

theorem constraintName_semicolon (ts : List Token) :
    constraintName (ts ++ .semicolon :: next) =
      ((constraintName ts).1, (constraintName ts).2 ++ .semicolon :: next) := by
  unfold constraintName
  rw [eat?_semicolon]
  cases eat? .constraint ts with
  | none => rfl
  | some rest => exact ident_semicolon next rest

theorem addedKey_semicolon {name : Option String} {table : String}
    (h : addedKey name table ts = .ok (script, left)) :
    addedKey name table (ts ++ .semicolon :: next) =
      .ok (script, left ++ .semicolon :: next) := by
  unfold addedKey at h ⊢
  rw [eat?_semicolon]
  cases hforeign : eat? .foreign ts with
  | none =>
    rw [hforeign] at h
    cases h
    rfl
  | some rest =>
    simp only [hforeign, Option.map_some] at h ⊢
    split at h
    case h_1 => cases h
    case h_2 columns rest' hcolumns =>
      simp only [keyColumns_semicolon next hcolumns, eat?_semicolon]
      cases hreferences : eat? .references rest' with
      | none =>
        rw [hreferences] at h
        cases h
        rfl
      | some rest =>
        simp only [hreferences, Option.map_some] at h ⊢
        split at h
        case h_1 => cases h
        case h_2 target rest' hreference =>
          cases h
          simp only [reference_semicolon next hreference]

theorem alterStatement_semicolon (h : alterStatement ts = .ok (script, left)) :
    alterStatement (ts ++ .semicolon :: next) = .ok (script, left ++ .semicolon :: next) := by
  rw [alterStatement_eq] at h ⊢
  rw [eat?_semicolon]
  cases htable : eat? .table ts with
  | none =>
    rw [htable] at h
    cases h
    rfl
  | some rest =>
    simp only [htable, Option.map_some, eat_semicolon, qualifiedName_semicolon] at h ⊢
    split at h
    case h_1 hname =>
      cases h
      simp only [hname]
    case h_2 table rest' hname =>
      simp only [hname, eat?_semicolon]
      cases hadd : eat? .add rest' with
      | none =>
        rw [hadd] at h
        cases h
        rfl
      | some rest =>
        simp only [hadd, Option.map_some, constraintName_semicolon] at h ⊢
        exact addedKey_semicolon next h

/-- A statement is skipped up to its own semicolon, or else up to the one behind it. -/
theorem skipStatement_semicolon (ts : List Token) :
    skipStatement (ts ++ .semicolon :: next) = skipStatement ts ++ .semicolon :: next ∨
      skipStatement ts = [] ∧ skipStatement (ts ++ .semicolon :: next) = next := by
  fun_induction skipStatement ts with
  | case1 => exact .inr ⟨rfl, rfl⟩
  | case2 rest => exact .inl rfl
  | case3 t rest hsemicolon ih =>
    rw [List.cons_append, skipStatement]
    · exact ih
    · exact hsemicolon

theorem skipStatement_eq_nil (h : .semicolon ∉ ts) : skipStatement ts = [] := by
  fun_induction skipStatement ts with
  | case1 => rfl
  | case2 rest => exact absurd List.mem_cons_self h
  | case3 t rest hsemicolon ih => exact ih fun hmem => h (List.mem_cons_of_mem t hmem)

/-- Behind a statement that is read the rest of the tokens is left, or the semicolon is
used up that comes after it. -/
theorem statement_semicolon (h : statement ts = .ok (script, left)) :
    statement (ts ++ .semicolon :: next) = .ok (script, left ++ .semicolon :: next) ∨
      left = [] ∧ statement (ts ++ .semicolon :: next) = .ok (script, next) := by
  -- What is left when the declarations are read is skipped in every case.
  have hskip : ∀ {rest : List Token},
      statement (ts ++ .semicolon :: next) =
          .ok (script, skipStatement (rest ++ .semicolon :: next)) →
        left = skipStatement rest →
          statement (ts ++ .semicolon :: next) = .ok (script, left ++ .semicolon :: next) ∨
            left = [] ∧ statement (ts ++ .semicolon :: next) = .ok (script, next) := by
    rintro rest hread rfl
    rcases skipStatement_semicolon next rest with hrest | ⟨hnil, hrest⟩
    · rw [hrest] at hread
      exact .inl hread
    · rw [hrest] at hread
      exact .inr ⟨hnil, hread⟩
  unfold statement at h
  split at h
  case h_1 =>
    split at h
    case h_1 => cases h
    case h_2 hcreate =>
      cases h
      refine hskip ?_ rfl
      simp only [List.cons_append, statement, createStatement_semicolon next hcreate]
  case h_2 =>
    split at h
    case h_1 => cases h
    case h_2 halter =>
      cases h
      refine hskip ?_ rfl
      simp only [List.cons_append, statement, alterStatement_semicolon next halter]
  case h_3 hcreate halter =>
    cases h
    refine hskip ?_ rfl
    cases ts with
    | nil => rfl
    | cons t ts =>
      rw [List.cons_append, statement]
      · rintro rest ⟨⟩
        exact hcreate ts rfl
      · rintro rest ⟨⟩
        exact halter ts rfl

theorem eat?_eq_none_of_not_prefix {first word : Keyword}
    (h : ¬ [.keyword first, .keyword word] <+: .keyword first :: ts) : eat? word ts = none := by
  unfold eat?
  split
  case h_1 w rest =>
    split
    case isTrue hw =>
      subst hw
      exact absurd ⟨rest, rfl⟩ h
    case isFalse => rfl
  case h_2 => rfl

/-- A statement that declares nothing is skipped as a whole. -/
theorem statement_of_skipped (hcreate : ¬ [.keyword .create, .keyword .table] <+: ts)
    (halter : ¬ [.keyword .alter, .keyword .table] <+: ts) :
    statement ts = .ok ({}, skipStatement ts) := by
  unfold statement
  split
  case h_1 rest =>
    have htable := eat?_eq_none_of_not_prefix hcreate
    simp only [createStatement, htable, skipStatement]
  case h_2 rest =>
    have htable := eat?_eq_none_of_not_prefix halter
    simp only [alterStatement, htable, skipStatement]
  case h_3 => rfl

end

/-! ## Scripts -/

@[simp] theorem Script.empty_append (script : Script) : Script.append {} script = script := by
  simp [append]

@[simp] theorem Script.append_empty (script : Script) : script.append {} = script := by
  simp [append]

theorem Script.append_assoc (s t u : Script) :
    (s.append t).append u = s.append (t.append u) := by
  simp [append]

/-- The statements are read one after the other, by induction along them. Only behind the
last one nothing is left, and there the semicolon is the one that ends it. -/
theorem declarations_semicolon {ts : List Token} {script : Script}
    (h : declarations ts = .ok script) (next : List Token) :
    declarations (ts ++ .semicolon :: next) = (declarations next).map script.append := by
  fun_induction declarations ts generalizing script with
  | case1 =>
    cases h
    exact declarations_of_statement rfl
  | case2 => cases h
  | case3 => cases h
  | case4 t rest first left hread more hmore ih =>
    cases h
    rcases statement_semicolon next hread with hread' | ⟨rfl, hread'⟩
    · rw [List.cons_append] at hread' ⊢
      rw [declarations_of_statement hread', ih hmore]
      cases declarations next <;> simp [Except.map, Script.append_assoc]
    · -- Nothing is left of the last statement, so it is all that is declared.
      rw [declarations] at hmore
      cases hmore
      rw [List.cons_append] at hread' ⊢
      rw [declarations_of_statement hread', Script.append_empty]

theorem declarations_of_skipped {ts : List Token} (hsemicolon : .semicolon ∉ ts)
    (hcreate : ¬ [.keyword .create, .keyword .table] <+: ts)
    (halter : ¬ [.keyword .alter, .keyword .table] <+: ts) : declarations ts = .ok {} := by
  have hread := statement_of_skipped hcreate halter
  rw [skipStatement_eq_nil hsemicolon] at hread
  cases ts with
  | nil => rw [declarations]
  | cons t ts =>
    rw [declarations_of_statement hread, declarations]
    rfl

/-- Statements are read independently. If some tokens are read, then with a semicolon and
others behind them they are read as the same declarations and then those of the others, or
as the fault of the others. So a statement between them changes nothing, if it starts with
neither `CREATE TABLE` nor `ALTER TABLE`. -/
theorem statements_read_independently {a : List Token} {script : Script}
    (h : declarations a = .ok script) (b : List Token) :
    declarations (a ++ .semicolon :: b) = (declarations b).map script.append ∧
      ∀ s : List Token, .semicolon ∉ s → ¬ [.keyword .create, .keyword .table] <+: s →
        ¬ [.keyword .alter, .keyword .table] <+: s →
          declarations (a ++ .semicolon :: (s ++ .semicolon :: b)) =
            declarations (a ++ .semicolon :: b) := by
  have hb := declarations_semicolon h b
  refine ⟨hb, ?_⟩
  intro s hsemicolon hcreate halter
  have hs := declarations_semicolon (declarations_of_skipped hsemicolon hcreate halter) b
  calc declarations (a ++ .semicolon :: (s ++ .semicolon :: b))
      = (declarations (s ++ .semicolon :: b)).map script.append := declarations_semicolon h _
    _ = (declarations b).map script.append := by
        rw [hs]
        cases declarations b <;> simp [Except.map]
    _ = declarations (a ++ .semicolon :: b) := hb.symm

/-! A table that refers to another one, an index on it and a key added to it. -/

def createVisits : List Token :=
  tokens "CREATE TABLE visits (day DATE, patient INT REFERENCES patients)".toList

def indexVisits : List Token := tokens "CREATE INDEX by_day ON visits (day)".toList

def alterVisits : List Token :=
  tokens "ALTER TABLE visits ADD FOREIGN KEY (day) REFERENCES days (day)".toList

def visits : TableDecl :=
  ⟨"visits", [⟨"day", "DATE", .datetime, false⟩, ⟨"patient", "INT", .numeric, false⟩], [], []⟩

def visitsPatient : ForeignKeyDecl := ⟨none, "visits", ["patient"], "patients", ["id"]⟩

def visitsDay : ForeignKeyDecl := ⟨none, "visits", ["day"], "days", ["day"]⟩

theorem declarations_createVisits :
    declarations createVisits = .ok ⟨[visits], [visitsPatient]⟩ :=
  Except.toOption_eq_some.mp (by decide +kernel)

theorem declarations_alterVisits : declarations alterVisits = .ok ⟨[], [visitsDay]⟩ :=
  Except.toOption_eq_some.mp (by decide +kernel)

theorem statements_read_independently_visits :
    declarations createVisits = .ok ⟨[visits], [visitsPatient]⟩ ∧
      declarations (createVisits ++ .semicolon :: (indexVisits ++ .semicolon :: alterVisits)) =
        .ok ⟨[visits], [visitsPatient, visitsDay]⟩ := by
  obtain ⟨hmore, hskipped⟩ := statements_read_independently declarations_createVisits alterVisits
  have hindex := hskipped indexVisits (by decide +kernel) (by decide +kernel) (by decide +kernel)
  constructor
  · exact declarations_createVisits
  · rw [hindex, hmore, declarations_alterVisits]
    rfl

end KeyChart.Ddl
