import SqlFilter.Proofs.LexicalSafety
import SqlFilter.Proofs.Separators

/-!
# The where clause is a conjunction

Names and keys have no blanks in them, so the words of a condition are those that its dialect writes, and names with
something of the dialect attached: neither AND nor OR is one of them, except for the OR between the columns of a search
(`Emitted.lacks_and`), and that one stands in the parentheses of the search (`Emitted.or_enclosed`).  Hence conditions
that are joined by AND are got back when the clause is cut at it, even if tables, columns and keys are called AND or OR
(`Query.where_clause_is_unambiguous`).
-/

namespace SqlFilter

open Text

/-! ### Words of conditions -/

/-- The words that join conditions. -/
def connectives : List (List Char) := ["AND".toList, "OR".toList]

variable {d : Dialect} {table column name : String}

private theorem lacks_castType (hd : d ∈ Dialect.known) {t : ValueType} {type : String}
    (h : d.castType t = some type) : Lacks connectives type.toList := by
  have hpostgres : ∀ t : ValueType, Lacks connectives t.postgresName.toList := by
    intro t
    cases t <;> decide
  have hstandard : t.standardName = some type → Lacks connectives type.toList := by
    intro h
    cases t <;> cases h <;> decide
  rcases Dialect.mem_known.1 hd with rfl | rfl | rfl | rfl
  · cases h
    exact hpostgres t
  · cases h
    exact hpostgres t
  · exact hstandard h
  · exact hstandard h

/-- A column has no blanks, and what a cast adds to it are other words or parentheses. -/
theorem Resolved.lacks {sql : String} (hd : d ∈ Dialect.known) (ht : Text.isIdentifier table = true)
    (h : Resolved table d sql) : Lacks connectives sql.toList := by
  obtain ⟨x, t, hx, h⟩ := h
  have hblank : ' ' ∉ (⟨table, x⟩ : Column).qualified.toList := Column.notMem_qualified ht hx (by decide) (by decide)
  have hpoint : '.' ∈ (⟨table, x⟩ : Column).qualified.toList := by simp [Column.qualified]
  unfold Dialect.resolve at h
  split at h
  · unfold Dialect.cast at h
    split at h
    · cases h
    · rename_i type hcast
      have hlacks := lacks_castType hd hcast
      split at h
      · cases h
        have hcolumn : Lacks connectives ("CAST(".toList ++ (⟨table, x⟩ : Column).qualified.toList) :=
          lacks_of_mem (x := '.') (by simp [hblank]) (by simp [hpoint]) (by decide)
        have htype := hlacks.concat (x := ')') (by decide) (by decide)
        have hwords := lacks_blank.2 ⟨hcolumn, lacks_blank.2 ⟨(by decide : Lacks connectives "AS".toList), htype⟩⟩
        simpa using hwords
      · cases h
        have hwords := hlacks.lead (s := "(".toList ++ (⟨table, x⟩ : Column).qualified.toList ++ ")::".toList)
          (x := '.') (by simp [hblank]) (by simp [hpoint]) (by decide)
        simpa using hwords
  · cases h
    exact lacks_of_mem hblank hpoint (by decide)

private theorem lacks_placeholder (hd : d ∈ Dialect.known) (hn : IsParamName name) :
    Lacks connectives (d.placeholder name).toList := by
  have hsigil : d.sigil ≠ ' ' ∧ d.sigil ∉ connectives.flatten := by
    rcases Dialect.mem_known.1 hd with rfl | rfl | rfl | rfl <;> decide
  have hblank : ' ' ∉ name.toList := hn.notMem (by decide)
  refine lacks_of_mem (x := d.sigil) ?_ ?_ hsigil.2
  · simp [Dialect.placeholder, hblank, hsigil.1.symm]
  · simp [Dialect.placeholder]

/-- A call of a function lacks the connectives if its argument does. -/
private theorem lacks_enclosed {s f : List Char} (hs : Lacks connectives s) (hf : ' ' ∉ f) :
    Lacks connectives (f ++ '(' :: (s ++ [')'])) := by
  have hclose := hs.concat (x := ')') (by decide) (by decide)
  have hopen := hclose.lead (s := f ++ ['(']) (x := '(') (by simp [hf]) (by simp) (by decide)
  simpa using hopen

private theorem lacks_lowered (hc : Lacks connectives column.toList) :
    Lacks connectives (Dialect.lowered column).toList := by
  have hcall := lacks_enclosed hc (f := "LOWER".toList) (by decide)
  simpa [Dialect.lowered] using hcall

private theorem lacks_nullCheck (hc : Lacks connectives column.toList) (isNull : Bool) :
    Lacks connectives (Dialect.nullCheck column isNull).sql.toList := by
  have hnull : Lacks connectives (if isNull then "IS NULL" else "IS NOT NULL").toList := by cases isNull <;> decide
  have hwords := lacks_blank.2 ⟨hc, hnull⟩
  cases isNull <;> simpa [Dialect.nullCheck] using hwords

section

variable (hd : d ∈ Dialect.known) (hn : IsParamName name) (hc : Lacks connectives column.toList)

include hd hn hc

private theorem lacks_comparison (op : Comparison) (v : Value) :
    Lacks connectives (d.comparison op column name v).sql.toList := by
  have hop : Lacks connectives op.sign.toList := by cases op <;> decide
  have hwords := lacks_blank.2 ⟨hc, lacks_blank.2 ⟨hop, lacks_placeholder hd hn⟩⟩
  simpa [Dialect.comparison] using hwords

private theorem lacks_membership (op : Membership) (v : Value) :
    Lacks connectives (d.membership op column name v).sql.toList := by
  have happend : ∀ sign f : String, Lacks connectives sign.toList → ' ' ∉ f.toList →
      Lacks connectives (column ++ " " ++ sign ++ " " ++ f ++ "(" ++ d.placeholder name ++ ")").toList := by
    intro sign f hsign hf
    have hlist := lacks_enclosed (lacks_placeholder hd hn) hf
    have hwords := lacks_blank.2 ⟨hc, lacks_blank.2 ⟨hsign, hlist⟩⟩
    simpa using hwords
  simp only [Dialect.membership]
  split
  · simpa using happend "=" "ANY" (by decide) (by decide)
  · simpa using happend "<>" "ALL" (by decide) (by decide)
  · simpa using happend "IN" "" (by decide) (by decide)
  · simpa using happend "NOT IN" "" (by decide) (by decide)

private theorem lacks_like (cs : Bool) : Lacks connectives (d.like column name cs).toList := by
  have hp := lacks_placeholder hd hn
  unfold Dialect.like
  split
  · have hlike : Lacks connectives (if cs then "LIKE" else "ILIKE").toList := by cases cs <;> decide
    have hwords := lacks_blank.2 ⟨hc, lacks_blank.2 ⟨hlike, hp⟩⟩
    cases cs <;> simpa using hwords
  · have hcolumn : Lacks connectives (if cs then column else Dialect.lowered column).toList := by
      cases cs with
      | true => exact hc
      | false => exact lacks_lowered hc
    have hlike : Lacks connectives "LIKE".toList := by decide
    have hescape : Lacks connectives "ESCAPE '\\'".toList := by decide
    have hwords := lacks_blank.2 ⟨hcolumn, lacks_blank.2 ⟨hlike, lacks_blank.2 ⟨hp, hescape⟩⟩⟩
    simpa using hwords

private theorem lacks_flag (test : FlagTest) (bits : Int64) :
    Lacks connectives (d.flag test column name bits).sql.toList := by
  have hopen := hc.lead (s := ['(']) (x := '(') (by decide) (by decide) (by decide)
  have hand : Lacks connectives "&".toList := by decide
  have hclose := (lacks_placeholder hd hn).concat (x := ')') (by decide) (by decide)
  have happend : ∀ sign : String, Lacks connectives (sign ++ " 0").toList →
      Lacks connectives ("(" ++ column ++ " & " ++ d.placeholder name ++ ") " ++ sign ++ " 0").toList := by
    intro sign hsign
    have hwords := lacks_blank.2 ⟨hopen, lacks_blank.2 ⟨hand, lacks_blank.2 ⟨hclose, hsign⟩⟩⟩
    simpa using hwords
  cases test with
  | has => exact happend "<>" (by decide)
  | hasNot => exact happend "=" (by decide)

end

/-- No word of a test is a connective. -/
theorem Test.lacks (hd : d ∈ Dialect.known) (hc : Lacks connectives column.toList) (t : Test)
    (hn : t.tag?.isSome → IsParamName name) : Lacks connectives (t.condition d column name).sql.toList := by
  cases t with
  | compare op v => exact lacks_comparison hd (hn rfl) hc op v
  | compareText op term cs =>
    cases cs with
    | true => exact lacks_comparison hd (hn rfl) hc op _
    | false => exact lacks_comparison hd (hn rfl) (lacks_lowered hc) op _
  | member op v => exact lacks_membership hd (hn rfl) hc op v
  | memberText op terms cs =>
    rw [condition, Dialect.textMembership]
    cases d.lists with
    | enclosed => exact lacks_membership hd (hn rfl) hc op _
    | quantified =>
      cases cs with
      | true => exact lacks_membership hd (hn rfl) hc op _
      | false => exact lacks_membership hd (hn rfl) (lacks_lowered hc) op _
  | pattern shape term cs =>
    rw [condition, Dialect.pattern_eq]
    exact lacks_like hd (hn rfl) hc cs
  | flag test bits => exact lacks_flag hd (hn rfl) hc test bits
  | null isNull => exact lacks_nullCheck hc isNull

section

variable {columns : List String} (hd : d ∈ Dialect.known) (hn : IsParamName name) (hne : columns ≠ [])
  (hc : ∀ x ∈ columns, Lacks connectives x.toList)

include hd hn hne hc

/-- The alternatives of a search are joined by OR, but none of them names AND. -/
private theorem lacks_freeText (term : String) (cs : Bool) :
    Lacks ["AND".toList] (d.freeText columns name term cs).sql.toList := by
  have hlike : ∀ s ∈ columns.map fun x => d.like x name cs, Lacks ["AND".toList] s.toList := by
    intro s hs
    obtain ⟨x, hx, rfl⟩ := List.mem_map.1 hs
    exact (lacks_like hd hn (hc x hx) cs).mono (by decide)
  have hor : Lacks ["AND".toList] (" OR ".intercalate (columns.map fun x => d.like x name cs)).toList :=
    lacks_intercalate (t := "OR".toList) rfl (by decide) hlike (by simpa using hne)
  have hclose := hor.concat (x := ')') (by decide) (by decide)
  have hopen := hclose.lead (s := ['(']) (x := '(') (by decide) (by decide) (by decide)
  simpa [Dialect.freeText_eq] using hopen

private theorem lacks_fullText {config term : String} {form : TermSyntax} {c : Condition}
    (hconfig : Text.isIdentifier config = true) (h : d.fullTextSearch columns config form name term = .ok c) :
    Lacks connectives c.sql.toList := by
  have hblank : ' ' ∉ config.toList := fun hmem =>
    absurd ((Text.isWordChar_of_isIdentifier hconfig).2 _ hmem) (by decide)
  -- the name of the configuration goes to the word of the function that it is given to
  have hfunction : ∀ f : String, ' ' ∉ f.toList → Lacks connectives (f ++ "('" ++ config ++ "',").toList := by
    intro f hf
    exact lacks_of_mem (x := '(') (by simp [hf, hblank]) (by simp) (by decide)
  have hcoalesce : ∀ s ∈ columns.map fun x => "COALESCE(" ++ x ++ ", '')", Lacks connectives s.toList := by
    intro s hs
    obtain ⟨x, hx, rfl⟩ := List.mem_map.1 hs
    have hcolumn := (hc x hx).concat (x := ',') (by decide) (by decide)
    have hcall := hcolumn.lead (s := "COALESCE(".toList) (x := '(') (by decide) (by decide) (by decide)
    have hwords := lacks_blank.2 ⟨hcall, (by decide : Lacks connectives "'')".toList)⟩
    simpa using hwords
  have hcontent : Lacks connectives
      (" || ' ' || ".intercalate (columns.map fun x => "COALESCE(" ++ x ++ ", '')")).toList :=
    lacks_intercalate (t := "|| ' ' ||".toList) rfl (by decide) hcoalesce (by simpa using hne)
  have hvector := hcontent.concat (x := ')') (by decide) (by decide)
  have hmatch : Lacks connectives "@@".toList := by decide
  have hparser : ' ' ∉ (Dialect.termParser form).toList := by cases form <;> decide
  have hterm := (lacks_placeholder hd hn).concat (x := ')') (by decide) (by decide)
  have hwords := lacks_blank.2 ⟨hfunction "to_tsvector" (by decide), lacks_blank.2 ⟨hvector,
    lacks_blank.2 ⟨hmatch, lacks_blank.2 ⟨hfunction _ hparser, hterm⟩⟩⟩⟩
  unfold Dialect.fullTextSearch at h
  split at h
  · cases h
    simpa using hwords
  · cases h

end

variable {c : Condition}

/-- No word of a condition is AND. -/
theorem Emitted.lacks_and (hd : d ∈ Dialect.known) (ht : Text.isIdentifier table = true) (h : Emitted table d c) :
    Lacks ["AND".toList] c.sql.toList := by
  cases h with
  | test t hr hn => exact (t.lacks hd (hr.lacks hd ht) hn).mono (by decide)
  | freeText term cs hne hr hn => exact lacks_freeText hd hn hne (fun x hx => (hr x hx).lacks hd ht) term cs
  | fullText hne hr hconfig hn h =>
    exact (lacks_fullText hd hn hne (fun x hx => (hr x hx).lacks hd ht) hconfig h).mono (by decide)

/-! ### Parentheses in front of a blank -/

/-- A scan of the text finds no more parentheses closed than are open in front of it and opened in it. -/
def ScansWithin (d : Nat) (s : List Char) : Prop :=
  ∃ l, scan none s = some l ∧ l.count (.outside ')') ≤ d + l.count (.outside '(')

variable {escapes : Bool} {k : Nat} {names : List String} {s a t : List Char} {x : Char}

theorem ScansWithin.outside (hq : x ≠ '\'') (ho : x ≠ '(') (hc : x ≠ ')') (h : ScansWithin k a) :
    ScansWithin k (x :: a) := by
  obtain ⟨l, hl, hcount⟩ := h
  refine ⟨.outside x :: l, ?_, ?_⟩
  · rw [scan_outside hq, hl]
    rfl
  · rwa [List.count_cons_of_ne (by simpa using hc), List.count_cons_of_ne (by simpa using ho)]

theorem ScansWithin.opened (h : ScansWithin (k + 1) a) : ScansWithin k ('(' :: a) := by
  obtain ⟨l, hl, hcount⟩ := h
  refine ⟨.outside '(' :: l, ?_, ?_⟩
  · rw [scan_outside (by decide), hl]
    rfl
  · rw [List.count_cons_of_ne (by decide), List.count_cons_self]
    omega

theorem ScansWithin.closed (h : ScansWithin k a) : ScansWithin (k + 1) (')' :: a) := by
  obtain ⟨l, hl, hcount⟩ := h
  refine ⟨.outside ')' :: l, ?_, ?_⟩
  · rw [scan_outside (by decide), hl]
    rfl
  · rw [List.count_cons_self, List.count_cons_of_ne (by decide)]
    omega

theorem ScansWithin.word {w : List Char} (hw : ∀ c ∈ w, Text.isWordChar c = true) (h : ScansWithin k a) :
    ScansWithin k (w ++ a) := by
  induction w with
  | nil => exact h
  | cons c w ih =>
    rw [List.forall_mem_cons] at hw
    obtain ⟨-, hq, -, ho, hc⟩ := isOutsideChar_of_isTextChar (isTextChar_of_isWordChar hw.1)
    exact (ih hw.2).outside hq ho hc

theorem ScansWithin.literal {b : List Char} (hb : '\'' ∉ b) (ha : isApart a = true) (h : ScansWithin k a) :
    ScansWithin k ('\'' :: (b ++ '\'' :: a)) := by
  obtain ⟨l, hl, hcount⟩ := h
  refine ⟨.literal b :: l, ?_, ?_⟩
  · rw [scan, if_pos rfl, scan_inside hb ha, hl]
    rfl
  · rwa [List.count_cons_of_ne (by simp), List.count_cons_of_ne (by simp)]

/-- A blank that stands behind a text without blanks stands in what follows it. -/
private theorem exists_of_append_blank {w : List Char} (hw : ' ' ∉ w) (h : w ++ s = a ++ ' ' :: t) :
    ∃ a', a = w ++ a' ∧ s = a' ++ ' ' :: t := by
  rcases List.append_eq_append_iff.1 h with ⟨a', ha, hs⟩ | ⟨r, hr, hs⟩
  · exact ⟨a', ha, hs⟩
  · cases r with
    | nil =>
      rw [List.append_nil] at hr
      exact ⟨[], by rw [hr, List.append_nil], hs.symm⟩
    | cons c r =>
      cases (List.cons.inj hs).1
      exact absurd (hr ▸ List.mem_append_right a List.mem_cons_self) hw

/-- A blank is in a literal as its whole body only, and then a quote follows it. -/
private theorem exists_of_literal_append_blank {b : List Char} (hx : x ≠ '\'') (hb : isLiteralBody escapes b = true)
    (h : '\'' :: (b ++ '\'' :: s) = a ++ ' ' :: x :: t) :
    ∃ a', a = '\'' :: (b ++ '\'' :: a') ∧ s = a' ++ ' ' :: x :: t := by
  have hbody : ' ' ∉ b ∨ b = [' '] := by
    simp only [isLiteralBody, Bool.or_eq_true, Bool.and_eq_true, beq_iff_eq] at hb
    rcases hb with (hkey | hblank) | ⟨-, hescape⟩
    · exact .inl fun hmem => absurd (List.all_eq_true.1 hkey _ hmem) (by decide)
    · exact .inr hblank
    · exact .inl (by rw [hescape]; decide)
  rcases hbody with hblank | rfl
  · have hw : ' ' ∉ '\'' :: (b ++ ['\'']) := by simp [hblank]
    obtain ⟨a', rfl, hs⟩ := exists_of_append_blank hw (s := s) (by simpa using h)
    exact ⟨a', by simp, hs⟩
  · obtain ⟨r, rfl, hr⟩ := exists_of_append_blank (w := ['\'']) (by decide) h
    cases r with
    | nil => exact absurd (List.cons.inj (List.cons.inj hr).2).1.symm hx
    | cons c r =>
      obtain ⟨rfl, hquote⟩ := List.cons.inj hr
      obtain ⟨a', rfl, hs⟩ := exists_of_append_blank (w := ['\'']) (by decide) hquote
      exact ⟨a', rfl, hs⟩

private theorem isApart_of_append (h : isApart (a ++ s) = true) : isApart a = true := by
  cases a with
  | nil => rfl
  | cons c a => exact h

/-- What stands in a fragment in front of a blank is scanned to its end if no quote follows the blank. -/
theorem Fragment.scansWithin (hx : x ≠ '\'') (h : Fragment escapes k names s) (hs : s = a ++ ' ' :: x :: t) :
    ScansWithin k a := by
  induction h generalizing a with
  | nil => simp at hs
  | @char d _ c s hc _ ih =>
    cases a with
    | nil => exact ⟨[], rfl, Nat.zero_le _⟩
    | cons y a =>
      obtain ⟨rfl, hrest⟩ := List.cons.inj hs
      obtain ⟨-, hq, -, ho, hcl⟩ := isOutsideChar_of_isTextChar hc
      exact (ih hrest).outside hq ho hcl
  | arrow _ ih =>
    obtain ⟨a', rfl, hrest⟩ := exists_of_append_blank (w := ['-', '>']) (by decide) hs
    exact ((ih hrest).outside (by decide) (by decide) (by decide)).outside (by decide) (by decide) (by decide)
  | opened _ ih =>
    obtain ⟨a', rfl, hrest⟩ := exists_of_append_blank (w := ['(']) (by decide) hs
    exact (ih hrest).opened
  | closed _ ih =>
    obtain ⟨a', rfl, hrest⟩ := exists_of_append_blank (w := [')']) (by decide) hs
    exact (ih hrest).closed
  | doubled _ ih =>
    obtain ⟨a', rfl, hrest⟩ := exists_of_append_blank (w := ['@', '@']) (by decide) hs
    exact ((ih hrest).outside (by decide) (by decide) (by decide)).outside (by decide) (by decide) (by decide)
  | literal hb ha _ ih =>
    obtain ⟨a', rfl, rfl⟩ := exists_of_literal_append_blank hx hb hs
    exact (ih rfl).literal (notMem_of_isLiteralBody rfl hb) (isApart_of_append ha)
  | @placeholder _ name _ s hn _ _ ih =>
    have hblank : ' ' ∉ '@' :: name.toList := by
      rw [List.mem_cons, not_or]
      exact ⟨by decide, hn.notMem (by decide)⟩
    obtain ⟨a', rfl, hrest⟩ := exists_of_append_blank hblank hs
    exact ((ih hrest).word hn.2).outside (by decide) (by decide) (by decide)

/-! ### Conditions are conjuncts -/

/-- The text can stand between others that are joined by AND: parentheses are balanced outside of literals, OR stands
between blanks inside of parentheses only, and AND does so nowhere. -/
structure IsConjunct (s : List Char) : Prop where
  balanced : ∃ l, scan none s = some l ∧ isBalanced 0 l = true
  or_enclosed : ∀ a b, s = a ++ " OR ".toList ++ b →
    ∃ l, scan none a = some l ∧ l.count (.outside ')') < l.count (.outside '(')
  no_and : ¬ " AND ".toList <:+: s

/-- Two characters of which the second is not the last of a text stand in front of it. -/
private theorem exists_of_append_stop {y z : Char} (hz : x ≠ z) (h : s ++ [z] = a ++ y :: x :: t) :
    ∃ t', s = a ++ y :: x :: t' := by
  rcases List.append_eq_append_iff.1 h with ⟨r, -, hr⟩ | ⟨r, hs, hr⟩
  · have hlength := congrArg List.length hr
    rw [List.length_append, List.length_singleton, List.length_cons, List.length_cons] at hlength
    omega
  · match r, hr with
    | [], hr => cases hr
    | [_], hr => exact absurd (List.cons.inj (List.cons.inj hr).2).1 hz
    | _ :: _ :: r, hr =>
      cases hr
      exact ⟨r, hs⟩

/-- OR stands in the parentheses of a search only. -/
theorem Emitted.or_enclosed (hd : d ∈ Dialect.known) (ht : Text.isIdentifier table = true) (h : Emitted table d c)
    {b : List Char} (hs : c.sql.toList = a ++ " OR ".toList ++ b) :
    ∃ l, scan none a = some l ∧ l.count (.outside ')') < l.count (.outside '(') := by
  have hnone : Lacks connectives c.sql.toList → False := fun hl =>
    hl.not_between_blanks (w := "OR".toList) (by decide) (by decide) ⟨a, b, hs.symm⟩
  cases h with
  | test t hr hn => exact (hnone (t.lacks hd (hr.lacks hd ht) hn)).elim
  | fullText hne hr hconfig hn h =>
    exact (hnone (lacks_fullText hd hn hne (fun x hx => (hr x hx).lacks hd ht) hconfig h)).elim
  | @freeText columns name term cs hne hr hn =>
    have hf := fragment_alternatives hd hn (fun x hx => (hr x hx).fragment hd ht) cs
    have hsql : '(' :: ((" OR ".intercalate (columns.map fun x => d.like x name cs)).toList ++ [')']) =
        a ++ ' ' :: 'O' :: ("R ".toList ++ b) := by
      simpa [Dialect.freeText_eq] using hs
    obtain ⟨a', rfl, hrest⟩ := exists_of_append_blank (w := ['(']) (by decide) hsql
    obtain ⟨t, ht⟩ := exists_of_append_stop (by decide) hrest
    -- the parenthesis in front of the alternatives is still open, as these close what they open
    obtain ⟨l, hl, hcount⟩ := hf.scansWithin (by decide) ht
    refine ⟨.outside '(' :: l, ?_, ?_⟩
    · rw [List.singleton_append, scan_outside (by decide), hl]
      rfl
    · rw [List.count_cons_of_ne (by decide), List.count_cons_self]
      omega

namespace Query

/-- The conditions of a reachable query are balanced, with OR in parentheses only and AND nowhere, and cutting the
where clause at AND gives them back in order, whatever the table, the columns and the keys of documents are called. -/
theorem where_clause_is_unambiguous {q : Query} (h : q.Reachable) :
    (∀ c ∈ q.conditions, IsConjunct c.sql.toList) ∧
    (q.conditions = [] → q.whereClause = "") ∧
    (q.conditions ≠ [] → ∃ text, q.whereClause = " WHERE " ++ text ∧
      Text.split " AND " text = q.conditions.map Condition.sql) := by
  have hw := h.wellFormed
  refine ⟨fun c hc => ?_, fun hnil => ?_, fun hne => ?_⟩
  · have he := hw.conditions c hc
    obtain ⟨names, -, hf⟩ := he.exists_fragment hw.dialect hw.table
    obtain ⟨l, hl, hsafe⟩ := hf.scansSafely
    exact ⟨⟨l, hl, hsafe.balanced⟩, fun a b hs => he.or_enclosed hw.dialect hw.table hs,
      (he.lacks_and hw.dialect hw.table).not_between_blanks (List.mem_singleton_self _) (by decide)⟩
  · rw [whereClause, hnil]
    rfl
  · refine ⟨" AND ".intercalate (q.conditions.map Condition.sql), ?_, ?_⟩
    · rw [whereClause, if_neg (by simpa using hne)]
    · refine split_join (w := "AND") (by decide) ?_ (by simpa using hne)
      intro s hs
      obtain ⟨c, hc, rfl⟩ := List.mem_map.1 hs
      exact (hw.conditions c hc).lacks_and hw.dialect hw.table

/-- A table, columns and keys that are called like the connectives. -/
theorem where_clause_is_unambiguous_keywords :
    let q : Query := { table := "AND", dialect := .ansi, settings := {} }
    let q' := q.run [.call (.bindNumeric .int32 "OR->'AND'" (some { gte := some (1 : Int32) }) []),
      .call (.search ["OR", "AND->>'OR'"] (some { term := "x AND y" })),
      .call (.bindText "AND" (some { isNull := some true }) {})]
    q'.Reachable ∧ (∀ c ∈ q'.conditions, IsConjunct c.sql.toList) ∧
      ∃ text, q'.whereClause = " WHERE " ++ text ∧ Text.split " AND " text =
        ["CAST(AND.OR->'AND' AS INTEGER) >= @AND_OR_AND_gte_0",
          "(LOWER(AND.OR) LIKE @_Search_0 ESCAPE '\\' OR " ++
            "LOWER(CAST(AND.AND->>'OR' AS VARCHAR)) LIKE @_Search_0 ESCAPE '\\')",
          "AND.AND IS NULL"] := by
  intro q q'
  have hansi : Dialect.ansi ∈ Dialect.known := by simp [Dialect.known]
  have hnew : Query.withDialect "AND" .ansi = .ok q := rfl
  have hq : q'.Reachable := (Reachable.created (.withDialect hansi hnew)).run _
  obtain ⟨hconjunct, -, hclause⟩ := where_clause_is_unambiguous hq
  obtain ⟨text, htext, hsplit⟩ := hclause (by decide +kernel)
  refine ⟨hq, hconjunct, text, htext, ?_⟩
  rw [hsplit]
  decide +kernel

end Query

end SqlFilter
