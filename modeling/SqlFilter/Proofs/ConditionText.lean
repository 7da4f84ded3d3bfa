import SqlFilter.Proofs.Fragment
import SqlFilter.Proofs.Matching
import SqlFilter.Proofs.ParamNames

/-!
# The text of conditions

Each operator of a dialect puts a fragment together from a resolved column and a parameter.  So every condition that is
emitted is a fragment with balanced parentheses, and its placeholders are those of its own parameter
(`Emitted.exists_fragment`).
-/

namespace SqlFilter

variable {escapes : Bool} {names : List String} {s : List Char}

/-! ### Tests on a column -/

namespace Dialect

/-- The dialect names a backslash as the character that escapes in patterns. -/
def namesEscape (d : Dialect) : Bool :=
  match d.patterns with
  | .ilike => false
  | .lowered => true

/-- The placeholders in the text of a parameter. -/
def marks (d : Dialect) (name : String) : List String := if d.sigil = '@' then [name] else []

end Dialect

variable {d : Dialect} {k : Nat} {name column : String}

/-- A parameter in front of a fragment that is apart from it. -/
theorem Fragment.param (hd : d ∈ Dialect.known) (hn : IsParamName name) (hs : Fragment escapes k names s)
    (ha : isApart s = true) : Fragment escapes k (d.marks name ++ names) ((d.placeholder name).toList ++ s) := by
  have hsigil : d.sigil = '@' ∨ d.sigil = ':' := by
    rcases Dialect.mem_known.1 hd with rfl | rfl | rfl | rfl
    · exact .inl rfl
    · exact .inl rfl
    · exact .inl rfl
    · exact .inr rfl
  have hp : (d.placeholder name).toList = d.sigil :: name.toList := by simp [Dialect.placeholder]
  rw [hp, Dialect.marks]
  rcases hsigil with h | h
  · rw [h, if_pos rfl]
    exact .placeholder hn ha hs
  · -- a colon is a sign like others, so the name after it is no placeholder
    rw [h, if_neg (by decide)]
    exact .char rfl (.word hn.2 hs)

theorem Fragment.lowered (h : Fragment escapes 0 [] column.toList) :
    Fragment escapes 0 [] (Dialect.lowered column).toList := by
  rw [Dialect.lowered, String.toList_append, String.toList_append, List.append_assoc]
  exact .lead rfl (h.append (.closed .nil) rfl)

theorem fragment_comparison (hd : d ∈ Dialect.known) (hn : IsParamName name)
    (hc : Fragment escapes 0 [] column.toList) (op : Comparison) (v : Value) :
    Fragment escapes 0 (d.marks name) (d.comparison op column name v).sql.toList := by
  have hop : ∀ k, openAfter k op.sign.toList = some k := by
    intro k
    cases op <;> rfl
  have hp : Fragment escapes 0 _ _ := .lead (w := " ".toList) rfl (.lead (hop 0) (.lead (w := " ".toList) rfl
    (.param hd hn .nil rfl)))
  have h := hc.append hp rfl
  simpa [Dialect.comparison] using h

theorem fragment_membership (hd : d ∈ Dialect.known) (hn : IsParamName name)
    (hc : Fragment escapes 0 [] column.toList) (op : Membership) (v : Value) :
    Fragment escapes 0 (d.marks name) (d.membership op column name v).sql.toList := by
  have hp : Fragment escapes 1 (d.marks name ++ []) _ := .param hd hn (.closed .nil) rfl
  rw [List.append_nil] at hp
  have happend : ∀ sign : String, openAfter 0 sign.toList = some 1 → (∀ s, isApart (sign.toList ++ s) = true) →
      Fragment escapes 0 (d.marks name) (column ++ sign ++ d.placeholder name ++ ")").toList := by
    intro sign hsign ha
    have h := hc.append (.lead hsign hp) (ha _)
    simpa using h
  simp only [Dialect.membership]
  split
  · exact happend " = ANY(" rfl fun _ => rfl
  · exact happend " <> ALL(" rfl fun _ => rfl
  · exact happend " IN (" rfl fun _ => rfl
  · exact happend " NOT IN (" rfl fun _ => rfl

theorem fragment_like (hd : d ∈ Dialect.known) (hn : IsParamName name)
    (hc : Fragment d.namesEscape 0 [] column.toList) (cs : Bool) :
    Fragment d.namesEscape 0 (d.marks name) (d.like column name cs).toList := by
  unfold Dialect.like
  split
  · have hlike : Fragment d.namesEscape 0 (d.marks name ++ [])
        ((if cs then " LIKE " else " ILIKE ").toList ++ ((d.placeholder name).toList ++ [])) := by
      cases cs <;> exact .lead rfl (.param hd hn .nil rfl)
    have h := hc.append hlike (by cases cs <;> rfl)
    simpa using h
  · rename_i hp
    have hescape : d.namesEscape = true := by rw [Dialect.namesEscape, hp]
    -- the one place where the body of a literal is a backslash
    have hlit : Fragment d.namesEscape 0 [] " ESCAPE '\\'".toList := by
      rw [hescape]
      exact .lead (w := " ESCAPE ".toList) rfl (.literal (b := ['\\']) rfl rfl .nil)
    have hlike : Fragment d.namesEscape 0 (d.marks name ++ [])
        (" LIKE ".toList ++ ((d.placeholder name).toList ++ " ESCAPE '\\'".toList)) :=
      .lead rfl (.param hd hn hlit rfl)
    have hcolumn : Fragment d.namesEscape 0 [] (if cs then column else Dialect.lowered column).toList := by
      cases cs with
      | true => exact hc
      | false => exact hc.lowered
    have h := hcolumn.append hlike rfl
    simpa using h

theorem fragment_flag (hd : d ∈ Dialect.known) (hn : IsParamName name) (hc : Fragment escapes 0 [] column.toList)
    (test : FlagTest) (bits : Int64) :
    Fragment escapes 0 (d.marks name) (d.flag test column name bits).sql.toList := by
  have happend : ∀ sign : String, openAfter 0 sign.toList = some 0 →
      Fragment escapes 0 (d.marks name)
        ("(" ++ column ++ " & " ++ d.placeholder name ++ ") " ++ sign ++ " 0").toList := by
    intro sign hsign
    have hclose : Fragment escapes 1 [] (") ".toList ++ (sign.toList ++ (" 0".toList ++ []))) :=
      .lead rfl (.lead hsign (.lead rfl .nil))
    have hp : Fragment escapes 1 (d.marks name ++ []) (" & ".toList ++ _) := .lead rfl (.param hd hn hclose rfl)
    have h := Fragment.lead (d := 0) (w := "(".toList) rfl (hc.append hp rfl)
    simpa using h
  cases test with
  | has => exact happend "<>" rfl
  | hasNot => exact happend "=" rfl

theorem fragment_nullCheck (hc : Fragment escapes 0 [] column.toList) (isNull : Bool) :
    Fragment escapes 0 [] (Dialect.nullCheck column isNull).sql.toList := by
  have hnull : Fragment escapes 0 [] ((if isNull then " IS NULL" else " IS NOT NULL").toList ++ []) := by
    cases isNull <;> exact .lead rfl .nil
  have h := hc.append hnull (by cases isNull <;> rfl)
  simpa [Dialect.nullCheck] using h

/-- What a dialect writes for a test mentions its parameter once. -/
theorem Test.fragment (hd : d ∈ Dialect.known) (hc : Fragment d.namesEscape 0 [] column.toList) (t : Test)
    (hn : t.tag?.isSome → IsParamName name) :
    Fragment d.namesEscape 0 (if t.tag?.isSome then d.marks name else []) (t.condition d column name).sql.toList := by
  cases t with
  | compare op v => exact fragment_comparison hd (hn rfl) hc op v
  | compareText op term cs =>
    cases cs with
    | true => exact fragment_comparison hd (hn rfl) hc op _
    | false => exact fragment_comparison hd (hn rfl) hc.lowered op _
  | member op v => exact fragment_membership hd (hn rfl) hc op v
  | memberText op terms cs =>
    rw [condition, Dialect.textMembership]
    cases d.lists with
    | enclosed => exact fragment_membership hd (hn rfl) hc op _
    | quantified =>
      cases cs with
      | true => exact fragment_membership hd (hn rfl) hc op _
      | false => exact fragment_membership hd (hn rfl) hc.lowered op _
  | pattern shape term cs =>
    rw [condition, Dialect.pattern_eq]
    exact fragment_like hd (hn rfl) hc cs
  | flag test bits => exact fragment_flag hd (hn rfl) hc test bits
  | null isNull => exact fragment_nullCheck hc isNull

/-! ### Searches over several columns -/

/-- Fragments joined by a separator that is apart from each of them. -/
theorem fragment_intercalate {α : Type} (sep : String) (text : α → String) (mentioned : α → List String) {l : List α}
    (hsep : ∀ {names s}, Fragment escapes 0 names s → Fragment escapes 0 names (sep.toList ++ s))
    (hapart : ∀ s, isApart (sep.toList ++ s) = true)
    (h : ∀ x ∈ l, Fragment escapes 0 (mentioned x) (text x).toList) :
    Fragment escapes 0 (l.flatMap mentioned) (sep.intercalate (l.map text)).toList := by
  induction l with
  | nil => exact .nil
  | cons x l ih =>
    rw [List.forall_mem_cons] at h
    cases l with
    | nil =>
      simpa using h.1
    | cons y l =>
      rw [List.map_cons, List.map_cons, String.intercalate_cons_cons, String.toList_append, String.toList_append,
        List.append_assoc, List.flatMap_cons]
      exact h.1.append (hsep (ih h.2)) (hapart _)

theorem fragment_alternatives (hd : d ∈ Dialect.known) (hn : IsParamName name) {columns : List String}
    (hc : ∀ x ∈ columns, Fragment d.namesEscape 0 [] x.toList) (cs : Bool) :
    Fragment d.namesEscape 0 (columns.flatMap fun _ => d.marks name)
      (" OR ".intercalate (columns.map fun x => d.like x name cs)).toList :=
  fragment_intercalate " OR " _ _ (fun hs => .lead rfl hs) (fun _ => rfl) fun x hx => fragment_like hd hn (hc x hx) cs

theorem fragment_freeText (hd : d ∈ Dialect.known) (hn : IsParamName name) {columns : List String}
    (hc : ∀ x ∈ columns, Fragment d.namesEscape 0 [] x.toList) (term : String) (cs : Bool) :
    Fragment d.namesEscape 0 (columns.flatMap fun _ => d.marks name) (d.freeText columns name term cs).sql.toList := by
  have hor := fragment_alternatives hd hn hc cs
  have h := Fragment.lead (d := 0) (w := "(".toList) rfl (hor.append (.closed .nil) rfl)
  simpa [Dialect.freeText_eq] using h

theorem fragment_fullText (hd : d ∈ Dialect.known) (hn : IsParamName name) {columns : List String}
    {config term : String} {form : TermSyntax} {c : Condition} (hc : ∀ x ∈ columns, Fragment escapes 0 [] x.toList)
    (hconfig : Text.isIdentifier config = true) (h : d.fullTextSearch columns config form name term = .ok c) :
    Fragment escapes 0 (d.marks name) c.sql.toList := by
  have hbody : isLiteralBody escapes config.toList = true := isLiteralBody_of_isKeyChar fun x hx =>
    Text.isKeyChar_of_isWordChar ((Text.isWordChar_of_isIdentifier hconfig).2 x hx)
  have hcoalesce : ∀ x ∈ columns, Fragment escapes 0 [] ("COALESCE(" ++ x ++ ", '')").toList := by
    intro x hx
    have hclose : Fragment escapes 1 [] ", '')".toList :=
      .lead (w := ", ".toList) rfl (.literal (b := []) rfl rfl (.closed .nil))
    rw [String.toList_append, String.toList_append, List.append_assoc]
    exact .lead rfl ((hc x hx).append hclose rfl)
  have hcontent := fragment_intercalate " || ' ' || " _ (fun _ => [])
    (fun hs => .lead (w := " || ".toList) rfl (.literal (b := [' ']) (by simp [isLiteralBody]) rfl
      (.lead (w := " || ".toList) rfl hs))) (fun _ => rfl) hcoalesce
  rw [List.flatMap_eq_nil_iff.2 fun _ _ => rfl] at hcontent
  have hparser : ∀ k, openAfter k (Dialect.termParser form).toList = some k := by
    intro k
    cases form <;> rfl
  have hparam : Fragment escapes 1 (d.marks name ++ []) (", ".toList ++ _) :=
    .lead rfl (.param hd hn (.closed .nil) rfl)
  have hquery : Fragment escapes 1 (d.marks name ++ []) (") ".toList ++ _) :=
    .lead rfl (.doubled (.lead (w := " ".toList) rfl (.lead (hparser 0) (.opened (.literal hbody rfl hparam)))))
  have hvector : Fragment escapes 0 _ _ := .lead (w := "to_tsvector(".toList) rfl
    (.literal hbody rfl (.lead (w := ", ".toList) rfl (hcontent.append hquery rfl)))
  unfold Dialect.fullTextSearch at h
  split at h
  · cases h
    simpa using hvector
  · cases h

/-! ### Emitted conditions -/

/-- The placeholders in a text are those of a parameter; it is there if parameters are marked by `@`. -/
def Mentions (d : Dialect) (p : Option (String × Value)) (names : List String) : Prop :=
  (∀ n ∈ names, p.map Prod.fst = some n) ∧ (d.sigil = '@' → p.isSome → names ≠ [])

private theorem mentions_marks {v : Value} : Mentions d (some (name, v)) (d.marks name) := by
  unfold Dialect.marks
  split
  · refine ⟨fun n hn => ?_, fun _ _ => List.cons_ne_nil _ _⟩
    rw [List.mem_singleton.1 hn]
    rfl
  · exact ⟨fun n hn => (nomatch hn), fun h => absurd h ‹_›⟩

/-- Each condition is a fragment with the placeholder of its parameter. -/
theorem Emitted.exists_fragment {table : String} {c : Condition} (hd : d ∈ Dialect.known)
    (ht : Text.isIdentifier table = true) (h : Emitted table d c) :
    ∃ names, Mentions d c.param names ∧ Fragment d.namesEscape 0 names c.sql.toList := by
  cases h with
  | @test sql name t hr hn =>
    refine ⟨_, ?_, Test.fragment hd (hr.fragment hd ht) t hn⟩
    have hp := Test.param_condition d sql name t
    cases htag : t.tag? with
    | none =>
      rw [htag, Option.map_none, Option.map_eq_none_iff] at hp
      rw [hp]
      exact ⟨fun n hn => (nomatch hn), fun _ h => (nomatch h)⟩
    | some tag =>
      rw [htag, Option.map_some, Option.map_eq_some_iff] at hp
      obtain ⟨⟨_, v⟩, hp, rfl⟩ := hp
      rw [hp]
      exact mentions_marks
  | @freeText columns name term cs hne hr hn =>
    refine ⟨_, ?_, fragment_freeText hd hn (fun x hx => (hr x hx).fragment hd ht) term cs⟩
    have hm : Mentions d (some (name, Dialect.patternOf .contains term cs)) (d.marks name) := mentions_marks
    obtain ⟨hmem, hsome⟩ := hm
    rw [d.freeText_eq]
    refine ⟨fun n hn => ?_, fun hs hp hnil => ?_⟩
    · obtain ⟨_, _, hn⟩ := List.mem_flatMap.1 hn
      exact hmem n hn
    · obtain ⟨x, r, rfl⟩ := List.exists_cons_of_ne_nil hne
      exact hsome hs hp (List.append_eq_nil_iff.1 hnil).1
  | fullText _ hr hconfig hn h =>
    refine ⟨_, ?_, fragment_fullText hd hn (fun x hx => (hr x hx).fragment hd ht) hconfig h⟩
    rw [param_of_fullTextSearch h]
    exact mentions_marks

end SqlFilter
