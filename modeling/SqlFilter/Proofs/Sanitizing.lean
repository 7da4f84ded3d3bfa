import SqlFilter.Proofs.ColumnGrammar
import SqlFilter.Proofs.Pieces
import SqlFilter.Proofs.Positional

/-!
# Sanitized text

Sanitizing is done with a text of word characters and changes nothing more in it (`Text.sanitize_eq_self_iff`).  The
base of a column expression is its first word, since only an arrow can follow it, so the sanitized expression starts
with it.  Names of parameters are made of sanitized texts, tags and numbers; the scan for the name of a placeholder
therefore takes a whole name, and stops at any other character behind it (`Query.sanitized_names_are_scanned_whole`).
-/

namespace SqlFilter

namespace Text

/-! ### Words of a text -/

/-- Word characters in front of a text belong to its first stretch. -/
theorem stretches_append {w : List Char} (hw : ∀ c ∈ w, isWordChar c = true) (s : List Char) :
    stretches (w ++ s) = (w ++ (stretches s).1, (stretches s).2) := by
  induction w with
  | nil => rfl
  | cons c w ih =>
    rw [List.forall_mem_cons] at hw
    rw [List.cons_append, stretches, ih hw.2]
    simp [hw.1]

/-- A text of word characters is a word, unless it is empty. -/
theorem words_of_forall {w : List Char} (hw : ∀ c ∈ w, isWordChar c = true) :
    words w = [w].filter fun v => !v.isEmpty := by
  have h := stretches_append hw []
  rw [List.append_nil, stretches, List.append_nil] at h
  rw [words, h]

/-- The word that a text starts with ends where another character follows. -/
theorem words_append_cons {w : List Char} (hne : w ≠ []) (hw : ∀ c ∈ w, isWordChar c = true) {c : Char}
    (hc : isWordChar c = false) (s : List Char) : ∃ ws, words (w ++ c :: s) = w :: ws := by
  have h := stretches_append hw (c :: s)
  have hfirst : (stretches (c :: s)).1 = [] := by
    rw [stretches]
    simp [hc]
  rw [hfirst, List.append_nil] at h
  rw [words, h]
  have hkept : (!w.isEmpty) = true := by simp [hne]
  exact ⟨_, List.filter_cons_of_pos hkept⟩

/-! ### Sanitizing -/

/-- Texts of word characters, and no others, are sanitized already. -/
theorem sanitize_eq_self_iff {s : String} : sanitize s = s ↔ ∀ c ∈ s.toList, isWordChar c = true := by
  constructor
  · intro h c hc
    rw [← h] at hc
    exact isWordChar_of_mem_sanitize hc
  · intro h
    have hwords : ['_'].intercalate (words s.toList) = s.toList := by
      rw [words_of_forall h]
      cases s.toList with
      | nil => rfl
      | cons c r => exact List.append_nil (c :: r)
    rw [sanitize, hwords, String.ofList_toList]

theorem sanitize_sanitize (s : String) : sanitize (sanitize s) = sanitize s :=
  sanitize_eq_self_iff.2 fun _ => isWordChar_of_mem_sanitize

/-- A sanitized column expression starts with the identifier that the expression starts with. -/
theorem ColumnSyntax.base_prefix_sanitize (p : ColumnSyntax) : p.base <+: (sanitize p.text).toList := by
  have hid : isIdentifier (String.ofList p.base) = true := by
    rw [isIdentifier, String.toList_ofList]
    exact p.isWord_base
  obtain ⟨hne, hword⟩ := isWordChar_of_isIdentifier hid
  rw [String.toList_ofList] at hne hword
  rw [sanitize, String.toList_ofList, text, String.toList_ofList, chars]
  cases p.hops with
  | nil =>
    rw [List.flatMap_nil, List.append_nil, words_of_forall hword, List.filter_cons_of_pos (by simp [hne])]
    exact List.prefix_append p.base _
  | cons h hops =>
    obtain ⟨ws, hws⟩ := words_append_cons hne hword (show isWordChar '-' = false from rfl)
      ('>' :: (h.head ++ '\'' :: h.key ++ ['\'']) ++ hops.flatMap Hop.chars)
    rw [List.flatMap_cons, Hop.chars, List.cons_append, hws]
    cases ws with
    | nil => exact List.prefix_append p.base _
    | cons v ws =>
      rw [List.intercalate_cons_cons, List.append_assoc]
      exact List.prefix_append p.base _

end Text

/-! ### Names of parameters -/

theorem Emitted.isParamName {table : String} {d : Dialect} {c : Condition} {name : String} {v : Value}
    (h : Emitted table d c) (hc : c.param = some (name, v)) : IsParamName name := by
  cases h with
  | @test sql given t _ hn =>
    have hparam := t.param_condition d sql given
    rw [hc] at hparam
    obtain ⟨tag, ht, rfl⟩ := Option.map_eq_some_iff.1 hparam.symm
    exact hn (by rw [ht]; rfl)
  | freeText _ _ _ _ hn =>
    rw [Dialect.param_freeText] at hc
    cases hc
    exact hn
  | fullText _ _ _ hn hcond =>
    rw [param_of_fullTextSearch hcond] at hc
    cases hc
    exact hn

namespace Query

/-- The names of all parameters, also those of the page, are texts of word characters. -/
theorem Reachable.isParamName {q : Query} (h : q.Reachable) {name : String} (hn : name ∈ q.allParams.names) :
    IsParamName name := by
  rw [Params.names, h.named.entries_allParams, List.map_append, List.mem_append] at hn
  rcases hn with hn | hn
  · obtain ⟨e, he, rfl⟩ := List.mem_map.1 hn
    obtain ⟨c, hc, hparam⟩ := List.mem_filterMap.1 he
    exact (h.wellFormed.conditions c hc).isParamName hparam
  · unfold pageEntries at hn
    split at hn
    · simp only [List.map_cons, List.map_nil, List.mem_cons, List.not_mem_nil, or_false] at hn
      rcases hn with rfl | rfl
      · exact ⟨by decide, List.all_eq_true.1 rfl⟩
      · exact ⟨by decide, List.all_eq_true.1 rfl⟩
    · cases hn

/-- Sanitized text has ASCII letters, digits and `_` only, and sanitizing it again changes nothing; just the texts of
these characters, identifiers among them, are as they are sanitized.  A column expression is sanitized to a text that is
not empty and starts with the base of the column.  So the names of all parameters of a query are texts of these
characters, not empty, and wherever the mark of a placeholder is read in front of such a name and any other character,
or the end, the name is what the placeholder has. -/
theorem sanitized_names_are_scanned_whole :
    (∀ s : String, (∀ c ∈ (Text.sanitize s).toList, c.isAlphanum = true ∨ c = '_') ∧
      Text.sanitize (Text.sanitize s) = Text.sanitize s ∧
      (Text.sanitize s = s ↔ ∀ c ∈ s.toList, c.isAlphanum = true ∨ c = '_') ∧
      (Text.isIdentifier s = true → Text.sanitize s = s)) ∧
    (∀ c : Column, Text.isColumnExpression c.expression = true →
      Text.sanitize c.expression ≠ "" ∧ c.base.toList <+: (Text.sanitize c.expression).toList) ∧
    ∀ q : Query, q.Reachable → ∀ name ∈ q.allParams.names,
      name ≠ "" ∧ (∀ c ∈ name.toList, c.isAlphanum = true ∨ c = '_') ∧
      ∀ rest : List Char, (∀ c ∈ rest.head?, ¬ (c.isAlphanum = true ∨ c = '_')) →
        Piece.ofChars ('@' :: (name.toList ++ rest)) = .placeholder name.toList :: Piece.ofChars rest := by
  have hword : ∀ c : Char, Text.isWordChar c = true ↔ c.isAlphanum = true ∨ c = '_' := by
    intro c
    rw [Text.isWordChar, Bool.or_eq_true, decide_eq_true_eq]
  refine ⟨fun s => ⟨fun c hc => ?_, Text.sanitize_sanitize s, ?_, fun h => ?_⟩, fun c hc => ?_, fun q h name hn => ?_⟩
  · exact (hword c).1 (Text.isWordChar_of_mem_sanitize hc)
  · simp only [Text.sanitize_eq_self_iff, hword]
  · exact Text.sanitize_eq_self_iff.2 (Text.isWordChar_of_isIdentifier h).2
  · obtain ⟨p, hp⟩ := Text.isColumnExpression_iff.1 hc
    have hbase : c.base.toList = p.base := by
      rw [Column.base, ← hp, Text.ColumnSyntax.text, String.toList_ofList, String.toList_ofList,
        p.beforeArrow_chars]
    have hprefix := p.base_prefix_sanitize
    rw [hp] at hprefix
    rw [hbase]
    refine ⟨fun hempty => ?_, hprefix⟩
    rw [hempty] at hprefix
    obtain ⟨d, r, hd, -⟩ := p.base_form
    rw [List.prefix_nil.1 hprefix] at hd
    cases hd
  · have hname := h.isParamName hn
    refine ⟨?_, fun c hc => (hword c).1 (hname.2 c hc), fun rest hrest => ?_⟩
    · rintro rfl
      exact hname.1 rfl
    · refine Piece.ofChars_placeholder hname.1 hname.2 fun c hc => ?_
      rw [← Bool.not_eq_true]
      exact fun h => hrest c hc ((hword c).1 h)

/-- A key that vanishes, one that ends in `_`, and a letter behind the name that is no ASCII letter. -/
theorem sanitized_names_are_scanned_whole_keys :
    let c : Column := ⟨"users", "data->'-'->>'b_'"⟩
    let q : Query := { table := "users", dialect := .postgres, settings := {} }
    let q' := q.run [.call (.bindText c.expression (some { eq := some "x" }) {})]
    Text.isColumnExpression c.expression = true ∧ c.base.toList <+: (Text.sanitize c.expression).toList ∧
      q'.Reachable ∧ q'.allParams.names = ["users_data_b__eq_0"] ∧
      Piece.ofChars "@users_data_b__eq_0é".toList =
        .placeholder "users_data_b__eq_0".toList :: Piece.ofChars ['é'] := by
  intro c q q'
  have hnew : Query.new "users" .postgres = .ok q := rfl
  have hq : q'.Reachable := (Reachable.created (.new hnew)).run _
  have hc : Text.isColumnExpression c.expression = true := by decide +kernel
  have hnames : q'.allParams.names = ["users_data_b__eq_0"] := by decide +kernel
  obtain ⟨-, hcolumn, hquery⟩ := sanitized_names_are_scanned_whole
  have hmem : "users_data_b__eq_0" ∈ q'.allParams.names := hnames ▸ List.mem_singleton_self _
  have hend : ¬ ('é'.isAlphanum = true ∨ 'é' = '_') := by decide
  have hscan := (hquery q' hq _ hmem).2.2 ['é'] fun c hc => by
    cases hc
    exact hend
  exact ⟨hc, (hcolumn c hc).2, hq, hnames, hscan⟩

end Query

end SqlFilter
