import SqlFilter.Proofs.StatementText

/-!
# Lexical safety

A reader of a statement goes through it from left to right and tells the quoted literals from what is outside of them
(`scan`).  In every statement that is rendered it finds all literals closed, with bodies of three or four kinds, outside
of them a few characters only, no hyphen but in an arrow, and balanced parentheses
(`Query.rendered_sql_is_lexically_safe`): whatever names and terms are given, nothing escapes from a literal, no comment
starts and no statement ends early.
-/

namespace SqlFilter

/-! ### Scanning a statement -/

/-- What a scan finds: a literal with its body, or a character outside of literals. -/
inductive Lexeme
  | literal (body : List Char)
  | outside (c : Char)
deriving DecidableEq, Repr

/-- Scans a text from outside of literals, or from inside of one of which some body is read; fails if a literal is not
closed.  A quote written twice inside of a literal does not close it. -/
def scan : Option (List Char) → List Char → Option (List Lexeme)
  | none, [] => some []
  | some _, [] => none
  | none, c :: s => if c = '\'' then scan (some []) s else (scan none s).map (.outside c :: ·)
  | some b, '\'' :: '\'' :: s => scan (some (b ++ ['\'', '\''])) s
  | some b, c :: s => if c = '\'' then (scan none s).map (.literal b :: ·) else scan (some (b ++ [c])) s

/-- A character that may stand outside of literals. -/
def isOutsideChar (c : Char) : Bool :=
  c.isAlphanum || ['_', ' ', '.', ',', '*', '(', ')', '=', '<', '>', '-', ':', '&', '@', '|'].contains c

/-- The parentheses outside of literals are balanced once `d` of them, open in front, are closed. -/
def isBalanced (d : Nat) : List Lexeme → Bool
  | [] => d = 0
  | x :: r =>
    if x = .outside '(' then isBalanced (d + 1) r
    else if x = .outside ')' then d ≠ 0 && isBalanced (d - 1) r
    else isBalanced d r

/-- What a scan may find: bodies of literals and characters of the kinds that are allowed, hyphens in arrows only, and
balanced parentheses. -/
structure Lexeme.Safe (escapes : Bool) (d : Nat) (l : List Lexeme) : Prop where
  body : ∀ b, .literal b ∈ l → isLiteralBody escapes b = true
  outside : ∀ c, .outside c ∈ l → isOutsideChar c = true
  arrow : ∀ i, l[i]? = some (.outside '-') → l[i + 1]? = some (.outside '>')
  balanced : isBalanced d l = true

/-- A scan of the text finds what it may find only. -/
def ScansSafely (escapes : Bool) (d : Nat) (s : List Char) : Prop := ∃ l, scan none s = some l ∧ Lexeme.Safe escapes d l

variable {escapes : Bool} {d e : Nat} {names : List String} {s : List Char}

namespace Lexeme

theorem Safe.cons {x : Lexeme} {l : List Lexeme} (hb : ∀ b, x = .literal b → isLiteralBody escapes b = true)
    (hc : ∀ c, x = .outside c → isOutsideChar c = true)
    (ha : x = .outside '-' → l[0]? = some (.outside '>')) (hd : isBalanced d (x :: l) = isBalanced e l)
    (h : Safe escapes e l) : Safe escapes d (x :: l) := by
  refine ⟨?_, ?_, ?_, hd.trans h.balanced⟩
  · intro b hmem
    rcases List.mem_cons.1 hmem with hx | hmem
    · exact hb b hx.symm
    · exact h.body b hmem
  · intro c hmem
    rcases List.mem_cons.1 hmem with hx | hmem
    · exact hc c hx.symm
    · exact h.outside c hmem
  · intro i hi
    cases i with
    | zero =>
      rw [List.getElem?_cons_zero, Option.some.injEq] at hi
      exact ha hi
    | succ i => exact h.arrow i hi

/-- No comment starts outside of literals, no statement ends and nothing is quoted or escaped in another way. -/
theorem Safe.excludes {l : List Lexeme} (h : Safe escapes d l) :
    (∀ c ∈ [';', '"', '/', '\\'], .outside c ∉ l) ∧ (∀ c, .outside c ∈ l → c.toNat < 128) ∧
      ∀ i, l[i]? = some (.outside '-') → l[i + 1]? ≠ some (.outside '-') := by
  refine ⟨?_, ?_, ?_⟩
  · intro c hc hmem
    have := h.outside c hmem
    simp only [List.mem_cons, List.not_mem_nil, or_false] at hc
    rcases hc with rfl | rfl | rfl | rfl <;> cases this
  · intro c hmem
    have hc := h.outside c hmem
    rw [isOutsideChar, Bool.or_eq_true] at hc
    rcases hc with hc | hc
    · exact toNat_lt_of_isAlphanum hc
    · simp only [List.contains_iff_mem, List.mem_cons, List.not_mem_nil, or_false] at hc
      rcases hc with rfl | rfl | rfl | rfl | rfl | rfl | rfl | rfl | rfl | rfl | rfl | rfl | rfl | rfl | rfl <;> decide
  · intro i hi hi'
    rw [h.arrow i hi] at hi'
    cases hi'

end Lexeme

/-! ### Scanning fragments -/

theorem scan_outside {c : Char} (hc : c ≠ '\'') (s : List Char) :
    scan none (c :: s) = (scan none s).map (.outside c :: ·) := by
  rw [scan, if_neg hc]

private theorem scan_body {c : Char} (hc : c ≠ '\'') (b s : List Char) :
    scan (some b) (c :: s) = scan (some (b ++ [c])) s := by
  rw [scan, if_neg hc]
  exact fun _ h => absurd h hc

private theorem scan_close (ha : isApart s = true) (b : List Char) :
    scan (some b) ('\'' :: s) = (scan none s).map (.literal b :: ·) := by
  cases s with
  | nil => rfl
  | cons c s =>
    have hc : c ≠ '\'' := by
      rintro rfl
      cases ha
    -- no quote follows, so this one is not written twice
    have hnext : ∀ s', '\'' = '\'' → c :: s = '\'' :: s' → False := by
      intro s' _ h
      cases h
      exact hc rfl
    rw [scan.eq_5 b '\'' (c :: s) hnext, if_pos rfl]

theorem scan_inside {w : List Char} (hw : '\'' ∉ w) (ha : isApart s = true) (b : List Char) :
    scan (some b) (w ++ '\'' :: s) = (scan none s).map (.literal (b ++ w) :: ·) := by
  induction w generalizing b with
  | nil =>
    rw [List.append_nil, List.nil_append]
    exact scan_close ha b
  | cons c w ih =>
    rw [List.mem_cons, not_or] at hw
    rw [List.cons_append, scan_body (fun h => hw.1 h.symm), ih hw.2, List.append_assoc]
    rfl

theorem isOutsideChar_of_isTextChar {c : Char} (h : isTextChar c = true) :
    isOutsideChar c = true ∧ c ≠ '\'' ∧ c ≠ '-' ∧ c ≠ '(' ∧ c ≠ ')' := by
  refine ⟨?_, ne_of_isTextChar h rfl, ne_of_isTextChar h rfl, ne_of_isTextChar h rfl, ne_of_isTextChar h rfl⟩
  simp only [isTextChar, Text.isWordChar, Bool.or_eq_true, decide_eq_true_eq, List.contains_iff_mem] at h
  simp only [isOutsideChar, Bool.or_eq_true, List.contains_iff_mem]
  rcases h with (h | rfl) | h
  · exact .inl h
  · exact .inr (by decide)
  · simp only [List.mem_cons, List.not_mem_nil, or_false] at h ⊢
    grind

theorem ScansSafely.outside {c : Char} (hc : isOutsideChar c = true) (hh : c ≠ '-')
    (hd : ∀ l, isBalanced d (.outside c :: l) = isBalanced e l) (h : ScansSafely escapes e s) :
    ScansSafely escapes d (c :: s) := by
  obtain ⟨l, hl, hsafe⟩ := h
  have hq : c ≠ '\'' := by
    rintro rfl
    cases hc
  refine ⟨.outside c :: l, ?_, hsafe.cons (fun b h => (nomatch h)) ?_ ?_ (hd l)⟩
  · rw [scan_outside hq, hl]
    rfl
  · rintro _ ⟨⟩
    exact hc
  · rintro ⟨⟩
    exact absurd rfl hh

theorem ScansSafely.text {c : Char} (hc : isTextChar c = true) (h : ScansSafely escapes d s) :
    ScansSafely escapes d (c :: s) := by
  obtain ⟨ho, -, hh, hopen, hclose⟩ := isOutsideChar_of_isTextChar hc
  refine h.outside ho hh fun l => ?_
  rw [isBalanced, if_neg (by simpa using hopen), if_neg (by simpa using hclose)]

theorem ScansSafely.word {w : List Char} (hw : ∀ c ∈ w, Text.isWordChar c = true) (h : ScansSafely escapes d s) :
    ScansSafely escapes d (w ++ s) := by
  induction w with
  | nil => exact h
  | cons c w ih =>
    rw [List.forall_mem_cons] at hw
    exact (ih hw.2).text (isTextChar_of_isWordChar hw.1)

theorem ScansSafely.mark (h : ScansSafely escapes d s) : ScansSafely escapes d ('@' :: s) :=
  h.outside rfl (by decide) fun _ => rfl

/-- An arrow is the one place where a hyphen stands outside of literals. -/
theorem ScansSafely.arrow (h : ScansSafely escapes d s) : ScansSafely escapes d ('-' :: '>' :: s) := by
  obtain ⟨l, hl, hsafe⟩ := h.text (c := '>') rfl
  rw [scan_outside (by decide)] at hl
  obtain ⟨r, hr, rfl⟩ := Option.map_eq_some_iff.1 hl
  refine ⟨.outside '-' :: .outside '>' :: r, ?_, hsafe.cons (fun b h => (nomatch h)) ?_ (fun _ => rfl) rfl⟩
  · rw [scan_outside (by decide), scan_outside (by decide), hr]
    rfl
  · rintro _ ⟨⟩
    rfl

theorem ScansSafely.literal {b : List Char} (hb : isLiteralBody escapes b = true) (ha : isApart s = true)
    (h : ScansSafely escapes d s) : ScansSafely escapes d ('\'' :: (b ++ '\'' :: s)) := by
  obtain ⟨l, hl, hsafe⟩ := h
  refine ⟨.literal b :: l, ?_, hsafe.cons ?_ (fun c h => (nomatch h)) (fun h => (nomatch h)) rfl⟩
  · rw [scan, if_pos rfl, scan_inside (notMem_of_isLiteralBody rfl hb) ha, hl]
    rfl
  · rintro _ ⟨⟩
    exact hb

/-- A scan of a fragment finds what it may find only. -/
theorem Fragment.scansSafely (h : Fragment escapes d names s) : ScansSafely escapes d s := by
  induction h with
  | nil => exact ⟨[], rfl, fun b h => (nomatch h), fun c h => (nomatch h), fun i h => (nomatch h), rfl⟩
  | char hc _ ih => exact ih.text hc
  | arrow _ ih => exact ih.arrow
  | opened _ ih => exact ih.outside rfl (by decide) fun _ => rfl
  | closed _ ih => exact ih.outside rfl (by decide) fun _ => rfl
  | doubled _ ih => exact ih.mark.mark
  | literal hb ha _ ih => exact ih.literal hb ha
  | placeholder hn _ _ ih => exact (ih.word hn.2).mark

/-! ### Rendered statements -/

theorem ScansSafely.weaken (h : ScansSafely false d s) : ScansSafely true d s := by
  obtain ⟨l, hl, hsafe⟩ := h
  refine ⟨l, hl, fun b hb => ?_, hsafe.outside, hsafe.arrow, hsafe.balanced⟩
  have := hsafe.body b hb
  simp only [isLiteralBody, Bool.false_and, Bool.or_false] at this
  rw [isLiteralBody, this, Bool.true_or]

namespace Query

/-- A scan of a statement that is rendered finds all literals closed, each with the characters of a key, none or a
space as its body; outside of them it finds letters, digits and a few signs, hyphens in arrows only, and balanced
parentheses.  In dialects other than that of PostgreSQL a backslash can be the body of a literal as well. -/
theorem rendered_sql_is_lexically_safe {q : Query} (h : q.Reachable) {st : Statement} (hr : q.render = .ok st) :
    (q.dialect = .postgres → ScansSafely false 0 st.sql.toList) ∧ ScansSafely true 0 st.sql.toList ∧
    ∀ l, scan none st.sql.toList = some l → (∀ c ∈ [';', '"', '/', '\\'], .outside c ∉ l) ∧
      (∀ c, .outside c ∈ l → c.toNat < 128) ∧
      ∀ i, l[i]? = some (.outside '-') → l[i + 1]? ≠ some (.outside '-') := by
  obtain ⟨mentioned, -, hf⟩ := h.wellFormed.exists_fragment hr
  have hs := hf.scansSafely
  have htrue : ScansSafely true 0 st.sql.toList := by
    cases he : q.dialect.namesEscape with
    | true => rwa [he] at hs
    | false =>
      rw [he] at hs
      exact hs.weaken
  refine ⟨fun hp => ?_, htrue, fun l hl => ?_⟩
  · rwa [hp] at hs
  · obtain ⟨l', hl', hsafe⟩ := htrue
    rw [hl] at hl'
    cases hl'
    exact hsafe.excludes

/-- A statement with keys, a cast, a name for a column, a search and a full text search. -/
theorem rendered_sql_is_lexically_safe_users :
    let q : Query := { table := "users", dialect := .postgres, settings := {} }
    let q' := q.run [.call (.selectColumns [⟨"meta->'a-b'", some "ab"⟩]),
      .call (.bindText "meta->>'a-b'" (some { contains := some "'; --", isNull := some false, sort := some {} }) {}),
      .call (.search ["name", "meta->'c'"] (some { term := "x" })),
      .call (.searchFullText ["name"] (some { term := "x", config := some "english" }))]
    q'.Reachable ∧ q'.dialect = .postgres ∧ ∃ st, q'.render = .ok st ∧ ScansSafely false 0 st.sql.toList := by
  intro q q'
  have hnew : Query.new "users" .postgres = .ok q := rfl
  have hq : q'.Reachable := (Reachable.created (.new hnew)).run _
  have hd : q'.dialect = .postgres := q.dialect_run _
  have hok : q'.selection.isSome = true := by decide +kernel
  obtain ⟨st, hst, -⟩ := exists_render hok
  exact ⟨hq, hd, st, hst, (rendered_sql_is_lexically_safe hq hst).1 hd⟩

end Query

end SqlFilter
