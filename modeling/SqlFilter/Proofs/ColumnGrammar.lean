import SqlFilter.Proofs.Checks
import SqlFilter.Proofs.Words

/-!
# The grammar of column expressions

A `ColumnSyntax` is an identifier with the hops after it, written over character classes of its own.

* (acceptance) the automaton of column expressions accepts just the texts that are written so: it reads an identifier
  and then one hop after the other (`PathState.accepts_hops`), and accepts nothing else (`exists_hops`);
* (uniqueness) no text is written so in two ways, as the arrow in front of the first hop ends the identifier and the
  second quote of a hop ends its key (`ColumnSyntax.text_injective`);
* (agreement) the search for `->`, which knows nothing of the automaton, finds the identifier and whether there are hops
  (`ColumnSyntax.beforeArrow_chars`, `ColumnSyntax.hasArrow_chars`).
-/

namespace SqlFilter.Text

/-! ### Texts of the grammar -/

/-- One of `[A-Za-z_]`. -/
def StartsWord (c : Char) : Prop := ('A' ≤ c ∧ c ≤ 'Z') ∨ ('a' ≤ c ∧ c ≤ 'z') ∨ c = '_'

/-- One of `[A-Za-z0-9_]`. -/
def InWord (c : Char) : Prop := StartsWord c ∨ ('0' ≤ c ∧ c ≤ '9')

/-- One of `[A-Za-z0-9_-]`. -/
def InKey (c : Char) : Prop := InWord c ∨ c = '-'

/-- An identifier and the hops after it. -/
@[ext]
structure ColumnSyntax where
  base : List Char
  hops : List Hop
  base_form : ∃ c r, base = c :: r ∧ StartsWord c ∧ ∀ d ∈ r, InWord d
  hops_form : ∀ h ∈ hops, h.key ≠ [] ∧ ∀ c ∈ h.key, InKey c

/-- The identifier and each hop as `->'key'` or `->>'key'`. -/
def ColumnSyntax.chars (p : ColumnSyntax) : List Char := p.base ++ p.hops.flatMap Hop.chars

def ColumnSyntax.text (p : ColumnSyntax) : String := String.ofList p.chars

/-! ### Character classes -/

theorem isWordStart_iff {c : Char} : isWordStart c = true ↔ StartsWord c := by
  have hupper : c.isUpper = true ↔ 'A' ≤ c ∧ c ≤ 'Z' := decide_eq_true_iff
  have hlower : c.isLower = true ↔ 'a' ≤ c ∧ c ≤ 'z' :=
    Bool.and_eq_true_iff.trans (and_congr decide_eq_true_iff decide_eq_true_iff)
  have halpha : c.isAlpha = (c.isUpper || c.isLower) := rfl
  rw [isWordStart, halpha, Bool.or_eq_true, Bool.or_eq_true, hupper, hlower, decide_eq_true_iff, or_assoc]
  rfl

theorem isWordChar_iff {c : Char} : isWordChar c = true ↔ InWord c := by
  have hdigit : c.isDigit = true ↔ '0' ≤ c ∧ c ≤ '9' :=
    Bool.and_eq_true_iff.trans (and_congr decide_eq_true_iff decide_eq_true_iff)
  have hsplit : isWordChar c = true ↔ isWordStart c = true ∨ c.isDigit = true := by
    simp only [isWordChar, isWordStart, Char.isAlphanum, Bool.or_eq_true]
    exact or_right_comm
  rw [hsplit, isWordStart_iff, hdigit, InWord]

theorem isKeyChar_iff {c : Char} : isKeyChar c = true ↔ InKey c := by
  simp [isKeyChar, InKey, isWordChar_iff]

theorem isWord_iff {w : List Char} :
    isWord w = true ↔ ∃ c r, w = c :: r ∧ StartsWord c ∧ ∀ d ∈ r, InWord d := by
  cases w with
  | nil => simp [isWord]
  | cons c r =>
    simp only [isWord, Bool.and_eq_true, List.all_eq_true, isWordStart_iff, isWordChar_iff]
    constructor
    · intro h
      exact ⟨c, r, rfl, h⟩
    · rintro ⟨c', r', hcr, h⟩
      obtain ⟨rfl, rfl⟩ := List.cons.inj hcr
      exact h

theorem Hop.wellFormed_iff {h : Hop} : h.WellFormed ↔ h.key ≠ [] ∧ ∀ c ∈ h.key, InKey c := by
  simp only [WellFormed, isKeyChar_iff]

/-! ### The automaton accepts the grammar -/

namespace PathState

theorem accepts_word {w : List Char} (hw : ∀ c ∈ w, isWordChar c = true) (r : List Char) :
    word.accepts (w ++ r) = word.accepts r := by
  induction w with
  | nil => rfl
  | cons c w ih =>
    rw [List.forall_mem_cons] at hw
    simp [accepts, step, hw.1, ih hw.2]

theorem accepts_key {k : List Char} (hk : ∀ c ∈ k, isKeyChar c = true) (r : List Char) :
    key.accepts (k ++ r) = key.accepts r := by
  induction k with
  | nil => rfl
  | cons c k ih =>
    rw [List.forall_mem_cons] at hk
    simp [accepts, step, hk.1, ih hk.2]

/-- After an identifier or a hop, a hop is read from its arrow to its closing quote. -/
theorem accepts_hop {q : PathState} (hq : q.isFinal = true) {h : Hop} (hh : h.WellFormed) (r : List Char) :
    q.accepts (h.chars ++ r) = closed.accepts r := by
  have hdash : q.accepts (h.chars ++ r) = arrow.accepts (h.head ++ '\'' :: h.key ++ ['\''] ++ r) := by
    have hnot : isWordChar '-' = false := by decide
    cases q with
    | word | closed => simp [Hop.chars, accepts, step, hnot]
    | start | dash | arrow | wideArrow | keyStart | key => cases hq
  have hquote : arrow.accepts (h.head ++ '\'' :: h.key ++ ['\''] ++ r) = keyStart.accepts (h.key ++ '\'' :: r) := by
    cases hw : h.wide <;> simp [Hop.head, hw, accepts, step]
  have hclose : key.accepts ('\'' :: r) = closed.accepts r := by
    have hnot : isKeyChar '\'' = false := by decide
    simp [accepts, step, hnot]
  obtain ⟨c, k, hkey⟩ := List.exists_cons_of_ne_nil hh.1
  have hchars := hh.2
  rw [hkey, List.forall_mem_cons] at hchars
  rw [hdash, hquote, hkey]
  simp [accepts, step, hchars.1, accepts_key hchars.2, ← hclose]

theorem accepts_hops {q : PathState} (hq : q.isFinal = true) {hops : List Hop} (hh : ∀ h ∈ hops, h.WellFormed) :
    q.accepts (hops.flatMap Hop.chars) = true := by
  induction hops generalizing q with
  | nil => exact hq
  | cons h hops ih =>
    rw [List.forall_mem_cons] at hh
    rw [List.flatMap_cons, accepts_hop hq hh.1]
    exact ih rfl hh.2

end PathState

/-- What the automaton accepts is the texts of the grammar. -/
theorem isColumnExpression_iff {s : String} : isColumnExpression s = true ↔ ∃ p : ColumnSyntax, p.text = s := by
  constructor
  · intro h
    obtain ⟨w, hops, hw, hhops, hs⟩ := exists_hops h
    refine ⟨⟨w, hops, isWord_iff.1 hw, fun h hh => Hop.wellFormed_iff.1 (hhops h hh)⟩, ?_⟩
    rw [ColumnSyntax.text, ColumnSyntax.chars, ← hs, String.ofList_toList]
  · rintro ⟨p, rfl⟩
    obtain ⟨c, r, hbase, hc, hr⟩ := p.base_form
    have hstart : PathState.start.accepts (c :: (r ++ p.hops.flatMap Hop.chars)) =
        PathState.word.accepts (r ++ p.hops.flatMap Hop.chars) := by
      simp [PathState.accepts, PathState.step, isWordStart_iff.2 hc]
    rw [isColumnExpression, ColumnSyntax.text, String.toList_ofList, ColumnSyntax.chars, hbase, List.cons_append,
      hstart, PathState.accepts_word fun d hd => isWordChar_iff.2 (hr d hd)]
    exact PathState.accepts_hops rfl fun h hh => Hop.wellFormed_iff.2 (p.hops_form h hh)

/-! ### The search for arrows agrees -/

theorem beforeArrow_append {w : List Char} (hw : '-' ∉ w) (r : List Char) :
    beforeArrow (w ++ r) = w ++ beforeArrow r := by
  induction w with
  | nil => rfl
  | cons c w ih =>
    have hc : c ≠ '-' := fun hc => hw (by simp [hc])
    simp [beforeArrow, hc, ih fun h => hw (List.mem_cons_of_mem _ h)]

theorem hasArrow_of_notMem {w : List Char} (hw : '-' ∉ w) : hasArrow w = false := by
  induction w with
  | nil => rfl
  | cons c w ih =>
    have hc : c ≠ '-' := fun hc => hw (by simp [hc])
    simp [hasArrow, hc, ih fun h => hw (List.mem_cons_of_mem _ h)]

namespace ColumnSyntax

variable (p : ColumnSyntax)

theorem isWord_base : isWord p.base = true := isWord_iff.2 p.base_form

private theorem isWordChar_of_mem_base {c : Char} (hc : c ∈ p.base) : isWordChar c = true := by
  have hid : isIdentifier (String.ofList p.base) = true := by
    rw [isIdentifier, String.toList_ofList]
    exact p.isWord_base
  have hchars := (isWordChar_of_isIdentifier hid).2
  rw [String.toList_ofList] at hchars
  exact hchars c hc

theorem dash_notMem_base : '-' ∉ p.base := fun h => absurd (p.isWordChar_of_mem_base h) (by decide)

theorem beforeArrow_chars : beforeArrow p.chars = p.base := by
  rw [chars, beforeArrow_append p.dash_notMem_base]
  cases p.hops with
  | nil => simp [beforeArrow]
  | cons h hops => simp [Hop.chars, beforeArrow]

theorem hasArrow_chars : hasArrow p.chars = true ↔ p.hops ≠ [] := by
  rw [chars]
  cases p.hops with
  | nil => simp [hasArrow_of_notMem p.dash_notMem_base]
  | cons h hops =>
    rw [List.flatMap_cons, Hop.chars]
    exact iff_of_true (hasArrow_append p.base _) (List.cons_ne_nil h hops)

theorem isIdentifier_text : isIdentifier p.text = true ↔ p.hops = [] := by
  constructor
  · intro h
    -- a hop would have its dash in the identifier
    have hword := (isWordChar_of_isIdentifier h).2
    rw [text, String.toList_ofList, chars] at hword
    cases hh : p.hops with
    | nil => rfl
    | cons h hops =>
      have hdash := hword '-' (by simp [hh, Hop.chars])
      exact absurd hdash (by decide)
  · intro h
    rw [isIdentifier, text, String.toList_ofList, chars, h]
    simpa using p.isWord_base

end ColumnSyntax

/-- Identifiers are the texts of the grammar without hops. -/
theorem isIdentifier_iff {s : String} : isIdentifier s = true ↔ ∃ p : ColumnSyntax, p.text = s ∧ p.hops = [] := by
  constructor
  · intro h
    refine ⟨⟨s.toList, [], isWord_iff.1 h, fun h hh => nomatch hh⟩, ?_, rfl⟩
    simp [ColumnSyntax.text, ColumnSyntax.chars]
  · rintro ⟨p, rfl, hp⟩
    exact p.isIdentifier_text.2 hp

/-! ### Texts of the grammar are read in one way -/

/-- A key ends where its closing quote stands. -/
private theorem key_unique {k k' r r' : List Char} (hk : '\'' ∉ k) (hk' : '\'' ∉ k')
    (h : k ++ '\'' :: r = k' ++ '\'' :: r') : k = k' ∧ r = r' := by
  induction k generalizing k' with
  | nil =>
    cases k' with
    | nil => simpa using h
    | cons c k' =>
      obtain ⟨rfl, -⟩ := List.cons.inj h
      exact absurd List.mem_cons_self hk'
  | cons c k ih =>
    cases k' with
    | nil =>
      obtain ⟨rfl, -⟩ := List.cons.inj h
      exact absurd List.mem_cons_self hk
    | cons c' k' =>
      obtain ⟨rfl, hrest⟩ := List.cons.inj h
      have hk_tail := fun hm => hk (List.mem_cons_of_mem _ hm)
      have hk'_tail := fun hm => hk' (List.mem_cons_of_mem _ hm)
      obtain ⟨rfl, rfl⟩ := ih hk_tail hk'_tail hrest
      exact ⟨rfl, rfl⟩

theorem Hop.WellFormed.quote_notMem {h : Hop} (hh : h.WellFormed) : '\'' ∉ h.key := fun hq =>
  absurd (hh.2 _ hq) (by decide)

theorem Hop.chars_unique {h h' : Hop} (hh : h.WellFormed) (hh' : h'.WellFormed) {r r' : List Char}
    (heq : h.chars ++ r = h'.chars ++ r') : h = h' ∧ r = r' := by
  obtain ⟨wide, key⟩ := h
  obtain ⟨wide', key'⟩ := h'
  -- after `->` there is a quote or another `>`
  have hwide : wide = wide' := by
    cases wide <;> cases wide' <;> simp [chars, head] at heq ⊢
  subst hwide
  have hkey : key ++ '\'' :: r = key' ++ '\'' :: r' := by
    cases wide <;> simpa [chars, head] using heq
  obtain ⟨rfl, rfl⟩ := key_unique hh.quote_notMem hh'.quote_notMem hkey
  exact ⟨rfl, rfl⟩

theorem hops_unique {hops hops' : List Hop} (hh : ∀ h ∈ hops, h.WellFormed) (hh' : ∀ h ∈ hops', h.WellFormed)
    (heq : hops.flatMap Hop.chars = hops'.flatMap Hop.chars) : hops = hops' := by
  induction hops generalizing hops' with
  | nil =>
    cases hops' with
    | nil => rfl
    | cons h' hops' => simp [Hop.chars] at heq
  | cons h hops ih =>
    cases hops' with
    | nil => simp [Hop.chars] at heq
    | cons h' hops' =>
      rw [List.forall_mem_cons] at hh hh'
      obtain ⟨rfl, hrest⟩ := Hop.chars_unique hh.1 hh'.1 heq
      rw [ih hh.2 hh'.2 hrest]

theorem ColumnSyntax.text_injective : Function.Injective ColumnSyntax.text := by
  intro p p' h
  have hchars : p.chars = p'.chars := by
    rw [← String.toList_ofList (l := p.chars), ← String.toList_ofList (l := p'.chars)]
    exact congrArg String.toList h
  have hbase : p.base = p'.base := by
    rw [← p.beforeArrow_chars, ← p'.beforeArrow_chars, hchars]
  rw [chars, chars, hbase] at hchars
  have hhops : p.hops = p'.hops :=
    hops_unique (fun h hh => Hop.wellFormed_iff.2 (p.hops_form h hh))
      (fun h hh => Hop.wellFormed_iff.2 (p'.hops_form h hh)) (List.append_cancel_left hchars)
  exact ColumnSyntax.ext hbase hhops

end SqlFilter.Text

namespace SqlFilter

/-- A text passes as a column if and only if it is an identifier with hops after it, and as an identifier if and only if
it is one without hops.  It is so in one way only, and this is how the column is split: its base is the identifier, and
it has a path if and only if there are hops. -/
theorem checks_follow_grammar :
    (∀ s : String,
      (Text.isColumnExpression s = true ↔ ∃ p : Text.ColumnSyntax, p.text = s) ∧
      (Text.isIdentifier s = true ↔ ∃ p : Text.ColumnSyntax, p.text = s ∧ p.hops = []) ∧
      (checkColumn s = .ok () ↔ ∃ p : Text.ColumnSyntax, p.text = s) ∧
      (checkIdentifier s = .ok () ↔ ∃ p : Text.ColumnSyntax, p.text = s ∧ p.hops = [])) ∧
    Function.Injective Text.ColumnSyntax.text ∧
    ∀ (table : String) (p : Text.ColumnSyntax),
      (⟨table, p.text⟩ : Column).base = String.ofList p.base ∧
      ((⟨table, p.text⟩ : Column).hasPath = true ↔ p.hops ≠ []) ∧
      (Text.isIdentifier p.text = true ↔ p.hops = []) := by
  refine ⟨fun s => ?_, Text.ColumnSyntax.text_injective, fun table p => ?_⟩
  · rw [checkColumn_eq_ok, checkIdentifier_eq_ok]
    exact ⟨Text.isColumnExpression_iff, Text.isIdentifier_iff, Text.isColumnExpression_iff, Text.isIdentifier_iff⟩
  · have hchars : p.text.toList = p.chars := String.toList_ofList
    refine ⟨?_, ?_, p.isIdentifier_text⟩
    · rw [Column.base, hchars, p.beforeArrow_chars]
    · rw [Column.hasPath, hchars, p.hasArrow_chars]

/-- A key may end in a dash, an identifier may not, and a line end is a part of neither. -/
example :
    Text.isColumnExpression "data->'a-'->>'b'" = true ∧ (⟨"t", "data->'a-'->>'b'"⟩ : Column).base = "data" ∧
      Text.isColumnExpression "data-" = false ∧ Text.isColumnExpression "data->'a'\n" = false := by
  decide +kernel

end SqlFilter
