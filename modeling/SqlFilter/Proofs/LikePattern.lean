import Mathlib.Data.List.Infix
import SqlFilter.Dialect.Basic
import SqlFilter.Proofs.Matching

/-!
# Patterns match literally

How a pattern is read is said here with no knowledge of what wrote it: its characters fall into parts
(`PatternPart.read`), and the parts accept a text or not (`PatternPart.accepts`).

* (escaping) an escaped term is read as its own characters, whatever comes after it (`PatternPart.read_escaped`), so
  that none of them is a wildcard or escapes another one;
* (wrapping) the characters of a term, with `%` on the open sides of a shape, accept just the texts that have the term
  where the shape looks for it (`Shape.accepts_parts`).
-/

namespace SqlFilter

/-! ### Reading and matching patterns -/

/-- A part of a pattern. -/
inductive PatternPart
  /-- Any number of any characters. -/
  | anything
  /-- Any one character. -/
  | anyOne
  /-- This character. -/
  | char (c : Char)
deriving DecidableEq, Repr

namespace PatternPart

/-- The parts that the characters of a pattern stand for, where `\` takes the next character literally.  A pattern that
ends in a `\` of its own is malformed. -/
def read : List Char → Option (List PatternPart)
  | [] => some []
  | ['\\'] => none
  | '\\' :: c :: r => (read r).map (char c :: ·)
  | '%' :: r => (read r).map (anything :: ·)
  | '_' :: r => (read r).map (anyOne :: ·)
  | c :: r => (read r).map (char c :: ·)

/-- The parts match a text from its start to its end. -/
def accepts : List PatternPart → List Char → Bool
  | [], s => s.isEmpty
  | anything :: ps, s => s.tails.any (accepts ps)
  | anyOne :: ps, s =>
    match s with
    | [] => false
    | _ :: r => accepts ps r
  | char c :: ps, s =>
    match s with
    | [] => false
    | d :: r => d = c && accepts ps r

theorem accepts_nil {s : List Char} : accepts [] s = true ↔ s = [] := List.isEmpty_iff

theorem accepts_anything {ps : List PatternPart} {s : List Char} :
    accepts (anything :: ps) s = true ↔ ∃ r, r <:+ s ∧ accepts ps r = true := by
  simp [accepts, List.any_eq_true]

theorem accepts_anything_nil (s : List Char) : accepts [anything] s = true :=
  accepts_anything.2 ⟨[], List.nil_suffix, rfl⟩

/-- Characters accept a text that starts with them and whose rest is accepted by what follows. -/
theorem accepts_chars {t s : List Char} {ps : List PatternPart} :
    accepts (t.map char ++ ps) s = true ↔ ∃ r, s = t ++ r ∧ accepts ps r = true := by
  induction t generalizing s with
  | nil => simp
  | cons c t ih =>
    cases s with
    | nil => simp [accepts]
    | cons d s =>
      have hhead : accepts ((c :: t).map char ++ ps) (d :: s) = true ↔
          d = c ∧ accepts (t.map char ++ ps) s = true := by
        simp [accepts]
      rw [hhead, ih]
      constructor
      · rintro ⟨rfl, r, rfl, hr⟩
        exact ⟨r, rfl, hr⟩
      · rintro ⟨r, hs, hr⟩
        obtain ⟨rfl, rfl⟩ := List.cons.inj hs
        exact ⟨rfl, r, rfl, hr⟩

/-! ### Escaped terms are read as they are -/

theorem read_cons {c : Char} (h : Text.isLikeSpecial c = false) (r : List Char) :
    read (c :: r) = (read r).map (char c :: ·) := by
  simp only [Text.isLikeSpecial, Bool.or_eq_false_iff, decide_eq_false_iff_not] at h
  obtain ⟨⟨hescape, hpercent⟩, hlow⟩ := h
  rw [read]
  · rintro rfl
    exact absurd rfl hescape
  · intro _ _ hc
    exact absurd hc hescape
  · exact hpercent
  · exact hlow

theorem read_escaped (t r : List Char) :
    read (t.flatMap Text.escapeLikeChar ++ r) = (read r).map (t.map char ++ ·) := by
  induction t with
  | nil => simp
  | cons c t ih =>
    -- a special character has the escape character in front of it, which takes it literally
    have hread : read (Text.escapeLikeChar c ++ (t.flatMap Text.escapeLikeChar ++ r)) =
        (read (t.flatMap Text.escapeLikeChar ++ r)).map (char c :: ·) := by
      unfold Text.escapeLikeChar
      by_cases hc : Text.isLikeSpecial c = true
      · simp only [hc, ↓reduceIte]
        rfl
      · simp only [hc]
        exact read_cons (by simpa using hc) _
    rw [List.flatMap_cons, List.append_assoc, hread, ih, Option.map_map]
    rfl

end PatternPart

/-! ### Where a term is found -/

namespace Shape

/-- A text has the term where the shape looks for it. -/
def Finds : Shape → List Char → List Char → Prop
  | contains, t, s => t <:+: s
  | startsWith, t, s => t <+: s
  | endsWith, t, s => t <:+ s

/-- The characters of a term, with anything on the sides that the shape leaves open. -/
def parts : Shape → List Char → List PatternPart
  | contains, t => .anything :: (t.map .char ++ [.anything])
  | startsWith, t => t.map .char ++ [.anything]
  | endsWith, t => .anything :: t.map .char

open PatternPart

/-- The pattern of a shape around an escaped term is well formed, and is read as the characters of the term. -/
theorem read_wrap (shape : Shape) (t : String) :
    PatternPart.read (shape.wrap (Text.escapeLike t)).toList = some (shape.parts t.toList) := by
  have hopen : PatternPart.read ['%'] = some [.anything] := rfl
  have hclosed := read_escaped t.toList []
  rw [List.append_nil] at hclosed
  cases shape with
  | contains =>
    have htext : (contains.wrap (Text.escapeLike t)).toList =
        '%' :: (t.toList.flatMap Text.escapeLikeChar ++ ['%']) := by
      simp [wrap, Text.escapeLike]
    rw [htext, PatternPart.read, read_escaped, hopen]
    rfl
  | startsWith =>
    have htext : (startsWith.wrap (Text.escapeLike t)).toList = t.toList.flatMap Text.escapeLikeChar ++ ['%'] := by
      simp [wrap, Text.escapeLike]
    rw [htext, read_escaped, hopen]
    rfl
  | endsWith =>
    have htext : (endsWith.wrap (Text.escapeLike t)).toList = '%' :: t.toList.flatMap Text.escapeLikeChar := by
      simp [wrap, Text.escapeLike]
    rw [htext, PatternPart.read, hclosed]
    simp [PatternPart.read, parts]

theorem accepts_parts (shape : Shape) (t s : List Char) : accepts (shape.parts t) s = true ↔ shape.Finds t s := by
  cases shape with
  | contains =>
    simp only [parts, Finds, accepts_anything, accepts_chars, accepts_anything_nil, and_true]
    constructor
    · rintro ⟨_, ⟨w, rfl⟩, r, rfl⟩
      exact ⟨w, r, List.append_assoc w t r⟩
    · rintro ⟨w, r, rfl⟩
      exact ⟨t ++ r, ⟨w, (List.append_assoc w t r).symm⟩, r, rfl⟩
  | startsWith =>
    simp only [parts, Finds, accepts_chars, accepts_anything_nil, and_true]
    exact ⟨fun ⟨r, hr⟩ => ⟨r, hr.symm⟩, fun ⟨r, hr⟩ => ⟨r, hr.symm⟩⟩
  | endsWith =>
    have hchars : ∀ r, accepts (t.map PatternPart.char) r = true ↔ r = t := by
      intro r
      rw [← List.append_nil (t.map PatternPart.char), accepts_chars]
      simp [accepts_nil]
    simp only [parts, Finds, accepts_anything, hchars, exists_eq_right]

end Shape

/-! ### Bound patterns -/

/-- A text is the pattern that finds a term: it is well formed, all characters of the term stand for themselves in it,
and it accepts just the texts that have the term where the shape looks for it. -/
def Shape.IsPatternFor (shape : Shape) (t : String) (pattern : String) : Prop :=
  PatternPart.read pattern.toList = some (shape.parts t.toList) ∧
    ∀ s : String, PatternPart.accepts (shape.parts t.toList) s.toList = true ↔ shape.Finds t.toList s.toList

/-- The value that is bound for a pattern, in any dialect, finds just the texts that contain the term, start with it or
end with it; that of a search finds the texts that contain the term.  The term is taken as it is or in lower case. -/
theorem Dialect.escaped_patterns_match_literally (d : Dialect) (param term : String) (caseSensitive : Bool) :
    let t := if caseSensitive then term else Text.toLower term
    (∀ (shape : Shape) (column : String), ∃ pattern,
      (d.pattern shape column param term caseSensitive).param = some (param, .text pattern) ∧
        shape.IsPatternFor t pattern) ∧
    ∀ columns : List String, ∃ pattern,
      (d.freeText columns param term caseSensitive).param = some (param, .text pattern) ∧
        Shape.contains.IsPatternFor t pattern := by
  intro t
  have hpattern : ∀ shape : Shape, shape.IsPatternFor t (shape.wrap (Text.escapeLike t)) := fun shape =>
    ⟨shape.read_wrap t, fun s => shape.accepts_parts t.toList s.toList⟩
  refine ⟨fun shape column => ⟨_, ?_, hpattern shape⟩, fun columns => ⟨_, ?_, hpattern .contains⟩⟩
  · exact d.param_pattern shape column param term caseSensitive
  · exact d.param_freeText param term caseSensitive columns

/-- Wildcards and a last `\` of a term are found as they stand, and stand for nothing else. -/
example :
    let parts := Shape.contains.parts "50%_\\".toList
    PatternPart.read "%50\\%\\_\\\\%".toList = some parts ∧
      PatternPart.accepts parts "a 50%_\\ b".toList = true ∧ PatternPart.accepts parts "a 50 %\\ b".toList = false := by
  decide

end SqlFilter
