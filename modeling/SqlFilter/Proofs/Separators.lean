/-!
# Words that separate

A text is cut at the places where a separator stands, from left to right (`Text.split`).  Where the separator is a word
between blanks, texts that are joined by it are got back if none of them has the word among its own (`Text.split_join`).
It is not enough that the separator stands in none of them: the text may end in the word, and the blank of the next
separator would complete it.  So texts are taken by their words, of which some are lacking (`Text.Lacks`).
-/

namespace SqlFilter.Text

/-! ### Cutting at a separator -/

/-- The parts of a text between the places where a separator stands, after a number of characters that are skipped. -/
def parts (sep : List Char) : Nat → List Char → List (List Char)
  | _, [] => [[]]
  | skip + 1, _ :: s => parts sep skip s
  | 0, c :: s =>
    if sep.isPrefixOf (c :: s) then [] :: parts sep (sep.length - 1) s
    else (parts sep 0 s).modifyHead (c :: ·)

/-- A text cut at the places where a separator stands, found from left to right. -/
def split (sep s : String) : List String := (parts sep.toList 0 s.toList).map String.ofList

variable {sep s t : List Char}

private theorem parts_skip (s t : List Char) : parts sep s.length (s ++ t) = parts sep 0 t := by
  induction s with
  | nil => rfl
  | cons c s ih => exact ih

/-- A separator that is in front ends an empty part. -/
theorem parts_separator (h : sep ≠ []) (s : List Char) : parts sep 0 (sep ++ s) = [] :: parts sep 0 s := by
  obtain ⟨c, r, rfl⟩ := List.exists_cons_of_ne_nil h
  have hfront : (c :: r).isPrefixOf (c :: (r ++ s)) = true := List.isPrefixOf_iff_prefix.2 (List.prefix_append ..)
  rw [List.cons_append, parts, if_pos hfront]
  exact congrArg (_ :: ·) (parts_skip r s)

/-! ### Words -/

/-- None of the words is one of the text, where the words of a text are what is between its blanks. -/
def Lacks (words : List (List Char)) (s : List Char) : Prop := ∀ w ∈ s.splitOn ' ', w ∉ words

instance (words : List (List Char)) (s : List Char) : Decidable (Lacks words s) :=
  inferInstanceAs (Decidable (∀ w ∈ s.splitOn ' ', w ∉ words))

variable {words words' : List (List Char)} {w : List Char} {x : Char}

theorem Lacks.mono (h : Lacks words s) (hsub : words' ⊆ words) : Lacks words' s := fun w hw hmem => h w hw (hsub hmem)

/-- The words of texts with a blank between them are those of both. -/
theorem lacks_blank : Lacks words (s ++ ' ' :: t) ↔ Lacks words s ∧ Lacks words t := by
  rw [Lacks, List.splitOn_append_cons_self]
  exact List.forall_mem_append

/-- A text without blanks is its only word, and is none of those that lack one of its characters. -/
theorem lacks_of_mem (hs : ' ' ∉ s) (hx : x ∈ s) (hw : x ∉ words.flatten) : Lacks words s := by
  rw [Lacks, List.splitOn_eq_singleton hs]
  rintro w hmem hwords
  rw [List.mem_singleton.1 hmem] at hwords
  exact hw (List.mem_flatten_of_mem hwords hx)

/-- What is put in front of a text goes to its first word. -/
theorem Lacks.lead (ht : Lacks words t) (hs : ' ' ∉ s) (hx : x ∈ s) (hw : x ∉ words.flatten) :
    Lacks words (s ++ t) := by
  by_cases hblank : ' ' ∈ t
  · obtain ⟨a, b, rfl, ha⟩ := List.eq_append_cons_of_mem hblank
    rw [← List.append_assoc]
    exact lacks_blank.2 ⟨lacks_of_mem (by simp [hs, ha]) (List.mem_append_left _ hx) hw, (lacks_blank.1 ht).2⟩
  · exact lacks_of_mem (by simp [hs, hblank]) (List.mem_append_left _ hx) hw

/-- A character that is put behind a text goes to its last word. -/
theorem Lacks.concat (hs : Lacks words s) (hx : x ≠ ' ') (hw : x ∉ words.flatten) : Lacks words (s ++ [x]) := by
  have hmem : ∀ t : List Char, x ∈ t ++ [x] := fun t => List.mem_append_right t (List.mem_singleton_self x)
  by_cases hblank : ' ' ∈ s
  · obtain ⟨b, a, hreverse, hb⟩ := List.eq_append_cons_of_mem (List.mem_reverse.2 hblank)
    have hlast : s = a.reverse ++ ' ' :: b.reverse := by rw [← List.reverse_reverse s, hreverse]; simp
    subst hlast
    rw [List.append_assoc, List.cons_append]
    exact lacks_blank.2 ⟨(lacks_blank.1 hs).1, lacks_of_mem (by simp [hb, hx.symm]) (hmem _) hw⟩
  · exact lacks_of_mem (by simp [hblank, hx.symm]) (hmem s) hw

/-- The words of texts that are joined by words between blanks are those of all of them. -/
theorem lacks_intercalate {sep : String} {l : List String} (hsep : sep.toList = ' ' :: (t ++ [' ']))
    (ht : Lacks words t) (hl : ∀ s ∈ l, Lacks words s.toList) (hne : l ≠ []) :
    Lacks words (sep.intercalate l).toList := by
  induction l with
  | nil => exact absurd rfl hne
  | cons s l ih =>
    rw [List.forall_mem_cons] at hl
    cases l with
    | nil =>
      rw [String.intercalate_singleton]
      exact hl.1
    | cons r l =>
      have h := lacks_blank.2 ⟨hl.1, lacks_blank.2 ⟨ht, ih hl.2 (by simp)⟩⟩
      rw [String.intercalate_cons_cons, String.toList_append, String.toList_append, hsep]
      simpa using h

/-- A word that the text lacks stands nowhere in it between blanks. -/
theorem Lacks.not_between_blanks (h : Lacks words s) (hw : w ∈ words) (hblank : ' ' ∉ w) :
    ¬ ' ' :: (w ++ [' ']) <:+: s := by
  rintro ⟨a, b, rfl⟩
  have hsplit : a ++ ' ' :: (w ++ [' ']) ++ b = a ++ ' ' :: (w ++ ' ' :: b) := by simp
  rw [hsplit, lacks_blank, lacks_blank] at h
  exact h.2.1 w (by rw [List.splitOn_eq_singleton hblank]; exact List.mem_singleton_self w) hw

/-! ### Joining and cutting -/

/-- The first word of a text stays the first one if the text is followed by a blank or by nothing. -/
private theorem head_splitOn (ht : ∀ c ∈ t.head?, c = ' ') (hw : ' ' ∉ w) {r : List Char}
    (h : s ++ t = w ++ ' ' :: r) : w ∈ s.splitOn ' ' := by
  have hsplit := congrArg (List.splitOn ' ') h
  rw [List.splitOn_append_cons_self_of_not_mem hw] at hsplit
  cases t with
  | nil =>
    rw [List.append_nil] at hsplit
    rw [hsplit]
    exact List.mem_cons_self
  | cons c t =>
    cases ht c rfl
    obtain ⟨v, vs, hs⟩ := List.exists_cons_of_ne_nil (List.splitOn_ne_nil ' ' s)
    rw [List.splitOn_append_cons_self, hs] at hsplit
    rw [hs, (List.cons.inj hsplit).1]
    exact List.mem_cons_self

/-- No separator starts in a text that has the word at its front only, whatever follows it after a blank. -/
private theorem parts_append (hw : ' ' ∉ w) (hs : w ∉ (s.splitOn ' ').tail) (ht : ∀ c ∈ t.head?, c = ' ') :
    parts (' ' :: (w ++ [' '])) 0 (s ++ t) = (parts (' ' :: (w ++ [' '])) 0 t).modifyHead (s ++ ·) := by
  induction s with
  | nil => exact (congrFun List.modifyHead_id _).symm
  | cons c s ih =>
    rw [List.splitOn_cons_eq_if_modifyHead] at hs
    have hnot : (' ' :: (w ++ [' '])).isPrefixOf (c :: (s ++ t)) = false := by
      rw [Bool.eq_false_iff, Ne, List.isPrefixOf_iff_prefix]
      rintro ⟨rest, hrest⟩
      obtain ⟨rfl, htail⟩ := List.cons.inj hrest
      refine hs (head_splitOn ht hw (r := rest) ?_)
      rw [← htail]
      simp
    have htail : w ∉ (s.splitOn ' ').tail := by
      split at hs
      · exact fun hmem => hs (List.mem_of_mem_tail hmem)
      · rwa [List.tail_modifyHead] at hs
    rw [List.cons_append, parts, if_neg (by rw [hnot]; exact Bool.false_ne_true), ih htail, List.modifyHead_modifyHead]
    rfl

/-- Texts that lack a word are got back from their join by the word between blanks. -/
theorem split_join {w : String} {l : List String} (hw : ' ' ∉ w.toList) (hl : ∀ s ∈ l, Lacks [w.toList] s.toList)
    (hne : l ≠ []) : split (" " ++ w ++ " ") ((" " ++ w ++ " ").intercalate l) = l := by
  have hsep : (" " ++ w ++ " ").toList = ' ' :: (w.toList ++ [' ']) := by simp
  have hlacks : ∀ {s : String}, Lacks [w.toList] s.toList → w.toList ∉ (s.toList.splitOn ' ').tail :=
    fun h hmem => h _ (List.mem_of_mem_tail hmem) (List.mem_singleton_self _)
  suffices h : parts (' ' :: (w.toList ++ [' '])) 0 ((" " ++ w ++ " ").intercalate l).toList = l.map String.toList by
    rw [split, hsep, h, List.map_map]
    exact (List.map_congr_left fun s _ => String.ofList_toList).trans (List.map_id l)
  induction l with
  | nil => exact absurd rfl hne
  | cons s l ih =>
    rw [List.forall_mem_cons] at hl
    have hs := hlacks hl.1
    cases l with
    | nil =>
      have h := parts_append (t := []) hw hs (by simp)
      rw [List.append_nil] at h
      rw [String.intercalate_singleton, h]
      simp [parts]
    | cons r l =>
      rw [String.intercalate_cons_cons, String.toList_append, String.toList_append, hsep, List.append_assoc,
        parts_append hw hs (by simp), parts_separator (by simp),
        ih hl.2 (by simp), List.modifyHead_cons, List.append_nil]
      rfl

/-- A word at the front of a part does not separate. -/
example : split " AND " "a = b AND AND > c AND d" = ["a = b", "AND > c", "d"] := by decide

end SqlFilter.Text
