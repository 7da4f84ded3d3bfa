import Mathlib.Data.List.TakeWhile
import SqlFilter.Proofs.Pieces
import SqlFilter.Proofs.Slices
import SqlFilter.Statement.Scanner

/-!
# The scanner passes whole pieces

Literals, names and runs end at the same place among the bytes of a text as among its characters, since marks, quotes
and the characters of names are single bytes that no other character is written with.  So a scanner that stands between
two characters passes exactly the first piece of the characters before it (`Scanner.StandsAt.step_eq_take`), and stands
between two characters again.
-/

namespace SqlFilter

namespace Scanner

open Text (encode)

variable {t w : List UInt8} {b : UInt8} {i : Nat} {name front back l r : List Char}

/-! ### Bytes behind other bytes -/

theorem getElem?_length_append (pre t : List UInt8) : (pre ++ t)[pre.length]? = t.head? := by
  rw [List.getElem?_append_right (Nat.le_refl _), Nat.sub_self, List.head?_eq_getElem?]

/-- A byte below 128 is in front if and only if its character is. -/
theorem head?_encode (hb : b.toNat < 128) : (encode l).head? = some b ↔ l.head? = some (Char.ofUInt8 b) := by
  cases l with
  | nil => simp [Text.encode_nil]
  | cons c l =>
    have hne : String.utf8EncodeChar c ≠ [] := by
      intro hnil
      have := c.utf8Size_pos
      rw [← String.length_utf8EncodeChar, hnil] at this
      exact Nat.lt_irrefl 0 this
    rw [Text.encode_cons, List.head?_append_of_ne_nil _ hne, List.head?_cons, Option.some.injEq]
    constructor
    · intro hhead
      exact Text.eq_ofUInt8_of_mem hb (List.mem_of_head? hhead)
    · rintro rfl
      rw [Text.utf8EncodeChar_ofUInt8 hb]
      rfl

theorem head?_encode_quote : (encode l).head? = some quote ↔ l.head? = some '\'' := head?_encode (by decide)

theorem head?_encode_mark : (encode l).head? = some mark ↔ l.head? = some '@' := head?_encode (by decide)

/-! ### Literals -/

theorem closing_append_cons (pre : List UInt8) (b : UInt8) (t : List UInt8) :
    closing (pre ++ b :: t) pre.length =
      if b = quote then
        if t.head? = some quote then closing (pre ++ b :: t) (pre.length + 2) else pre.length + 1
      else closing (pre ++ b :: t) (pre.length + 1) := by
  obtain ⟨hlt, hget⟩ := List.getElem?_eq_some_iff.1 (getElem?_length_append pre (b :: t))
  have hnext : (pre ++ b :: t)[pre.length + 1]? = t.head? := by
    rw [List.append_cons, ← getElem?_length_append (pre ++ [b]) t, List.length_append, List.length_singleton]
  rw [closing, dif_pos hlt, hget, hnext]

/-- Bytes other than quotes are passed. -/
theorem closing_skip (hw : ∀ b ∈ w, b ≠ quote) (pre t : List UInt8) :
    closing (pre ++ (w ++ t)) pre.length = closing (pre ++ (w ++ t)) (pre.length + w.length) := by
  induction w generalizing pre with
  | nil => rfl
  | cons b w ih =>
    rw [List.forall_mem_cons] at hw
    have hstep := ih hw.2 (pre ++ [b])
    rw [List.append_assoc, List.singleton_append, List.length_append, List.length_singleton] at hstep
    rw [List.cons_append, closing_append_cons, if_neg hw.1, hstep, List.length_cons]
    congr 1
    omega

/-- In the bytes of characters a literal ends where it does among the characters. -/
theorem closing_encode (pre : List UInt8) (r : List Char) :
    closing (pre ++ encode r) pre.length = pre.length + (encode (Piece.splitLiteral r).1).length := by
  have hquote : String.utf8EncodeChar '\'' = [quote] := rfl
  fun_induction Piece.splitLiteral r generalizing pre with
  | case1 =>
    rw [Text.encode_nil, List.append_nil, closing, dif_neg (Nat.lt_irrefl _)]
    rfl
  | case2 r s t hst ih =>
    have hstep := ih (pre ++ [quote, quote])
    rw [hst, List.append_assoc, List.length_append] at hstep
    rw [Text.encode_cons, Text.encode_cons, hquote, List.singleton_append, List.singleton_append, closing_append_cons,
      if_pos rfl, if_pos List.head?_cons, Text.encode_cons, Text.encode_cons, hquote]
    refine hstep.trans ?_
    simp only [List.length_append, List.length_cons, List.length_nil]
    omega
  | case3 r hr =>
    have hhead : (encode r).head? ≠ some quote := by
      intro hhead
      obtain ⟨t, rfl⟩ := List.head?_eq_some_iff.1 (head?_encode_quote.1 hhead)
      exact hr t rfl
    rw [Text.encode_cons, hquote, List.singleton_append, closing_append_cons, if_pos rfl, if_neg hhead]
    rfl
  | case4 c r hdoubled hc s t hst ih =>
    have hw : ∀ b ∈ String.utf8EncodeChar c, b ≠ quote := by
      rintro b hb rfl
      exact hc (Text.eq_ofUInt8_of_mem (by decide) hb)
    have hstep := ih (pre ++ String.utf8EncodeChar c)
    rw [hst, List.append_assoc, List.length_append] at hstep
    rw [Text.encode_cons, closing_skip hw, hstep, Text.encode_cons, List.length_append]
    exact Nat.add_assoc ..

/-- From any opening quote on, whether the scanner comes to it or not, a literal ends where it does among the
characters. -/
theorem literalEnd_of_split {s : String} (h : s.toList = front ++ '\'' :: r) :
    literalEnd (Text.bytes s) (encode front).length =
      (encode (front ++ '\'' :: (Piece.splitLiteral r).1)).length := by
  have hquote : ∀ l, encode ('\'' :: l) = quote :: encode l := fun _ => rfl
  have hclosing := closing_encode (encode front ++ [quote]) r
  rw [List.append_assoc, List.singleton_append, List.length_append, List.length_singleton] at hclosing
  rw [Text.bytes_eq, h, Text.encode_append, hquote, literalEnd, hclosing, Text.length_encode_append, hquote,
    List.length_cons]
  omega

theorem literalEnd_bounds {s : String} (hi : (Text.bytes s)[i]? = some quote) :
    i < literalEnd (Text.bytes s) i ∧ Text.IsBoundary s (literalEnd (Text.bytes s) i) := by
  rw [Text.bytes_eq] at hi
  obtain ⟨front, r, hs, rfl⟩ := Text.exists_split_of_ascii (by decide) hi
  have hend := literalEnd_of_split (r := r) hs
  refine ⟨?_, ?_⟩
  · have := Text.encode_ne_nil (List.cons_ne_nil '\'' (Piece.splitLiteral r).1)
    rw [hend, Text.length_encode_append]
    omega
  · refine Text.isBoundary_iff.2 ⟨_, (Piece.splitLiteral r).2, ?_, hend⟩
    rw [hs, List.append_assoc, List.cons_append, Piece.splitLiteral_append]
    rfl

/-! ### Names -/

theorem toNat_lt_of_isNameChar {c : Char} (h : isNameChar c = true) : c.toNat < 128 := by
  rw [isNameChar, Bool.or_eq_true, decide_eq_true_eq] at h
  rcases h with h | rfl
  · exact toNat_lt_of_isAlphanum h
  · decide

/-- The characters of names are single bytes. -/
theorem isNameByte_of_mem_encode (hname : ∀ c ∈ name, isNameChar c = true) :
    ∀ b ∈ encode name, isNameByte b = true := by
  intro b hb
  obtain ⟨c, hc, hb⟩ := List.mem_flatMap.1 hb
  have hlt := toNat_lt_of_isNameChar (hname c hc)
  have hval : c.toUInt8.toNat = c.toNat := Nat.mod_eq_of_lt (Nat.lt_trans hlt (by decide))
  have hback : Char.ofUInt8 c.toUInt8 = c := by
    apply Char.ext
    apply UInt32.toNat_inj.1
    exact hval
  have hone : String.utf8EncodeChar c = [c.toUInt8] := by
    rw [← Text.utf8EncodeChar_ofUInt8 (by rw [hval]; exact hlt), hback]
  rw [hone, List.mem_singleton] at hb
  rw [hb, isNameByte, hback]
  exact hname c hc

theorem not_isNameByte_head (hr : ∀ c ∈ r.head?, isNameChar c = false) :
    ∀ b ∈ (encode r).head?, isNameByte b = false := by
  intro b hb
  rw [Bool.eq_false_iff]
  intro hname
  have hlt : b.toNat < 128 := toNat_lt_of_isNameChar hname
  have := hr _ ((head?_encode hlt).1 hb)
  rw [isNameByte, this] at hname
  cases hname

/-- A name ends before the first byte that is none of a name. -/
theorem nameEnd_append (hw : ∀ b ∈ w, isNameByte b = true) (ht : ∀ b ∈ t.head?, isNameByte b = false)
    (pre : List UInt8) : nameEnd (pre ++ (w ++ t)) pre.length = pre.length + w.length := by
  induction w generalizing pre with
  | nil =>
    rw [List.nil_append, nameEnd]
    cases t with
    | nil => simp
    | cons b t =>
      have hb : isNameByte b = false := ht b rfl
      simp [hb]
  | cons b w ih =>
    rw [List.forall_mem_cons] at hw
    obtain ⟨hlt, hget⟩ := List.getElem?_eq_some_iff.1 (getElem?_length_append pre (b :: w ++ t))
    have hstep := ih hw.2 (pre ++ [b])
    rw [List.append_assoc, List.singleton_append, List.length_append, List.length_singleton] at hstep
    rw [nameEnd, dif_pos hlt, hget, if_pos hw.1, List.length_cons]
    refine hstep.trans ?_
    omega

/-! ### Runs -/

/-- A character that is written with other bytes in front than a mark or a quote belongs to a run. -/
theorem isRunChar_iff {c : Char} (hb : (encode (c :: l)).head? = some b) :
    Piece.isRunChar c = true ↔ b ≠ mark ∧ b ≠ quote := by
  have hmark : b = mark ↔ c = '@' := by
    have := head?_encode_mark (l := c :: l)
    rwa [hb, Option.some.injEq, List.head?_cons, Option.some.injEq] at this
  have hquote : b = quote ↔ c = '\'' := by
    have := head?_encode_quote (l := c :: l)
    rwa [hb, Option.some.injEq, List.head?_cons, Option.some.injEq] at this
  rw [Piece.isRunChar, Bool.and_eq_true, decide_eq_true_eq, decide_eq_true_eq]
  exact and_congr (not_congr hmark.symm) (not_congr hquote.symm)

theorem nextBoundary?_of_split {s : String} (h : s.toList = front ++ l) :
    nextBoundary? s (encode front).length = some (encode (front ++ l.takeWhile Piece.isRunChar)).length := by
  have hsize : s.utf8ByteSize = (encode (front ++ l)).length := by rw [← Text.length_bytes, Text.bytes_eq, h]
  have hrest : Text.slice? s (encode front).length s.utf8ByteSize = some (String.ofList l) := by
    rw [hsize]
    exact Text.slice?_of_split (by rw [h, List.append_nil])
  have hrun : (fun c => !(decide (c = '@') || decide (c = '\''))) = Piece.isRunChar := by
    funext c
    rw [Piece.isRunChar, Bool.not_or, ← decide_not, ← decide_not]
  rw [nextBoundary?, hrest, Option.map_some, String.toList_ofList, Text.offset?_eq, hrun]
  cases hall : l.all Piece.isRunChar with
  | true =>
    rw [List.takeWhile_eq_self_iff.2 (List.all_eq_true.1 hall), ← hsize]
    rfl
  | false =>
    rw [Text.length_encode_append]
    rfl

theorem isSome_nextBoundary? {s : String} : (nextBoundary? s i).isSome = true ↔ Text.IsBoundary s i := by
  constructor
  · intro h
    rw [nextBoundary?, Option.isSome_map] at h
    obtain ⟨t, ht⟩ := Option.isSome_iff_exists.1 h
    exact (Text.boundary_of_slice? ht).2.1
  · intro h
    obtain ⟨front, l, hs, rfl⟩ := Text.isBoundary_iff.1 h
    rw [nextBoundary?_of_split hs]
    rfl

theorem nextBoundary?_bounds {s : String} {j : Nat} (hb : (Text.bytes s)[i]? = some b) (hmark : b ≠ mark)
    (hquote : b ≠ quote) (hj : nextBoundary? s i = some j) : i < j ∧ Text.IsBoundary s j := by
  obtain ⟨front, l, hs, rfl⟩ := Text.isBoundary_iff.1 (isSome_nextBoundary?.1 (Option.isSome_of_eq_some hj))
  rw [nextBoundary?_of_split hs, Option.some.injEq] at hj
  subst hj
  rw [Text.bytes_eq, hs, Text.encode_append, getElem?_length_append] at hb
  refine ⟨?_, Text.isBoundary_iff.2 ⟨_, l.dropWhile Piece.isRunChar, ?_, rfl⟩⟩
  · cases l with
    | nil => cases hb
    | cons c l =>
      have hc : Piece.isRunChar c = true := (isRunChar_iff hb).2 ⟨hmark, hquote⟩
      have := Text.encode_ne_nil (List.cons_ne_nil c (l.takeWhile Piece.isRunChar))
      rw [List.takeWhile_cons, if_pos hc, Text.length_encode_append]
      omega
  · rw [List.append_assoc, List.takeWhile_append_dropWhile, hs]

/-! ### One step -/

/-- The scanner stands between characters at the front of the text and those at its back. -/
structure StandsAt (st : Statement) (a : Scanner) (front back : List Char) : Prop where
  text : st.sql.toList = front ++ back
  index : a.index = (encode front).length

/-- The scanner behind a piece: a placeholder is replaced, any other piece is copied. -/
def take (params : Params) (a : Scanner) : Piece → Except Stop Scanner
  | .placeholder name => a.replace params (String.ofList name) (a.index + (encode ('@' :: name)).length)
  | p => .ok { a with index := a.index + (encode p.source).length, sql := a.sql ++ String.ofList p.source }

variable {st : Statement} {a : Scanner} {cs : List Char}

theorem StandsAt.getElem? (h : StandsAt st a front back) : (Text.bytes st.sql)[a.index]? = (encode back).head? := by
  rw [Text.bytes_eq, h.text, h.index, Text.encode_append, getElem?_length_append]

/-- What is said of a scanner holds of the byte behind a mark too. -/
theorem StandsAt.behind_mark (h : StandsAt st a front ('@' :: back)) :
    StandsAt st { a with index := a.index + 1 } (front ++ ['@']) back :=
  ⟨by rw [h.text, List.append_cons], by rw [Text.length_encode_append, ← h.index]; rfl⟩

theorem StandsAt.slice? (h : StandsAt st a front (cs ++ back)) :
    Text.slice? st.sql a.index (a.index + (encode cs).length) = some (String.ofList cs) := by
  rw [h.index, ← Text.length_encode_append]
  exact Text.slice?_of_split (by rw [h.text, List.append_assoc])

theorem StandsAt.copy (h : StandsAt st a front (cs ++ back)) :
    a.copy st.sql (a.index + (encode cs).length) =
      .ok { a with index := a.index + (encode cs).length, sql := a.sql ++ String.ofList cs } := by
  rw [Scanner.copy, h.slice?]

theorem StandsAt.nameEnd (h : StandsAt st a front (name ++ back)) (hname : ∀ c ∈ name, isNameChar c = true)
    (hback : ∀ c ∈ back.head?, isNameChar c = false) :
    nameEnd (Text.bytes st.sql) a.index = a.index + (encode name).length := by
  rw [Text.bytes_eq, h.text, h.index, Text.encode_append, Text.encode_append]
  exact nameEnd_append (isNameByte_of_mem_encode hname) (not_isNameByte_head hback) _

theorem step_nil (h : StandsAt st a front []) : step st a = .error .ended := by
  have hbyte := h.getElem?
  rw [Text.encode_nil, List.head?_nil] at hbyte
  rw [step]
  dsimp only
  rw [hbyte]

theorem step_literal (h : StandsAt st a front ('\'' :: r)) :
    step st a = a.take st.params (.literal ('\'' :: (Piece.splitLiteral r).1)) := by
  have hbyte : (Text.bytes st.sql)[a.index]? = some quote := h.getElem?.trans (head?_encode_quote.2 rfl)
  have hend : literalEnd (Text.bytes st.sql) a.index =
      a.index + (encode ('\'' :: (Piece.splitLiteral r).1)).length := by
    rw [h.index, literalEnd_of_split h.text, Text.length_encode_append]
  have hsplit : StandsAt st a front ('\'' :: (Piece.splitLiteral r).1 ++ (Piece.splitLiteral r).2) := by
    rwa [List.cons_append, Piece.splitLiteral_append]
  rw [step]
  dsimp only
  rw [hbyte]
  dsimp only
  rw [if_pos rfl, hend, hsplit.copy]
  rfl

theorem step_doubled (h : StandsAt st a front ('@' :: '@' :: r)) : step st a = a.take st.params .doubled := by
  have hbyte : (Text.bytes st.sql)[a.index]? = some mark := h.getElem?.trans (head?_encode_mark.2 rfl)
  have hnext : (Text.bytes st.sql)[a.index + 1]? = some mark := h.behind_mark.getElem?.trans (head?_encode_mark.2 rfl)
  rw [step]
  dsimp only
  rw [hbyte]
  dsimp only
  rw [if_neg (by decide), if_pos rfl, hnext, if_pos rfl]
  rfl

theorem step_mark (h : StandsAt st a front ('@' :: r)) (hr : ∀ c ∈ r.head?, isNameChar c = false ∧ c ≠ '@') :
    step st a = a.take st.params .mark := by
  have hbyte : (Text.bytes st.sql)[a.index]? = some mark := h.getElem?.trans (head?_encode_mark.2 rfl)
  have hnext : (Text.bytes st.sql)[a.index + 1]? ≠ some mark := by
    intro hmark
    exact (hr '@' (head?_encode_mark.1 (h.behind_mark.getElem?.symm.trans hmark))).2 rfl
  have hend : nameEnd (Text.bytes st.sql) (a.index + 1) = a.index + 1 := by
    refine StandsAt.nameEnd (List.nil_append r ▸ h.behind_mark) ?_ fun c hc => (hr c hc).1
    intro c hc
    cases hc
  rw [step]
  dsimp only
  rw [hbyte]
  dsimp only
  rw [if_neg (by decide), if_pos rfl, if_neg hnext, hend, if_pos rfl]
  rfl

theorem step_placeholder (h : StandsAt st a front ('@' :: (name ++ r))) (hne : name ≠ [])
    (hname : ∀ c ∈ name, isNameChar c = true) (hr : ∀ c ∈ r.head?, isNameChar c = false) :
    step st a = a.take st.params (.placeholder name) := by
  have hbyte : (Text.bytes st.sql)[a.index]? = some mark := h.getElem?.trans (head?_encode_mark.2 rfl)
  have hnext : (Text.bytes st.sql)[a.index + 1]? ≠ some mark := by
    intro hmark
    have hhead := head?_encode_mark.1 (h.behind_mark.getElem?.symm.trans hmark)
    rw [List.head?_append_of_ne_nil _ hne] at hhead
    exact (Piece.ne_of_isNameChar (hname '@' (List.mem_of_head? hhead))).1 rfl
  have hend : nameEnd (Text.bytes st.sql) (a.index + 1) = a.index + 1 + (encode name).length :=
    h.behind_mark.nameEnd hname hr
  have hslice : Text.slice? st.sql (a.index + 1) (a.index + 1 + (encode name).length) = some (String.ofList name) :=
    h.behind_mark.slice?
  have hstop : a.index + 1 + (encode name).length ≠ a.index + 1 := by
    have := Text.encode_ne_nil hne
    omega
  have hlength : a.index + (encode ('@' :: name)).length = a.index + 1 + (encode name).length := by
    rw [Nat.add_assoc, Nat.add_comm 1]
    rfl
  rw [step]
  dsimp only
  rw [hbyte]
  dsimp only
  rw [if_neg (by decide), if_pos rfl, if_neg hnext, hend, if_neg hstop, hslice, take, hlength]

theorem step_run {c : Char} (h : StandsAt st a front (c :: r)) (hc : Piece.isRunChar c = true) :
    step st a = a.take st.params (.run (c :: r.takeWhile Piece.isRunChar)) := by
  have hsplit : StandsAt st a front (c :: r.takeWhile Piece.isRunChar ++ r.dropWhile Piece.isRunChar) := by
    rwa [List.cons_append, List.takeWhile_append_dropWhile]
  have hend : nextBoundary? st.sql a.index = some (a.index + (encode (c :: r.takeWhile Piece.isRunChar)).length) := by
    rw [h.index, nextBoundary?_of_split h.text, List.takeWhile_cons, hc, Text.length_encode_append]
    rfl
  obtain ⟨b, t, hbytes⟩ := List.exists_cons_of_length_pos (Text.encode_ne_nil (List.cons_ne_nil c r))
  have hhead : (encode (c :: r)).head? = some b := by rw [hbytes, List.head?_cons]
  have hbyte : (Text.bytes st.sql)[a.index]? = some b := h.getElem?.trans hhead
  obtain ⟨hmark, hquote⟩ := (isRunChar_iff hhead).1 hc
  rw [step]
  dsimp only
  rw [hbyte]
  dsimp only
  rw [if_neg hquote, if_neg hmark, hend]
  dsimp only
  rw [hsplit.copy]
  rfl

/-- A scanner that stands between two characters passes the first piece of those at the back. -/
theorem StandsAt.step_eq_take {p : Piece} {rest : List Char} (h : StandsAt st a front back)
    (hp : Piece.First back p rest) : step st a = a.take st.params p := by
  cases hp with
  | literal => exact step_literal h
  | doubled => exact step_doubled h
  | mark _ hr => exact step_mark h hr
  | placeholder _ _ hne hname hr => exact step_placeholder h hne hname hr
  | run _ _ hc => exact step_run h hc

end Scanner

end SqlFilter
