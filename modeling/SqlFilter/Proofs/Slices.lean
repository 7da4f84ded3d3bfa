import Mathlib.Data.String.Basic
import SqlFilter.Text.Slice

/-!
# Characters and their bytes

The bytes of a text are those of its characters one after the other, so a text can be sliced at a byte if and only if
the bytes before it are those of some characters at the front of the text (`Text.isBoundary_iff`).  A byte below 128 is
never a part of a longer character: where it stands, a character of its own starts
(`Text.exists_split_of_ascii`).
-/

namespace SqlFilter

namespace Text

/-- The bytes of characters. -/
def encode (l : List Char) : List UInt8 := l.flatMap String.utf8EncodeChar

variable {s t : String} {i : Nat} {b : UInt8} {c : Char} {a l r w : List Char}

theorem encode_nil : encode [] = [] := rfl

theorem encode_cons (c : Char) (l : List Char) : encode (c :: l) = String.utf8EncodeChar c ++ encode l :=
  List.flatMap_cons

theorem encode_append (a l : List Char) : encode (a ++ l) = encode a ++ encode l := List.flatMap_append

theorem length_encode (l : List Char) : (encode l).length = String.utf8Len l := by
  induction l with
  | nil => rfl
  | cons c l ih =>
    rw [encode_cons, List.length_append, String.length_utf8EncodeChar, ih, String.utf8Len_cons, Nat.add_comm]

theorem length_encode_append (a l : List Char) :
    (encode (a ++ l)).length = (encode a).length + (encode l).length := by
  rw [encode_append, List.length_append]

theorem encode_ne_nil (h : l ≠ []) : 0 < (encode l).length := by
  rw [length_encode, Nat.pos_iff_ne_zero]
  exact fun hlen => h (String.utf8Len_eq_zero.1 hlen)

theorem bytes_eq (s : String) : bytes s = encode s.toList := by
  conv_lhs => rw [← String.ofList_toList (s := s)]
  rw [bytes, String.toUTF8_eq_toByteArray, String.toByteArray_ofList]
  exact List.toList_data_toByteArray

theorem length_bytes (s : String) : (bytes s).length = s.utf8ByteSize := by
  rw [bytes_eq, length_encode, String.utf8Len_toList]

/-! ### Bytes of one character -/

theorem utf8EncodeChar_ofUInt8 (hb : b.toNat < 128) : String.utf8EncodeChar (Char.ofUInt8 b) = [b] := by
  have hval : (Char.ofUInt8 b).val.toNat = b.toNat := rfl
  rw [String.utf8EncodeChar]
  simp only [hval]
  rw [if_pos (by omega), UInt8.ofNat_toNat]

/-- A character that takes several bytes has no byte below 128. -/
theorem eq_ofUInt8_of_mem (hb : b.toNat < 128) (h : b ∈ String.utf8EncodeChar c) : c = Char.ofUInt8 b := by
  have hhigh : ∀ n m k, 0 < m → 128 ≤ k → m + k ≤ 256 → b ≠ UInt8.ofNat (n % m + k) := by
    rintro n m k hm hk hmk rfl
    have := Nat.mod_lt n hm
    rw [UInt8.toNat_ofNat', Nat.mod_eq_of_lt (by omega)] at hb
    omega
  unfold String.utf8EncodeChar at h
  simp only at h
  split at h
  · rename_i hc
    rw [List.mem_singleton] at h
    apply Char.ext
    apply UInt32.toNat_inj.1
    rw [h]
    show c.val.toNat = c.val.toNat % 256
    omega
  · -- all bytes of the longer forms are a remainder and at least 128
    exfalso
    split at h
    · simp only [List.mem_cons, List.not_mem_nil, or_false] at h
      rcases h with h | h <;> exact hhigh _ _ _ (by decide) (by decide) (by decide) h
    · split at h <;> simp only [List.mem_cons, List.not_mem_nil, or_false] at h
      · rcases h with h | h | h <;> exact hhigh _ _ _ (by decide) (by decide) (by decide) h
      · rcases h with h | h | h | h <;> exact hhigh _ _ _ (by decide) (by decide) (by decide) h

/-- Where a byte below 128 stands, a character of its own starts. -/
theorem exists_split_of_ascii (hb : b.toNat < 128) (h : (encode l)[i]? = some b) :
    ∃ a r, l = a ++ Char.ofUInt8 b :: r ∧ i = (encode a).length := by
  induction l generalizing i with
  | nil => cases h
  | cons c l ih =>
    rw [encode_cons] at h
    by_cases hi : i < (String.utf8EncodeChar c).length
    · rw [List.getElem?_append_left hi] at h
      obtain rfl := eq_ofUInt8_of_mem hb (List.mem_of_getElem? h)
      rw [utf8EncodeChar_ofUInt8 hb, List.length_singleton] at hi
      exact ⟨[], l, rfl, by rw [encode_nil, List.length_nil]; omega⟩
    · rw [List.getElem?_append_right (Nat.le_of_not_lt hi)] at h
      obtain ⟨a, r, rfl, ha⟩ := ih h
      refine ⟨c :: a, r, rfl, ?_⟩
      rw [encode_cons, List.length_append]
      omega

/-! ### Boundaries -/

theorem isBoundary_iff : IsBoundary s i ↔ ∃ a l, s.toList = a ++ l ∧ i = (encode a).length := by
  have hsize : ∀ t : String, t.rawEndPos = ⟨(encode t.toList).length⟩ := by
    intro t
    rw [← bytes_eq, length_bytes]
    rfl
  rw [IsBoundary, String.Pos.Raw.isValid_iff_exists_append]
  constructor
  · rintro ⟨t, u, rfl, hi⟩
    refine ⟨t.toList, u.toList, String.toList_append, ?_⟩
    rw [hsize] at hi
    exact congrArg String.Pos.Raw.byteIdx hi
  · rintro ⟨a, l, hs, rfl⟩
    refine ⟨String.ofList a, String.ofList l, ?_, ?_⟩
    · rw [← String.ofList_append, ← hs, String.ofList_toList]
    · rw [hsize, String.toList_ofList]

/-- A boundary is not beyond the end. -/
theorem IsBoundary.le (h : IsBoundary s i) : i ≤ s.utf8ByteSize := by
  obtain ⟨a, l, hs, rfl⟩ := isBoundary_iff.1 h
  rw [← length_bytes, bytes_eq, hs, length_encode_append]
  omega

/-! ### Slices -/

/-- The slice between two boundaries has the characters between them. -/
theorem slice?_of_split (h : s.toList = a ++ w ++ r) :
    slice? s (encode a).length (encode (a ++ w)).length = some (String.ofList w) := by
  have hle : (encode a).length ≤ (encode (a ++ w)).length := by
    rw [length_encode_append]
    omega
  have hstart : IsBoundary s (encode a).length := isBoundary_iff.2 ⟨a, w ++ r, by rw [h, List.append_assoc], rfl⟩
  have hstop : IsBoundary s (encode (a ++ w)).length := isBoundary_iff.2 ⟨a ++ w, r, h, rfl⟩
  rw [slice?, if_pos ⟨hle, hstart, hstop⟩, length_encode_append, length_encode, length_encode,
    ← String.ofList_toList (s := s), h, String.extract_of_valid]

theorem boundary_of_slice? {j : Nat} (h : slice? s i j = some t) : i ≤ j ∧ IsBoundary s i ∧ IsBoundary s j := by
  rw [slice?] at h
  split at h
  · assumption
  · cases h

theorem offset?_eq (p : Char → Bool) (l : List Char) :
    offset? p l = if l.all (fun c => !p c) then none else some (encode (l.takeWhile fun c => !p c)).length := by
  induction l with
  | nil => rfl
  | cons c l ih =>
    rw [offset?, List.all_cons, List.takeWhile_cons, ih]
    cases p c with
    | true => rfl
    | false =>
      cases l.all fun c => !p c with
      | true => rfl
      | false =>
        show some _ = some (encode (c :: l.takeWhile fun c => !p c)).length
        rw [encode_cons, List.length_append, String.length_utf8EncodeChar]

end Text

end SqlFilter
