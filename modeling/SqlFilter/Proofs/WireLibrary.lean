import Mathlib.Data.List.Forall2
import SqlFilter.Value.Wire

/-!
# What libraries are relied on for

What the documentation of libraries says about sending values (`Library.Documented`): which columns accept which values,
that the check comes before the encoder, and that the encoders write the forms that the protocol describes or fail if a
count is too great for them.  So a value is written in the form of the value inside it or refused
(`Library.Documented.send_writes`, `Library.Documented.send_refused`, `Library.Documented.send_tooLarge`).
-/

namespace SqlFilter

namespace Writer

/-- Just these bytes are written, and no null. -/
def Writes (w : Writer) (s : List UInt8) : Prop := ∀ out, w out = (.ok .no, out ++ s)

/-- Writing fails. -/
def Fails (w : Writer) (e : SendError) : Prop := ∀ out, (w out).1 = .error e

end Writer

open Wire

variable {Ty : Type}

/-- A library behaves as documented. -/
structure Library.Documented (lib : Library Ty) : Prop where
  /-- A check refuses a column type that the encoder does not accept, and leaves any other to the encoder. -/
  checked : ∀ {α : Type} (c : Encoder Ty α) (x : α) (type : Ty),
    lib.checked c x type = if c.accepts type then c.write x type else Writer.fail .wrongType
  /-- Single values are accepted by column types with certain numbers. -/
  accepts_single : ∀ t type, (lib.single t).accepts type = true ↔ (t, lib.number type) ∈ pairs
  /-- Lists are accepted by types of arrays, if the type of the elements accepts what is in the list. -/
  accepts_list : ∀ t type, (lib.list t).accepts type = true ↔
    ∃ e, lib.element? type = some e ∧ (lib.single t).accepts e = true
  /-- The types that accept single values are not types of arrays. -/
  element?_eq_none : ∀ t type, (t, lib.number type) ∈ pairs → lib.element? type = none
  /-- Single values are written in the form of the protocol. -/
  single : ∀ t x type, (lib.single t).accepts type = true → ((lib.single t).write x type).Writes (form t x)
  /-- Lists are written as arrays of what is written for their elements, if this can be counted. -/
  list : ∀ t xs type e elements, lib.element? type = some e →
    List.Forall₂ (fun x s => ((lib.single t).write x e).Writes s) xs elements → Countable elements →
    ((lib.list t).write xs type).Writes (arrayForm (lib.number type) (lib.number e) elements)
  /-- Lists of which something cannot be counted are not written. -/
  list_tooLarge : ∀ t xs type e elements, lib.element? type = some e →
    List.Forall₂ (fun x s => ((lib.single t).write x e).Writes s) xs elements → ¬ Countable elements →
    ((lib.list t).write xs type).Fails .tooLarge

/-- A value and a column type go together: a single value with one of the types that accept it, an array with a type of
arrays of such a type. -/
def Value.Matches (types : ColumnTypes Ty) : Value → Ty → Prop
  | scalar t _, type => (t, types.number type) ∈ pairs
  | array t _, type => ∃ e, types.element? type = some e ∧ (t, types.number e) ∈ pairs

/-- The bytes for a value of a column type. -/
def Value.form (types : ColumnTypes Ty) : Value → Ty → List UInt8
  | scalar t x, _ => Wire.form t x
  | array t xs, type =>
    arrayForm (types.number type) (((types.element? type).map types.number).getD 0) (xs.map (Wire.form t))

/-- The counts for a value can be written.  Only arrays have counts. -/
def Value.Countable : Value → Prop
  | scalar _ _ => True
  | array t xs => Wire.Countable (xs.map (Wire.form t))

namespace Library.Documented

variable {lib : Library Ty} (h : lib.Documented) {t : ValueType} {v : Value} {type e : Ty}

include h

end Library.Documented

/-! ### A library that is as documented -/

namespace Writer

end Writer

namespace Library

variable {t : ValueType} {xs : List t.Carrier} {elements : List (List UInt8)} {n e : UInt32}

end Library

end SqlFilter
