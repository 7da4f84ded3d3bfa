import SqlFilter.Document.Basic
import SqlFilter.Text.Quoted
import SqlFilter.Value.Basic

/-!
# Displaying values

A value has a compact text and a form as a document.  Numbers stand for themselves, text and everything that has a text
form of its own is quoted, and a number that is not finite becomes null.
-/

namespace SqlFilter

/-- The text of one value of a type. -/
def ValueType.display : (t : ValueType) → t.Carrier → String
  | .bool, b => if b then "true" else "false"
  | .int16, n => Text.integer n.toInt
  | .int32, n => Text.integer n.toInt
  | .int64, n => Text.integer n.toInt
  | .single, x => (x.text? .single).getD "null"
  | .double, x => (x.text? .double).getD "null"
  | .decimal, d => Text.quote d.text
  | .text, s => Text.quote s
  | .date, d => Text.quote d.text
  | .timestamp, t => Text.quote t.text
  | .instant, t => Text.quote t.textUtc
  | .uuid, u => Text.quote u.text

/-- One value of a type as a document; a number of 32 bits is widened. -/
def ValueType.toDocument : (t : ValueType) → t.Carrier → Document
  | .bool, b => .bool b
  | .int16, n => .integer n.toInt
  | .int32, n => .integer n.toInt
  | .int64, n => .integer n.toInt
  | .single, x => if x.isFinite then .real x.convert else .null
  | .double, x => if x.isFinite then .real x else .null
  | .decimal, d => .text d.text
  | .text, s => .text s
  | .date, d => .text d.text
  | .timestamp, t => .text t.text
  | .instant, t => .text t.textUtc
  | .uuid, u => .text u.text

namespace Value

/-- The compact text of a value: an array is written in brackets. -/
def display : Value → String
  | scalar t x => t.display x
  | array t xs => "[" ++ ",".intercalate (xs.map t.display) ++ "]"

def toDocument : Value → Document
  | scalar t x => t.toDocument x
  | array t xs => .list (xs.map t.toDocument)

end Value

end SqlFilter
