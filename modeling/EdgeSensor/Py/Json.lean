import EdgeSensor.Lib.Dict

/-!
# Parsed JSON

The values `json.loads` returns. An object is an insertion-ordered dictionary with
string keys; a float is kept as the text Python prints for it, which is all the
code ever asks of one.
-/

namespace EdgeSensor.Py

open EdgeSensor.Lib

/-- A parsed JSON value. -/
inductive Json where
  | null
  | bool (b : Bool)
  | int (n : Int)
  | float (text : String)
  | str (s : String)
  | arr (xs : List Json)
  | obj (fields : List (String × Json))

/-- A JSON object as the code handles it, a `dict`. -/
abbrev Obj := Dict String Json

namespace Json

/-- `bool(x)`. -/
def truthy : Json → Bool
  | .null => false
  | .bool b => b
  | .int n => n ≠ 0
  | .float text => text ≠ "0.0" && text ≠ "-0.0"
  | .str s => s ≠ ""
  | .arr xs => !xs.isEmpty
  | .obj fields => !fields.isEmpty

/-- `str(x)`, with Python's notation for lists and dicts as a parameter. -/
def toStr (repr : Json → String) : Json → String
  | .null => "None"
  | .bool true => "True"
  | .bool false => "False"
  | .int n => toString n
  | .float text => text
  | .str s => s
  | .arr xs => repr (.arr xs)
  | .obj fields => repr (.obj fields)

/-- `str(x or default)`. -/
def toStrOr (repr : Json → String) (default : String) (x : Json) : String :=
  if x.truthy then x.toStr repr else default

/-- `type(x).__name__`. -/
def typeName : Json → String
  | .null => "NoneType"
  | .bool _ => "bool"
  | .int _ => "int"
  | .float _ => "float"
  | .str _ => "str"
  | .arr _ => "list"
  | .obj _ => "dict"

/-- `x is None`. -/
def isNull : Json → Bool
  | .null => true
  | _ => false

theorem isNull_iff {x : Json} : x.isNull = true ↔ x = .null := by
  cases x <;> simp [isNull]

/-- The fields of an object; `none` for any other value. -/
def fields? : Json → Option Obj
  | .obj fields => some fields
  | _ => none

theorem fields?_eq_some {x : Json} {o : Obj} : x.fields? = some o ↔ x = .obj o := by
  cases x <;> simp [fields?]

end Json

/-- `o.get(key)`: `None` where there is no such key. -/
def Obj.get (o : Obj) (key : String) : Json := (Dict.get? o key).getD .null

theorem Obj.get_set_ne (o : Obj) {key key' : String} (v : Json) (hne : key ≠ key') :
    Obj.get (Dict.set o key v) key' = Obj.get o key' := by
  rw [Obj.get, Dict.get?_set_ne o v hne, Obj.get]

end EdgeSensor.Py
