import IntrusionDetection.InsertionDict
import IntrusionDetection.PyText
import Mathlib.Algebra.Order.Ring.Rat

namespace IntrusionDetection

open PyText

/-!
# Objects of unknown type

Settings files and the free-form fields of an event hold objects of any
built-in type.  A dictionary keeps its items in their order.
-/

/-- A float. -/
inductive PyFloat where
  | finite (value : ℚ)
  | infinite (negative : Bool)
  | nan
  deriving DecidableEq

/-- A key of a dictionary; equal keys that are no texts share an identity. -/
inductive PyKey where
  | text (name : Str)
  | other (identity : Nat) (description : Str)
  deriving DecidableEq

/-- An object of a built-in type. -/
inductive PyObject where
  | none
  | bool (value : Bool)
  | int (value : Int)
  | float (value : PyFloat)
  | str (value : Str)
  | list (items : List PyObject)
  | tuple (items : List PyObject)
  | dict (items : List (PyKey × PyObject))
  -- Bytes, a date, a set or any other object.
  | other (identity : Nat) (truthy : Bool)

/-- The items of a dictionary. -/
abbrev PyDict := List (PyKey × PyObject)

namespace PyDict

/-- `dict.get`. -/
def get? (dict : PyDict) (key : PyKey) : Option PyObject :=
  InsertionDict.get? dict key

/-- `dict[key] = value`. -/
def setItem (dict : PyDict) (key : PyKey) (value : PyObject) : PyDict :=
  InsertionDict.setItem dict key value

/-- A value that was stored is the one that is found. -/
theorem get?_setItem
    (dict : PyDict)
    (key wanted : PyKey)
    (value : PyObject) :
    (dict.setItem key value).get? wanted =
      if key = wanted then some value else dict.get? wanted :=
  InsertionDict.get?_setItem dict key wanted value

end PyDict

/-- `bool(value)`. -/
def PyObject.truthy : PyObject → Bool
  | .none => false
  | .bool value => value
  | .int value => value ≠ 0
  | .float value => value ≠ .finite 0
  | .str text => text ≠ []
  | .list items => !items.isEmpty
  | .tuple items => !items.isEmpty
  | .dict items => !items.isEmpty
  | .other _ truthy => truthy

end IntrusionDetection
