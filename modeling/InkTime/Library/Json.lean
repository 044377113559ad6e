import Mathlib.Tactic

/-!
# JSON values as Python reads them

What `json.loads` returns: dictionaries keep the last of equal keys, numbers are integers or doubles, and a text may hold
an unpaired surrogate, which no UTF-8 encoder takes.
-/

namespace Json

/-- A `str`. Nothing is known of one that has an unpaired surrogate. -/
inductive Text where
  | utf8 (value : String)
  | unpaired
  deriving DecidableEq

inductive Double where
  | finite (value : ℚ)
  | infinite (negative : Bool)
  | nan
  deriving DecidableEq

inductive Value where
  | null
  | bool (value : Bool)
  | int (value : Int)
  | float (value : Double)
  | str (value : Text)
  | array (items : List Value)
  | object (fields : List (Text × Value))

namespace Text

def encodable : Text → Bool
  | utf8 _ => true
  | unpaired => false

/-- `first + second` -/
def append : Text → Text → Text
  | utf8 first, utf8 second => utf8 (first ++ second)
  | _, _ => unpaired

/-- `separator.join(texts)` -/
def join (separator : Text) : List Text → Text
  | [] => utf8 ""
  | [text] => text
  | text :: rest => text.append (separator.append (join separator rest))

end Text

namespace Value

mutual

/-- The value can be written as UTF-8. -/
def encodable : Value → Bool
  | .str text => text.encodable
  | .array items => encodableItems items
  | .object fields => encodableFields fields
  | _ => true

def encodableItems : List Value → Bool
  | [] => true
  | item :: rest => encodable item && encodableItems rest

def encodableFields : List (Text × Value) → Bool
  | [] => true
  | field :: rest => field.1.encodable && encodable field.2 && encodableFields rest

end

/-- `bool(value)` -/
def truthy : Value → Bool
  | .null => false
  | .bool value => value
  | .int value => value != 0
  | .float (.finite value) => value != 0
  | .float _ => true
  | .str text => text != .utf8 ""
  | .array items => !items.isEmpty
  | .object fields => !fields.isEmpty

/-- `value or other` -/
def orElse (value other : Value) : Value := if value.truthy then value else other

def isNull : Value → Bool
  | .null => true
  | _ => false

/-- `isinstance(value, dict)` -/
def isObject : Value → Bool
  | .object _ => true
  | _ => false

/-- `math.isinf(value)` of a number -/
def isInfinite : Value → Bool
  | .float (.infinite _) => true
  | _ => false

/-- Lists and dictionaries are not hashable. -/
def hashable : Value → Bool
  | .array _ | .object _ => false
  | _ => true

/-- The value under a key, if there is one. -/
def field (key : String) : Value → Option Value
  | .object fields => (fields.reverse.find? fun field => field.1 == .utf8 key).map Prod.snd
  | _ => none

/-- `value.get(key)` of a dictionary; anything else has no fields. -/
def get (key : String) (value : Value) : Value := (value.field key).getD .null

/-- `value == "text"` -/
def isText (text : String) : Value → Bool
  | .str value => value == .utf8 text
  | _ => false

end Value

end Json
