import BeanHarvest.Decimal.Notation
import BeanHarvest.Keyed

namespace BeanHarvest

inductive Json where
  | null
  | bool (value : Bool)
  | number (value : Number)
  | string (value : String)
  | array (items : List Json)
  | object (fields : List (String × Json))

namespace Json

instance : Inhabited Json := ⟨.null⟩

def isObject : Json → Bool
  | .object _ => true
  | _ => false

def isArray : Json → Bool
  | .array _ => true
  | _ => false

def strings (texts : List String) : Json := .array (texts.map .string)

def whole (value : Int) : Json := .number (.whole value)

def optional (text : Option String) : Json := (text.map .string).getD .null

end Json
end BeanHarvest
