import BeanHarvest.Bean
import BeanHarvest.Json.Value

/-! Requests of the Jolokia protocol. A path of a list request has two elements, the domain and the
properties of a bean; `!` makes the next character of an element literal. -/
namespace BeanHarvest.Jolokia

inductive Request where
  | search (pattern : String)
  | list (path : String)
  | read (bean name : String)
  | version
deriving DecidableEq, Repr, Inhabited

def escapeChar (c : Char) : List Char :=
  if c = '!' then ['!', '!'] else if c = '/' then ['!', '/'] else [c]

def escape (element : String) : String := String.ofList (element.toList.flatMap escapeChar)

def consFirst (c : Char) : List (List Char) → List (List Char)
  | [] => [[c]]
  | first :: others => (c :: first) :: others

/-- The elements of a path, between the slashes that are not made literal. -/
def elements : List Char → List (List Char)
  | [] => [[]]
  | '/' :: rest => [] :: elements rest
  | '!' :: c :: rest => consFirst c (elements rest)
  | c :: rest => consFirst c (elements rest)

/-- The text behind the first colon of a bean's name. -/
def properties (bean : Bean) : String :=
  match Text.cut? (· = ':') bean.name.toList with
  | some (_, properties) => String.ofList properties
  | none => ""

def listPath (bean : Bean) : String := escape bean.domain ++ "/" ++ escape (properties bean)

namespace Request

def toJson : Request → Json
  | search pattern => .object [("type", .string "search"), ("mbean", .string pattern)]
  | list path => .object [("type", .string "list"), ("path", .string path)]
  | read bean name =>
    .object [("type", .string "read"), ("mbean", .string bean), ("attribute", .string name)]
  | version => .object [("type", .string "version")]

end Request
end BeanHarvest.Jolokia
