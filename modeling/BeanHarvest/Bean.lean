import BeanHarvest.Text.Cut

/-! Beans: the management objects that a target exposes. A bean's name is a domain, a colon and
`key=value` pairs between commas; a value in double quotes may hold any of the separators. -/
namespace BeanHarvest

/-- A bean, by its name. The name is kept as it was written: it is what filters match and what
requests address. -/
structure Bean where
  domain : String
  parameters : List (String × String)
  name : String
deriving DecidableEq, Repr, Inhabited

namespace Bean

/-- The value of the first parameter under `key`. -/
def get? (bean : Bean) (key : String) : Option String :=
  (bean.parameters.find? (·.1 = key)).map (·.2)

def consFirst (c : Char) : List (List Char) → List (List Char)
  | [] => [[c]]
  | first :: others => (c :: first) :: others

/-- The parts between separators that stand outside double quotes. Inside quotes a backslash makes
the next character literal. -/
def splitUnquoted (sep : Char) (quoted escaped : Bool) : List Char → List (List Char)
  | [] => [[]]
  | c :: rest =>
    if escaped then consFirst c (splitUnquoted sep quoted false rest)
    else if c = '\\' && quoted then consFirst c (splitUnquoted sep quoted true rest)
    else if c = '"' then consFirst c (splitUnquoted sep (!quoted) false rest)
    else if c = sep && !quoted then [] :: splitUnquoted sep quoted false rest
    else consFirst c (splitUnquoted sep quoted false rest)

/-- The parts around the first separator that stands outside double quotes. -/
def cutUnquoted? (sep : Char) (quoted : Bool) : List Char → Option (List Char × List Char)
  | [] => none
  | c :: rest =>
    let keep := fun (before, after) => (c :: before, after)
    if c = '"' then (cutUnquoted? sep (!quoted) rest).map keep
    else if c = sep && !quoted then some ([], rest)
    else (cutUnquoted? sep quoted rest).map keep

/-- Read one `key=value`. Blanks around the key do not count; a key that is empty or a pattern, and
an empty value, are refused. -/
def parameter? (text : List Char) : Option (String × String) := do
  let (before, value) ← cutUnquoted? '=' false text
  let key := Text.trim before
  if key.isEmpty || value.isEmpty || key.contains '*' then none
  else some (String.ofList key, String.ofList value)

def parse? (name : String) : Option Bean := do
  let (domain, properties) ← Text.cut? (· = ':') name.toList
  if domain.isEmpty || properties.isEmpty then none
  else
    let parameters ← (splitUnquoted ',' false false properties).mapM parameter?
    some ⟨String.ofList domain, parameters, name⟩

end Bean
end BeanHarvest
