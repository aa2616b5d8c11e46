namespace BeanHarvest

abbrev Keyed (α : Type) := List (String × α)

namespace Keyed

/-- The first value under a key. -/
def get? {α : Type} (entries : Keyed α) (key : String) : Option α :=
  (entries.find? (·.1 = key)).map (·.2)

/-- Put a value under a key, in place of the value that is there. -/
def insert {α : Type} (entries : Keyed α) (key : String) (value : α) : Keyed α :=
  match entries with
  | [] => [(key, value)]
  | (k, v) :: rest =>
    if key = k then (key, value) :: rest
    else if key < k then (key, value) :: (k, v) :: rest
    else (k, v) :: insert rest key value

/-- The pairs by key; of several with one key the last stands. -/
def ofList {α : Type} (pairs : List (String × α)) : Keyed α :=
  pairs.foldl (fun entries (key, value) => entries.insert key value) []

def keys {α : Type} (entries : Keyed α) : List String := entries.map (·.1)

end Keyed

/-- The value under a key, in pairs that may repeat it: the first counts. -/
def lookup? {α : Type} (entries : List (String × α)) (key : String) : Option α :=
  Keyed.get? entries key

end BeanHarvest
