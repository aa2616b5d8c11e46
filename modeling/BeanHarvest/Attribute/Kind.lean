namespace BeanHarvest

/-- How an attribute's values are built: single, named, in rows, or in groups of statistics. -/
inductive AttributeKind where
  | simple
  | composite
  | tabular
  | statistics
deriving DecidableEq, Repr, Inhabited

namespace AttributeKind

def simpleTypes : List String :=
  ["long", "int", "short", "byte", "float", "double", "boolean", "java.lang.Long",
    "java.lang.Integer", "java.lang.Short", "java.lang.Byte", "java.lang.Float",
    "java.lang.Double", "java.lang.Boolean", "java.lang.Number", "java.lang.String",
    "java.lang.Object", "java.util.concurrent.atomic.AtomicInteger",
    "java.util.concurrent.atomic.AtomicLong"]

def compositeTypes : List String :=
  ["javax.management.openmbean.CompositeData",
    "javax.management.openmbean.CompositeDataSupport", "java.util.HashMap", "java.util.Map"]

def tabularTypes : List String :=
  ["javax.management.openmbean.TabularData", "javax.management.openmbean.TabularDataSupport"]

/-- The kind of a declared type. Statistics can be told by their values only. -/
def ofType? (type : String) : Option AttributeKind :=
  if simpleTypes.contains type then some simple
  else if compositeTypes.contains type then some composite
  else if tabularTypes.contains type then some tabular
  else none

def text : AttributeKind → String
  | simple => "simple"
  | composite => "composite"
  | tabular => "tabular"
  | statistics => "sub_collection"

end AttributeKind
end BeanHarvest
