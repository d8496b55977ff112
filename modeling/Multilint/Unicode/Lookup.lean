import Multilint.Unicode.Age
import Multilint.Unicode.Boundary
/-!
# Finding sets by name

A set of characters may be named alone, as a property, a general category or a script, or as the
characters for which a property has a value.
-/

namespace Multilint

namespace Unicode

/-- The set of a name. -/
def named? (name : String) : Option CharSet :=
  (property? name).or ((category? name).or (script? name))

/-- The set of the characters for which a property has a value. -/
def valued? (property value : String) : Option CharSet :=
  match loosely property with
  | "gc" | "generalcategory" => category? value
  | "sc" | "script" => script? value
  | "scx" | "scriptextensions" => usedWithScript? value
  | "age" => age? value
  | "gcb" | "graphemeclusterbreak" => namedSet? Boundary.clusterClasses value
  | "wb" | "wordbreak" => namedSet? Boundary.wordClasses value
  | "sb" | "sentencebreak" => namedSet? Boundary.sentenceClasses value
  | _ => none

end Unicode

end Multilint
