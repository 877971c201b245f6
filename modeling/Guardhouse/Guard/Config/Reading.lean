import Guardhouse.Guard.Config
import Guardhouse.Yaml.Document.Reader
import Guardhouse.Yaml.Record

/-!
# Reading the tuning of a guard

A configuration is a YAML mapping of field names to numbers. A field that is not there has its
default, and the result is checked.
-/

namespace Guardhouse
namespace Guard
namespace Config

open Yaml (View)

/-- The configuration that a node writes. -/
def ofYaml (node : Yaml.Node) : View Config := do
  let values ← View.record (Field.all.map Field.name) node
  (Field.all.zip values).foldlM
    (fun c (f, value) => do return f.set c (← View.orDefault View.single (f.get c) value)) {}

/-- Reads and checks a configuration; `origin` says where the text comes from. -/
def parse (origin text : String) : Except Error Config := do
  match (Yaml.Document.read? text).bind (View.ofRoot? ofYaml) with
  | some c =>
    c.check
    return c
  | none => throw (.unparsable origin)

/-- Reads and checks the configuration in a file with given bytes, if it has any. -/
def load (path : String) (bytes : Option ByteArray) : Except Error Config :=
  match bytes.bind String.fromUTF8? with
  | some text => parse path text
  | none => .error (.unreadable path)

end Config
end Guard
end Guardhouse
