import CardServer.Settings.Format.Yaml.Document
import CardServer.Settings.Format.Yaml.Token.Lexer

/-! # Settings in indented blocks

Mappings and sequences told by their indentation, with the flow forms in braces and brackets, quoted and
plain scalars, comments, and blocks of text behind a bar or an angle.  A plain scalar is a number, a
truth value or nothing if it looks like one, and a text otherwise.  A file holds one document.

* `read`   the value of a file, or why there is none
-/

namespace CardServer.Settings.Format.Yaml

/-- The one document of a file; an empty file is a mapping without entries. -/
def onlyDocument (nodes : List Node) : Except String Node :=
  match nodes with
  | [] => .ok (.mapping [])
  | [node] => .ok node
  | nodes => .error ("Got " ++ toString nodes.length ++ " YAML documents, expected 1")

/-- Reads a file, or says why it cannot be read. -/
def read (origin : Origin) (text : String) : Except String Value := do
  let (tokens, fault) := Placed.ofText text
  let nodes ← (documents tokens fault).mapError Fault.message
  (← onlyDocument nodes).value origin

end CardServer.Settings.Format.Yaml
