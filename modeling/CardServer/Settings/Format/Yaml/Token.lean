import CardServer.Settings.Format.Yaml.Fault

/-! # Tokens of a file of blocks

Indentation is part of the tokens: a block collection starts and ends with tokens of its own, although
no character stands for them.
-/

namespace CardServer.Settings.Format.Yaml

/-- The marks of the tokens that stand between scalars. -/
inductive Sign where
  | streamEnd
  | version
  | documentStart
  | documentEnd
  | blockSequenceStart
  | blockMappingStart
  | blockEnd
  | blockEntry
  | flowSequenceStart
  | flowSequenceEnd
  | flowMappingStart
  | flowMappingEnd
  | flowEntry
  | key
  | value
  deriving DecidableEq, Repr

/-- A token. -/
inductive Token where
  | sign (sign : Sign)
  | tagDirective (handle start : String)
  | alias (name : String)
  | anchor (name : String)
  | tag (handle suffix : String)
  /-- A scalar; a plain one has neither quotes nor a block of its own. -/
  | scalar (plain : Bool) (text : String)
  deriving DecidableEq, Repr

/-- A token in its place. -/
structure Placed where
  mark : Mark
  token : Token
  deriving DecidableEq, Repr

/-- Whether a token is a certain sign. -/
def Placed.is (placed : Placed) (sign : Sign) : Bool := placed.token = .sign sign

end CardServer.Settings.Format.Yaml
