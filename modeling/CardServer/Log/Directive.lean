import CardServer.Log.Event
import CardServer.Text.Alphanumeric
import CardServer.Text.Blank
import CardServer.Text.Decimal

/-! # Directives of log filters

A directive lets the events of some targets pass up to some verbosity.  It is written as a verbosity,
which then holds for every target, as a target, which then may say everything, or as both with an equals
sign between them.  Brackets behind the target restrict a directive further: to what is said inside a
span of some name, or to what has a field of some name, perhaps with some value.
-/

namespace CardServer.Log

/-- A field that something has to have, perhaps with a value. -/
structure FieldTest where
  name : String
  value : Option String
  deriving DecidableEq, Repr

/-- What a directive lets pass: what is said in all targets with some beginning, up to some verbosity,
    where nothing passes at verbosity zero. -/
structure Directive where
  /-- The beginning of the targets. -/
  target : String
  verbosity : Nat
  /-- The name of the spans that the directive is for. -/
  span : Option String := none
  /-- A field that is asked for. -/
  field : Option FieldTest := none
  deriving DecidableEq, Repr

namespace Directive

/-- Whether a directive is for spans and for what is said inside them. -/
def isDynamic (directive : Directive) : Bool := directive.span.isSome || directive.field.isSome

/-- Whether a directive is for what is said anywhere: it names no span and asks for no value. -/
def isStatic (directive : Directive) : Bool :=
  directive.span.isNone && directive.field.all (·.value.isNone)

/-- Whether a target begins as a directive says. -/
def reaches (directive : Directive) (target : String) : Bool :=
  directive.target.toList.isPrefixOf target.toList

/-- Whether a directive is for what is said in a target; `hasField` tells which fields that has. -/
def appliesTo (directive : Directive) (target : String) (hasField : String → Bool) : Bool :=
  directive.isStatic && directive.reaches target && directive.field.all (hasField ·.name)

/-- Whether a directive is for spans like this one. -/
def covers (directive : Directive) (span : Span) : Bool :=
  directive.isDynamic && directive.reaches Span.target && directive.span.all (· = Span.name) &&
    directive.field.all fun test => span.fields.any (·.1 = test.name)

/-- Whether a span has the value that a directive asks for. -/
def matchesValue (directive : Directive) (span : Span) : Bool :=
  directive.field.all fun test =>
    test.value.all fun value => span.fields.contains (test.name, value)

/-- Whether a directive lets a level pass. -/
def admits (directive : Directive) (level : Level) : Bool :=
  level.verbosity ≤ directive.verbosity

/-! ## Reading -/

/-- The names of the verbosities, from zero on. -/
def verbosityNames : List String := ["off", "error", "warn", "info", "debug", "trace"]

/-- The greatest verbosity. -/
def everything : Nat := Level.trace.verbosity

/-- The verbosity that a text names in either case or by its number. -/
def verbosityOf? (text : List Char) : Option Nat :=
  ((Text.decimal? text).filter (· ≤ everything)).or
    (verbosityNames.findIdx? fun name => name.toList = text.map Char.toLower)

/-- Why a part of a filter is no directive. -/
inductive Fault where
  | malformed
  | verbosity
  deriving DecidableEq, Repr

/-- The wording of a fault. -/
def Fault.message : Fault → String
  | .malformed => "invalid filter directive"
  | .verbosity =>
    "error parsing level filter: expected one of \"off\", \"error\", \"warn\", \"info\", " ++
      "\"debug\", \"trace\", or a number 0-5"

/-- A text without the blank characters at its ends. -/
def trimmed (text : List Char) : List Char :=
  ((text.dropWhile Text.isBlank).reverse.dropWhile Text.isBlank).reverse

/-- Whether a directive without brackets in front may start with a character. -/
def starts (c : Char) : Bool := Text.isAlphanumeric c || c = '-' || c = ':' || c = '_'

/-- The text of a part of a directive.  How the parts lie is decided on the text without outer blanks,
    but they are cut out of the text as it stands; so a directive with blanks in front of it or behind
    it names no known target or verbosity. -/
def cut (text : List Char) (start stop : Nat) : List Char := (text.take stop).drop start

/-- How many characters stand in front of the first of a class, counted from a place on. -/
def upTo (core : List Char) (start : Nat) (p : Char → Bool) : Nat :=
  start + ((core.drop start).takeWhile (!p ·)).length

/-- The verbosity at the end of a directive; none stands for everything. -/
def finalVerbosity (text : List Char) : Except Fault Nat :=
  if text.isEmpty then .ok everything
  else
    match verbosityOf? text with
    | some verbosity => .ok verbosity
    | none => .error .verbosity

/-- A field with a value if there is an equals sign; a second equals sign ends the value. -/
def fieldTest (text : List Char) : FieldTest :=
  let name := text.takeWhile (· != '=')
  let value := match text.drop name.length with
    | [] => none
    | _ :: rest => some (String.ofList (rest.takeWhile (· != '=')))
  ⟨String.ofList name, value⟩

/-- Reads what stands between brackets from a place on: the name of a span and a field in braces, and
    the place behind the brackets. -/
def brackets (text core : List Char) (start : Nat) :
    Except Fault (Option String × Option FieldTest × Nat) :=
  let stop := upTo core start fun c => c = ']' || c = '{'
  let name := String.ofList (cut text start stop)
  match core[stop]? with
  | some ']' => .ok (some name, none, stop + 1)
  | some _ =>
    let last := upTo core (stop + 1) (· = '}')
    let field := cut text (stop + 1) last
    if field.isEmpty || core[last]? ≠ some '}' || core[last + 1]? ≠ some ']' then .error .malformed
    else .ok (if name.isEmpty then none else some name, some (fieldTest field), last + 2)
  | none => .error .malformed

/-- Reads one directive. -/
def ofChars (text : List Char) : Except Fault Directive := do
  let core := trimmed text
  let stop := upTo core 0 fun c => c = '=' || c = '['
  let target := String.ofList (cut text 0 stop)
  if core.head?.any (fun c => c = '[' || starts c) = false then
    throw .malformed
  match core[stop]? with
  | none =>
    match verbosityOf? text with
    | some verbosity => return { target := "", verbosity }
    | none => return { target := String.ofList text, verbosity := everything }
  | some '=' => return { target, verbosity := ← finalVerbosity (text.drop (stop + 1)) }
  | some _ =>
    let (span, field, stop) ← brackets text core (stop + 1)
    match core[stop]? with
    | none => return { target, verbosity := everything, span, field }
    | some '=' => return { target, verbosity := ← finalVerbosity (text.drop (stop + 1)), span, field }
    | some _ => throw .malformed

end Directive

end CardServer.Log
