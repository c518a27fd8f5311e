import CardServer.Log.Directive
import CardServer.Log.Line

/-! # Log filters

A filter is a list of directives, written with commas between them.  Of the directives for what is said
in a target the most specific one rules, that is the one with the longest target, and of those with
targets of one length one that asks for a field, and of equal ones the last.  What is said inside a span
also passes if a directive for such spans lets it.

* `Filter.ruling?_appliesTo`   the ruling directive of a target is one for that target
-/

namespace CardServer.Log

/-- A list of directives. -/
structure Filter where
  directives : List Directive
  deriving DecidableEq, Repr

namespace Filter

/-! ## What passes -/

/-- Whether a directive is less specific than another. -/
def isVaguer (first second : Directive) : Bool :=
  first.target.length < second.target.length ||
    (first.target.length = second.target.length && match first.field, second.field with
      | none, some _ => true
      | some test, some other => test.name < other.name
      | _, none => false)

/-- The more specific of two directives, the second one if they are equally specific. -/
def moreSpecific (first second : Directive) : Directive :=
  if isVaguer second first then first else second

/-- The most specific directive for what is said in a target; `hasField` tells which fields that
    has. -/
def ruling? (filter : Filter) (target : String) (hasField : String → Bool) : Option Directive :=
  match filter.directives.filter (·.appliesTo target hasField) with
  | [] => none
  | first :: rest => some (rest.foldl moreSpecific first)

/-- Whether a filter lets what is said in a target at a level pass wherever it is said. -/
def enables (filter : Filter) (target : String) (hasField : String → Bool) (level : Level) : Bool :=
  (filter.ruling? target hasField).any (·.admits level)

/-- The directives that are for spans like this one. -/
def covering (filter : Filter) (span : Span) : List Directive :=
  filter.directives.filter (·.covers span)

/-- Whether a filter lets what is said at a level pass because it is said inside a span. -/
def enablesWithin (filter : Filter) (span : Span) (level : Level) : Bool :=
  (filter.covering span).any fun directive => directive.matchesValue span && directive.admits level

/-- Whether a filter lets the event of a line pass. -/
def admits (filter : Filter) (line : Line) : Bool :=
  line.span.any (filter.enablesWithin · line.event.level) ||
    filter.enables line.event.target line.event.hasField line.event.level

/-- Whether a filter lets a span be shown; no field is asked of it. -/
def shows (filter : Filter) (span : Span) : Bool :=
  !(filter.covering span).isEmpty || filter.enables Span.target (fun _ => true) Span.level

/-- A line as a filter leaves it: a span that does not pass is not shown. -/
def trim (filter : Filter) (line : Line) : Line := { line with span := line.span.filter filter.shows }

/-- The lines that pass a filter. -/
def select (filter : Filter) (lines : List Line) : List Line :=
  (lines.filter filter.admits).map filter.trim

private theorem foldl_moreSpecific_mem (first : Directive) (rest : List Directive) :
    rest.foldl moreSpecific first ∈ first :: rest := by
  induction rest generalizing first with
  | nil => simp
  | cons second rest ih =>
    have h := ih (moreSpecific first second)
    simp only [List.foldl_cons, List.mem_cons] at h ⊢
    rcases h with h | h
    · rw [h, moreSpecific]
      split <;> simp
    · exact .inr (.inr h)

private theorem ruling?_eq_some {filter : Filter} {target : String} {hasField : String → Bool}
    {directive : Directive} (h : filter.ruling? target hasField = some directive) :
    ∃ first rest, filter.directives.filter (·.appliesTo target hasField) = first :: rest ∧
      directive = rest.foldl moreSpecific first := by
  unfold ruling? at h
  split at h
  · nomatch h
  · next first rest hlist => exact ⟨first, rest, hlist, (Option.some.inj h).symm⟩

/-- The ruling directive of a target is one of the filter's directives for that target. -/
theorem ruling?_appliesTo {filter : Filter} {target : String} {hasField : String → Bool}
    {directive : Directive} (h : filter.ruling? target hasField = some directive) :
    directive ∈ filter.directives ∧ directive.appliesTo target hasField := by
  obtain ⟨first, rest, hlist, rfl⟩ := ruling?_eq_some h
  have hmem := foldl_moreSpecific_mem first rest
  rw [← hlist] at hmem
  simpa using hmem

theorem select_append (filter : Filter) (lines more : List Line) :
    filter.select (lines ++ more) = filter.select lines ++ filter.select more := by
  simp only [select, List.filter_append, List.map_append]

/-- A span that is shown on a line is one in which something was said. -/
theorem span_of_mem_select {filter : Filter} {lines : List Line} {line : Line}
    (h : line ∈ filter.select lines) {span : Span} (hspan : line.span = some span) :
    ∃ said ∈ lines, said.span = some span := by
  obtain ⟨said, hsaid, rfl⟩ := List.mem_map.1 h
  exact ⟨said, (List.mem_filter.1 hsaid).1, (Option.filter_eq_some_iff.1 hspan).1⟩

/-! ## Reading -/

/-- The filter that lets the gravest events of every target pass. -/
def errorsOnly : Filter := ⟨[{ target := "", verbosity := Level.error.verbosity }]⟩

/-- The filter of some directives; without any it lets only the gravest events pass. -/
def ofDirectives (directives : List Directive) : Filter :=
  if directives.isEmpty then errorsOnly else ⟨directives⟩

/-- The parts of a text between its commas, without the empty ones. -/
def parts (text : String) : List String :=
  ((text.toList.splitOn ',').map String.ofList).filter (!·.isEmpty)

/-- Reads a filter; every part of the text must be a directive. -/
def ofText? (text : String) : Option Filter :=
  ((parts text).mapM fun part => (Directive.ofChars part.toList).toOption).map ofDirectives

/-- Reads a filter from the parts of a text that are directives, and says of every other part why it
    is passed over. -/
def ofTextLossy (text : String) : Filter × List String :=
  let read := (parts text).map fun part => (part, Directive.ofChars part.toList)
  (ofDirectives (read.filterMap (·.2.toOption)),
    read.filterMap fun (part, result) =>
      match result with
      | .ok _ => none
      | .error fault => some ("ignoring `" ++ part ++ "`: " ++ fault.message))

/-- The filter of an overriding text, if there is one that is a filter, or else of a text of which
    every part that is no directive is complained about. -/
def choose (overriding : Option String) (text : String) : Filter × List String :=
  match overriding.bind ofText? with
  | some filter => (filter, [])
  | none => ofTextLossy text

end Filter

end CardServer.Log
