import CardServer.Log.Filter
import Mathlib.Data.List.Forall2
import Mathlib.Data.List.Induction

/-! # Filters of plain directives

A directive without brackets speaks of targets and levels alone.  A filter of such directives decides
about a line by the target and the level of its event, and about all spans in the same way, so it
makes of a log a part of it in the same order.  The more such a filter lets pass, the larger the part.

* `isPlain_choose`       a filter without brackets in its text is plain
* `passes_iff`           what passes, by the longest directive that reaches a target
* `select_of_isPlain`    what a plain filter makes of a log
* `Filter.select_mono`   the log of a filter is a part of the log of one that lets more pass
-/

namespace CardServer.Log

/-! ## Directives without brackets -/

namespace Directive

/-- A directive that speaks of targets and levels alone. -/
def IsPlain (directive : Directive) : Prop := directive.span = none ∧ directive.field = none

instance (directive : Directive) : Decidable directive.IsPlain :=
  inferInstanceAs (Decidable (_ ∧ _))

/-- Where the first of a class is found, there is one. -/
theorem holds_at_upTo {core : List Char} {start : Nat} {p : Char → Bool} {c : Char}
    (h : core[upTo core start p]? = some c) : p c := by
  rw [upTo, ← List.getElem?_drop] at h
  generalize core.drop start = rest at h
  induction rest with
  | nil => simp at h
  | cons first rest ih =>
    cases hfirst : p first with
    | true =>
      simp only [List.takeWhile_cons, hfirst, Bool.not_true, Bool.false_eq_true, if_false,
        List.length_nil, List.getElem?_cons_zero, Option.some.injEq] at h
      rw [← h, hfirst]
    | false =>
      simp only [List.takeWhile_cons, hfirst, Bool.not_false, if_true, List.length_cons,
        List.getElem?_cons_succ] at h
      exact ih h

theorem mem_of_mem_trimmed {text : List Char} {c : Char} (h : c ∈ trimmed text) : c ∈ text := by
  rw [trimmed, List.mem_reverse] at h
  have hcut := (List.dropWhile_sublist _).subset h
  rw [List.mem_reverse] at hcut
  exact (List.dropWhile_sublist _).subset hcut

/-- A text without an opening bracket is no directive or a plain one. -/
theorem isPlain_of_ofChars {text : List Char} {directive : Directive} (hbracket : '[' ∉ text)
    (h : ofChars text = .ok directive) : directive.IsPlain := by
  unfold ofChars at h
  simp only [bind, Except.bind, pure, Except.pure] at h
  split at h
  · nomatch h
  · split at h
    · split at h <;> (cases h; exact ⟨rfl, rfl⟩)
    · split at h
      · nomatch h
      · cases h
        exact ⟨rfl, rfl⟩
    · next c hne hc =>
      -- The target ends at an equals sign or at a bracket.
      have hends := holds_at_upTo hc
      have hmem := mem_of_mem_trimmed (List.mem_of_getElem? hc)
      simp only [Bool.or_eq_true, decide_eq_true_eq] at hends
      rcases hends with rfl | rfl
      · exact absurd rfl hne
      · exact absurd hmem hbracket

end Directive

namespace Filter

/-! ## The parts of a text -/

/-- What stands between separators stands in the whole. -/
theorem mem_of_mem_splitOn {separator c : Char} {text piece : List Char}
    (hpiece : piece ∈ text.splitOn separator) (h : c ∈ piece) : c ∈ text := by
  induction text generalizing piece with
  | nil =>
    rw [List.splitOn_nil, List.mem_singleton] at hpiece
    rwa [hpiece] at h
  | cons first rest ih =>
    rw [List.splitOn_cons_eq_if_modifyHead] at hpiece
    split at hpiece
    · rcases List.mem_cons.1 hpiece with rfl | hpiece
      · nomatch h
      · exact List.mem_cons_of_mem _ (ih hpiece h)
    · -- The first character belongs to the first piece of the rest.
      cases hrest : rest.splitOn separator with
      | nil => exact absurd hrest (List.splitOn_ne_nil _ _)
      | cons head tail =>
        rw [hrest] at ih
        rw [hrest, List.modifyHead_cons, List.mem_cons] at hpiece
        rcases hpiece with rfl | hpiece
        · rcases List.mem_cons.1 h with rfl | h
          · exact List.mem_cons_self
          · exact List.mem_cons_of_mem _ (ih List.mem_cons_self h)
        · exact List.mem_cons_of_mem _ (ih (List.mem_cons_of_mem _ hpiece) h)

/-- A text without an opening bracket has none in its parts. -/
theorem bracket_notMem_parts {text : String} (h : '[' ∉ text.toList) :
    ∀ part ∈ parts text, '[' ∉ part.toList := by
  intro part hpart hbracket
  obtain ⟨piece, hpiece, rfl⟩ := List.mem_map.1 (List.mem_filter.1 hpart).1
  rw [String.toList_ofList] at hbracket
  exact h (mem_of_mem_splitOn hpiece hbracket)

/-- What is read from some items is read from one of them each. -/
theorem exists_of_mem_mapM {α β : Type} {read : α → Option β} {items : List α} {results : List β}
    (h : items.mapM read = some results) {result : β} (hmem : result ∈ results) :
    ∃ item ∈ items, read item = some result := by
  induction items generalizing results with
  | nil =>
    simp only [List.mapM_nil, pure, Option.some.injEq] at h
    rw [← h] at hmem
    nomatch hmem
  | cons item rest ih =>
    simp only [List.mapM_cons, bind, pure, Option.bind_eq_some_iff, Option.some.injEq] at h
    obtain ⟨first, hfirst, others, hothers, rfl⟩ := h
    rcases List.mem_cons.1 hmem with rfl | hmem
    · exact ⟨item, by simp, hfirst⟩
    · obtain ⟨found, hfound, hread⟩ := ih hothers hmem
      exact ⟨found, List.mem_cons_of_mem _ hfound, hread⟩

/-! ## Filters without brackets -/

/-- A filter of directives that speak of targets and levels alone. -/
def IsPlain (filter : Filter) : Prop := ∀ directive ∈ filter.directives, directive.IsPlain

instance (filter : Filter) : Decidable filter.IsPlain :=
  inferInstanceAs (Decidable (∀ directive ∈ filter.directives, directive.IsPlain))

theorem isPlain_ofDirectives {directives : List Directive}
    (h : ∀ directive ∈ directives, directive.IsPlain) : (ofDirectives directives).IsPlain := by
  unfold ofDirectives
  split
  · decide
  · exact h

theorem isPlain_of_toOption {part : String} {directive : Directive} (hbracket : '[' ∉ part.toList)
    (h : (Directive.ofChars part.toList).toOption = some directive) : directive.IsPlain := by
  cases hread : Directive.ofChars part.toList with
  | error fault => simp [hread, Except.toOption] at h
  | ok found =>
    simp only [hread, Except.toOption, Option.some.injEq] at h
    exact h ▸ Directive.isPlain_of_ofChars hbracket hread

theorem isPlain_ofText? {text : String} {filter : Filter}
    (hbracket : '[' ∉ text.toList) (h : ofText? text = some filter) : filter.IsPlain := by
  obtain ⟨directives, hread, rfl⟩ := Option.map_eq_some_iff.1 h
  refine isPlain_ofDirectives fun directive hmem => ?_
  obtain ⟨part, hpart, hdirective⟩ := exists_of_mem_mapM hread hmem
  exact isPlain_of_toOption (bracket_notMem_parts hbracket part hpart) hdirective

theorem isPlain_ofTextLossy {text : String} (hbracket : '[' ∉ text.toList) :
    (ofTextLossy text).1.IsPlain := by
  refine isPlain_ofDirectives fun directive hmem => ?_
  obtain ⟨read, hread, hdirective⟩ := List.mem_filterMap.1 hmem
  obtain ⟨part, hpart, rfl⟩ := List.mem_map.1 hread
  exact isPlain_of_toOption (bracket_notMem_parts hbracket part hpart) hdirective

/-- The filter that is chosen is plain if neither text has an opening bracket. -/
theorem isPlain_choose {overriding : Option String} {text : String}
    (hoverriding : ∀ value ∈ overriding, '[' ∉ value.toList) (htext : '[' ∉ text.toList) :
    (choose overriding text).1.IsPlain := by
  unfold choose
  split
  · next filter hfilter =>
    obtain ⟨value, rfl, hread⟩ := Option.bind_eq_some_iff.1 hfilter
    exact isPlain_ofText? (hoverriding value rfl) hread
  · exact isPlain_ofTextLossy htext

/-! ## Which directive rules -/

/-- Of two plain directives the one with the longer target is more specific, and otherwise the second
    one. -/
theorem moreSpecific_of_isPlain {first second : Directive} (h : first.IsPlain)
    (hsecond : second.IsPlain) :
    moreSpecific first second =
      if second.target.length < first.target.length then first else second := by
  simp [moreSpecific, isVaguer, h.2, hsecond.2]

/-- A directive at the end of a filter rules where it reaches, unless a longer one did before. -/
theorem ruling?_concat {directives : List Directive} {last : Directive}
    (h : ∀ directive ∈ directives, directive.IsPlain) (hlast : last.IsPlain) (target : String)
    (hasField : String → Bool) :
    ruling? ⟨directives ++ [last]⟩ target hasField =
      if last.reaches target then
        some (match ruling? ⟨directives⟩ target hasField with
          | none => last
          | some best => if last.target.length < best.target.length then best else last)
      else ruling? ⟨directives⟩ target hasField := by
  have happlies : last.appliesTo target hasField = last.reaches target := by
    simp [Directive.appliesTo, Directive.isStatic, hlast.1, hlast.2]
  cases hreaches : last.reaches target with
  | false => simp [ruling?, List.filter_append, happlies, hreaches]
  | true =>
    cases hfound : directives.filter (·.appliesTo target hasField) with
    | nil => simp [ruling?, List.filter_append, happlies, hreaches, hfound]
    | cons first rest =>
      -- The best one so far is one of them, and so as plain as they are.
      have hbest : (rest.foldl moreSpecific first).IsPlain := by
        have hruling : ruling? ⟨directives⟩ target hasField = some (rest.foldl moreSpecific first) := by
          simp only [ruling?, hfound]
        exact h _ (ruling?_appliesTo hruling).1
      simp [ruling?, List.filter_append, happlies, hreaches, hfound, List.foldl_append,
        moreSpecific_of_isPlain hbest hlast]

/-- A directive rules in a target if it reaches it and no longer one does; of those with targets of one
    length the last one rules. -/
def Rules (directives : List Directive) (target : String) (directive : Directive) : Prop :=
  ∃ before after, directives = before ++ directive :: after ∧ directive.reaches target ∧
    (∀ other ∈ before, other.reaches target →
      other.target.length ≤ directive.target.length) ∧
    ∀ other ∈ after, other.reaches target → other.target.length < directive.target.length

/-- At most one directive of a filter rules in a target. -/
theorem Rules.unique {directives : List Directive} {target : String} {directive other : Directive}
    (h : Rules directives target directive) (hother : Rules directives target other) :
    directive = other := by
  obtain ⟨before, after, rfl, hreaches, hbefore, hafter⟩ := h
  obtain ⟨before', after', hsplit, hreaches', hbefore', hafter'⟩ := hother
  -- If one of them stood in front of the other, it would be no longer and yet longer.
  rcases List.append_eq_append_iff.1 hsplit with ⟨between, rfl, htail⟩ | ⟨between, rfl, htail⟩
  · rcases List.cons_eq_append_iff.1 htail with ⟨rfl, hsame⟩ | ⟨rest, rfl, rfl⟩
    · exact (List.cons.inj hsame).1.symm
    · have hle := hbefore' directive (by simp) hreaches
      have hlt := hafter other (by simp) hreaches'
      omega
  · rcases List.cons_eq_append_iff.1 htail with ⟨rfl, hsame⟩ | ⟨rest, rfl, rfl⟩
    · exact (List.cons.inj hsame).1
    · have hle := hbefore other (by simp) hreaches'
      have hlt := hafter' directive (by simp) hreaches
      omega

/-- No other directive that reaches a target is longer than the one that rules there. -/
theorem Rules.length_le {directives : List Directive} {target : String} {directive : Directive}
    (h : Rules directives target directive) {other : Directive} (hmem : other ∈ directives)
    (hreaches : other.reaches target) : other.target.length ≤ directive.target.length := by
  obtain ⟨before, after, rfl, -, hbefore, hafter⟩ := h
  rcases List.mem_append.1 hmem with hmem | hmem
  · exact hbefore other hmem hreaches
  · rcases List.mem_cons.1 hmem with rfl | hmem
    · exact Nat.le_refl _
    · exact Nat.le_of_lt (hafter other hmem hreaches)

/-- A directive still rules if one is put behind it that is shorter or does not reach the target. -/
theorem Rules.append_singleton {directives : List Directive} {target : String}
    {directive last : Directive} (h : Rules directives target directive)
    (hlast : last.reaches target → last.target.length < directive.target.length) :
    Rules (directives ++ [last]) target directive := by
  obtain ⟨before, after, rfl, hreaches, hbefore, hafter⟩ := h
  refine ⟨before, after ++ [last], by simp, hreaches, hbefore, fun other hmem hother => ?_⟩
  rcases List.mem_append.1 hmem with hmem | hmem
  · exact hafter other hmem hother
  · rw [List.mem_singleton.1 hmem] at hother ⊢
    exact hlast hother

/-- Of plain directives one rules, or none reaches the target. -/
theorem ruling?_cases {directives : List Directive} (h : ∀ directive ∈ directives, directive.IsPlain)
    (target : String) (hasField : String → Bool) :
    (ruling? ⟨directives⟩ target hasField = none ∧
        ∀ directive ∈ directives, ¬ directive.reaches target) ∨
      ∃ directive, ruling? ⟨directives⟩ target hasField = some directive ∧
        Rules directives target directive := by
  -- A directive has to stand against those in front of it, so the last one is taken off.
  induction directives using List.reverseRecOn with
  | nil => exact .inl ⟨rfl, by simp⟩
  | append_singleton directives last ih =>
    have hplain : ∀ directive ∈ directives, directive.IsPlain := fun directive hmem =>
      h directive (List.mem_append_left _ hmem)
    have hcases := ih hplain
    rw [ruling?_concat hplain (h last (by simp))]
    by_cases hreaches : last.reaches target
    · rw [if_pos hreaches]
      rcases hcases with ⟨hnone, hall⟩ | ⟨best, hbest, hrules⟩
      · rw [hnone]
        exact .inr ⟨last, rfl, directives, [], rfl, hreaches,
          fun other hmem hother => absurd hother (hall other hmem), by simp⟩
      · rw [hbest]
        by_cases hlt : last.target.length < best.target.length
        · exact .inr ⟨best, by simp [hlt], hrules.append_singleton fun _ => hlt⟩
        · refine .inr ⟨last, by simp [hlt], directives, [], rfl, hreaches,
            fun other hmem hother => ?_, by simp⟩
          exact Nat.le_trans (hrules.length_le hmem hother) (Nat.le_of_not_lt hlt)
    · rw [if_neg hreaches]
      rcases hcases with ⟨hnone, hall⟩ | ⟨best, hbest, hrules⟩
      · refine .inl ⟨hnone, fun directive hmem => ?_⟩
        rcases List.mem_append.1 hmem with hmem | hmem
        · exact hall directive hmem
        · rw [List.mem_singleton.1 hmem]
          exact hreaches
      · exact .inr ⟨best, hbest, hrules.append_singleton fun h => absurd h hreaches⟩

/-! ## What passes -/

/-- Whether a filter lets what is said in a target at a level pass, whatever fields it has. -/
def passes (filter : Filter) (target : String) (level : Level) : Bool :=
  filter.enables target (fun _ => false) level

variable {filter : Filter}

/-- A plain filter asks for no fields. -/
theorem enables_of_isPlain (h : filter.IsPlain) (target : String) (hasField : String → Bool)
    (level : Level) : filter.enables target hasField level = filter.passes target level := by
  -- Without a field to ask for, all that counts is how the target begins.
  have hsame : filter.directives.filter (·.appliesTo target hasField) =
      filter.directives.filter (·.appliesTo target fun _ => false) := by
    refine List.filter_congr fun directive hmem => ?_
    simp only [Directive.appliesTo, (h directive hmem).2, Option.all_none]
  simp only [passes, enables, ruling?, hsame]

/-- What a plain filter lets pass is decided by the directive with the longest target that reaches. -/
theorem passes_iff (h : filter.IsPlain) (target : String) (level : Level) :
    filter.passes target level ↔
      ∃ directive, Rules filter.directives target directive ∧ directive.admits level := by
  rw [passes, enables]
  rcases ruling?_cases h target fun _ => false with ⟨hnone, hall⟩ | ⟨directive, hsome, hrules⟩
  · rw [hnone]
    constructor
    · intro hpasses
      nomatch hpasses
    · rintro ⟨directive, ⟨before, after, hsplit, hreaches, -⟩, -⟩
      exact absurd hreaches (hall directive (by simp [hsplit]))
  · rw [hsome]
    constructor
    · intro hadmits
      exact ⟨directive, hrules, hadmits⟩
    · rintro ⟨other, hother, hadmits⟩
      rwa [hrules.unique hother]

/-- A plain filter has no directives for spans. -/
theorem covering_of_isPlain (h : filter.IsPlain) (span : Span) : filter.covering span = [] := by
  refine List.filter_eq_nil_iff.2 fun directive hmem => ?_
  simp [Directive.covers, Directive.isDynamic, (h directive hmem).1, (h directive hmem).2]

theorem admits_of_isPlain (h : filter.IsPlain) (line : Line) :
    filter.admits line = filter.passes line.event.target line.event.level := by
  cases hspan : line.span <;>
    simp [admits, enablesWithin, covering_of_isPlain h, enables_of_isPlain h, hspan]

theorem shows_of_isPlain (h : filter.IsPlain) (span : Span) :
    filter.shows span = filter.passes Span.target Span.level := by
  simp [shows, covering_of_isPlain h, enables_of_isPlain h]

/-- A plain filter shows either all spans or none. -/
theorem trim_of_isPlain (h : filter.IsPlain) (line : Line) :
    filter.trim line =
      { line with span := if filter.passes Span.target Span.level then line.span else none } := by
  rw [trim, funext (shows_of_isPlain h)]
  cases filter.passes Span.target Span.level <;> cases line.span <;> rfl

/-- A plain filter keeps the lines whose target and level pass, and of their spans all or none. -/
theorem select_of_isPlain (h : filter.IsPlain) (lines : List Line) :
    filter.select lines =
      (lines.filter fun line => filter.passes line.event.target line.event.level).map fun line =>
        { line with span := if filter.passes Span.target Span.level then line.span else none } := by
  rw [select, funext (admits_of_isPlain h), funext (trim_of_isPlain h)]

end Filter

/-! ## More and less -/

/-- A line as another filter may leave it: the span may be missing. -/
def Line.IsTrimmed (line fuller : Line) : Prop :=
  line.event = fuller.event ∧ (line.span = none ∨ line.span = fuller.span)

/-- The log of a filter is a part, in the same order, of the log of one that lets more pass. -/
theorem Filter.select_mono {filter wider : Filter} (h : filter.IsPlain) (hwider : wider.IsPlain)
    (hmore : ∀ target level, filter.passes target level → wider.passes target level)
    (lines : List Line) :
    List.SublistForall₂ Line.IsTrimmed (filter.select lines) (wider.select lines) := by
  have htrim : ∀ line, Line.IsTrimmed (filter.trim line) (wider.trim line) := by
    intro line
    -- The level of spans at their target is one of the pairs that pass.
    rw [trim_of_isPlain h, trim_of_isPlain hwider]
    cases hshown : filter.passes Span.target Span.level with
    | false => exact ⟨rfl, .inl rfl⟩
    | true =>
      rw [hmore _ _ hshown]
      exact ⟨rfl, .inr rfl⟩
  induction lines with
  | nil => exact .nil
  | cons line rest ih =>
    simp only [select, List.filter_cons] at ih ⊢
    split
    · next hpasses =>
      have hwidely : wider.admits line := by
        rw [admits_of_isPlain hwider]
        rw [admits_of_isPlain h] at hpasses
        exact hmore _ _ hpasses
      rw [if_pos hwidely]
      exact .cons (htrim line) ih
    · split
      · exact .cons_right ih
      · exact ih

end CardServer.Log
