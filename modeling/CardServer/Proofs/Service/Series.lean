import CardServer.Proofs.Service.Run
import Mathlib.Data.List.Nodup

/-! # The series that are shown

A scrape shows the series that the meter holds a count of once all samples have been folded.  A meter
holds at most one count of each series, and none that is zero: this is so when it is installed, and
every step of a run keeps it.  So the series that are shown are exactly those that have been counted,
each of them once.

* `ProperCounts.bump`       counting once more keeps the counts proper
* `mem_entry_iff`           a series stands with its count, if it has one
* `Meter.mem_series_iff`    a meter shows the series that it has counted
* `isProper_step`           a step keeps the counts of the recorder proper
* `isProper_after`          and so does a run
* `count_after_le`          no series is counted that no exchange counts
-/

namespace CardServer

/-- Whether a list of counts has at most one of each series, and none that is zero. -/
structure ProperCounts (counts : List (Series × Nat)) : Prop where
  nodup : (counts.map (·.1)).Nodup
  positive : ∀ entry ∈ counts, 0 < entry.2

namespace ProperCounts

open Meter (countIn)

variable {counts : List (Series × Nat)} {series other : Series}

theorem nil : ProperCounts [] := ⟨List.nodup_nil, nofun⟩

theorem mem_map_fst_bump :
    other ∈ (Meter.bump series counts).map (·.1) ↔ other = series ∨ other ∈ counts.map (·.1) := by
  induction counts with
  | nil => simp [Meter.bump]
  | cons entry rest ih =>
    obtain ⟨key, n⟩ := entry
    by_cases hkey : key = series
    · subst hkey
      simp [Meter.bump]
    · simp only [Meter.bump, if_neg hkey, List.map_cons, List.mem_cons, ih]
      exact or_left_comm

/-- Counting once more keeps the counts proper. -/
theorem bump (h : ProperCounts counts) : ProperCounts (Meter.bump series counts) := by
  induction counts with
  | nil => exact ⟨List.nodup_singleton series, by simp [Meter.bump]⟩
  | cons entry rest ih =>
    obtain ⟨key, n⟩ := entry
    have hnodup := h.nodup
    have hpositive := h.positive
    simp only [List.map_cons, List.nodup_cons] at hnodup
    simp only [List.forall_mem_cons] at hpositive
    by_cases hkey : key = series
    · -- The entry is raised where it stands.
      subst hkey
      simp only [Meter.bump, if_true]
      refine ⟨by simpa using hnodup, ?_⟩
      simp only [List.forall_mem_cons]
      exact ⟨Nat.succ_pos n, hpositive.2⟩
    · have hrest := ih ⟨hnodup.2, hpositive.2⟩
      simp only [Meter.bump, if_neg hkey]
      constructor
      · rw [List.map_cons, List.nodup_cons, mem_map_fst_bump, not_or]
        exact ⟨⟨hkey, hnodup.1⟩, hrest.nodup⟩
      · simp only [List.forall_mem_cons]
        exact ⟨hpositive.1, hrest.positive⟩

/-- The entries are the series that have been counted, each with its count. -/
theorem mem_entry_iff (h : ProperCounts counts) {n : Nat} :
    (series, n) ∈ counts ↔ countIn series counts = n ∧ n ≠ 0 := by
  unfold countIn
  cases hfound : counts.find? (·.1 = series) with
  | none =>
    refine iff_of_false (fun hmem => ?_) fun hcount => hcount.2 hcount.1.symm
    exact List.find?_eq_none.1 hfound _ hmem (by simp)
  | some entry =>
    have hmem := List.mem_of_find?_eq_some hfound
    have hkey : entry.1 = series := by simpa using List.find?_some hfound
    constructor
    · intro hother
      -- No other entry has this series.
      obtain rfl := List.inj_on_of_nodup_map h.nodup hmem hother hkey
      exact ⟨rfl, Nat.ne_of_gt (h.positive _ hother)⟩
    · rintro ⟨rfl, -⟩
      rw [← hkey]
      exact hmem

/-- The counts are there of the series that have been counted. -/
theorem mem_iff (h : ProperCounts counts) :
    series ∈ counts.map (·.1) ↔ 0 < countIn series counts := by
  rw [List.mem_map]
  constructor
  · rintro ⟨⟨_, n⟩, hmem, rfl⟩
    obtain ⟨hcount, hne⟩ := h.mem_entry_iff.1 hmem
    rw [hcount]
    exact Nat.pos_of_ne_zero hne
  · intro hpos
    exact ⟨(series, _), h.mem_entry_iff.2 ⟨rfl, Nat.ne_of_gt hpos⟩, rfl⟩

end ProperCounts

namespace Meter

/-- The series that a scrape shows: those with a count once all samples have been folded. -/
def series (meter : Meter) : List Series := meter.fold.counts.map (·.1)

variable {meter : Meter}

theorem proper_add (h : ProperCounts meter.counts) (series : Series) :
    ProperCounts (meter.add series).counts := by
  cases series with
  | durations labels => exact h
  | requests labels => exact h.bump
  | generations source => exact h.bump

theorem proper_record (h : ProperCounts meter.counts) (recorded : List Series) :
    ProperCounts (meter.record recorded).counts := by
  induction recorded generalizing meter with
  | nil => exact h
  | cons series rest ih => exact ih (proper_add h series)

theorem proper_fold (h : ProperCounts meter.counts) : ProperCounts meter.fold.counts := by
  obtain ⟨counts, waiting⟩ := meter
  show ProperCounts (waiting.foldr _ counts)
  induction waiting with
  | nil => exact h
  | cons labels waiting ih => exact (ih h).bump

/-- A meter shows each series once. -/
theorem nodup_series (h : ProperCounts meter.counts) : meter.series.Nodup := (proper_fold h).nodup

/-- A meter shows the series that it has counted. -/
theorem mem_series_iff (h : ProperCounts meter.counts) {series : Series} :
    series ∈ meter.series ↔ 0 < meter.count series := by
  -- Nothing waits in a meter that has been folded, so its counts are all there is.
  have hcount : countIn series meter.fold.counts = meter.count series := count_fold meter series
  rw [Meter.series, (proper_fold h).mem_iff, hcount]

end Meter

namespace Recorder

/-- The series that a scrape shows; none are shown while no meter is installed. -/
def series (recorder : Recorder) : List Series := (recorder.meter.map Meter.series).getD []

/-- Whether the counts of the meter, if there is one, are proper. -/
def IsProper (recorder : Recorder) : Prop :=
  ∀ meter, recorder.meter = some meter → ProperCounts meter.counts

variable {recorder : Recorder}

theorem IsProper.install (h : recorder.IsProper) : recorder.install.IsProper := by
  rintro _ ⟨⟩
  cases hmeter : recorder.meter with
  | none => exact .nil
  | some meter => exact h meter hmeter

theorem IsProper.record (h : recorder.IsProper) (recorded : List Series) :
    (recorder.record recorded).IsProper := by
  intro meter hmeter
  obtain ⟨before, hbefore, rfl⟩ := Option.map_eq_some_iff.1 hmeter
  exact Meter.proper_record (h before hbefore) recorded

theorem IsProper.fold (h : recorder.IsProper) : recorder.fold.IsProper := by
  intro meter hmeter
  obtain ⟨before, hbefore, rfl⟩ := Option.map_eq_some_iff.1 hmeter
  exact Meter.proper_fold (h before hbefore)

/-- A scrape shows each series once. -/
theorem nodup_series (h : recorder.IsProper) : recorder.series.Nodup := by
  unfold series
  cases hmeter : recorder.meter with
  | none => exact List.nodup_nil
  | some meter => exact Meter.nodup_series (h meter hmeter)

/-- A scrape shows the series that have been counted. -/
theorem mem_series_iff (h : recorder.IsProper) {series : Series} :
    series ∈ recorder.series ↔ 0 < recorder.count series := by
  unfold Recorder.series count
  cases hmeter : recorder.meter with
  | none => simp
  | some meter => exact Meter.mem_series_iff (h meter hmeter)

end Recorder

namespace Service

variable {recorder : Recorder}

/-- A step keeps the counts proper. -/
theorem isProper_step (h : recorder.IsProper) (step : Step) : (step.after recorder).IsProper := by
  cases step with
  | request fresh request =>
    show (Exchange.recorder _ recorder).IsProper
    unfold Exchange.recorder
    split
    · exact h.fold.record _
    · exact h.record _
  | malformed fault => exact h
  | upkeep => exact h.fold
  | install => exact h.install

/-- A run keeps the counts proper. -/
theorem isProper_after (h : recorder.IsProper) (steps : List Step) :
    (after recorder steps).IsProper := by
  induction steps generalizing recorder with
  | nil => exact h
  | cons step rest ih => exact ih (isProper_step h step)

/-- A step counts no more than its exchange counts, and nothing if no meter is installed. -/
theorem count_step_le (recorder : Recorder) (step : Step) (series : Series) :
    (step.after recorder).count series ≤
      recorder.count series +
        ((step.sent? recorder).toList.flatMap (·.2.reply.counted)).count series := by
  by_cases hsome : recorder.meter.isSome
  · exact Nat.le_of_eq (count_step hsome step series)
  · have hnone : recorder.meter = none := by simpa using hsome
    have hzero : recorder.count series = 0 := by simp [Recorder.count, hnone]
    -- At most the step installs a meter, and that one is empty.
    have hafter : (step.after recorder).count series = 0 := by
      cases step with
      | request fresh request =>
        show (Exchange.recorder _ recorder).count series = 0
        unfold Exchange.recorder
        split <;> simp [Recorder.record, Recorder.fold, Recorder.count, hnone]
      | malformed fault => exact hzero
      | upkeep => exact (Recorder.count_fold recorder series).trans hzero
      | install => exact (Recorder.count_install recorder series).trans hzero
    omega

/-- A run counts no series more often than its exchanges do. -/
theorem count_after_le (recorder : Recorder) (steps : List Step) (series : Series) :
    (after recorder steps).count series ≤
      recorder.count series + (countedBy recorder steps).count series := by
  induction steps generalizing recorder with
  | nil => exact Nat.le_add_right _ _
  | cons step rest ih =>
    have hstep := count_step_le recorder step series
    have hrest := ih (step.after recorder)
    show (after (step.after recorder) rest).count series ≤ _
    simp only [countedBy, sent, List.flatMap_append, List.count_append] at hrest ⊢
    omega

end Service

end CardServer
