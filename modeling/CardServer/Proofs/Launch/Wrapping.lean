import CardServer.Settings.Loaded
import Mathlib.Logic.Function.Iterate

/-! # Faults made of errors, and errors made of faults

A fault speaks with the outermost message of the error that it is made of.  An internal fault names all
messages as its causes, a configuration fault none.  When a fault leaves a part of the program it becomes
an error that keeps the wording of the fault and nothing else, so each time it is taken up again one
more prefix is put in front.

* `Report.messages_foldl_within`   contexts come before what they were put around, the last one first
* `message_iterate_rewrapped`      the wording of a fault that was taken up several times
* `conversions_keep_messages`      what each conversion keeps
-/

namespace CardServer

namespace Report

/-- Contexts that are put around a report stand in front of its messages, the last one outermost. -/
theorem messages_foldl_within (contexts : List String) (report : Report) :
    (contexts.foldl within report).messages = contexts.reverse ++ report.messages := by
  induction contexts generalizing report with
  | nil => rfl
  | cons context rest ih =>
    rw [List.foldl_cons, ih, messages_within, List.reverse_cons, List.append_assoc]
    rfl

/-- The outermost message is the last context, if there is any. -/
theorem outermost_foldl_within (contexts : List String) (report : Report) :
    (contexts.foldl within report).outermost = contexts.getLast?.getD report.outermost := by
  have hhead : some (contexts.foldl within report).outermost =
      contexts.getLast?.or (some report.outermost) := by
    have hmessages := congrArg List.head? (messages_foldl_within contexts report)
    rwa [List.head?_append, List.head?_reverse] at hmessages
  cases hlast : contexts.getLast? with
  | none =>
    rw [hlast, Option.none_or] at hhead
    exact Option.some.inj hhead
  | some last =>
    rw [hlast, Option.some_or] at hhead
    exact Option.some.inj hhead

end Report

namespace Fault

/-- A fault that has left a part of the program as an error and is taken up by another part. -/
def rewrapped (fault : Fault) : Fault := ofIoError fault.toIoError

theorem message_rewrapped (fault : Fault) :
    fault.rewrapped.message = "Internal server error: " ++ fault.message := rfl

/-- Every time that a fault is taken up again puts a prefix in front of its wording. -/
theorem message_iterate_rewrapped (n : Nat) (fault : Fault) :
    (rewrapped^[n] fault).message =
      String.join (List.replicate n "Internal server error: ") ++ fault.message := by
  induction n with
  | zero => simp
  | succ n ih =>
    rw [Function.iterate_succ_apply', message_rewrapped, ih, List.replicate_succ, String.join_cons,
      String.append_assoc]

/-- A fault that was taken up again at all is an internal one. -/
theorem exists_iterate_rewrapped_succ (n : Nat) (fault : Fault) :
    ∃ report, rewrapped^[n + 1] fault = .internal report :=
  ⟨.root (rewrapped^[n] fault).message, Function.iterate_succ_apply' ..⟩

/-- What conversions keep of an error.  An error with contexts around it is an internal fault, or is made
    a configuration fault; both speak with the last context, or with the root if there is no context, and the
    causes of the internal one are the contexts from the last to the first and then the root.  All errors
    of loading are configuration faults and all errors of input and output internal faults, with their own
    wording behind the prefix.  The error that a fault becomes is of no particular kind, whatever the
    fault was made of, and has its wording; and a fault that becomes an error and is taken up again any
    number of times has as many prefixes in front of its wording. -/
theorem conversions_keep_messages :
    (∀ (root : String) (contexts : List String), let report := contexts.foldl Report.within (.root root)
      ofReport report = .internal report ∧
      (ofReport report).message =
        "Internal server error: " ++ contexts.getLast?.getD root ∧
      (ofReport report).sources = contexts.reverse ++ [root] ∧
      (config report).message = "Configuration error: " ++ contexts.getLast?.getD root ∧
      (config report).sources = []) ∧
    (∀ loadFault : Settings.LoadFault, ∃ report, loadFault.fault = .config report ∧
      loadFault.fault.message = "Configuration error: " ++ loadFault.message) ∧
    (∀ error, ∃ report, ofIoError error = .internal report ∧
      (ofIoError error).message = "Internal server error: " ++ error.text) ∧
    (∀ fault : Fault, fault.toIoError.kind? = some .other ∧ fault.toIoError.text = fault.message) ∧
    ∀ (fault : Fault) (n : Nat), ∃ report, rewrapped^[n + 1] fault = .internal report ∧
      (rewrapped^[n + 1] fault).message =
        String.join (List.replicate (n + 1) "Internal server error: ") ++ fault.message := by
  refine ⟨fun root contexts => ?_, fun loadFault => ⟨_, rfl, rfl⟩, fun error => ⟨_, rfl, rfl⟩,
    fun fault => ⟨rfl, rfl⟩, fun fault n => ?_⟩
  · intro report
    have houtermost : report.outermost = contexts.getLast?.getD root :=
      Report.outermost_foldl_within contexts (.root root)
    have hsources : (ofReport report).sources = contexts.reverse ++ [root] :=
      Report.messages_foldl_within contexts (.root root)
    rw [← houtermost]
    exact ⟨rfl, rfl, hsources, rfl, rfl⟩
  · obtain ⟨report, hreport⟩ := exists_iterate_rewrapped_succ n fault
    exact ⟨report, hreport, message_iterate_rewrapped (n + 1) fault⟩

end Fault

end CardServer
