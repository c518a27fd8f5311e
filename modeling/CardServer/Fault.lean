import CardServer.IoError
import CardServer.Text.Quoted

/-! # Failures at start-up

Two things can go wrong before the server runs: its settings cannot be loaded, or something fails
beneath it.  An internal fault keeps the whole chain of messages that led to it; a configuration
fault shows only the outermost.
-/

namespace CardServer

/-- A message and the messages of its causes, each one the cause of the one before. -/
structure Report where
  outermost : String
  causes : List String
  deriving DecidableEq, Repr

namespace Report

/-- A report of something that has no further cause. -/
def root (message : String) : Report := ⟨message, []⟩

/-- The same report seen in some context. -/
def within (report : Report) (context : String) : Report :=
  ⟨context, report.outermost :: report.causes⟩

/-- The messages of a report from the outermost to the root. -/
def messages (report : Report) : List String := report.outermost :: report.causes

@[simp] theorem messages_within (report : Report) (context : String) :
    (report.within context).messages = context :: report.messages := rfl

end Report

/-- A failure at start-up. -/
inductive Fault where
  | internal (report : Report)
  | config (report : Report)
  deriving DecidableEq, Repr

namespace Fault

/-- The wording of a fault. -/
def message : Fault → String
  | .internal report => "Internal server error: " ++ report.outermost
  | .config report => "Configuration error: " ++ report.outermost

/-- The causes that a fault names, the outermost first. -/
def sources : Fault → List String
  | .internal report => report.messages
  | .config _ => []

/-- The fault that an error is, whatever the contexts that it was seen in. -/
def ofReport (report : Report) : Fault := .internal report

/-- The fault that an error of input or output is. -/
def ofIoError (error : IoError) : Fault := ofReport (.root error.text)

/-- The error that the program ends with because of a fault. -/
def toIoError (fault : Fault) : IoError := .message fault.message

end Fault

end CardServer
