import RemoteMessaging.Error
import RemoteMessaging.Text.Record

/-!
# Where channel errors go

All channels of a transport report to one sink.  A handler can be installed at
any time and takes the place of an earlier one; an error that finds no handler
is only logged.
-/

namespace RemoteMessaging

/-- The place of the error handler. -/
structure ErrorSink (η : Type) where
  handler : Option η
  deriving DecidableEq, Repr

/-- What became of a reported error. -/
inductive Report (η : Type) where
  | handled (handler : η) (error : Error)
  | unheard (error : Error)
  deriving DecidableEq, Repr

def Report.error {η : Type} : Report η → Error
  | .handled _ error => error
  | .unheard error => error

namespace ErrorSink

variable {η : Type}

def empty : ErrorSink η := ⟨none⟩

def install (_ : ErrorSink η) (handler : η) : ErrorSink η :=
  ⟨some handler⟩

/-- Reports an error to the handler of the moment. -/
def report (sink : ErrorSink η) (error : Error) : Report η :=
  match sink.handler with
  | some handler => .handled handler error
  | none => .unheard error

@[simp]
theorem error_report (sink : ErrorSink η) (error : Error) :
    (sink.report error).error = error := by
  unfold report
  split <;> rfl

def describe (sink : ErrorSink η) : String :=
  Text.record "ErrorSink" [("installed", toString sink.handler.isSome)]

end ErrorSink

def Report.warning? {η : Type} : Report η → Option String
  | .handled .. => none
  | .unheard _ => some "channel error without registered handler"

end RemoteMessaging
