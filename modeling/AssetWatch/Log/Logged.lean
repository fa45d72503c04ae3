import AssetWatch.Log.Diagnostic

/-!
# Logged results

A result together with what was reported on the way to it. Steps in sequence report in
sequence.
-/

namespace AssetWatch

/-- A value and the reports that were made while it was computed. -/
structure Logged (α : Type) where
  value : α
  log : List Diagnostic
deriving DecidableEq

namespace Logged

variable {α β : Type}

instance : Monad Logged where
  pure value := ⟨value, []⟩
  bind step next := ⟨(next step.value).value, step.log ++ (next step.value).log⟩

/-- Makes a report. -/
def report (diagnostic : Diagnostic) : Logged Unit := ⟨(), [diagnostic]⟩

/-- Makes several reports. -/
def reportAll (diagnostics : List Diagnostic) : Logged Unit := ⟨(), diagnostics⟩

/-- Makes a report if the condition holds. -/
def reportIf (condition : Bool) (diagnostic : Diagnostic) : Logged Unit :=
  ⟨(), if condition then [diagnostic] else []⟩

@[simp] theorem value_pure (a : α) : (pure a : Logged α).value = a := rfl

@[simp] theorem log_pure (a : α) : (pure a : Logged α).log = [] := rfl

@[simp] theorem value_bind (step : Logged α) (next : α → Logged β) :
    (step >>= next).value = (next step.value).value := rfl

@[simp] theorem log_bind (step : Logged α) (next : α → Logged β) :
    (step >>= next).log = step.log ++ (next step.value).log := rfl

@[simp] theorem log_report (diagnostic : Diagnostic) :
    (report diagnostic).log = [diagnostic] := rfl

@[simp] theorem log_reportAll (diagnostics : List Diagnostic) :
    (reportAll diagnostics).log = diagnostics := rfl

@[simp] theorem log_reportIf (condition : Bool) (diagnostic : Diagnostic) :
    (reportIf condition diagnostic).log = if condition then [diagnostic] else [] := rfl

end Logged

end AssetWatch
