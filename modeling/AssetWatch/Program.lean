import AssetWatch.Text.Decimal

/-!
# Programs

What a program leaves behind when it has ended, and the report of a failure that ends it.
-/

namespace AssetWatch

/-- What a program leaves behind. -/
structure Result where
  exitCode : Nat
  output : String
  errors : String
deriving DecidableEq, Repr

/-- Lines of text, each with its end. -/
def joinLines (texts : List String) : String := String.join (texts.map (· ++ "\n"))

/-- A failure with what caused it, the nearest cause first. -/
structure Failure where
  message : String
  causes : List String
  /-- Whether the causes are numbered, as they are if there are several. -/
  numbered : Bool
deriving DecidableEq, Repr

namespace Failure

/-- The causes with their numbers, counted from `index`. -/
def numberedCauses : Nat → List String → List String
  | _, [] => []
  | index, cause :: rest =>
    ("    " ++ Text.Decimal.text index ++ ": " ++ cause) :: numberedCauses (index + 1) rest

/-- The lines of a report. -/
def report (failure : Failure) : List String :=
  ("Error: " ++ failure.message) ::
    if failure.causes.isEmpty then []
    else
      "" :: "Caused by:" ::
        if failure.numbered then numberedCauses 0 failure.causes
        else failure.causes.map ("    " ++ ·)

end Failure

end AssetWatch
