import CommandUpgrade.Fault
import CommandUpgrade.Sheet.Writer

/-!
# Passes over a sheet

A pass goes through the records of a sheet and writes another sheet. It may print lines on the way,
and a fault ends it; what was written before the fault stays.
-/

namespace CommandUpgrade.Sheet

/-- What a pass wrote and printed, and the fault that ended it. -/
structure Pass where
  rows : List (List Text) := []
  printed : List Text := []
  fault : Option Fault := none

namespace Pass

/-- The pass that a fault ends at once. -/
def stop (fault : Fault) : Pass := { fault := some fault }

/-- The pass that writes a row first. -/
def write (row : List Text) (pass : Pass) : Pass := { pass with rows := row :: pass.rows }

/-- The pass that prints lines first. -/
def print (lines : List Text) (pass : Pass) : Pass :=
  { pass with printed := lines ++ pass.printed }

/-- The sheet that a pass wrote. -/
def sheet (pass : Pass) : Text := pass.rows.flatMap writeRow

end Pass

end CommandUpgrade.Sheet
