import CommandUpgrade.Fault

/-!
# Repeated steps

A step changes one place of a text and says when there is none left. `settle` repeats it, up to a
given number of times.
-/

namespace CommandUpgrade.Text

/-- Repeats a step until it finds nothing, `limit` times at most. -/
def settle (step? : Text → Option Text) : Nat → Text → Text
  | 0, s => s
  | limit + 1, s =>
    match step? s with
    | none => s
    | some s => settle step? limit s

/-- Repeats a step that may stop with a fault. -/
def settleM (step? : Text → Outcome (Option Text)) : Nat → Text → Outcome Text
  | 0, s => .ok s
  | limit + 1, s => do
    match ← step? s with
    | none => return s
    | some s => settleM step? limit s

end CommandUpgrade.Text
