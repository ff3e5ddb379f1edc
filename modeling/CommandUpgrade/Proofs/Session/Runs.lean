import CommandUpgrade.Proofs.Workspace
import CommandUpgrade.Session.World

/-!
# Runs of sessions

`Runs session before a after` says that a session, started in one workspace, gives a value and ends in
another workspace, whatever was printed before. There is a rule for each thing that a session can do,
and a tool's run is put together from them. `Ends` says the same of a session that may stop with a
fault.
-/

namespace CommandUpgrade.Session

open Text

/-- A session takes one workspace to another, with a value or a fault. -/
def Ends {α : Type} (session : Session α) (before : Workspace) (outcome : Outcome α)
    (after : Workspace) : Prop :=
  ∀ printed, ∃ printed', StateT.run (ExceptT.run session) ⟨before, printed⟩ =
    (outcome, ⟨after, printed'⟩)

/-- A session takes one workspace to another without a fault, and gives a value. -/
def Runs {α : Type} (session : Session α) (before : Workspace) (a : α) (after : Workspace) : Prop :=
  ∀ printed, ∃ printed', StateT.run (ExceptT.run session) ⟨before, printed⟩ =
    (.ok a, ⟨after, printed'⟩)

namespace Runs

variable {α β : Type} {before middle after : Workspace}

theorem ends {session : Session α} {next : α → Session β} {a : α} {outcome : Outcome β}
    (h : Runs session before a middle) (hnext : Ends (next a) middle outcome after) :
    Ends (session >>= next) before outcome after := by
  intro printed
  obtain ⟨printed', hrun⟩ := h printed
  obtain ⟨printed'', hrun'⟩ := hnext printed'
  refine ⟨printed'', ?_⟩
  rw [ExceptT.run_bind, StateT.run_bind, hrun]
  exact hrun'

theorem bind {session : Session α} {next : α → Session β} {a : α} {b : β}
    (h : Runs session before a middle) (hnext : Runs (next a) middle b after) :
    Runs (session >>= next) before b after := h.ends hnext

theorem pure (workspace : Workspace) (a : α) : Runs (pure a) workspace a workspace :=
  fun printed => ⟨printed, rfl⟩

theorem workspace (here : Workspace) : Runs Session.workspace here here here :=
  fun printed => ⟨printed, rfl⟩

theorem print (workspace : Workspace) (line : Text) :
    Runs (print line) workspace () workspace :=
  fun _ => ⟨_, rfl⟩

theorem printAll (workspace : Workspace) (lines : List Text) :
    Runs (printAll lines) workspace () workspace :=
  fun _ => ⟨_, rfl⟩

theorem check (workspace : Workspace) : Runs (check none) workspace () workspace :=
  fun printed => ⟨printed, rfl⟩

theorem change {edit : Workspace → Outcome Workspace} (h : edit before = .ok after) :
    Runs (change edit) before () after := by
  refine bind (workspace before) ?_
  rw [h]
  exact fun printed => ⟨printed, rfl⟩

end Runs

/-! ## Faults -/

section Ends

variable {α β : Type} {before after : Workspace}

/-- Nothing follows a fault. -/
theorem Ends.stop {session : Session α} {fault : Fault} (h : Ends session before (.error fault) after)
    (next : α → Session β) : Ends (session >>= next) before (.error fault) after := by
  intro printed
  obtain ⟨printed', hrun⟩ := h printed
  refine ⟨printed', ?_⟩
  rw [ExceptT.run_bind, StateT.run_bind, hrun]
  rfl

theorem Ends.throw (workspace : Workspace) (fault : Fault) :
    Ends (throw fault : Session α) workspace (.error fault) workspace :=
  fun printed => ⟨printed, rfl⟩

theorem Ends.check (workspace : Workspace) (fault : Option Fault) :
    Ends (check fault) workspace (fault.elim (.ok ()) .error) workspace := by
  cases fault with
  | none => exact fun printed => ⟨printed, rfl⟩
  | some fault => exact Ends.throw workspace fault

theorem Ends.run_eq {session : Session Unit} {fault : Option Fault}
    (h : Ends session before (fault.elim (.ok ()) .error) after) :
    (run session before).workspace = after ∧ (run session before).fault = fault := by
  obtain ⟨printed', hrun⟩ := h []
  unfold run
  rw [hrun]
  cases fault <;> exact ⟨rfl, rfl⟩

/-- A session that runs through ends without a fault. -/
theorem Runs.run_eq {session : Session Unit} (h : Runs session before () after) :
    (run session before).workspace = after ∧ (run session before).fault = none :=
  @Ends.run_eq before after session none h

end Ends

/-! ## Files -/

section File

variable {workspace : Workspace} {path : Text} {place : Path}
  (hpath : workspace.resolve? path = some place) (hfolder : workspace.isFolder place = false)

include hpath hfolder

theorem runs_writeText (s : Text) :
    Runs (writeText path s) workspace () (workspace.put place (.text s)) :=
  Runs.change (Workspace.write_eq hpath hfolder (.text s))

theorem runs_readText {content : Content} (h : workspace.files.lookup place = some content) :
    Runs (readText path) workspace content.toText workspace := by
  refine (Runs.workspace workspace).bind ?_
  rw [Workspace.read_eq hpath hfolder h]
  exact Runs.pure workspace _

theorem runs_readStrictly {content : Content} {s : Text}
    (h : workspace.files.lookup place = some content) (htext : content.toText? = some s) :
    Runs (readStrictly path) workspace s workspace := by
  refine (Runs.workspace workspace).bind ?_
  rw [Workspace.read_eq hpath hfolder h]
  dsimp only
  rw [htext]
  exact Runs.pure workspace _

end File

end CommandUpgrade.Session
