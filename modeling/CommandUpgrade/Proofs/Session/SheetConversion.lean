import CommandUpgrade.Proofs.Session.WorldConversion
import CommandUpgrade.Proofs.Sheet.AnySheet

/-!
# Converting a sheet loses no row

The tool that converts a sheet of commands, on any sheet with distinct column names of which one is
`command`. It writes the columns and one row for each row that is not blank. A row with more cells
than there are columns, and one with a cell beyond the limit, ends it with a fault; the rows before
it are written.
-/

namespace CommandUpgrade.Session

open Text Sheet

/-- The tool ends with this fault, or without one, and has written a sheet of these rows. -/
def Converts (setting : Setting) (workspace : Workspace) (input output : Text)
    (fault : Option Fault) (rows : List (List Text)) : Prop :=
  ∃ out, (run (convertSheet setting input output) workspace).workspace =
      workspace.put [output] (.text out) ∧
    (run (convertSheet setting input output) workspace).fault = fault ∧ decode out = rows

section Conversion

variable (setting : Setting) {workspace : Workspace} {input output : Text} {content : Content}
  {header : List Text} {data : List (List Text)}
  (hinput : IsSheetName workspace input) (houtput : IsSheetName workspace output)
  (hne : input ≠ output) (hfile : workspace.files.lookup [input] = some content)
  (hrows : withFeeds (decode content.toText) = header :: data)

include hinput houtput hne hfile

theorem converts_pass {pass : Pass}
    (hpass : pass = convertCommands (Command.convert (tablesIn setting workspace)) content.toText) :
    Converts setting workspace input output pass.fault pass.rows := by
  obtain ⟨hworkspace, hfault⟩ := (ends_convertSheet hinput houtput hne hfile hpass).run_eq
  exact ⟨pass.sheet, hworkspace, hfault, decode_flatMap_writeRow pass.rows⟩

include hrows

theorem converts_of_long_header (hlong : isShort header = false) :
    Converts setting workspace input output (some .cellTooLong) [] := by
  have hpass := converts_pass setting hinput houtput hne hfile rfl
  obtain ⟨hwritten, hfault⟩ := convertCommands_of_long_header
    (Command.convert (tablesIn setting workspace)) hrows hlong
  rwa [hwritten, hfault] at hpass

variable (hheader : header.Nodup) (hcommand : commandColumn ∈ header)
  (hshort : isShort header = true)

include hheader hcommand hshort

theorem converts_eq : Converts setting workspace input output
    ((data.find? (!fits header ·)).map unfit)
    (convertedRows (Command.convert (tablesIn setting workspace)) header
      (data.takeWhile (fits header))) := by
  have hpass := converts_pass setting hinput houtput hne hfile rfl
  obtain ⟨hwritten, hfault⟩ := convertCommands_eq (convert_nil (tablesIn setting workspace))
    hheader hcommand hrows hshort
  rwa [hwritten, hfault] at hpass

/-- A sheet whose rows all fit is converted as a whole. -/
theorem converts_of_fits (hfits : ∀ row ∈ data, fits header row = true) :
    Converts setting workspace input output none
      (convertedRows (Command.convert (tablesIn setting workspace)) header data) := by
  have hpass := converts_eq setting hinput houtput hne hfile hrows hheader hcommand hshort
  have hnone : data.find? (!fits header ·) = none :=
    List.find?_eq_none.2 fun row hrow => by rw [hfits row hrow]; exact Bool.false_ne_true
  rwa [List.takeWhile_eq_self_iff.2 hfits, hnone] at hpass

/-- The first row that does not fit ends the conversion, with the rows before it written. -/
theorem converts_of_unfit {front rest : List (List Text)} {row : List Text}
    (hdata : data = front ++ row :: rest) (hfits : ∀ r ∈ front, fits header r = true)
    (hrow : fits header row = false) :
    Converts setting workspace input output (some (unfit row))
      (convertedRows (Command.convert (tablesIn setting workspace)) header front) := by
  have hpass := converts_eq setting hinput houtput hne hfile hrows hheader hcommand hshort
  have hnone : front.find? (!fits header ·) = none :=
    List.find?_eq_none.2 fun r hr => by rw [hfits r hr]; exact Bool.false_ne_true
  have hfront : data.takeWhile (fits header) = front := by
    rw [hdata, List.takeWhile_append_of_pos hfits, List.takeWhile_cons, hrow]
    exact List.append_nil front
  have hfound : data.find? (!fits header ·) = some row := by
    rw [hdata, List.find?_append, hnone, List.find?_cons, hrow]
    rfl
  rwa [hfront, hfound] at hpass

end Conversion

/-- Converting a sheet with distinct column names loses no row. If no cell is beyond the limit and no
row has more cells than there are columns, the new sheet has the columns and a row for each row that
is not blank: its cells, with line feeds for their line ends, and the converted command. The first
row with surplus cells or a cell beyond the limit is a fault, and the new sheet has the rows before
it. -/
theorem convertSheet_keeps_rows {setting : Setting} {workspace : Workspace} {input output : Text}
    {content : Content} {header : List Text} {data : List (List Text)}
    (hinput : IsSheetName workspace input) (houtput : IsSheetName workspace output)
    (hne : input ≠ output) (hfile : workspace.files.lookup [input] = some content)
    (hrows : withFeeds (decode content.toText) = header :: data)
    (hheader : header.Nodup) (hcommand : commandColumn ∈ header) :
    let convert := Command.convert (tablesIn setting workspace)
    ((∀ row ∈ header :: data, isShort row = true) → (∀ row ∈ data, row.length ≤ header.length) →
      Converts setting workspace input output none (convertedRows convert header data)) ∧
    (∀ front row rest, data = front ++ row :: rest → (∀ r ∈ header :: front, isShort r = true) →
      (∀ r ∈ front, r.length ≤ header.length) →
      (isShort row = true → header.length < row.length →
        Converts setting workspace input output (some .surplusCells)
          (convertedRows convert header front)) ∧
      (isShort row = false →
        Converts setting workspace input output (some .cellTooLong)
          (convertedRows convert header front))) ∧
    (isShort header = false → Converts setting workspace input output (some .cellTooLong) []) := by
  intro convert
  refine ⟨fun hshort hlength => ?_, fun front row rest hdata hshort hlength => ?_,
    converts_of_long_header setting hinput houtput hne hfile hrows⟩
  · obtain ⟨hfirst, hshort⟩ := List.forall_mem_cons.1 hshort
    exact converts_of_fits setting hinput houtput hne hfile hrows hheader hcommand hfirst
      fun row hrow => fits_of_short (hshort row hrow) (hlength row hrow)
  · obtain ⟨hfirst, hshort⟩ := List.forall_mem_cons.1 hshort
    have hunfit := converts_of_unfit setting hinput houtput hne hfile hrows hheader hcommand hfirst
      hdata fun r hr => fits_of_short (hshort r hr) (hlength r hr)
    constructor
    · intro hrow hlong
      rw [← unfit_of_short hrow]
      exact hunfit (fits_of_surplus hlong)
    · intro hrow
      rw [← unfit_of_long hrow]
      exact hunfit (fits_of_long hrow)

/-- A workspace with one sheet. -/
def sheetWorkspace (s : Text) : Workspace := { files := [(["in.csv".toList], .text s)] }

theorem isSheetName_sheetWorkspace (s : Text) :
    IsSheetName (sheetWorkspace s) "in.csv" ∧ IsSheetName (sheetWorkspace s) "out.csv" :=
  ⟨⟨by decide +kernel, rfl⟩, by decide +kernel, rfl⟩

/-- A sheet with a line end in a cell, a blank line, a short row and a row with a surplus cell. -/
def guestSheet : Text :=
  "command,note\r\nsay hi,\"a\r\nb\"\r\n\r\nkill @e\nsay 1,2,3\r\nsay bye,\r\n"

theorem convertSheet_keeps_rows_guests :
    IsSheetName (sheetWorkspace guestSheet) "in.csv" ∧
    IsSheetName (sheetWorkspace guestSheet) "out.csv" ∧ "in.csv".toList ≠ "out.csv".toList ∧
    (sheetWorkspace guestSheet).files.lookup ["in.csv".toList] = some (.text guestSheet) ∧
    withFeeds (decode guestSheet) = [["command", "note"], ["say hi", "a\nb"], [], ["kill @e"],
      ["say 1", "2", "3"], ["say bye", ""]].map (·.map String.toList) ∧
    (["command", "note"].map String.toList).Nodup ∧
    commandColumn ∈ ["command", "note"].map String.toList ∧
    Converts ⟨none, none, false⟩ (sheetWorkspace guestSheet) "in.csv" "out.csv"
      (some .surplusCells)
      (convertedRows (Command.convert (tablesIn ⟨none, none, false⟩ (sheetWorkspace guestSheet)))
        (["command", "note"].map String.toList)
        ([["say hi", "a\nb"], [], ["kill @e"]].map (·.map String.toList))) := by
  obtain ⟨hinput, houtput⟩ := isSheetName_sheetWorkspace guestSheet
  have hne : "in.csv".toList ≠ "out.csv".toList := by decide +kernel
  have hrows : withFeeds (decode guestSheet) = [["command", "note"], ["say hi", "a\nb"], [],
      ["kill @e"], ["say 1", "2", "3"], ["say bye", ""]].map (·.map String.toList) := by
    decide +kernel
  have hheader : (["command", "note"].map String.toList).Nodup := by decide +kernel
  have hcommand : commandColumn ∈ ["command", "note"].map String.toList := by decide +kernel
  have hkept := @convertSheet_keeps_rows ⟨none, none, false⟩ _ _ _ _ _ _ hinput houtput hne rfl
    hrows hheader hcommand
  refine ⟨hinput, houtput, hne, rfl, hrows, hheader, hcommand, ?_⟩
  exact (hkept.2.1 ([["say hi", "a\nb"], [], ["kill @e"]].map (·.map String.toList)) _ _ rfl
    (by decide +kernel) (by decide +kernel)).1 (by decide +kernel) (by decide +kernel)

/-- The row of a cell with one character more than the limit. -/
def longRow : List Text := ["say hi".toList, List.replicate (cellLimit + 1) 'a']

/-- The sheet of that row. -/
def longSheet : Text := [["command", "note"].map String.toList, longRow].flatMap writeRow

theorem isShort_longRow : isShort longRow = false := by
  refine List.all_eq_false.2 ⟨_, List.mem_cons_of_mem _ List.mem_cons_self, ?_⟩
  rw [List.length_replicate, decide_eq_true_eq]
  omega

theorem withFeeds_longSheet :
    withFeeds (decode longSheet) = [["command", "note"].map String.toList, longRow] := by
  have hcell : normalLines (List.replicate (cellLimit + 1) 'a') =
      List.replicate (cellLimit + 1) 'a' :=
    normalLines_eq_self fun hmem => absurd (List.eq_of_mem_replicate hmem) (by decide)
  have hrow : longRow.map normalLines = longRow := by
    unfold longRow
    rw [List.map_cons, List.map_singleton, hcell]
    rfl
  unfold longSheet
  rw [decode_flatMap_writeRow]
  unfold withFeeds
  rw [List.map_cons, List.map_singleton, hrow]
  rfl

/-- A sheet with a line end in a cell. -/
def lineEndSheet : Text := "command,note\r\nsay hi,\"a\r\nb\"\r\n"

/-- A cell beyond the limit loses its row, and a line end in a cell is written as a line feed, though
no row has surplus cells. -/
theorem rows_lost_and_changed :
    (decode longSheet = [["command", "note"].map String.toList, longRow] ∧
      longRow.length ≤ (["command", "note"].map String.toList).length ∧
      Converts ⟨none, none, false⟩ (sheetWorkspace longSheet) "in.csv" "out.csv"
        (some .cellTooLong) [["command", "note", "converted_command"].map String.toList]) ∧
    decode lineEndSheet = [["command", "note"], ["say hi", "a\r\nb"]].map (·.map String.toList) ∧
      Converts ⟨none, none, false⟩ (sheetWorkspace lineEndSheet) "in.csv" "out.csv" none
        [["command", "note", "converted_command"].map String.toList,
          ["say hi".toList, "a\nb".toList, convertedOr
            (Command.convert (tablesIn ⟨none, none, false⟩ (sheetWorkspace lineEndSheet)))
            "say hi"]] := by
  have hheader : (["command", "note"].map String.toList).Nodup := by decide +kernel
  have hcommand : commandColumn ∈ ["command", "note"].map String.toList := by decide +kernel
  have hshort : isShort (["command", "note"].map String.toList) = true := by decide +kernel
  have hne : "in.csv".toList ≠ "out.csv".toList := by decide +kernel
  refine ⟨⟨decode_flatMap_writeRow _, Nat.le_refl _, ?_⟩, by decide +kernel, ?_⟩
  · obtain ⟨hinput, houtput⟩ := isSheetName_sheetWorkspace longSheet
    rw [← unfit_of_long isShort_longRow]
    exact converts_of_unfit ⟨none, none, false⟩ hinput houtput hne rfl withFeeds_longSheet hheader
      hcommand hshort (show [longRow] = [] ++ longRow :: [] from rfl)
      (fun _ hmem => absurd hmem List.not_mem_nil) (fits_of_long isShort_longRow)
  · obtain ⟨hinput, houtput⟩ := isSheetName_sheetWorkspace lineEndSheet
    have hrows : withFeeds (decode lineEndSheet) =
        [["command", "note"], ["say hi", "a\nb"]].map (·.map String.toList) := by decide +kernel
    exact converts_of_fits ⟨none, none, false⟩ hinput houtput hne rfl hrows hheader hcommand hshort
      (by decide +kernel)

end CommandUpgrade.Session
