import CommandUpgrade.World.Region

/-!
# Workspaces

The folder that a tool works in: its folders, and its files with what they hold. Paths are relative
to that folder, and `.` and `..` have their usual meaning in them.
-/

namespace CommandUpgrade

open Text

/-- The names on the way to a file or folder. -/
abbrev Path := List Text

/-- What a file holds. -/
inductive Content
  | text (s : Text)
  | bytes (bytes : List Nat)
  | region (region : World.Region)

namespace Content

/-- The text of a file, with a replacement character for what is not UTF-8. -/
def toText : Content → Text
  | text s => s
  | bytes b => ofUtf8 b
  | region _ => []

/-- The text of a file that is UTF-8. -/
def toText? : Content → Option Text
  | text s => some s
  | bytes b => ofUtf8? b
  | region _ => none

/-- The region of a file. -/
def toRegion : Content → World.Region
  | text s => .ofBytes (toUtf8 s)
  | bytes b => .ofBytes b
  | region r => r

end Content

/-! ## Texts of paths -/

namespace Path

/-- A path below another one. -/
def under (folder name : Text) : Text :=
  if startsWith name ['/'] then name
  else if folder.isEmpty || endsWith folder ['/'] then folder ++ name
  else folder ++ '/' :: name

/-- A path without empty names and names that stay in place. -/
def tidy (path : Text) : Text :=
  let names := (split '/' path).filter fun name => !name.isEmpty && name != ['.']
  if startsWith path ['/'] then '/' :: join ['/'] names
  else if names.isEmpty then ['.']
  else join ['/'] names

/-- The last name of a path. -/
def lastName (path : Text) : Text := (split '/' path).getLastD []

end Path

/-- The folders and files of a folder. -/
structure Workspace where
  folders : List Path := []
  files : List (Path × Content) := []

namespace Workspace

/-! ## Looking -/

def isFolder (workspace : Workspace) (path : Path) : Bool :=
  path.isEmpty || workspace.folders.contains path

def isFile (workspace : Workspace) (path : Path) : Bool := (workspace.files.lookup path).isSome

/-- Follows names from a folder. All but the last one have to lead to a folder. -/
def follow? (workspace : Workspace) (start : Path) : List Text → Option Path
  | [] => some start
  | name :: rest =>
    if !workspace.isFolder start then none
    else if name.isEmpty || name == ['.'] then follow? workspace start rest
    else if name == ['.', '.'] then
      if start.isEmpty then none else follow? workspace start.dropLast rest
    else follow? workspace (start ++ [name]) rest

/-- The place that a path leads to, whether or not there is something. -/
def resolve? (workspace : Workspace) (path : Text) : Option Path :=
  if path.isEmpty || startsWith path ['/'] then none else workspace.follow? [] (split '/' path)

/-- Whether a path leads to a folder. -/
def hasFolder (workspace : Workspace) (path : Text) : Bool :=
  (workspace.resolve? path).any workspace.isFolder

/-- Whether a path leads to a file or folder. -/
def has (workspace : Workspace) (path : Text) : Bool :=
  (workspace.resolve? path).any fun place => workspace.isFolder place || workspace.isFile place

/-- What the file at a path holds. -/
def read (workspace : Workspace) (path : Text) : Outcome Content :=
  match workspace.resolve? path with
  | none => .error (.noSuchFile path)
  | some place =>
    if workspace.isFolder place then .error (.isFolder path)
    else
      match workspace.files.lookup place with
      | some content => .ok content
      | none => .error (.noSuchFile path)

/-- The text of the file at a path, where there is one. -/
def text? (workspace : Workspace) (path : Text) : Option Text :=
  match workspace.read path with
  | .ok content => some content.toText
  | .error _ => none

/-- The names in a folder, folders first. -/
def names (workspace : Workspace) (path : Text) : Outcome (List Text) :=
  match workspace.resolve? path with
  | none => .error (.noSuchFile path)
  | some place =>
    if workspace.isFolder place then
      .ok ((workspace.folders ++ workspace.files.map (·.1)).filterMap fun other =>
        if !other.isEmpty && other.dropLast == place then other.getLast? else none)
    else if workspace.isFile place then .error (.notFolder path)
    else .error (.noSuchFile path)

/-! ## Changing -/

/-- Puts a file at a place, instead of the file already there. -/
def setFile (place : Path) (content : Content) : List (Path × Content) → List (Path × Content)
  | [] => [(place, content)]
  | (p, c) :: rest =>
    if p = place then (p, content) :: rest else (p, c) :: setFile place content rest

/-- The workspace with a file at a path. -/
def write (workspace : Workspace) (path : Text) (content : Content) : Outcome Workspace :=
  match workspace.resolve? path with
  | none => .error (.noSuchFile path)
  | some place =>
    if workspace.isFolder place then .error (.isFolder path)
    else .ok { workspace with files := setFile place content workspace.files }

/-- The workspace with the folder that names lead to from a folder, and those on the way. -/
def addFolders (start : Path) (workspace : Workspace) : List Text → Outcome Workspace
  | [] => .ok workspace
  | name :: rest =>
    let place := start ++ [name]
    if workspace.isFile place then .error (.notFolder (join ['/'] place))
    else if workspace.isFolder place then addFolders place workspace rest
    else addFolders place { workspace with folders := workspace.folders ++ [place] } rest

/-- The names that a path is made of. -/
def namesOf (path : Text) : Path := (split '/' path).filter fun name => !name.isEmpty && name != ['.']

/-- The workspace with the folder of a path, and those on the way. -/
def makeFolder (workspace : Workspace) (path : Text) : Outcome Workspace :=
  workspace.addFolders [] (namesOf path)

/-- A place below another one, moved along with it. -/
def rebase? (source target place : Path) : Option Path :=
  if source.isPrefixOf place then some (target ++ place.drop source.length) else none

/-- The workspace with a copy of a folder. -/
def copyFolder (workspace : Workspace) (source target : Text) : Outcome Workspace :=
  match workspace.resolve? source with
  | none => .error (.noSuchFile source)
  | some place =>
    if !workspace.isFolder place then .error (.notFolder source)
    else do
      let copy ← workspace.makeFolder target
      let folders := workspace.folders.filterMap (rebase? place (namesOf target))
      let files := workspace.files.filterMap fun (file, content) =>
        (rebase? place (namesOf target) file).map (·, content)
      return { copy with
        folders := copy.folders ++ folders.filter (!copy.folders.contains ·)
        files := copy.files ++ files }

/-- The workspace after a file was moved; into the target, if that is a folder. -/
def move (workspace : Workspace) (source target : Text) : Outcome Workspace := do
  let content ← workspace.read source
  let target ←
    if workspace.hasFolder target then
      let inside := Path.under target (Path.lastName source)
      if workspace.has inside then .error (.alreadyThere inside) else .ok inside
    else .ok target
  let moved ← workspace.write target content
  return { moved with files := moved.files.filter fun (p, _) => some p != workspace.resolve? source }

/-- The workspace of folders and files, with the folders on the way to each. -/
def build (folders : List Text) (files : List (Text × Content)) : Workspace :=
  let add (workspace : Workspace) (names : Path) : Workspace :=
    match workspace.addFolders [] names with
    | .ok workspace => workspace
    | .error _ => workspace
  let made := folders.foldl (fun workspace path => add workspace (namesOf path)) {}
  files.foldl (fun workspace (path, content) =>
    let workspace := add workspace (namesOf path).dropLast
    { workspace with files := setFile (namesOf path) content workspace.files }) made

end Workspace

end CommandUpgrade
