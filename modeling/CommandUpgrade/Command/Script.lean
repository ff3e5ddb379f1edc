import CommandUpgrade.Command.Argument

/-!
# Block scripts

The commands `project`, `clock` and `script` place blocks one after the other. Their entries stand
between semicolons: three coordinates, a block, and a data value and a delay or a delay alone. A text
behind the last semicolon is kept.
-/

namespace CommandUpgrade.Command

open Text

namespace Script

/-- Whether a last part looks like text and not like an entry: its first field has no digit and no
minus, or it has no comma. -/
def looksLikeText (part : Text) : Bool :=
  !part.contains ',' ||
    !(part.takeWhile (· != ',')).any fun c => isDigit c || c == '-'

/-- The new form of an entry by its fields. -/
def entry (tables : Tables) (x y z block data : Text) (delay : Option Text) : Outcome Text := do
  match ← tables.stateName (lower block) data with
  | .text name =>
    let name := (after? "minecraft:" name).getD name
    return join [','] ([x, y, z, name] ++ delay.toList)
  | .list _ => throw (.noMember "list" "startswith")
  | .compound _ => throw (.noMember "dict" "startswith")
  | .int _ => throw (.noMember "int" "startswith")
  | .float _ => throw (.noMember "float" "startswith")
  | .bool _ => throw (.noMember "bool" "startswith")
  | .null => throw (.noMember "NoneType" "startswith")

/-- The entries of the parts, behind those already `done`, and the text at the end. -/
def read (tables : Tables) (done : List Text) : List Text → Outcome (List Text × Text)
  | [] => .ok (done, [])
  | part :: rest => do
    let part := trim part
    let ends := rest.isEmpty && !done.isEmpty
    if part.isEmpty then read tables done rest
    else if ends && looksLikeText part then return (done, part)
    else
      match (split ',' part).map trim with
      | [x, y, z, block] =>
        read tables (done ++ [← entry tables x y z block ['0'] none]) rest
      | [x, y, z, block, delay] =>
        read tables (done ++ [← entry tables x y z block ['0'] (some delay)]) rest
      | x :: y :: z :: block :: data :: delay :: more =>
        if !more.isEmpty && rest.isEmpty then return (done, join [','] more)
        else read tables (done ++ [← entry tables x y z block data (some delay)]) rest
      | _ => if ends then return (done, part) else read tables done rest

end Script

/-- A block script with its blocks in their new names. -/
def script (tables : Tables) (name : Text) (args : List Text) : Outcome Text := do
  if args.isEmpty then return name
  let s := words args
  let (entries, rest) ← Script.read tables [] (split ';' s)
  let front := name ++ ' ' :: join [';'] entries
  if rest.isEmpty then return if entries.isEmpty then front else front ++ [';']
  let behind := (findLast? ";" s).bind fun i => s[i + 1]?
  return front ++ (if behind = some ' ' then [';', ' '] else [';']) ++ rest

end CommandUpgrade.Command
