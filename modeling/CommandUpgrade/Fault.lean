import CommandUpgrade.Text.Printable

/-!
# Faults

Why a conversion stops. A fault names its cause; `Fault.message` is the only place where a cause
is put into words.
-/

namespace CommandUpgrade

/-- What was indexed past its end. -/
inductive Sequence
  | text
  | list
  | bytes
  deriving DecidableEq, Repr

/-- Why a replacement text cannot be read. -/
inductive TemplateFault
  /-- A backslash before a letter without meaning. -/
  | escape (letter : Char)
  /-- A lone backslash at the end. -/
  | openEscape
  /-- A kept text that the match does not have. -/
  | group (number : Nat)
  /-- Octal digits beyond one byte. -/
  | octal (digits : Text)
  | missingBracket
  | missingName
  | openName
  | badName (name : Text)
  | unknownName (name : Text)
  deriving DecidableEq, Repr

/-- The cause that stops a conversion. -/
inductive Fault
  /-- The text is not an integer. -/
  | notInteger (text : Text)
  /-- The text is an integer of more digits than are read. -/
  | tooManyDigits (count : Nat)
  /-- The text is not a decimal number. -/
  | notDecimal (text : Text)
  /-- A number that is not a number has no integer part. -/
  | integerOfNaN
  /-- An infinite number has no integer part. -/
  | integerOfInfinity
  /-- The integer is beyond every binary64 number. -/
  | integerTooLarge
  /-- A record lacks the field. -/
  | missingField (name : Text)
  /-- A row has more cells than there are columns. -/
  | surplusCells
  /-- A cell is longer than a sheet may hold. -/
  | cellTooLong
  /-- The bytes are not UTF-8. -/
  | notUtf8
  /-- A replacement text cannot be read at a position. -/
  | template (reason : TemplateFault) (template : Text) (position : Nat)
  /-- A value of this kind does not have the operation. -/
  | wrongKind
  /-- The thing asked for a member does not have it. -/
  | noMember (owner member : Text)
  /-- A position lies past the end. -/
  | pastEnd (of : Sequence)
  /-- A name is used before it was given a value. -/
  | unset (name : Text)
  /-- A region file ends before the four bytes that are read. -/
  | bytesMissing
  /-- The data of a chunk cannot be read. -/
  | unreadableChunk
  /-- A text is longer than a chunk may hold. -/
  | textTooLong
  /-- There is no such file. -/
  | noSuchFile (path : Text)
  /-- A folder stands where a file is needed. -/
  | isFolder (path : Text)
  /-- A file stands where a folder is needed. -/
  | notFolder (path : Text)
  /-- A file cannot be moved onto what is already there. -/
  | alreadyThere (path : Text)
  /-- A step of a longer run failed. -/
  | stepFailed
  /-- The run was refused, and the reason has been printed. -/
  | refused
  deriving DecidableEq, Repr

/-- Whether the fault is a text that does not denote a number, or a number without a value. -/
def Fault.isValue : Fault → Bool
  | notInteger _ | tooManyDigits _ | notDecimal _ | integerOfNaN | surplusCells | notUtf8 => true
  | _ => false

/-- Whether the fault is a position or name that is not there. -/
def Fault.isIndex : Fault → Bool
  | pastEnd _ | template (.unknownName _) _ _ => true
  | _ => false

/-- The result of a conversion that may stop. -/
abbrev Outcome := Except Fault

/-- The reason in words. -/
def TemplateFault.message : TemplateFault → Text
  | escape letter => "bad escape \\" ++ [letter]
  | openEscape => "bad escape (end of pattern)"
  | group number => "invalid group reference " ++ Text.ofNat number
  | octal digits => "octal escape value \\" ++ digits ++ " outside of range 0-0o377"
  | missingBracket => "missing <"
  | missingName => "missing group name"
  | openName => "missing >, unterminated name"
  | badName name => "bad character in group name " ++ Text.shown name
  | unknownName name => "unknown group name " ++ Text.shown name

/-- A position in words, with line and column if the text has several lines. -/
def placeMessage (s : Text) (position : Nat) : Text :=
  let front := s.take position
  let column := position - ((Text.findLast? ['\n'] front).map (· + 1)).getD 0 + 1
  " at position " ++ Text.ofNat position ++
    if s.contains '\n' then
      " (line " ++ Text.ofNat (front.count '\n' + 1) ++ ", column " ++ Text.ofNat column ++ ")"
    else []

namespace Fault

/-- How many characters of a text in quotes the message on an integer shows, the first quote
included. -/
def integerQuoteLimit : Nat := 200

/-- The fault in words. A value of the wrong kind is not described further. -/
def message : Fault → Text
  | notInteger text =>
    "invalid literal for int() with base 10: " ++ (Text.shown text).take integerQuoteLimit
  | tooManyDigits count =>
    "Exceeds the limit (4300 digits) for integer string conversion: value has " ++
      Text.ofNat count ++ " digits; use sys.set_int_max_str_digits() to increase the limit"
  | notDecimal text => "could not convert string to float: " ++ Text.shown text
  | integerOfNaN => "cannot convert float NaN to integer"
  | integerOfInfinity => "cannot convert float infinity to integer"
  | integerTooLarge => "int too large to convert to float"
  | missingField name => Text.shown name
  | surplusCells => "dict contains fields not in fieldnames: None"
  | cellTooLong => "field larger than field limit (131072)"
  | notUtf8 => "invalid start byte"
  | template (.unknownName name) _ _ => (TemplateFault.unknownName name).message
  | template reason text position => reason.message ++ placeMessage text position
  | wrongKind => "unsupported operand"
  | noMember owner member =>
    "'" ++ owner ++ "' object has no attribute '" ++ member ++ "'"
  | pastEnd .text => "string index out of range"
  | pastEnd .list => "list index out of range"
  | pastEnd .bytes => "index out of range"
  | unset name =>
    "cannot access local variable '" ++ name ++ "' where it is not associated with a value"
  | bytesMissing => "unpack requires a buffer of 4 bytes"
  | unreadableChunk => "Error -3 while decompressing data: incorrect header check"
  | textTooLong => "'H' format requires 0 <= number <= 65535"
  | noSuchFile path => "[Errno 2] No such file or directory: " ++ Text.shown path
  | isFolder path => "[Errno 21] Is a directory: " ++ Text.shown path
  | notFolder path => "[Errno 20] Not a directory: " ++ Text.shown path
  | alreadyThere path => "Destination path " ++ Text.shown path ++ " already exists"
  | stepFailed => "the step returned non-zero exit status 1."
  | refused => "1"

end Fault

end CommandUpgrade
