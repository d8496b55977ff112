import Multilint.Finding
import Multilint.Json.Shape
/-!
# Findings in JSON documents

Three shapes of JSON reports. A blank output holds no finding; any other output that is no document
of the shape is refused with the place of its first fault.
-/

namespace Multilint

/-- A cause for which the output of a tool is refused. -/
inductive OutputFault where
  /-- It is no JSON document of the expected shape. -/
  | badJson (detail : String)
  deriving DecidableEq, Repr

/-- The wording of a refusal. -/
def OutputFault.message : OutputFault → String
  | .badJson detail => "invalid JSON output: " ++ detail

namespace Findings

/-- Reads output by a function on its trimmed text, which is not empty. -/
def ofDocument (read : List Char → Reading (List Finding)) (output : String) :
    Except OutputFault (List Finding) :=
  let text := Text.trim output.toList
  if text.isEmpty then .ok []
  else
    match read text with
    | .ok fs => .ok fs
    | .error e => .error (.badJson (e.message text))

/-- A text field of a record. -/
def textField (v : Json) (key : String) : String :=
  ((v.member? key).bind Json.string?).getD ""

/-- A number field of a record. -/
def natField (v : Json) (key : String) : Option Nat :=
  (v.member? key).bind Json.nat?

/-- Whether a record has a field that is not `null`. -/
def hasField (v : Json) (key : String) : Bool :=
  (v.member? key).any (!·.isNull)

/-! ## Records with a location -/

/-- The shape of a list of records with a location of row and column. -/
def locatedShape : Shape :=
  .list (.fields "struct RuffItem" [
    ⟨"filename", .required, .text⟩,
    ⟨"location", .required, .fields "struct RuffLocation" [
      ⟨"row", .required, .natural⟩, ⟨"column", .required, .natural⟩]⟩,
    ⟨"code", .optional .null, .orNull .text⟩,
    ⟨"message", .required, .text⟩,
    ⟨"fix", .optional .null, .orNull .anything⟩])

/-- The finding of a record. A record without a code reports a syntax error; codes of errors start
with E or F. -/
def located (v : Json) : Finding :=
  let code := ((v.member? "code").bind Json.string?).getD "E999"
  let place := (v.member? "location").getD .null
  { file := textField v "filename"
    message := textField v "message"
    line := natField place "row"
    column := natField place "column"
    code
    severity := if code.toList.head? = some 'E' || code.toList.head? = some 'F' then .error
      else .warning
    fixable := hasField v "fix" }

/-- The findings of a list of located records. -/
def ofLocatedRecords : String → Except OutputFault (List Finding) :=
  ofDocument fun text => do
    let v ← locatedShape.ofText text
    return (v.array?.getD []).map located

/-! ## Comments, bare or in an envelope -/

/-- The shape of one comment; every field has a default. -/
def commentShape : Shape :=
  .fields "struct ShellcheckItem" [
    ⟨"file", .optional (.string ""), .text⟩,
    ⟨"line", .optional (.nat 0), .natural⟩,
    ⟨"column", .optional (.nat 0), .natural⟩,
    ⟨"level", .optional (.string "error"), .text⟩,
    ⟨"code", .optional .null, .anything⟩,
    ⟨"message", .optional (.string ""), .text⟩,
    ⟨"fix", .optional .null, .orNull .anything⟩]

/-- The comments of a document: the member `comments` of an object, or a list. -/
def comments? (v : Json) : Option (List Json) :=
  let bare (v : Json) := (Shape.list commentShape).accept v |>.bind Json.array?
  match v with
  | .object ms =>
    match ms.filter (·.1 = "comments") with
    | [m] => bare m.2
    | _ => none
  | v => bare v

/-- The finding of a comment. A numeric code is a rule number. -/
def comment (v : Json) : Finding :=
  { file := textField v "file"
    message := textField v "message"
    line := natField v "line"
    column := natField v "column"
    code := match v.member? "code" with
      | some (.number n) => "SC" ++ n.render
      | some (.string s) => s
      | _ => ""
    severity := Severity.ofLabel (textField v "level")
    fixable := hasField v "fix" }

/-- The findings of a document of comments. The document is read as any value first, then held
against the two forms. -/
def ofComments : String → Except OutputFault (List Finding) :=
  ofDocument fun text => do
    let (v, c) ← JsonReader.value JsonReader.depthLimit (Cursor.ofText text)
    match comments? v with
    | none => .error ⟨.noShape "ShellcheckReport", none⟩
    | some vs =>
      JsonReader.finish c
      return vs.map comment

/-! ## Records with a level -/

/-- The shape of a list of records with a level. -/
def leveledShape : Shape :=
  .list (.fields "struct HadolintItem" [
    ⟨"file", .required, .text⟩,
    ⟨"line", .required, .natural⟩,
    ⟨"column", .optional .null, .orNull .natural⟩,
    ⟨"code", .required, .text⟩,
    ⟨"message", .required, .text⟩,
    ⟨"level", .required, .text⟩])

/-- The finding of a record. -/
def leveled (v : Json) : Finding :=
  { file := textField v "file"
    message := textField v "message"
    line := natField v "line"
    column := natField v "column"
    code := textField v "code"
    severity := Severity.ofLabel (textField v "level") }

/-- The findings of a list of records with a level. -/
def ofLeveledRecords : String → Except OutputFault (List Finding) :=
  ofDocument fun text => do
    let v ← leveledShape.ofText text
    return (v.array?.getD []).map leveled

end Findings

end Multilint
