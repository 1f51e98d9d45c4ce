import AdvMcp.Access.Lookups
import AdvMcp.Lib.Decimal
import AdvMcp.Py.Builtins

/-!
# The `odoo://` scheme

The addresses of binary fields and of attachments, of `tools/uri_schema.py`.
-/

namespace AdvMcp.Read

open AdvMcp.Py AdvMcp.Access AdvMcp.Lib

/-- `sys.get_int_max_str_digits()` -/
def maxStrDigits : ℕ := 4300

/-- The `ValueError` of a conversion between an integer and more digits than that. -/
def tooManyDigits : PyExc :=
  .of .valueError "Exceeds the limit (4300 digits) for integer string conversion"

/-- `re.match(r"^[a-zA-Z][a-zA-Z0-9_.]*$", model)`: the `$` also matches in front of a final newline. -/
def isValidModelName (model : String) : Bool :=
  let l := model.toList
  let l := if l.getLast? = some '\n' then l.dropLast else l
  match l with
  | [] => false
  | c :: cs => c.isAlpha && cs.all isNameChar

/-- `f"\x7bv\x7d"` -/
def formatted (py : Builtins) : Value → Except PyExc String
  | .int n => if maxStrDigits < (Nat.toDigits 10 n.natAbs).length then .error tooManyDigits else .ok (toString n)
  | v => .ok (py.str v)

def buildFieldUri (py : Builtins) (model : String) (recordId : Value) (field : String) :
    Except PyExc String :=
  if !isValidModelName model then .error (.of .valueError ("Invalid model name: " ++ model))
  else if field = "" then .error (.of .valueError "Field name is required")
  else do return "odoo://record/" ++ model ++ "/" ++ (← formatted py recordId) ++ "/" ++ field

def buildAttachmentUri (py : Builtins) (attachmentId : ℤ) : Except PyExc String := do
  return "odoo://attachment/" ++ (← formatted py (.int attachmentId))

/-! ### Parsing -/

structure RecordFieldURI where
  model : String
  recordId : ℤ
  field : String

/-- What `$` leaves out: a final newline. -/
def beforeEnd (l : List Char) : List Char := if l.getLast? = some '\n' then l.dropLast else l

/-- `[a-zA-Z0-9_]` -/
def isFieldChar (c : Char) : Bool := c.isAlphanum || c == '_'

/-- A letter, and then characters of a class. -/
def isIdentifier (p : Char → Bool) : List Char → Bool
  | [] => false
  | c :: cs => c.isAlpha && cs.all p

/-- `\d+` -/
def isNumber (D : Digits) (ds : List Char) : Bool := !ds.isEmpty && ds.all D.isDigit

/-- `int(s)`, of a number. -/
def intOfDigits (D : Digits) (ds : List Char) : Except PyExc ℤ :=
  if maxStrDigits < ds.length then .error tooManyDigits else .ok (D.number ds)

/-- The text behind a prefix. -/
def behind (p : String) (l : List Char) : Option (List Char) :=
  if p.toList.isPrefixOf l then some (l.drop p.toList.length) else none

/-- The parts in front of the first slash and behind it. -/
def cutSlash (l : List Char) : Option (List Char × List Char) :=
  match l.dropWhile (· ≠ '/') with
  | [] => none
  | _ :: r => some (l.takeWhile (· ≠ '/'), r)

/-- The groups of `RECORD_FIELD_URI_PATTERN`. -/
def fieldGroups (D : Digits) (uri : String) : Option (List Char × List Char × List Char) := do
  let l ← behind "odoo://record/" uri.toList
  let (model, l) ← cutSlash l
  let (ds, l) ← cutSlash l
  let field := beforeEnd l
  if isIdentifier isNameChar model && isNumber D ds && isIdentifier isFieldChar field then
    some (model, ds, field)
  else none

/-- `parse_field_uri`; `none` is a `URIParseError`. -/
def parseFieldUri (D : Digits) (uri : String) : Except PyExc (Option RecordFieldURI) :=
  match fieldGroups D uri with
  | none => .ok none
  | some (model, ds, field) => do
    return some ⟨String.ofList model, ← intOfDigits D ds, String.ofList field⟩

/-- The group of `ATTACHMENT_URI_PATTERN`. -/
def attachmentGroup (D : Digits) (uri : String) : Option (List Char) := do
  let l ← behind "odoo://attachment/" uri.toList
  let ds := beforeEnd l
  if isNumber D ds then some ds else none

/-- `parse_attachment_uri`; `none` is a `URIParseError`. -/
def parseAttachmentUri (D : Digits) (uri : String) : Except PyExc (Option ℤ) :=
  match attachmentGroup D uri with
  | none => .ok none
  | some ds => do return some (← intOfDigits D ds)

end AdvMcp.Read
