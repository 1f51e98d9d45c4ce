import AdvMcp.Lib.Base64
import AdvMcp.Server.Resources

/-!
# What `resources/read` answers

`_read_resource` of `models/tool_mixin.py` with the methods behind it: the binary field or the attachment that an
address names, behind the checks, as text or as Base64.

* `Files` — the stored bytes, and Odoo's guess of a mimetype;
* `readResource` — the entry, or the exception; `readResource_granted` — an entry is granted on a model that was
  asked;
* `recovered` — the bytes that a client makes of an entry;
* `recovered_iff` — the client gets the stored bytes unless they are no UTF-8 and are shown as text.
-/

namespace AdvMcp.Server

open AdvMcp.Access AdvMcp.Lib AdvMcp.Py AdvMcp.Read

/-! ### Entries -/

/-- `_TEXT_MIMETYPES` -/
def textMimetypes : List String :=
  ["application/json", "application/ld+json", "application/xml", "application/javascript",
    "application/ecmascript", "application/csv", "application/yaml", "application/x-yaml", "application/x-sh",
    "application/sql", "application/graphql", "image/svg+xml"]

def octetStream : String := "application/octet-stream"

/-- `s.endswith(p)` -/
def endsWith (p s : String) : Bool := p.toList.isSuffixOf s.toList

/-- The bytes of a text. -/
def utf8 (s : String) : List UInt8 := s.toUTF8.data.toList

/-- What is stored outside the records, and how Odoo and Python read it. -/
structure Files where
  /-- `model_rs._fields.get(field)`, by its type -/
  fieldType : String → String → Option String
  /-- a binary field without `bin_size`: its Base64, empty if it holds no data -/
  datas : Cell → String
  /-- `attachment.raw or b""` -/
  raw : ℤ → Except PyExc (List UInt8)
  /-- `guess_mimetype(raw, default="application/octet-stream")` -/
  guessMimetype : List UInt8 → String
  /-- `raw.decode("utf-8", errors="replace")` -/
  decodeText : List UInt8 → String
  /-- what is UTF-8 is not replaced -/
  decodeText_utf8 : ∀ s, decodeText (utf8 s) = s

/-- A decoding that replaces all of what is no UTF-8. -/
def replacedWhole (raw : List UInt8) : String := (String.fromUTF8? ⟨raw.toArray⟩).getD "\uFFFD"

lemma replacedWhole_utf8 (s : String) : replacedWhole (utf8 s) = s := by
  show (if h : s.toByteArray.IsValidUTF8 then some (String.fromUTF8 s.toByteArray h) else none).getD _ = s
  rw [dif_pos s.isValidUTF8]
  rfl

section Entries

variable (py : Builtins) (F : Files)

/-- `_is_text_mimetype` -/
def isTextMimetype (mimetype : String) : Bool :=
  let base := py.lower.lower (strip (String.ofList (mimetype.toList.takeWhile (· ≠ ';'))))
  if base = "" then false
  else startsWith "text/" base || base ∈ textMimetypes || endsWith "+json" base || endsWith "+xml" base

/-- `_build_content_entry` -/
def buildContentEntry (uri mimetype : String) (raw : List UInt8) : Dict :=
  let mimetype := if mimetype = "" then octetStream else mimetype
  [("uri", .str uri), ("mimeType", .str mimetype),
    if isTextMimetype py mimetype then ("text", .str (F.decodeText raw))
    else ("blob", .str (String.ofList (Base64.encode raw)))]

/-- A text that may be `False`. -/
def textOf (v : Value) : String := v.str?.getD ""

/-- The mimetype of an attachment; without one it is guessed. -/
def Files.mimetype (v : Value) (raw : List UInt8) : String := if textOf v = "" then F.guessMimetype raw else textOf v

/-! ### Reading -/

variable (env : Read.Env) (D : Digits)

/-- `base64.b64decode(value)` -/
def b64decode (value : String) : Except PyExc (List UInt8) :=
  match Base64.decode value.toList with
  | some raw => .ok raw
  | none => .error (.of .valueError "Incorrect padding")

/-- `_record_field_mimetype` -/
def recordFieldMimetype (model : String) (recordId : ℤ) (field : String) (raw : List UInt8) :
    Except PyExc String := do
  let ids ← env.search "ir.attachment" [.list [.str "res_model", .str "=", .str model],
    .list [.str "res_id", .str "=", .int recordId], .list [.str "res_field", .str "=", .str field]] 0 1 .none
  match ids with
  | i :: _ =>
    return F.mimetype (← env.attr "ir.attachment" i "mimetype") raw
  | [] => return F.guessMimetype raw

/-- `_read_record_field` -/
def readRecordField (uri : String) (ref : RecordFieldURI) : Except PyExc Dict := do
  resolveModel env ref.model
  checkOp py env ref.model "read"
  match F.fieldType ref.model ref.field with
  | none => throw (.of .userError ("Unknown field '" ++ ref.field ++ "' on model '" ++ ref.model ++ "'."))
  | some type =>
    if type ∉ binaryFieldTypes then
      throw (.of .userError ("Field '" ++ ref.field ++ "' on '" ++ ref.model ++ "' is not a binary field."))
    let i ← browseRecordOrRaise py env ref.model (.int ref.recordId)
    orRaise (env.checkRead ref.model [i] [ref.field])
    let value := F.datas ⟨ref.model, i, ref.field⟩
    if value = "" then
      throw (.of .missingError ("Field '" ++ ref.field ++ "' on " ++ ref.model ++ "/" ++
        toString ref.recordId ++ " holds no data."))
    let raw ← b64decode value
    let mimetype ← recordFieldMimetype F env ref.model ref.recordId ref.field raw
    return buildContentEntry py F uri mimetype raw

/-- `_check_attachment_allowed` -/
def checkAttachmentAllowed (attachmentId : ℤ) : Except PyExc Unit :=
  if verifyModelOperation env.registry py.lower "ir.attachment" "read" then .ok ()
  else do
    let resModel := textOf (← env.attr "ir.attachment" attachmentId "res_model")
    if resModel ≠ "" && verifyModelOperation env.registry py.lower resModel "read" then return ()
    else throw (.of .accessError ("Attachment access via Adv MCP requires 'ir.attachment' or the " ++
      "attachment's parent model to be enabled for read."))

/-- `_read_attachment` -/
def readAttachment (uri : String) (attachmentId : ℤ) : Except PyExc Dict := do
  if !env.present "ir.attachment" attachmentId then
    throw (.of .missingError ("Attachment not found: " ++ toString attachmentId))
  checkAttachmentAllowed py env attachmentId
  let mimetype ← env.attr "ir.attachment" attachmentId "mimetype"
  let raw ← F.raw attachmentId
  return buildContentEntry py F uri (F.mimetype mimetype raw) raw

/-- `_read_resource` -/
def readResource (uri : String) : Except PyExc Dict :=
  if !startsWith "odoo://" uri then .error (.of .userError ("Invalid resource URI: " ++ uri))
  else do
    match ← parseFieldUri D uri with
    | some ref => readRecordField py F env uri ref
    | none =>
      match ← parseAttachmentUri D uri with
      | some attachmentId => readAttachment py F env uri attachmentId
      | none => throw (.of .userError ("Unsupported resource URI: " ++ uri))

end Entries

/-! ### The checks in front of an entry -/

section Granted

variable {py : Builtins} {F : Files} {env : Read.Env} {D : Digits} {uri : String} {entry : Dict}

/-- An attachment is opened by `ir.attachment` or by its model. -/
lemma checkAttachmentAllowed_ok {i : ℤ} (hp : env.present "ir.attachment" i = true)
    (h : checkAttachmentAllowed py env i = .ok ()) :
    ∃ m ∈ attachmentAsked py env i, verifyModelOperation env.registry py.lower m "read" = true := by
  unfold checkAttachmentAllowed at h
  by_cases hv : verifyModelOperation env.registry py.lower "ir.attachment" "read" = true
  · refine ⟨"ir.attachment", ?_, hv⟩
    unfold attachmentAsked
    simp only [hp, hv, Bool.not_true, Bool.false_eq_true, if_false, if_true, List.mem_singleton]
  · rw [if_neg hv] at h
    obtain ⟨v, hattr, h⟩ := except_bind_ok.1 h
    have hm : textOf v ≠ "" ∧ verifyModelOperation env.registry py.lower (textOf v) "read" = true := by
      simp only at h
      split_ifs at h with hm
      simpa only [Bool.and_eq_true, decide_eq_true_eq] using hm
    obtain ⟨hne, hread⟩ := hm
    obtain ⟨m, rfl⟩ : ∃ m, v = .str m := by
      cases v with
      | str m => exact ⟨m, rfl⟩
      | _ => exact absurd rfl hne
    refine ⟨m, ?_, hread⟩
    rw [attachmentAsked_parent hp (by simpa using hv) hattr hne]
    exact List.mem_cons_of_mem _ (List.mem_singleton_self m)

/-- **What is read is granted** on one of the models whose access is asked for. -/
theorem readResource_granted (h : readResource py F env D uri = .ok entry) :
    ∃ m ∈ accessAsked py env D uri, verifyModelOperation env.registry py.lower m "read" = true := by
  unfold readResource at h
  split_ifs at h with hs
  obtain ⟨parsed, hf, h⟩ := except_bind_ok.1 h
  cases parsed with
  | some ref =>
    obtain ⟨⟨⟩, hm, h⟩ := except_bind_ok.1 (show readRecordField py F env uri ref = .ok entry from h)
    obtain ⟨⟨⟩, hop, -⟩ := except_bind_ok.1 h
    obtain ⟨hne, hknown, -⟩ := resolveModel_ok.1 hm
    refine ⟨ref.model, ?_, checkOp_ok hop⟩
    unfold accessAsked
    simp [hs, hf, hne, hknown]
  | none =>
    obtain ⟨found, ha, h⟩ := except_bind_ok.1 h
    cases found with
    | none => cases h
    | some i =>
      have hread : readAttachment py F env uri i = .ok entry := h
      unfold readAttachment at hread
      by_cases hp : env.present "ir.attachment" i = true
      · rw [if_neg (by simpa using hp)] at hread
        obtain ⟨⟨⟩, hallowed, -⟩ := except_bind_ok.1 hread
        rw [accessAsked_attachment ha]
        exact checkAttachmentAllowed_ok hp hallowed
      · rw [if_pos (by simpa using hp)] at hread
        cases hread

end Granted

/-! ### The client -/

/-- What a client makes of an entry: the bytes of the text, or those of the Base64. -/
def recovered (entry : Dict) : Option (List UInt8) :=
  match entry.get "text" with
  | .str text => some (utf8 text)
  | _ =>
    match entry.get "blob" with
    | .str blob => Base64.decode blob.toList
    | _ => none

section Client

variable {py : Builtins} {F : Files} {uri mimetype : String} {raw : List UInt8}

/-- The mimetype of an entry. -/
def shownMimetype (mimetype : String) : String := if mimetype = "" then octetStream else mimetype

/-- **The bytes come back** as text exactly if they are UTF-8, and always as Base64. -/
theorem recovered_iff : recovered (buildContentEntry py F uri mimetype raw) = some raw ↔
    (isTextMimetype py (shownMimetype mimetype) = true → ∃ s, raw = utf8 s) := by
  unfold recovered buildContentEntry shownMimetype
  simp only
  by_cases ht : isTextMimetype py (if mimetype = "" then octetStream else mimetype) = true
  · rw [if_pos ht]
    constructor
    · intro h _
      exact ⟨_, (Option.some.inj h).symm⟩
    · intro h
      obtain ⟨s, rfl⟩ := h ht
      rw [F.decodeText_utf8]
      rfl
  · rw [if_neg ht]
    refine iff_of_true ?_ fun h => absurd h ht
    show Base64.decode (String.ofList (Base64.encode raw)).toList = some raw
    rw [String.toList_ofList, Base64.decode_encode]

end Client

end AdvMcp.Server
