import AdvMcp.Server.Contents
import AdvMcp.Tools.Mutations

/-!
# Uploads

`attach` of `models/write_tools.py`, and what `resources/read` makes of the address that it answers.

* `Orm.attach` — the tool;
* `Stores` — what Odoo does with a new attachment: it keeps the bytes of `datas`, the mimetype and the parent;
* `Readable` — the gateway opens the attachment to readers;
* `upload_read` — what is read at the address of an upload.
-/

namespace AdvMcp.Tools

open AdvMcp.Access AdvMcp.Lib AdvMcp.Py AdvMcp.Read AdvMcp.Server

section Arguments

variable (py : Builtins) (env : Read.Env)

def uploadRefused : PyExc :=
  .of .accessError "Upload requires 'ir.attachment' or the target model to be enabled for create."

/-- `_check_upload_allowed`; of a model that is no string the pattern of a name raises, on an enabled gateway. -/
def checkUploadAllowed (resModel : Value) : Except PyExc Unit :=
  if verifyModelOperation env.registry py.lower "ir.attachment" "create" then .ok ()
  else match resModel with
    | .str model =>
      if model ≠ "" && verifyModelOperation env.registry py.lower model "create" then .ok ()
      else .error uploadRefused
    | v =>
      if v.truthy && env.registry.enabled then
        .error (.of .typeError ("expected string or bytes-like object, got '" ++ v.typeName ++ "'"))
      else .error uploadRefused

/-- `base64.b64decode(content)`: of an ASCII string. -/
def contentBytes (content : Value) : Except PyExc (List UInt8) :=
  match content with
  | .str s =>
    if s.toList.all fun c => c.toNat < 128 then
      match Base64.decode s.toList with
      | some raw => .ok raw
      | none => .error (.of .userError "'content' must be valid base64.")
    else .error (.of .userError "'content' must be valid base64.")
  | _ => .error (.of .userError "'content' must be valid base64.")

/-- The values of the attachment. -/
def uploadValues (filename content mimetype resModel : Value) (resId : Option ℤ) : Dict :=
  [("name", filename), ("datas", content)] ++ (if mimetype.truthy then [("mimetype", mimetype)] else []) ++
    (if resModel.truthy then [("res_model", resModel)] else []) ++ (resId.map fun i => ("res_id", .int i)).toList

end Arguments

section Tool

variable {σ : Type} (O : Orm σ)

/-- `int(res_id)`, if there is one. -/
def resIdArg (py : Builtins) : Value → Except PyExc (Option ℤ)
  | .none => .ok none
  | v => some <$> py.int v

/-- The arguments of `attach`, checked: the size and the values. -/
def Orm.attachArgs (db : σ) (args : Dict) : Except PyExc (ℕ × Dict) := do
  bindKeywords "attach" ["filename", "content"] ["mimetype", "res_model", "res_id"] args
  checkUploadAllowed O.py (O.env db) (args.get "res_model")
  let raw ← contentBytes (args.get "content")
  let resId ← resIdArg O.py (args.get "res_id")
  return (raw.length, uploadValues (args.get "filename") (args.get "content") (args.get "mimetype")
    (args.get "res_model") resId)

/-- The address of an attachment. -/
def attachmentUri (i : ℤ) : String := "odoo://attachment/" ++ toString i

/-- The reply to an upload. -/
def uploaded (py : Builtins) (filename : Value) (i : ℤ) (size : ℕ) : Value :=
  result ("Uploaded '" ++ py.str filename ++ "' as attachment " ++ toString i ++ " (" ++ toString size ++
      " bytes)\n" ++ attachmentUri i)
    (.dict [("success", .bool true), ("attachment_id", .int i), ("uri", .str (attachmentUri i)),
      ("filename", filename), ("size", .int size)])

/-- `attach` -/
def Orm.attach (args : Dict) : EStateM PyExc (Journal σ Performed) Value := do
  let (size, values) ← peek fun s => O.attachArgs s.1 args
  let i ← logged ⟨"ir.attachment", "create"⟩ (O.create "ir.attachment" values)
  return uploaded O.py (args.get "filename") i size

end Tool

/-! ### What Odoo keeps -/

/-- `str(v)` as a Char field keeps it; nothing of what is falsy. -/
def charText (py : Builtins) (v : Value) : String := if v.truthy then py.str v else ""

/-- A new attachment with these values: `keep` is what Odoo makes of the bytes under the mimetype (it makes large
images smaller). -/
structure Stored (py : Builtins) (env : Read.Env) (F : Files) (keep : String → List UInt8 → List UInt8) (values : Dict)
    (i : ℤ) : Prop where
  id_nonneg : 0 ≤ i
  id_lt : i < 2147483648
  present : env.present "ir.attachment" i = true
  parent : ∃ v, env.attr "ir.attachment" i "res_model" = .ok v ∧ textOf v = charText py (values.get "res_model")
  kept : ∃ v, env.attr "ir.attachment" i "mimetype" = .ok v ∧ ∀ s raw, values.get "datas" = .str s →
    Base64.decode s.toList = some raw → F.raw i = .ok (keep (textOf v) raw)

def Stores {σ : Type} (O : Orm σ) (files : σ → Files) (keep : String → List UInt8 → List UInt8) : Prop :=
  ∀ values db i db', O.create "ir.attachment" values db = .ok i db' →
    Stored O.py (O.env db') (files db') keep values i

/-- The gateway opens the attachment to readers, by itself or by the model that it belongs to. -/
def Readable (py : Builtins) (env : Read.Env) (parent : String) : Prop :=
  verifyModelOperation env.registry py.lower "ir.attachment" "read" = true ∨
    parent ≠ "" ∧ verifyModelOperation env.registry py.lower parent "read" = true

section Uploads

variable {σ : Type} {O : Orm σ} {files : σ → Files} {keep : String → List UInt8 → List UInt8} {args values : Dict}
  {out : Value} {s s' : Journal σ Performed} {py : Builtins} {env : Read.Env} {F : Files} {D : Digits} {i : ℤ}
  {raw : List UInt8}

lemma contentBytes_ok {content : Value} (h : contentBytes content = .ok raw) :
    ∃ s, content = .str s ∧ Base64.decode s.toList = some raw := by
  unfold contentBytes at h
  cases content with
  | str s =>
    simp only at h
    split_ifs at h
    cases hd : Base64.decode s.toList with
    | none =>
      rw [hd] at h
      cases h
    | some r =>
      rw [hd] at h
      obtain rfl := Except.ok.inj h
      exact ⟨s, rfl, hd⟩
  | _ => cases h

/-- The keys of the values. -/
lemma uploadValues_get (py : Builtins) (filename content mimetype resModel : Value) (resId : Option ℤ) :
    (uploadValues filename content mimetype resModel resId).get "datas" = content ∧
      charText py ((uploadValues filename content mimetype resModel resId).get "res_model") =
        charText py resModel := by
  have hparent : (uploadValues filename content mimetype resModel resId).get "res_model" =
      if resModel.truthy then resModel else .none := by
    unfold uploadValues
    split_ifs <;> cases resId <;> rfl
  refine ⟨rfl, ?_⟩
  rw [hparent]
  unfold charText
  by_cases hr : resModel.truthy = true
  · rw [if_pos hr]
  · rw [if_neg hr, if_neg hr]
    rfl

/-- The arguments that pass. -/
lemma attachArgs_ok {db : σ} {size : ℕ} (h : O.attachArgs db args = .ok (size, values)) :
    checkUploadAllowed O.py (O.env db) (args.get "res_model") = .ok () ∧
      ∃ content raw, args.get "content" = .str content ∧ Base64.decode content.toList = some raw ∧
        size = raw.length ∧ values.get "datas" = .str content ∧
        charText O.py (values.get "res_model") = charText O.py (args.get "res_model") := by
  unfold Orm.attachArgs at h
  obtain ⟨⟨⟩, -, h⟩ := except_bind_ok.1 h
  obtain ⟨⟨⟩, hup, h⟩ := except_bind_ok.1 h
  obtain ⟨raw, hraw, h⟩ := except_bind_ok.1 h
  obtain ⟨resId, -, h⟩ := except_bind_ok.1 h
  obtain ⟨rfl, rfl⟩ := Prod.mk.inj (except_pure_ok.1 h)
  obtain ⟨content, hc, hd⟩ := contentBytes_ok hraw
  obtain ⟨hdatas, hparent⟩ := uploadValues_get O.py (args.get "filename") (args.get "content")
    (args.get "mimetype") (args.get "res_model") resId
  exact ⟨hup, content, raw, hc, hd, rfl, hdatas.trans hc, hparent⟩

/-- The address of an attachment is parsed back. -/
lemma parse_attachmentUri (h0 : 0 ≤ i) (h : i < 2147483648) :
    parseFieldUri D (attachmentUri i) = .ok none ∧ parseAttachmentUri D (attachmentUri i) = .ok (some i) := by
  have hlen : (Nat.toDigits 10 i.natAbs).length ≤ 10 :=
    (Nat.length_toDigits_le_iff (by omega) (by omega)).2 (by omega)
  have hbuild : buildAttachmentUri plainBuiltins i = .ok (attachmentUri i) :=
    buildAttachmentUri_ok.2 ⟨by unfold maxStrDigits; omega, String.toList_append⟩
  have hparse : parseAttachmentUri D (attachmentUri i) = .ok (some i) := (parse_build_attachment hbuild).2 h0
  refine ⟨?_, hparse⟩
  unfold parseFieldUri
  cases hg : fieldGroups D (attachmentUri i) with
  | none => rfl
  | some g =>
    obtain ⟨m, ds, f⟩ := g
    obtain ⟨-, -, -, nl, -, huri⟩ := fieldGroups_iff.1 hg
    have hseven := congrArg (fun l => l[7]?) huri
    unfold attachmentUri at hseven
    revert hseven
    simp

lemma readResource_attachment (h0 : 0 ≤ i) (h : i < 2147483648) :
    readResource py F env D (attachmentUri i) = readAttachment py F env (attachmentUri i) i := by
  have hstart : startsWith "odoo://" (attachmentUri i) = true := by
    rw [startsWith_iff]
    exact ⟨"attachment/".toList ++ (toString i).toList, by unfold attachmentUri; simp⟩
  obtain ⟨hf, ha⟩ := parse_attachmentUri (D := D) h0 h
  unfold readResource
  rw [hstart, if_neg (by simp), hf, ok_bind, ha, ok_bind]

/-- A stored attachment that the gateway opens is read, and otherwise it is refused. -/
lemma readAttachment_stored (uri : String) {content : String} (hs : Stored py env F keep values i)
    (hd : values.get "datas" = .str content) (hraw : Base64.decode content.toList = some raw) :
    ∃ v, env.attr "ir.attachment" i "mimetype" = .ok v ∧
      (Readable py env (charText py (values.get "res_model")) →
        readAttachment py F env uri i = .ok (buildContentEntry py F uri
          (F.mimetype v (keep (textOf v) raw)) (keep (textOf v) raw))) ∧
      (¬ Readable py env (charText py (values.get "res_model")) →
        ∃ e, readAttachment py F env uri i = .error e ∧ e.cls = .accessError) := by
  obtain ⟨v, hv, hparent⟩ := hs.parent
  obtain ⟨m, hm, hkept⟩ := hs.kept
  have hkept := hkept content raw hd hraw
  refine ⟨m, hm, fun hread => ?_, fun hread => ?_⟩
  · have hallowed : checkAttachmentAllowed py env i = .ok () := by
      unfold checkAttachmentAllowed
      split_ifs with ha
      · rfl
      · obtain ⟨hne, hver⟩ := hread.resolve_left ha
        rw [hv, ok_bind, hparent, if_pos (by simp [hne, hver])]
        rfl
    unfold readAttachment
    rw [hs.present, if_neg (by simp)]
    show (checkAttachmentAllowed py env i >>= _) = _
    rw [hallowed, ok_bind, hm, ok_bind, hkept, ok_bind]
    rfl
  · rw [Readable, not_or, not_and] at hread
    have hrefused : ∃ e, checkAttachmentAllowed py env i = .error e ∧ e.cls = .accessError := by
      unfold checkAttachmentAllowed
      rw [if_neg hread.1, hv, ok_bind, hparent, if_neg]
      · exact ⟨_, rfl, rfl⟩
      · simp only [ne_eq, Bool.and_eq_true, decide_eq_true_eq, not_and]
        exact hread.2
    obtain ⟨e, he, hcls⟩ := hrefused
    refine ⟨e, ?_, hcls⟩
    unfold readAttachment
    rw [hs.present, if_neg (by simp)]
    show (checkAttachmentAllowed py env i >>= _) = _
    rw [he]
    rfl

/-- The model opens uploads to the caller. -/
def Opens (py : Builtins) (env : Read.Env) (resModel : Value) : Prop :=
  verifyModelOperation env.registry py.lower "ir.attachment" "create" = true ∨
    ∃ model, resModel = .str model ∧ verifyModelOperation env.registry py.lower model "create" = true

lemma checkUploadAllowed_ok {resModel : Value} (h : checkUploadAllowed py env resModel = .ok ()) :
    Opens py env resModel := by
  unfold checkUploadAllowed at h
  split_ifs at h with ha
  · exact Or.inl ha
  · cases resModel with
    | str model =>
      simp only at h
      split_ifs at h with hm
      simp only [Bool.and_eq_true] at hm
      exact Or.inr ⟨model, rfl, hm.2⟩
    | _ =>
      simp only at h
      split_ifs at h

/-- Base64 of bytes comes back as the text that was sent exactly if that was canonical. -/
lemma blob_iff {uri mimetype content : String} (ht : isTextMimetype py (shownMimetype mimetype) = false)
    (hd : Base64.decode content.toList = some raw) :
    (buildContentEntry py F uri mimetype raw).get "blob" = .str content ↔ Base64.Canonical content.toList := by
  have hblob : (buildContentEntry py F uri mimetype raw).get "blob" =
      .str (String.ofList (Base64.encode raw)) := by
    unfold shownMimetype at ht
    unfold buildContentEntry
    simp only [ht]
    rfl
  rw [hblob, ← Base64.encode_eq_iff hd, Value.str.injEq]
  constructor
  · rintro rfl
    rw [String.toList_ofList]
  · intro h
    rw [h, String.ofList_toList]

/-- What a client gets of the upload `content`, of which `kept` was kept. -/
structure Fetched (py : Builtins) (content mimetype : String) (kept : List UInt8) (entry : Dict) : Prop where
  bytes : recovered entry = some kept ↔ (isTextMimetype py (shownMimetype mimetype) = true → ∃ t, kept = utf8 t)
  blob : isTextMimetype py (shownMimetype mimetype) = false → Base64.decode content.toList = some kept →
    (entry.get "blob" = .str content ↔ Base64.Canonical content.toList)

lemma fetched_entry (F : Files) (uri content mimetype : String) (kept : List UInt8) :
    Fetched py content mimetype kept (buildContentEntry py F uri mimetype kept) where
  bytes := recovered_iff
  blob := blob_iff

/-- **An upload**, with any arguments: the reply names the size of what was sent and the address of the new
attachment.  At this address `resources/read` gives the bytes that Odoo kept, if the gateway opens the attachment
to readers; as text they come back if they are UTF-8, and as Base64 the text that was sent comes back if it was
canonical. -/
theorem upload_read (D : Digits) (hst : Stores O files keep) (h : O.attach args s = .ok out s') :
    Opens O.py (O.env s.1) (args.get "res_model") ∧
    ∃ i content raw v, args.get "content" = .str content ∧ Base64.decode content.toList = some raw ∧
      out = uploaded O.py (args.get "filename") i raw.length ∧
      (O.env s'.1).attr "ir.attachment" i "mimetype" = .ok v ∧
      (¬ Readable O.py (O.env s'.1) (charText O.py (args.get "res_model")) →
        ∃ e, readResource O.py (files s'.1) (O.env s'.1) D (attachmentUri i) = .error e ∧ e.cls = .accessError) ∧
      (Readable O.py (O.env s'.1) (charText O.py (args.get "res_model")) →
        ∃ entry, readResource O.py (files s'.1) (O.env s'.1) D (attachmentUri i) = .ok entry ∧
          Fetched O.py content ((files s'.1).mimetype v (keep (textOf v) raw)) (keep (textOf v) raw) entry) := by
  obtain ⟨⟨size, values⟩, s₁, hp, h⟩ := bind_ok.1 h
  obtain ⟨ha, rfl⟩ := peek_ok.1 hp
  obtain ⟨i, s₂, hc, h⟩ := bind_ok.1 h
  obtain ⟨hc, -⟩ := logged_ok.1 hc
  obtain ⟨rfl, rfl⟩ := pure_ok.1 h
  obtain ⟨hup, content, raw, hcontent, hd, rfl, hdatas, hparent⟩ := attachArgs_ok ha
  have hs : Stored O.py (O.env s₂.1) (files s₂.1) keep values i := hst _ _ _ _ hc
  obtain ⟨v, hv, hread, hrefused⟩ := readAttachment_stored (attachmentUri i) hs hdatas hd
  rw [hparent, ← readResource_attachment (D := D) hs.id_nonneg hs.id_lt] at hread hrefused
  exact ⟨checkUploadAllowed_ok hup, i, content, raw, v, hcontent, hd, rfl, hv, hrefused,
    fun hr => ⟨_, hread hr, fetched_entry _ _ _ _ _⟩⟩

end Uploads

/-! ### A note -/

/-- Attachments that anyone may create, and that are open to readers by the orders that they belong to. -/
def uploadRegistry : Registry where
  enabled := true
  modules := [⟨1, "base", true, ⟨false, true, false, false, false⟩⟩, ⟨2, "sale", true, ⟨true, true, false, false, false⟩⟩]
  overrides := [⟨1, 10, ⟨false, true, false, false, false⟩⟩, ⟨2, 11, ⟨true, true, false, false, false⟩⟩]
  models := [⟨10, "ir.attachment", "Attachment", "base", false⟩, ⟨11, "sale.order", "Sales Order", "sale", false⟩]
  models_unique := by decide
  models_named := by decide

/-- The files of a database that holds the values of its last attachment. -/
def noteFiles (db : Dict) : Files where
  fieldType _ _ := none
  datas _ := ""
  raw _ := match db.get "datas" with
    | .str datas => .ok ((Base64.decode datas.toList).getD [])
    | _ => .ok []
  guessMimetype _ := octetStream
  decodeText := replacedWhole
  decodeText_utf8 := replacedWhole_utf8

def noteOrm : Orm Dict where
  py := plainBuiltins
  odoo := saleClasses
  env db :=
    { partnerEnv with
      registry := uploadRegistry
      present := fun _ _ => true
      value := fun c => .str (charText plainBuiltins (db.get c.field)) }
  fields _ := []
  create _ values := fun _ => .ok 7 values
  write _ _ _ := pure ()
  unlink _ _ := pure ()
  invoke _ := pure .none
  dumps _ := "null"

lemma noteOrm_stores : Stores noteOrm noteFiles fun _ raw => raw := by
  intro values db i db' h
  obtain ⟨rfl, rfl⟩ := EStateM.Result.ok.inj (show EStateM.Result.ok 7 values = .ok i db' from h)
  refine ⟨by omega, by omega, rfl, ⟨_, rfl, rfl⟩, ⟨_, rfl, fun s raw hd hraw => ?_⟩⟩
  show (match values.get "datas" with
    | .str datas => Except.ok ((Base64.decode datas.toList).getD [])
    | _ => .ok []) = _
  rw [hd]
  simp only [hraw, Option.getD_some]

def noteArguments : Dict :=
  [("filename", .str "note.txt"), ("content", .str "SGkh"), ("mimetype", .str "text/plain"),
    ("res_model", .str "sale.order")]

/-- The note is read at its address. -/
theorem upload_read_note : ∃ out s', noteOrm.attach noteArguments ([], []) = .ok out s' ∧ ∃ i entry,
    readResource plainBuiltins (noteFiles s'.1) (noteOrm.env s'.1) asciiDigits (attachmentUri i) = .ok entry := by
  have h : noteOrm.attach noteArguments ([], []) = .ok _ _ := rfl
  obtain ⟨-, i, content, raw, v, -, -, -, -, -, hread⟩ := upload_read asciiDigits noteOrm_stores h
  obtain ⟨entry, hentry, -⟩ := hread (Or.inr ⟨by decide, by decide⟩)
  exact ⟨_, _, h, i, entry, hentry⟩

end AdvMcp.Tools
