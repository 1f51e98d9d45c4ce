import Mathlib.Data.List.Forall2
import AdvMcp.Tools.Run

/-!
# The proxy against `run`

Two doors lead to the methods of a model.  The proxy asks for the operation of its map, `run` for its gate.

* `LowersAscii` — what `str.lower` makes ASCII: nothing but letters of either case, and the Kelvin sign;
* `forwarded_shape` — so a name that the proxy forwards is as good as a key of the map: it has no white
  space, and none of the prefixes that `run` refuses;
* `forwarded_passes_iff` — what the proxy forwards passes the gate of `run` if it is a message, or if the
  method calls of the model are enabled and the model is not restricted.
-/

namespace AdvMcp.Rpc

open AdvMcp.Access AdvMcp.Py AdvMcp.Tools

/-! ### Lower case -/

/-- `d` is an ASCII character that `str.lower` makes of `c`. -/
def LowerOf (c d : Char) : Prop := d = c.toLower ∨ (c = '\u212a' ∧ d = 'k')

/-- A lower case text that is ASCII comes, character by character, from ASCII and Kelvin signs. -/
def LowersAscii (lo : Lower) : Prop :=
  ∀ s, (∀ c ∈ (lo.lower s).toList, c.toNat < 128) →
    List.Forall₂ LowerOf s.toList (lo.lower s).toList

/-- A character of the map's keys. -/
def IsKeyChar (c : Char) : Prop := (97 ≤ c.toNat ∧ c.toNat ≤ 122) ∨ c = '_'

instance (c : Char) : Decidable (IsKeyChar c) := by unfold IsKeyChar; infer_instance

lemma toLower_of_space {c : Char} (h : isSpace c = true) : c.toLower = c := by
  have hn : ¬ (c.val ≥ 'A'.val ∧ c.val ≤ 'Z'.val) := by
    rintro ⟨h1, h2⟩
    have h1' : 65 ≤ c.toNat := UInt32.le_iff_toNat_le.1 h1
    have h2' : c.toNat ≤ 90 := UInt32.le_iff_toNat_le.1 h2
    rw [isSpace_of_printable ⟨by omega, by omega⟩] at h
    cases h
  unfold Char.toLower
  exact dif_neg hn

/-- No white space is lowered to a character of a key. -/
lemma LowerOf.not_space {c d : Char} (h : LowerOf c d) (hd : IsKeyChar d) : isSpace c = false := by
  rw [← Bool.not_eq_true]
  intro hs
  rcases h with rfl | ⟨rfl, -⟩
  · rw [toLower_of_space hs] at hd
    have hp : 33 ≤ c.toNat ∧ c.toNat < 128 := by
      rcases hd with hd | rfl
      · omega
      · decide
    rw [isSpace_of_printable hp] at hs
    cases hs
  · exact absurd hs (by decide)

/-- A prefix in lower case is one of the lower case text. -/
lemma prefix_lower {p l k : List Char} (hl : List.Forall₂ LowerOf l k)
    (hp : ∀ c ∈ p, c.toLower = c ∧ c ≠ '\u212a') (h : p <+: l) : p <+: k := by
  induction p generalizing l k with
  | nil => exact List.nil_prefix
  | cons a p ih =>
    obtain ⟨l', rfl⟩ := h
    obtain ⟨ha, hp⟩ := List.forall_mem_cons.1 hp
    rw [List.cons_append, List.forall₂_cons_left_iff] at hl
    obtain ⟨d, k', hd, hl, rfl⟩ := hl
    have hda : d = a := by
      rcases hd with rfl | ⟨hk, -⟩
      · exact ha.1
      · exact absurd hk ha.2
    rw [hda]
    exact List.prefix_cons_inj a |>.2 (ih hl hp (List.prefix_append _ _))

/-- What still has no space after the replacement had none of the characters. -/
lemma replace_eq_self {a : Char} {s : String} (h : ' ' ∉ (replace a " " s).toList) : replace a " " s = s := by
  unfold replace at h ⊢
  rw [String.toList_ofList] at h
  have hid : ∀ d ∈ s.toList, (if d == a then (" " : String).toList else [d]) = [d] := by
    intro d hd
    refine if_neg fun hda => h (List.mem_flatMap.2 ⟨d, hd, ?_⟩)
    rw [if_pos hda]
    decide
  rw [List.flatMap_congr hid, List.flatMap_singleton', String.ofList_toList]

/-! ### The names that are forwarded -/

variable {g : Gateway} {odoo : Odoo} {xmlrpcMethod model method : String} {params params' : List Value}
  {c : Checked}

/-- What `run` makes of the name, and the prefixes and names that it looks for. -/
structure Shape (method : String) : Prop where
  strip : strip method = method
  underscore : startsWith "_" method = false
  web : startsWith "web_" method = false
  post : method ≠ "post_message"

lemma startsWith_lower {p : String} {k : String} (hl : List.Forall₂ LowerOf method.toList k.toList)
    (hp : ∀ c ∈ p.toList, c.toLower = c ∧ c ≠ '\u212a') (hk : startsWith p k = false) :
    startsWith p method = false := by
  unfold startsWith at hk ⊢
  rw [← Bool.not_eq_true, List.isPrefixOf_iff_prefix] at hk ⊢
  exact fun h => hk (prefix_lower hl hp h)

lemma key_chars : ∀ k ∈ methodOperationMap.map (·.1), ∀ c ∈ k.toList, IsKeyChar c ∧ c.toNat < 128 := by
  decide

lemma key_prefixes : ∀ k ∈ methodOperationMap.map (·.1),
    startsWith "_" k = false ∧ startsWith "web_" k = false := by
  decide

/-- A text whose lower case is a key has no white space. -/
lemma clean_of_key {lo : Lower} (hlow : LowersAscii lo) {s k : String}
    (hk : k ∈ methodOperationMap.map (·.1)) (hs : lo.lower s = k) : ∀ c ∈ s.toList, isSpace c = false := by
  intro c hc
  have hl : List.Forall₂ LowerOf s.toList k.toList :=
    hs ▸ hlow s (by rw [hs]; exact fun c hc => (key_chars k hk c hc).2)
  obtain ⟨i, hi, rfl⟩ := List.mem_iff_getElem.1 hc
  have hi' : i < k.toList.length := hl.length_eq ▸ hi
  exact (hl.get hi hi').not_space (key_chars k hk _ (List.getElem_mem hi')).1

/-- So it was in one line. -/
lemma oneLine_eq_self (h : ∀ c ∈ (oneLine g (.str method)).toList, isSpace c = false) :
    oneLine g (.str method) = method := by
  unfold oneLine Value.pyStr at h ⊢
  have hn : ' ' ∉ (replace '\n' " " (replace '\r' " " method)).toList := fun hs =>
    absurd (h _ hs) (by decide)
  have h1 := replace_eq_self hn
  rw [h1] at hn ⊢
  exact replace_eq_self hn

/-- **A name that is forwarded** has the shape of a key. -/
lemma forwarded_shape (hlow : LowersAscii g.lo) {k : String} (hk : k ∈ methodOperationMap.map (·.1))
    (hs : g.lo.lower (oneLine g (.str method)) = k) : Shape method := by
  have hclean := clean_of_key hlow hk hs
  have hline : oneLine g (.str method) = method := oneLine_eq_self hclean
  rw [hline] at hclean hs
  have hl : List.Forall₂ LowerOf method.toList k.toList :=
    hs ▸ hlow method (by rw [hs]; exact fun c hc => (key_chars k hk c hc).2)
  obtain ⟨hu, hw⟩ := key_prefixes k hk
  refine ⟨strip_of_clean hclean, startsWith_lower hl (by decide) hu, startsWith_lower hl (by decide) hw, ?_⟩
  rintro rfl
  have hpost : g.lo.lower "post_message" = "post_message" := by
    rw [g.lo.ascii _ (by decide)]
    decide
  rw [← hs, hpost] at hk
  exact absurd hk (by decide)

/-- What the proxy has checked, for the names of the request. -/
structure Verified (g : Gateway) (model method : String) : Prop where
  shape : Shape method
  accessible : isModelAccessible g.registry model = true
  mapped : ∀ op, methodOperationMap.lookup method = some op →
    verifyModelOperation g.registry g.lo model op.name = true

lemma forwarded_verified (hlow : LowersAscii g.lo)
    (h : advObjectDispatch g xmlrpcMethod params = .forwarded params' c) (hmodel : param params 3 = .str model)
    (hmethod : param params 4 = .str method) : Verified g model method := by
  obtain ⟨-, ⟨s, hs, hname⟩, -, hm, hacc, hop, hver⟩ := forwarded_spec h
  obtain rfl : model = s := Value.str.inj (hmodel.symm.trans hs)
  rw [hmethod] at hm
  have hsan : sanitizeOrLog model = some c.model := by
    unfold sanitizeOrLog
    rw [hname]
    rfl
  refine ⟨forwarded_shape hlow (mem_keys.2 ⟨_, hop⟩) hm.symm, ?_, fun op hop' => ?_⟩
  · rw [isModelAccessible_sanitize hsan]
    exact hacc
  · -- a key is its own copy, so the operation is the one that was verified
    rw [lower_oneLine_key (mem_keys.2 ⟨op, hop'⟩)] at hm
    rw [hm, hop'] at hop
    rw [verifyModelOperation_sanitize hsan, Option.some.inj hop]
    exact hver

lemma Shape.chatter (h : Shape method) : method ∈ chatterMethods ↔ method = "message_post" := by
  unfold chatterMethods
  rw [List.mem_cons, List.mem_singleton]
  exact or_iff_left h.post

/-- **The two doors.**  What the proxy forwards passes the gate of `run` too, for the same model and method,
if and only if it posts a message, or the method calls of the model are enabled, the model is not restricted,
and the name is a key of the map if it is generic. -/
theorem forwarded_passes_iff (g : Gateway) (odoo : Odoo) (hlow : LowersAscii g.lo) (xmlrpcMethod : String)
    (params params' : List Value) (c : Checked) (model method : String)
    (h : advObjectDispatch g xmlrpcMethod params = .forwarded params' c)
    (hmodel : param params 3 = .str model) (hmethod : param params 4 = .str method)
    (horm : method ∉ ormMethodBlocklist) :
    Gate g.registry g.lo odoo model (strip method) ↔
      method = "message_post" ∨ (MethodCalls g.registry model ∧ isRestricted model = false ∧
        (odoo.isGeneric method = true → method ∈ methodOperationMap.map (·.1))) := by
  have hv := forwarded_verified hlow h hmodel hmethod
  rw [hv.shape.strip]
  constructor
  · intro hg
    by_cases hc : method ∈ chatterMethods
    · exact Or.inl (hv.shape.chatter.1 hc)
    · have hgate := hg.called hc
      refine Or.inr ⟨hgate.methodCalls, hgate.unrestricted, fun hgen => ?_⟩
      cases hop : methodOperationMap.lookup method with
      | some op => exact mem_keys.2 ⟨op, hop⟩
      | none =>
        rw [hgate.generic hop] at hgen
        cases hgen
  · intro hcond
    refine ⟨hv.accessible, fun hc => ?_, fun hc => ?_⟩
    · obtain rfl := hv.shape.chatter.1 hc
      exact hv.mapped .write (by decide)
    · obtain ⟨hcalls, hr, hgen⟩ := hcond.resolve_left fun he => hc (hv.shape.chatter.2 he)
      refine ⟨hcalls, hv.shape.underscore, hr, hv.shape.web, horm, hv.mapped, fun hop => ?_⟩
      rw [← Bool.not_eq_true]
      intro hg
      obtain ⟨op, hop'⟩ := mem_keys.1 (hgen hg)
      rw [hop] at hop'
      cases hop'

/-- The letters of ASCII in lower case. -/
lemma lowersAscii_asciiLower : LowersAscii asciiLower := by
  intro s _
  have hl : (asciiLower.lower s).toList = s.toList.map Char.toLower := String.toList_ofList
  rw [hl, List.forall₂_map_right_iff]
  exact List.forall₂_same.2 fun c _ => Or.inl rfl

/-- The gateway of the sales orders, with or without method calls. -/
def callsGateway (methodCalls : Bool) : Gateway :=
  ⟨"erp", (saleCalls methodCalls).registry, asciiLower, fun _ => "[]"⟩

/-- An order is archived. -/
def archiveOrder : List Value :=
  [.str "erp", .int 2, .str "secret", .str "sale.order", .str "action_archive", .list [.list [.int 5]]]

lemma archiveOrder_forwarded (methodCalls : Bool) :
    advObjectDispatch (callsGateway methodCalls) "execute_kw" archiveOrder =
      .forwarded archiveOrder ⟨"erp", "sale.order", "action_archive", .write⟩ := by
  refine advObjectDispatch_of (s := "sale.order") rfl rfl (by decide) ?_ ?_ (by decide) ?_
  · cases methodCalls <;> decide
  · exact lower_oneLine_key (g := callsGateway methodCalls) (s := "action_archive") (by decide)
  · cases methodCalls <;> decide

/-- With the method calls of the model, both doors are open. -/
theorem forwarded_passes_archive : Gate (saleCalls true).registry asciiLower saleClasses "sale.order"
    (strip "action_archive") := by
  refine (forwarded_passes_iff (callsGateway true) saleClasses lowersAscii_asciiLower "execute_kw" _ _ _ _ _
    (archiveOrder_forwarded true) rfl rfl (by decide)).2 (Or.inr ⟨?_, by decide, fun _ => by decide⟩)
  exact (verifyModelMethod_iff.1 (show verifyModelMethod (saleCalls true).registry "sale.order" = true by
    decide)).2

/-- Without them the proxy still archives the order. -/
theorem forwarded_without_calls :
    advObjectDispatch (callsGateway false) "execute_kw" archiveOrder =
        .forwarded archiveOrder ⟨"erp", "sale.order", "action_archive", .write⟩ ∧
      "action_archive" ∉ ormMethodBlocklist ∧
      ¬ Gate (saleCalls false).registry asciiLower saleClasses "sale.order" (strip "action_archive") := by
  refine ⟨archiveOrder_forwarded false, by decide, fun hg => ?_⟩
  have hcalls := (hg.called (by decide)).methodCalls
  have hv : verifyModelMethod (saleCalls false).registry "sale.order" = true :=
    verifyModelMethod_iff.2 ⟨rfl, hcalls⟩
  exact absurd hv (by decide)

end AdvMcp.Rpc
