import AdvMcp.Lib.Groups
import AdvMcp.Py.Text
import AdvMcp.Server.AuthFailure

/-!
# The credentials of a request

`_extract_bearer_token` of `models/http_layer.py`, and API keys with their scopes: `models/apikeys.py`, and the
lookups of `get_user_from_api_key`.

* `extractBearerToken` — the token of an `Authorization` header; `Bears` — the forms of a header with a token;
* `bears_iff` — the two agree, for every header;
* `generate`, `makeKey` — the rows of `res.users.apikeys`; `getUser` — the user of a key, by the scopes that a
  door takes;
* `getUser_scope` — a door finds nobody by a key whose rows have a scope that it does not take.
-/

namespace AdvMcp.Server

open AdvMcp.Lib AdvMcp.Py

/-! ### The header -/

def authSchemeNames : List String := ["bearer", "basic", "digest", "negotiate", "ntlm"]

/-- `bearer\s+`, in any case -/
def bearerPrefix : Regex :=
  .seqs ("bearer".toList.map (fun c => .set fun d => d.toLower = c) ++ [.plus (.set isSpace)])

/-- `.+` -/
def anyText : Regex := .plus (.set fun c => c ≠ '\n')

/-- `$`: the end, or a newline at the end -/
def headerEnd : Regex :=
  .alt (.look fun _ next => next.isNone) (.seq (.chr '\n') (.look fun _ next => next.isNone))

/-- `re.match(r"^bearer\s+(.+)$", header, re.IGNORECASE)`, and its group. -/
def bearerMatch (header : String) : Option String :=
  (Regex.group bearerPrefix anyText headerEnd header.toList).map String.ofList

/-- `_extract_bearer_token`; a header that is missing is empty. -/
def extractBearerToken (lo : Lower) (header : String) : Option String :=
  if header = "" then none
  else match bearerMatch header with
    | some token => some token
    | none =>
      let bare := strip header
      if bare ≠ "" && bare.toList.all (fun c => !isSpace c) && lo.lower bare ∉ authSchemeNames then some bare
      else none

/-- The forms of a header with a token. -/
inductive Bears (lo : Lower) (header token : String) : Prop
  /-- The scheme, white space, and the rest of the line; the token begins with white space only if it has just one
  character. -/
  | scheme {name spaces last : List Char} (form : header.toList = name ++ spaces ++ token.toList ++ last)
    (named : name.map Char.toLower = "bearer".toList) (spaced : spaces ≠ [])
    (blank : ∀ c ∈ spaces, isSpace c = true) (text : token ≠ "") (line : '\n' ∉ token.toList)
    (start : (∀ c, token.toList.head? = some c → isSpace c = false) ∨ token.toList.length = 1)
    (ended : last = [] ∨ last = ['\n'])
  /-- The token alone, if it is not the name of a scheme. -/
  | bare {before after : List Char} (form : header.toList = before ++ token.toList ++ after)
    (blank : ∀ c ∈ before ++ after, isSpace c = true) (word : IsWord token)
    (other : lo.lower token ∉ authSchemeNames)

/-! ### The pattern -/

section Pattern

variable {prev : Option Char} {t u v : List Char}

lemma run_headerEnd : Regex.run headerEnd (prev, t) ≠ [] ↔ t = [] ∨ t = ['\n'] := by
  cases t with
  | nil => simp [headerEnd, Regex.run]
  | cons c t =>
    cases t with
    | nil => by_cases hc : c = '\n' <;> simp [headerEnd, Regex.run, hc]
    | cons d t => by_cases hc : c = '\n' <;> simp [headerEnd, Regex.run, hc]

/-- What the group captures where it begins. -/
def captured (m : Regex.Place) : List (List Char) :=
  (Regex.run anyText m).flatMap fun m' => (Regex.run headerEnd m').map fun _ => m.2.take (m.2.length - m'.2.length)

/-- A line of a text, with nothing but a newline behind it. -/
structure Line (t token : List Char) : Prop where
  last : ∃ last, t = token ++ last ∧ (last = [] ∨ last = ['\n'])
  text : token ≠ []
  line : '\n' ∉ token

lemma captured_some {token : List Char} : (captured (prev, t)).head? = some token ↔ Line t token := by
  unfold captured anyText
  rw [Regex.first_plus]
  have hlen : ∀ a b : List Char, (a ++ b).take ((a ++ b).length - b.length) = a := by
    intro a b
    rw [List.length_append, Nat.add_sub_cancel, List.take_left]
  constructor
  · rintro ⟨a, last, rfl, hne, hl⟩
    have hfound := hl.found
    rw [List.head?_map] at hfound
    obtain ⟨m, hm, htake⟩ := Option.map_eq_some_iff.1 hfound
    simp only at htake
    rw [hlen] at htake
    subst htake
    have hend : Regex.run headerEnd (a.getLast?.or prev, last) ≠ [] := by
      intro he
      rw [he] at hm
      cases hm
    refine ⟨⟨last, rfl, run_headerEnd.1 hend⟩, hne, fun hn => ?_⟩
    have hall := hl.all '\n' hn
    simp at hall
  · rintro ⟨⟨last, rfl, hend⟩, hne, hline⟩
    refine ⟨token, last, rfl, hne, fun c hc => ?_, ?_, fun w v' he hw hall => ?_⟩
    · rw [decide_eq_true_eq]
      rintro rfl
      exact hline hc
    · have hended : Regex.run headerEnd (token.getLast?.or prev, last) ≠ [] := run_headerEnd.2 hend
      obtain ⟨m, ms, hm⟩ := List.exists_cons_of_ne_nil hended
      simp only [hm, List.map_cons, List.head?_cons, hlen]
    · -- behind the line there is at most the newline
      obtain ⟨c, w, rfl⟩ := List.exists_cons_of_ne_nil hw
      have hc := hall c List.mem_cons_self
      rw [decide_eq_true_eq] at hc
      rcases hend with rfl | rfl
      · cases he
      · exact absurd (List.cons.inj he).1.symm hc

lemma captured_nil : captured (prev, t) = [] ↔ ∀ token, ¬ Line t token := by
  rw [← List.head?_eq_none_iff, Option.eq_none_iff_forall_ne_some]
  exact forall_congr' fun token => not_congr captured_some

/-- The white space in front of the token. -/
lemma longest_spaces {token : List Char} : Regex.Longest isSpace captured prev u v token ↔
    (∀ c ∈ u, isSpace c = true) ∧ Line v token ∧
      ((∀ c, token.head? = some c → isSpace c = false) ∨ token.length = 1) := by
  constructor
  · rintro ⟨hall, hfound, hlongest⟩
    have hline := captured_some.1 hfound
    refine ⟨hall, hline, ?_⟩
    obtain ⟨⟨last, rfl, hend⟩, hne, hone⟩ := hline
    obtain ⟨c, token, rfl⟩ := List.exists_cons_of_ne_nil hne
    cases htoken : token with
    | nil => exact Or.inr rfl
    | cons d rest =>
      -- one more white space would leave a shorter token
      refine Or.inl fun c' hc' => ?_
      obtain rfl : c = c' := Option.some.inj hc'
      rw [← Bool.not_eq_true]
      intro hspace
      have hnone := hlongest [c] (token ++ last) rfl (by simp) (by simpa using hspace)
      refine captured_nil.1 hnone token ⟨⟨last, rfl, hend⟩, by simp [htoken], fun hn => ?_⟩
      exact hone (List.mem_cons_of_mem _ hn)
  · rintro ⟨hall, hline, hstart⟩
    refine ⟨hall, captured_some.2 hline, fun w v' he hw hspaces => captured_nil.2 fun token' hline' => ?_⟩
    obtain ⟨⟨last, rfl, hend⟩, hne, hone⟩ := hline
    obtain ⟨⟨last', rfl, -⟩, hne', hone'⟩ := hline'
    obtain ⟨c, token, rfl⟩ := List.exists_cons_of_ne_nil hne
    obtain ⟨d, w, rfl⟩ := List.exists_cons_of_ne_nil hw
    obtain ⟨rfl, htail⟩ := List.cons.inj he
    rcases hstart with hstart | hlength
    · have hfalse := hstart c rfl
      rw [hspaces c List.mem_cons_self] at hfalse
      cases hfalse
    · obtain rfl : token = [] := List.length_eq_zero_iff.1 (by simpa using hlength)
      obtain ⟨e, token', rfl⟩ := List.exists_cons_of_ne_nil hne'
      have hmem : e ∈ last := by
        rw [show last = w ++ (e :: token' ++ last') from htail]
        simp
      rcases hend with rfl | rfl
      · cases hmem
      · obtain rfl := List.mem_singleton.1 hmem
        exact hone' List.mem_cons_self

lemma named_iff_map {w : List Char} : List.Forall₂ (fun (p : Char → Bool) c => p c = true)
    ("bearer".toList.map fun c => fun d => decide (d.toLower = c)) w ↔ w.map Char.toLower = "bearer".toList := by
  rw [List.forall₂_map_left_iff, ← List.forall₂_eq_eq_eq, List.forall₂_map_left_iff]
  constructor
  · intro h
    exact (h.imp fun _ _ hc => (of_decide_eq_true hc).symm).flip.imp fun _ _ hc => hc.symm
  · intro h
    exact h.flip.imp fun _ _ hc => decide_eq_true hc

/-- **The pattern**: the scheme, white space and the rest of the line. -/
lemma bearerMatch_some {header token : String} : bearerMatch header = some token ↔
    ∃ name spaces last, header.toList = name ++ spaces ++ token.toList ++ last ∧
      name.map Char.toLower = "bearer".toList ∧ spaces ≠ [] ∧ (∀ c ∈ spaces, isSpace c = true) ∧ token ≠ "" ∧
        '\n' ∉ token.toList ∧ ((∀ c, token.toList.head? = some c → isSpace c = false) ∨ token.toList.length = 1) ∧
          (last = [] ∨ last = ['\n']) := by
  have hgroup : ∀ l : List Char, Regex.group bearerPrefix anyText headerEnd header.toList = some l ↔
      ∃ w u v, header.toList = w ++ (u ++ v) ∧ w.map Char.toLower = "bearer".toList ∧ u ≠ [] ∧
        Regex.Longest isSpace captured (w.getLast?.or none) u v l := by
    intro l
    have hmap : "bearer".toList.map (fun c => Regex.set fun d => d.toLower = c) =
        ("bearer".toList.map fun c => fun d => decide (d.toLower = c)).map Regex.set := by
      rw [List.map_map]
      rfl
    unfold Regex.group bearerPrefix
    rw [hmap]
    show ((Regex.run _ (none, header.toList)).flatMap captured).head? = some l ↔ _
    rw [Regex.first_letters]
    constructor
    · rintro ⟨w, v, hw, hnamed, h⟩
      obtain ⟨u, v, rfl, hu, hl⟩ := Regex.first_plus.1 h
      exact ⟨w, u, v, hw, named_iff_map.1 hnamed, hu, hl⟩
    · rintro ⟨w, u, v, hw, hnamed, hu, hl⟩
      exact ⟨w, u ++ v, hw, named_iff_map.2 hnamed, Regex.first_plus.2 ⟨u, v, rfl, hu, hl⟩⟩
  unfold bearerMatch
  constructor
  · intro h
    obtain ⟨l, hl, rfl⟩ := Option.map_eq_some_iff.1 h
    obtain ⟨w, u, v, hw, hnamed, hu, hlongest⟩ := (hgroup l).1 hl
    obtain ⟨hall, ⟨⟨last, rfl, hend⟩, hne, hone⟩, hstart⟩ := longest_spaces.1 hlongest
    rw [String.toList_ofList]
    refine ⟨w, u, last, by rw [hw]; simp, hnamed, hu, hall, mt String.ofList_eq_empty_iff.1 hne, hone, hstart, hend⟩
  · rintro ⟨name, spaces, last, hform, hnamed, hspaced, hblank, hne, hone, hstart, hend⟩
    refine Option.map_eq_some_iff.2 ⟨token.toList, (hgroup _).2 ⟨name, spaces, token.toList ++ last, ?_, hnamed,
      hspaced, longest_spaces.2 ⟨hblank, ⟨⟨last, rfl, hend⟩, ?_, hone⟩, hstart⟩⟩, String.ofList_toList⟩
    · rw [hform]
      simp
    · exact fun he => hne (String.toList_eq_nil_iff.1 he)

end Pattern

/-! ### The token alone -/

/-- `strip` finds the word that stands alone. -/
lemma strip_eq_word {s w : String} (hw : IsWord w) : strip s = w ↔
    ∃ before after, s.toList = before ++ w.toList ++ after ∧ ∀ c ∈ before ++ after, isSpace c = true := by
  unfold strip
  constructor
  · intro h
    have hsplit := List.takeWhile_append_dropWhile (p := isSpace) (l := s.toList)
    have hword : (s.toList.dropWhile isSpace).rdropWhile isSpace = w.toList := by rw [← h, String.toList_ofList]
    have hrest := List.rdropWhile_append_rtakeWhile (p := isSpace) (l := s.toList.dropWhile isSpace)
    rw [hword] at hrest
    refine ⟨_, _, by rw [List.append_assoc, hrest, hsplit], fun c hc => ?_⟩
    rcases List.mem_append.1 hc with hc | hc
    · exact List.mem_takeWhile_imp hc
    · exact List.mem_rtakeWhile_imp hc
  · rintro ⟨before, after, hs, hspace⟩
    have hfirst : s.toList.dropWhile isSpace = w.toList ++ after := by
      obtain ⟨c, l, hl⟩ := List.exists_cons_of_ne_nil (mt String.toList_eq_nil_iff.1 hw.1)
      have hc := hw.2 c (by rw [hl]; exact List.mem_cons_self)
      rw [hs, hl, List.append_assoc, List.cons_append]
      exact (takeWhile_clean (fun c hc => hspace c (List.mem_append_left _ hc)) hc).2
    have hlast : (w.toList ++ after).rdropWhile isSpace = w.toList := by
      unfold List.rdropWhile
      rw [List.reverse_append, List.dropWhile_append_of_pos, List.dropWhile_eq_self_iff.2, List.reverse_reverse]
      · intro hl
        rw [hw.2 _ (List.mem_reverse.1 (List.getElem_mem hl))]
        exact Bool.false_ne_true
      · exact fun c hc => hspace c (List.mem_append_right _ (List.mem_reverse.1 hc))
    rw [hfirst, hlast, String.ofList_toList]

/-- What is lowered to ASCII was ASCII. -/
lemma ascii_of_toLower {c : Char} (h : c.toLower.toNat < 128) : c.toNat < 128 := by
  by_cases hu : c.val ≥ 'A'.val ∧ c.val ≤ 'Z'.val
  · have hle : c.toNat ≤ 90 := UInt32.le_iff_toNat_le.1 hu.2
    omega
  · unfold Char.toLower at h
    rwa [dif_neg hu] at h

/-- A name that is lowered to `bearer` is the name of a scheme. -/
lemma lower_named (lo : Lower) {name : String} (h : name.toList.map Char.toLower = "bearer".toList) :
    lo.lower name ∈ authSchemeNames ∧ ∀ c ∈ name.toList, isSpace c = false := by
  have hall : ∀ c ∈ "bearer".toList, 33 ≤ c.toNat ∧ c.toNat < 128 := by decide
  have hletter : ∀ c ∈ name.toList, 33 ≤ c.toLower.toNat ∧ c.toLower.toNat < 128 :=
    fun c hc => hall _ (h ▸ List.mem_map_of_mem hc)
  constructor
  · rw [lo.ascii name fun c hc => ascii_of_toLower (hletter c hc).2, h, String.ofList_toList]
    exact List.mem_cons_self
  · intro c hc
    refine isSpace_of_printable ⟨?_, ascii_of_toLower (hletter c hc).2⟩
    have hge := (hletter c hc).1
    by_cases hu : c.val ≥ 'A'.val ∧ c.val ≤ 'Z'.val
    · have hle : 65 ≤ c.toNat := UInt32.le_iff_toNat_le.1 hu.1
      omega
    · unfold Char.toLower at hge
      rwa [dif_neg hu] at hge

/-- A token that stands alone is not read as a scheme with a token. -/
lemma bearerMatch_bare {lo : Lower} {header token : String} {before after : List Char}
    (hform : header.toList = before ++ token.toList ++ after) (hblank : ∀ c ∈ before ++ after, isSpace c = true)
    (hword : IsWord token) (hother : lo.lower token ∉ authSchemeNames) : bearerMatch header = none := by
  rw [Option.eq_none_iff_forall_ne_some]
  intro t ht
  obtain ⟨name, spaces, last, hform', hnamed, hspaced, hspaces, -⟩ := bearerMatch_some.1 ht
  have hscheme := lower_named lo
    (show (String.ofList name).toList.map Char.toLower = _ by rwa [String.toList_ofList])
  rw [String.toList_ofList] at hscheme
  obtain ⟨n, rest, rfl⟩ : ∃ n rest, name = n :: rest := List.exists_cons_of_ne_nil (by rintro rfl; cases hnamed)
  obtain ⟨c, spaces, rfl⟩ := List.exists_cons_of_ne_nil hspaced
  rw [hform] at hform'
  obtain rfl : before = [] := by
    cases before with
    | nil => rfl
    | cons d before =>
      obtain rfl : d = n := (List.cons.inj hform').1
      have hspace := hblank d (by simp)
      rw [hscheme.2 d List.mem_cons_self] at hspace
      cases hspace
  have htext : ∀ {l r : List Char}, (∀ c ∈ l, isSpace c = false) → (∀ c, r.head? = some c → isSpace c = true) →
      (l ++ r).takeWhile (fun c => !isSpace c) = l := by
    intro l r hl hr
    rw [List.takeWhile_append_of_pos fun c hc => by rw [hl c hc]; rfl]
    cases r with
    | nil => simp
    | cons d r => rw [List.takeWhile_cons_of_neg (by simp [hr d rfl]), List.append_nil]
  have htoken := htext hword.2 fun c hc => hblank c (List.mem_append_right _ (List.mem_of_mem_head? hc))
  have hname := htext (l := n :: rest) (r := c :: spaces ++ t.toList ++ last) hscheme.2 fun d hd => by
    rw [← Option.some.inj hd]
    exact hspaces c List.mem_cons_self
  have hsame : token.toList = n :: rest := by
    rw [← htoken, ← hname]
    congr 1
    simpa using hform'
  refine hother ?_
  rw [← String.ofList_toList (s := token), hsame]
  exact hscheme.1

/-- **The header.**  For every header, the token that is extracted is the one of its form: what stands behind the
scheme, or the token alone; and a header without one of the forms has none. -/
theorem bears_iff (lo : Lower) (header token : String) :
    extractBearerToken lo header = some token ↔ Bears lo header token := by
  have hnonempty : ∀ {a b c : List Char}, header.toList = a ++ b ++ c → b ≠ [] → header ≠ "" := by
    rintro a b c hform hb rfl
    exact hb (List.append_eq_nil_iff.1 (List.append_eq_nil_iff.1 hform.symm).1).2
  unfold extractBearerToken
  constructor
  · intro h
    split_ifs at h
    cases hm : bearerMatch header with
    | some t =>
      simp only [hm] at h
      obtain rfl := Option.some.inj h
      obtain ⟨name, spaces, last, hform, hnamed, hspaced, hblank, htext, hone, hstart, hend⟩ :=
        bearerMatch_some.1 hm
      exact .scheme hform hnamed hspaced hblank htext hone hstart hend
    | none =>
      simp only [hm] at h
      split_ifs at h with hbare
      simp only [Bool.and_eq_true, decide_eq_true_eq, List.all_eq_true, Bool.not_eq_true'] at hbare
      obtain rfl := Option.some.inj h
      obtain ⟨before, after, hform, hblank⟩ := (strip_eq_word ⟨hbare.1.1, hbare.1.2⟩).1 rfl
      exact .bare hform hblank ⟨hbare.1.1, hbare.1.2⟩ hbare.2
  · intro h
    cases h with
    | @scheme name spaces last form named spaced blank text line start ended =>
      rw [if_neg (hnonempty (form.trans (List.append_assoc _ _ _)) spaced),
        bearerMatch_some.2 ⟨name, spaces, last, form, named, spaced, blank, text, line, start, ended⟩]
    | @bare before after form blank word other =>
      rw [if_neg (hnonempty form (mt String.toList_eq_nil_iff.1 word.1)), bearerMatch_bare form blank word other]
      simp only [(strip_eq_word word).2 ⟨before, after, form, blank⟩]
      refine if_pos ?_
      simp only [Bool.and_eq_true, decide_eq_true_eq, List.all_eq_true, Bool.not_eq_true']
      exact ⟨⟨word.1, word.2⟩, other⟩

example : extractBearerToken asciiLower "BEARER \t k1-x " = some "k1-x " := by decide

/-! ### API keys -/

/-- A row of `res.users.apikeys`, with the key under whose hash it is stored. -/
structure ApiKey where
  scope : Option String
  userId : ℕ
  secret : String

/-- `scope_mode` of the wizard. -/
inductive ScopeMode where
  | global
  | adv
  deriving DecidableEq

/-- `_generate`: without a scope of its own, a key has the one of the context. -/
def generate (context scope : Option String) (userId : ℕ) (secret : String) : ApiKey :=
  ⟨(scope.filter (· ≠ "")).or context, userId, secret⟩

/-- `make_key`; Odoo's wizard gives `_generate` no scope. -/
def makeKey (mode : ScopeMode) (context : Option String) (userId : ℕ) (secret : String) : ApiKey :=
  generate (if mode = .adv then some "adv" else context) none userId secret

/-- Odoo's side of the keys: `_check_credentials` finds the user of a row with the key, and without a scope or with
the scope that is asked for.  A user may be missing or inactive. -/
structure KeyService where
  checkCredentials : List ApiKey → String → String → Except String (Option ℕ)
  userActive : ℕ → Bool
  finds : ∀ {keys scope apiKey uid}, checkCredentials keys scope apiKey = .ok (some uid) →
    ∃ k ∈ keys, k.secret = apiKey ∧ k.userId = uid ∧ (k.scope = none ∨ k.scope = some scope)

section Keys

variable (K : KeyService) (keys : List ApiKey)

/-- The first scope under which the key is known. -/
def checkScopes (apiKey : String) : List String → Except String (Option ℕ)
  | [] => .ok none
  | scope :: scopes =>
    match K.checkCredentials keys scope apiKey with
    | .ok none => checkScopes apiKey scopes
    | r => r

/-- The lookups of `get_user_from_api_key`. -/
def getUser (allowedScopes : List String) (apiKey : String) : KeyCheck :=
  match checkScopes K keys apiKey allowedScopes with
  | .error e => .raised e
  | .ok none => .invalid
  | .ok (some uid) => if K.userActive uid then .user uid else .inactive

/-- The scopes of the keys that the bearer endpoint takes, and those that the other doors take. -/
def bearerScopes : List String := ["adv", "rpc"]

def rpcScopes : List String := ["rpc"]

variable {K keys} {allowed : List String} {apiKey : String} {uid : ℕ}

lemma checkScopes_spec (h : checkScopes K keys apiKey allowed = .ok (some uid)) :
    ∃ k ∈ keys, k.secret = apiKey ∧ k.userId = uid ∧ (k.scope = none ∨ ∃ s ∈ allowed, k.scope = some s) := by
  induction allowed with
  | nil => cases h
  | cons scope scopes ih =>
    unfold checkScopes at h
    cases hc : K.checkCredentials keys scope apiKey with
    | error e =>
      rw [hc] at h
      cases h
    | ok found =>
      cases found with
      | none =>
        rw [hc] at h
        obtain ⟨k, hk, hs, hu, hscope⟩ := ih h
        refine ⟨k, hk, hs, hu, hscope.imp id ?_⟩
        rintro ⟨s, hmem, he⟩
        exact ⟨s, List.mem_cons_of_mem _ hmem, he⟩
      | some u =>
        rw [hc] at h
        obtain rfl : u = uid := Option.some.inj (Except.ok.inj h)
        obtain ⟨k, hk, hs, hu, hscope⟩ := K.finds hc
        exact ⟨k, hk, hs, hu, hscope.imp id fun he => ⟨scope, List.mem_cons_self, he⟩⟩

/-- **The user of a key** has a row with it, of a scope that the door takes, and is active. -/
lemma getUser_scope (h : getUser K keys allowed apiKey = .user uid) : K.userActive uid = true ∧
    ∃ k ∈ keys, k.secret = apiKey ∧ k.userId = uid ∧ (k.scope = none ∨ ∃ s ∈ allowed, k.scope = some s) := by
  unfold getUser at h
  cases hc : checkScopes K keys apiKey allowed with
  | error e =>
    rw [hc] at h
    cases h
  | ok found =>
    rw [hc] at h
    cases found with
    | none => cases h
    | some u =>
      simp only at h
      split_ifs at h with hactive
      obtain rfl := KeyCheck.user.inj h
      exact ⟨hactive, checkScopes_spec hc⟩

/-- A key of the wizard's scope `adv` has that scope. -/
lemma makeKey_adv (context : Option String) : (makeKey .adv context uid apiKey).scope = some "adv" := rfl

end Keys

end AdvMcp.Server
