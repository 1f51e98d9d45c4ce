import AdvMcp.OAuth.Change

/-!
# The redirect URIs of a registered client

`save_client` judges every submitted URI by itself, stores them joined by newlines, and
`_redirect_uri_list` splits the column at white space.  `urlsplit` lets white space inside a URI pass, so
what was judged as one URI may be read back as several.

* `RoundTrip` — the stored client has the submitted URIs;
* `registered_uris_iff` — it has them if and only if none of them holds white space.
-/

namespace AdvMcp.OAuth

open AdvMcp.Lib AdvMcp.Py

variable {σ : Site} {st st' : Store} {now : Time} {clientId : String} {data : ClientMetadata} {c : ClientRow}

/-- The stored client has the submitted redirect URIs, in order, and these are allowed. -/
structure RoundTrip (σ : Site) (data : ClientMetadata) (c : ClientRow) : Prop where
  list : c.redirectUriList = data.redirectUris
  accepts : ∀ uri, c.checkRedirectUri uri = true ↔ uri ∈ data.redirectUris
  allowed : ∀ uri ∈ c.redirectUriList, isAllowedRedirectUri σ uri = true
  count : c.redirectUriList.length ≤ maxRedirectUris
  default : c.getDefaultRedirectUri = data.redirectUris.head?

/-! ### What a registration checks and stores -/

lemma checkRedirectUri_ok {uri : String} (h : checkRedirectUri σ uri = .ok ()) :
    isAllowedRedirectUri σ uri = true := by
  unfold checkRedirectUri at h
  split_ifs at h with h1 h2
  simpa using h2

/-- If the loop over the URIs ends, every URI passed. -/
lemma forM_checkRedirectUri {uris : List String} (h : uris.forM (checkRedirectUri σ) = .ok ()) :
    ∀ uri ∈ uris, isAllowedRedirectUri σ uri = true := by
  induction uris with
  | nil => exact fun _ hu => by cases hu
  | cons u uris ih =>
    have hb : (checkRedirectUri σ u >>= fun _ => uris.forM (checkRedirectUri σ)) = .ok () := h
    cases hu : checkRedirectUri σ u with
    | error e =>
      rw [hu] at hb
      cases hb
    | ok _ =>
      rw [hu] at hb
      intro uri hm
      rcases List.mem_cons.1 hm with rfl | hm
      · exact checkRedirectUri_ok hu
      · exact ih hb uri hm

/-- The client of an accepted registration. -/
lemma saveClient_uris (h : saveClient σ st now clientId data = .ok (st', c)) :
    c.redirectUris = join "\n" data.redirectUris ∧ data.redirectUris.length ≤ maxRedirectUris ∧
      ∀ uri ∈ data.redirectUris, isAllowedRedirectUri σ uri = true := by
  unfold saveClient at h
  cases hu : data.redirectUris.forM (checkRedirectUri σ) with
  | error e =>
    rw [hu] at h
    split_ifs at h
  | ok _ =>
    rw [hu] at h
    simp only at h
    split_ifs at h with _ hlen
    obtain ⟨rfl, rfl⟩ := Prod.mk.inj (Except.ok.inj h)
    exact ⟨rfl, not_lt.1 hlen, forM_checkRedirectUri hu⟩

/-! ### Reading the column back -/

/-- Words joined by newlines are read back as they are, and only words are. -/
lemma split_lines_iff {uris : List String} : split (join "\n" uris) = uris ↔ ∀ uri ∈ uris, IsWord uri := by
  constructor
  · intro h uri hu
    rw [← h] at hu
    exact isWord_of_mem_split hu
  · exact split_join rfl (by decide)

/-- **The redirect URIs of a registration**: the stored client has the submitted list, accepts exactly its
members, each of them allowed by itself and at most five, and defaults to the first, if and only if every
submitted URI is a word: not empty, and without white space. -/
theorem registered_uris_iff (h : saveClient σ st now clientId data = .ok (st', c)) :
    RoundTrip σ data c ↔ ∀ uri ∈ data.redirectUris, IsWord uri := by
  obtain ⟨hcol, hlen, hall⟩ := saveClient_uris h
  have hlist : c.redirectUriList = split (join "\n" data.redirectUris) := by
    unfold ClientRow.redirectUriList
    rw [hcol]
  constructor
  · intro hrt
    exact split_lines_iff.1 (hlist.symm.trans hrt.list)
  · intro hw
    have hl : c.redirectUriList = data.redirectUris := hlist.trans (split_lines_iff.2 hw)
    refine ⟨hl, fun uri => ?_, ?_, ?_, ?_⟩
    · unfold ClientRow.checkRedirectUri
      rw [hl, decide_eq_true_iff]
    · rw [hl]
      exact hall
    · rw [hl]
      exact hlen
    · unfold ClientRow.getDefaultRedirectUri
      rw [hl]

/-- The registration of one URI, at a site that takes these two apart as `urlsplit` does. -/
def appSite : Site :=
  { sampleSite with
    urlsplit := fun uri =>
      if uri = "https://app.example/cb" then some ⟨"https", none, "app.example", none, ""⟩
      else if uri = "https://app.example/cb http://other.example/cb" then
        some ⟨"https", none, "app.example", none, ""⟩
      else if uri = "http://other.example/cb" then some ⟨"http", none, "other.example", none, ""⟩
      else none }

/-- The metadata with one redirect URI. -/
def appMetadata (uri : String) : ClientMetadata := ⟨[uri], "App", ""⟩

/-- The URI of an application round-trips. -/
theorem registered_uris_app : ∃ st' c,
    saveClient appSite sampleInit.store 1700000000 "mcp-client-1" (appMetadata "https://app.example/cb") =
      .ok (st', c) ∧ RoundTrip appSite (appMetadata "https://app.example/cb") c := by
  obtain ⟨st', c, h⟩ : ∃ st' c, saveClient appSite sampleInit.store 1700000000 "mcp-client-1"
      (appMetadata "https://app.example/cb") = .ok (st', c) := ⟨_, _, rfl⟩
  exact ⟨st', c, h, (registered_uris_iff h).2 (by decide)⟩

/-- A URI with a space is accepted as one, read back as two, and the second is not allowed by itself. -/
theorem spaced_uri_split : ∃ st' c,
    saveClient appSite sampleInit.store 1700000000 "mcp-client-1"
      (appMetadata "https://app.example/cb http://other.example/cb") = .ok (st', c) ∧
    c.redirectUriList = ["https://app.example/cb", "http://other.example/cb"] ∧
    c.checkRedirectUri "http://other.example/cb" = true ∧
    isAllowedRedirectUri appSite "http://other.example/cb" = false := by
  obtain ⟨st', c, h⟩ : ∃ st' c, saveClient appSite sampleInit.store 1700000000 "mcp-client-1"
      (appMetadata "https://app.example/cb http://other.example/cb") = .ok (st', c) := ⟨_, _, rfl⟩
  have hl : c.redirectUriList = ["https://app.example/cb", "http://other.example/cb"] := by
    unfold ClientRow.redirectUriList
    rw [(saveClient_uris h).1]
    decide
  refine ⟨st', c, h, hl, ?_, by decide⟩
  unfold ClientRow.checkRedirectUri
  rw [hl]
  decide

end AdvMcp.OAuth
