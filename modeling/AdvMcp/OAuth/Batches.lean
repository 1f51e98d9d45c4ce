import AdvMcp.Audit.Purge
import AdvMcp.OAuth.Gc

/-!
# The loops of `_gc_oauth`

The three loops with a batch size, over the tables and the event log: a client that is deleted takes
its codes and its tokens along, and the events that name it no longer do.

* `gcCodesLoop`, `gcTokensLoop`, `gcClientsLoop` — the loops, turn by turn;
* `gcCodesLoop_total` and its siblings — each deletes what one pass would, and counts it;
* `gcRun_iff` — the whole collection, for every batch size.
-/

namespace AdvMcp.OAuth

open AdvMcp.Lib AdvMcp.Audit

/-! ### The tables and the log -/

structure Database where
  store : Store
  events : List StoredEvent

/-- `ondelete="set null"` of `oauth_client_id`. -/
def forgetClients (ids : List ℕ) (e : StoredEvent) : StoredEvent :=
  { e with row := { e.row with oauthClientId := e.row.oauthClientId.filter (· ∉ ids) } }

namespace Database

def unlinkCodes (d : Database) (rows : List CodeRow) : Database :=
  { d with store := OAuth.unlinkCodes d.store rows }

def unlinkTokens (d : Database) (rows : List TokenRow) : Database :=
  { d with store := OAuth.unlinkTokens d.store rows }

def unlinkClients (d : Database) (rows : List ClientRow) : Database :=
  { store := OAuth.unlinkClients d.store rows
    events := d.events.map (forgetClients (rows.map (·.id))) }

end Database

/-- A turn of the first loop of `_gc_oauth`: the tables, `last_id` and `code_count`. -/
def gcCodesLoop (now : Time) (live : List String) (n : ℕ) :
    Database × ℕ × ℕ → Option (Database × ℕ × ℕ) → Prop :=
  sweepBatched (fun d => d.store.codes) CodeRow.id Database.unlinkCodes
    (fun c => decide (c.expiresAt < now)) (fun c => !isProtected live c) n

/-- `_gc_unlink_batched` on the tokens: the tables and `count`. -/
def gcTokensLoop (now : Time) (n : ℕ) : Database × ℕ → Option (Database × ℕ) → Prop :=
  unlinkBatched (fun d => d.store.tokens) Database.unlinkTokens (isSpentToken now) n

/-- `_gc_unlink_batched` on the clients. -/
def gcClientsLoop (now : Time) (live : List ℕ) (n : ℕ) : Database × ℕ → Option (Database × ℕ) → Prop :=
  unlinkBatched (fun d => d.store.clients) Database.unlinkClients (isStaleClient now live) n

/-- The runs of `_gc_oauth` with a batch size of `n`: the tables after it and the three counts. -/
def GcRun (n : ℕ) (now : Time) (d : Database) (r : Database × ℕ × ℕ × ℕ) : Prop :=
  ∃ d₁ last d₂, Lib.Ends (gcCodesLoop now (liveFamilyIds d.store now) n) (d, 0, 0) (d₁, last, r.2.1) ∧
    Lib.Ends (gcTokensLoop now n) (d₁, 0) (d₂, r.2.2.1) ∧
    Lib.Ends (gcClientsLoop now ((liveTokens d.store now).map (·.client)) n) (d₂, 0) (r.1, r.2.2.2)

/-! ### Deleting by id -/

variable {n : ℕ} {now : Time} {d : Database}

lemma unlinkCodes_deletion : Deletion (fun d : Database => d.store.codes) CodeRow.id Database.unlinkCodes where
  rows_unlink _ _ := rfl
  unlink_nil d := by simp [Database.unlinkCodes, unlinkCodes_nil]
  unlink_unlink d b c := by simp [Database.unlinkCodes, unlinkCodes_append]
  unlink_congr d b c h := by
    simp only [Database.unlinkCodes, unlinkCodes, h]

lemma unlinkTokens_deletion : Deletion (fun d : Database => d.store.tokens) TokenRow.id Database.unlinkTokens where
  rows_unlink _ _ := rfl
  unlink_nil d := by simp [Database.unlinkTokens, unlinkTokens_nil]
  unlink_unlink d b c := by simp [Database.unlinkTokens, unlinkTokens_append]
  unlink_congr d b c h := by
    simp only [Database.unlinkTokens, unlinkTokens, h]

lemma forgetClients_nil (e : StoredEvent) : forgetClients [] e = e := by
  have hfilter : ∀ o : Option ℕ, o.filter (fun k => decide (k ∉ ([] : List ℕ))) = o := by
    rintro (_ | k)
    · rfl
    · simp
  unfold forgetClients
  rw [hfilter]

lemma forgetClients_append (ids ids' : List ℕ) (e : StoredEvent) :
    forgetClients ids' (forgetClients ids e) = forgetClients (ids ++ ids') e := by
  unfold forgetClients
  simp [Option.filter_filter]

lemma forgetClients_congr {ids ids' : List ℕ} (h : ∀ k, k ∈ ids ↔ k ∈ ids') :
    forgetClients ids = forgetClients ids' := by
  funext e
  simp only [forgetClients, h]

lemma unlinkClients_deletion :
    Deletion (fun d : Database => d.store.clients) ClientRow.id Database.unlinkClients where
  rows_unlink _ _ := rfl
  unlink_nil d := by
    have hevents : d.events.map (forgetClients []) = d.events := by
      conv_rhs => rw [← List.map_id d.events]
      exact List.map_congr_left fun e _ => forgetClients_nil e
    simp only [Database.unlinkClients, unlinkClients_nil, List.map_nil, hevents]
  unlink_unlink d b c := by
    simp [Database.unlinkClients, unlinkClients_append, forgetClients_append]
  unlink_congr d b c h := by
    simp only [Database.unlinkClients, unlinkClients, forgetClients_congr h, h]

/-! ### The loops -/

/-- The first loop deletes the expired codes but those that are protected, and counts them. -/
theorem gcCodesLoop_total (hn : 0 < n) (hkeys : Keyed d.store) (live : List String) :
    Total (gcCodesLoop now live n) (d, 0, 0) fun t =>
      t.1 = { d with store := { d.store with
        codes := d.store.codes.filter fun c => !isSpentCode now live c } } ∧
      t.2.2 = (d.store.codes.filter (isSpentCode now live)).length := by
  refine (sweepBatched_total unlinkCodes_deletion hn hkeys.codes 0 0).mono fun t ⟨h1, h2⟩ => ?_
  have hspent : ∀ c, c ∈ (past CodeRow.id (fun c => decide (c.expiresAt < now)) 0 d.store.codes).filter
      (fun c => !isProtected live c) ↔ c ∈ d.store.codes ∧ isSpentCode now live c = true :=
    mem_spentCodes hkeys.codes_pos live
  have hperm : ((past CodeRow.id (fun c => decide (c.expiresAt < now)) 0 d.store.codes).filter
      fun c => !isProtected live c).Perm (d.store.codes.filter (isSpentCode now live)) := by
    refine (List.perm_ext_iff_of_nodup (((past_nodup hkeys.codes).of_map _).filter _)
      ((hkeys.codes.of_map _).filter _)).2 fun c => ?_
    rw [hspent c, List.mem_filter]
  constructor
  · rw [h1]
    simp only [Database.unlinkCodes, unlinkCodes, filter_notMem_eq hkeys.codes hspent]
  · rw [h2, hperm.length_eq, Nat.zero_add]

/-- The second loop deletes the spent tokens and counts them. -/
theorem gcTokensLoop_total (hn : 0 < n) (hkeys : (d.store.tokens.map (·.id)).Nodup) :
    Total (gcTokensLoop now n) (d, 0) fun t =>
      t.1 = { d with store := { d.store with
        tokens := d.store.tokens.filter fun r => !isSpentToken now r } } ∧
      t.2 = (d.store.tokens.filter (isSpentToken now)).length := by
  refine (unlinkBatched_total unlinkTokens_deletion hn hkeys 0).mono fun t ht => ?_
  subst ht
  refine ⟨?_, Nat.zero_add _⟩
  simp only [Database.unlinkTokens, unlinkTokens, filter_notMem_eq hkeys fun _ => List.mem_filter]

/-- The third loop deletes the stale clients, with what hangs on them, and counts the clients. -/
theorem gcClientsLoop_total (hn : 0 < n) (hkeys : (d.store.clients.map (·.id)).Nodup) (live : List ℕ) :
    Total (gcClientsLoop now live n) (d, 0) fun t =>
      t.1 = { store := { d.store with
                clients := d.store.clients.filter fun c => !isStaleClient now live c
                codes := d.store.codes.filter fun c => c.client ∉ staleIds d.store now live
                tokens := d.store.tokens.filter fun r => r.client ∉ staleIds d.store now live }
              events := d.events.map (forgetClients (staleIds d.store now live)) } ∧
      t.2 = (d.store.clients.filter (isStaleClient now live)).length := by
  refine (unlinkBatched_total unlinkClients_deletion hn hkeys 0).mono fun t ht => ?_
  subst ht
  refine ⟨?_, Nat.zero_add _⟩
  simp only [Database.unlinkClients, unlinkClients, filter_notMem_eq hkeys fun _ => List.mem_filter]
  rfl

/-! ### The whole collection -/

/-- `_gc_oauth` at one stroke, with the events that name a deleted client. -/
def gcResult (now : Time) (d : Database) : Database × ℕ × ℕ × ℕ :=
  ({ store := { d.store with
        clients := d.store.clients.filter (keepsClient d.store now)
        codes := d.store.codes.filter (keepsCode d.store now)
        tokens := d.store.tokens.filter (keepsToken d.store now) }
     events := d.events.map
        (forgetClients (staleIds d.store now ((liveTokens d.store now).map (·.client)))) },
    (d.store.codes.filter (isSpentCode now (liveFamilyIds d.store now))).length,
    (d.store.tokens.filter (isSpentToken now)).length,
    (d.store.clients.filter (isStaleClient now ((liveTokens d.store now).map (·.client)))).length)

lemma gcRun_result (hn : 0 < n) (hkeys : Keyed d.store) {r : Database × ℕ × ℕ × ℕ} (h : GcRun n now d r) :
    r = gcResult now d := by
  obtain ⟨d₁, last, d₂, hcodes, htokens, hclients⟩ := h
  obtain ⟨d₃, c₁, c₂, c₃⟩ := r
  obtain ⟨h1, hc1⟩ := (gcCodesLoop_total hn hkeys _).result _ hcodes
  simp only at h1 hc1
  subst h1 hc1
  obtain ⟨h2, hc2⟩ := (gcTokensLoop_total hn (by exact hkeys.tokens)).result _ htokens
  simp only at h2 hc2
  subst h2 hc2
  obtain ⟨h3, hc3⟩ := (gcClientsLoop_total hn (by exact hkeys.clients) _).result _ hclients
  simp only at h3 hc3
  subst h3 hc3
  simp only [gcResult, List.filter_filter]
  rfl

lemma gcRun_exists (hn : 0 < n) (hkeys : Keyed d.store) (now : Time) : ∃ r, GcRun n now d r := by
  obtain ⟨⟨d₁, last, c₁⟩, hcodes, h1, -⟩ :=
    (gcCodesLoop_total hn hkeys (liveFamilyIds d.store now)).ends
  have htokens : (d₁.store.tokens.map (·.id)).Nodup := by
    simp only at h1
    rw [h1]
    exact hkeys.tokens
  have hloop : Total (gcTokensLoop now n) (d₁, 0) _ := gcTokensLoop_total hn htokens
  obtain ⟨⟨d₂, c₂⟩, htoks, h2, -⟩ := hloop.ends
  have hclients : (d₂.store.clients.map (·.id)).Nodup := by
    simp only at h1 h2
    rw [h2, h1]
    exact hkeys.clients
  obtain ⟨⟨d₃, c₃⟩, hclis, -⟩ :=
    (gcClientsLoop_total hn hclients ((liveTokens d.store now).map (·.client))).ends
  exact ⟨(d₃, c₁, c₂, c₃), d₁, last, d₂, hcodes, htoks, hclis⟩

/-- **The collection in batches** has one result, whatever the batches are. -/
theorem gcRun_iff (hn : 0 < n) (hkeys : Keyed d.store) (r : Database × ℕ × ℕ × ℕ) :
    GcRun n now d r ↔ r = gcResult now d := by
  refine ⟨gcRun_result hn hkeys, ?_⟩
  rintro rfl
  obtain ⟨r, hr⟩ := gcRun_exists hn hkeys now
  rw [← gcRun_result hn hkeys hr]
  exact hr

/-- The tables after a run are those that `gcOauth` computes. -/
theorem gcRun_store (hkeys : Keyed d.store) {r : Database × ℕ × ℕ × ℕ} (h : GcRun gcBatchSize now d r) :
    r.1.store = (gcOauth d.store now).1 := by
  rw [gcRun_result (by decide) hkeys h, gcOauth_eq hkeys]
  rfl

/-! ### Batches or not -/

/-- **Deleting in batches is deleting at once**: each of the four loops, with any batch size, ends on every
run, has deleted what its test selects with what hangs on it, has left the rest alone and has counted
what the test selected; so do `_gc_oauth` and `purge_old_entries` around them. -/
theorem batched_deletion (hn : 0 < n) (hkeys : Keyed d.store) (hids : (d.events.map (·.id)).Nodup)
    (now : Time) :
    (∀ live, Total (gcCodesLoop now live n) (d, 0, 0) fun t =>
      t.1 = { d with store := { d.store with
        codes := d.store.codes.filter fun c => !isSpentCode now live c } } ∧
      t.2.2 = (d.store.codes.filter (isSpentCode now live)).length) ∧
    (Total (gcTokensLoop now n) (d, 0) fun t =>
      t.1 = { d with store := { d.store with
        tokens := d.store.tokens.filter fun r => !isSpentToken now r } } ∧
      t.2 = (d.store.tokens.filter (isSpentToken now)).length) ∧
    (∀ live, Total (gcClientsLoop now live n) (d, 0) fun t =>
      t.1 = { store := { d.store with
                clients := d.store.clients.filter fun c => !isStaleClient now live c
                codes := d.store.codes.filter fun c => c.client ∉ staleIds d.store now live
                tokens := d.store.tokens.filter fun r => r.client ∉ staleIds d.store now live }
              events := d.events.map (forgetClients (staleIds d.store now live)) } ∧
      t.2 = (d.store.clients.filter (isStaleClient now live)).length) ∧
    (∀ cutoff, Total (purgeLoop cutoff n) (d.events, 0) fun t =>
      t.1 = d.events.filter (fun e => !isOlder cutoff e) ∧
      t.2 = (d.events.filter (isOlder cutoff)).length) ∧
    (∀ r, GcRun n now d r ↔ r = gcResult now d) ∧
    (∀ logRetentionDays days out, Purges n now logRetentionDays days d.events out ↔
      out = purgeOutcome now logRetentionDays days d.events) :=
  ⟨gcCodesLoop_total hn hkeys, gcTokensLoop_total hn hkeys.tokens, gcClientsLoop_total hn hkeys.clients,
    purgeLoop_total hn hids, gcRun_iff hn hkeys, fun _ _ => purges_iff hn hids⟩

/-- A client with a live token, one that is stale, a code of each, and gaps between the ids. -/
def sampleTables : Database where
  store :=
    { clients :=
        [⟨1, "a", "A", "", "", "", "none", "adv", "dcr", true, 0⟩,
          ⟨4, "b", "B", "", "", "", "none", "adv", "dcr", false, 0⟩]
      codes :=
        [⟨2, "h2", 1, 6, "", "adv", "", "", "", 500, true, "family"⟩,
          ⟨7, "h7", 1, 6, "", "adv", "", "", "", 500, false, ""⟩]
      tokens :=
        [⟨3, "h3", none, 1, 6, "adv", "", 100000000, none, false, "family"⟩,
          ⟨8, "h8", none, 4, 6, "adv", "", 500, none, false, "other"⟩]
      nextId := 9 }
  events := [⟨5, some 500, eventEntry ⟨true, false, false, 6⟩ .dataAccess { oauthClientId := some 4 }⟩]

theorem batched_deletion_sample :
    GcRun 1 90000000 sampleTables (gcResult 90000000 sampleTables) ∧
      (gcResult 90000000 sampleTables).2 = (1, 1, 1) := by
  have hkeys : Keyed sampleTables.store := ⟨by decide, by decide, by decide, by decide⟩
  obtain ⟨-, -, -, -, hrun, -⟩ := batched_deletion Nat.one_pos hkeys (by decide) 90000000
  exact ⟨(hrun _).2 rfl, by decide⟩

end AdvMcp.OAuth
