import AdvMcp.Audit.Event
import AdvMcp.Lib.BatchLoop
import AdvMcp.OAuth.Rows

/-!
# Purging the event log

`purge_old_entries` of `models/audit_log.py`.  Its search has no order of its own that would matter:
`purges_iff` holds for whatever rows each batch brings.

* A number of days that is not positive purges nothing.
* A number of days that leads out of the calendar raises `OverflowError` before the first search.
-/

namespace AdvMcp.Audit

open AdvMcp.Lib AdvMcp.OAuth

/-- A row of the table `adv.event`. -/
structure StoredEvent where
  id : ℕ
  createDate : Option Time
  row : EventRow

/-- `[("create_date", "<", cutoff)]` -/
def isOlder (cutoff : Time) (e : StoredEvent) : Bool := before e.createDate cutoff

def unlinkEvents (events b : List StoredEvent) : List StoredEvent :=
  events.filter fun e => e.id ∉ b.map (·.id)

/-- `datetime.min`, in seconds since the epoch. -/
def datetimeMin : Time := -62135596800

/-- `timedelta.max.days` -/
def timedeltaMaxDays : ℤ := 999999999

/-- `fields.Datetime.now() - timedelta(days=days)`, unless it overflows. -/
def retentionCutoff (now : Time) (days : ℤ) : Option Time :=
  if timedeltaMaxDays < days || now - days * 86400 < datetimeMin then none
  else some (now - days * 86400)

/-- A turn of the loop of `purge_old_entries`: the log, and `total`. -/
def purgeLoop (cutoff : Time) (n : ℕ) :
    List StoredEvent × ℕ → Option (List StoredEvent × ℕ) → Prop :=
  unlinkBatched id unlinkEvents (isOlder cutoff) n

inductive PurgeOutcome where
  | raised
  | returned (events : List StoredEvent) (total : ℕ)

/-- What `purge_old_entries(days)` may do, under a limit of `n`. -/
inductive Purges (n : ℕ) (now : Time) (logRetentionDays : ℤ) (days : Option ℤ)
    (events : List StoredEvent) : PurgeOutcome → Prop
  | idle : days.getD logRetentionDays ≤ 0 →
      Purges n now logRetentionDays days events (.returned events 0)
  | overflow : 0 < days.getD logRetentionDays →
      retentionCutoff now (days.getD logRetentionDays) = none →
      Purges n now logRetentionDays days events .raised
  | purged {cutoff : Time} {events' : List StoredEvent} {total : ℕ} :
      0 < days.getD logRetentionDays →
      retentionCutoff now (days.getD logRetentionDays) = some cutoff →
      Ends (purgeLoop cutoff n) (events, 0) (events', total) →
      Purges n now logRetentionDays days events (.returned events' total)

/-- The outcome at one stroke. -/
def purgeOutcome (now : Time) (logRetentionDays : ℤ) (days : Option ℤ) (events : List StoredEvent) :
    PurgeOutcome :=
  if days.getD logRetentionDays ≤ 0 then .returned events 0
  else match retentionCutoff now (days.getD logRetentionDays) with
    | none => .raised
    | some cutoff =>
      .returned (events.filter fun e => !isOlder cutoff e) (events.filter (isOlder cutoff)).length

variable {n : ℕ} {now cutoff : Time} {logRetentionDays : ℤ} {days : Option ℤ} {events : List StoredEvent}

lemma unlinkEvents_deletion : Deletion id StoredEvent.id unlinkEvents where
  rows_unlink _ _ := rfl
  unlink_nil events := by simp [unlinkEvents]
  unlink_unlink events b c := by
    simp only [unlinkEvents, List.map_append]
    exact filter_notMem_append events _ _
  unlink_congr events b c h := List.filter_congr fun e _ => by rw [Bool.eq_iff_iff]; simp [h]

/-- The loop deletes the older rows, and counts them. -/
theorem purgeLoop_total (hn : 0 < n) (hids : (events.map (·.id)).Nodup) (cutoff : Time) :
    Total (purgeLoop cutoff n) (events, 0) fun t =>
      t.1 = events.filter (fun e => !isOlder cutoff e) ∧ t.2 = (events.filter (isOlder cutoff)).length := by
  refine (unlinkBatched_total unlinkEvents_deletion hn hids 0).mono fun t ht => ?_
  subst ht
  refine ⟨?_, Nat.zero_add _⟩
  exact filter_notMem_eq hids fun _ => List.mem_filter

/-- **`purge_old_entries`** has one outcome, whatever the batches are. -/
theorem purges_iff (hn : 0 < n) (hids : (events.map (·.id)).Nodup) (out : PurgeOutcome) :
    Purges n now logRetentionDays days events out ↔
      out = purgeOutcome now logRetentionDays days events := by
  unfold purgeOutcome
  constructor
  · rintro (hidle | ⟨hpos, hover⟩ | ⟨hpos, hcut, hends⟩)
    · rw [if_pos hidle]
    · rw [if_neg (by omega), hover]
    · rename_i cutoff events' total
      obtain ⟨h1, h2⟩ := (purgeLoop_total hn hids cutoff).result _ hends
      rw [if_neg (by omega), hcut]
      simp only at h1 h2
      rw [h1, h2]
  · rintro rfl
    by_cases hidle : days.getD logRetentionDays ≤ 0
    · rw [if_pos hidle]
      exact .idle hidle
    · rw [if_neg hidle]
      cases hcut : retentionCutoff now (days.getD logRetentionDays) with
      | none => exact .overflow (by omega) hcut
      | some cutoff =>
        obtain ⟨⟨events', total⟩, hends, h1, h2⟩ := (purgeLoop_total hn hids cutoff).ends
        simp only at h1 h2
        subst h1 h2
        exact .purged (by omega) hcut hends

end AdvMcp.Audit
