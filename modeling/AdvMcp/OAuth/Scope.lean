import Mathlib.Data.List.Dedup
import AdvMcp.Py.Text

/-!
# Scope strings

The scope functions of `server/oauth/grants.py`: alias normalisation, the write test, the read-only
test and the expansion, on arbitrary strings.  A set of scopes is a list of words, and a test on
sets is a test on membership.
-/

namespace AdvMcp.OAuth

open AdvMcp.Py

def advScopes : List String := ["adv", "adv:read", "adv:write"]

/-- `_ADV_WRITE_SCOPES` -/
def advWriteScopes : List String := ["adv", "adv:write"]

/-- `_SCOPE_ALIASES` -/
def scopeAliases : List (String × String) :=
  [("amcp", "adv"), ("amcp:read", "adv:read"), ("amcp:write", "adv:write"),
    ("mcp", "adv"), ("mcp:read", "adv:read"), ("mcp:write", "adv:write"),
    ("mcp_server", "adv"), ("mcp_server:read", "adv:read"), ("mcp_server:write", "adv:write")]

/-- `_SCOPE_ALIASES.get(s, s)` -/
def aliasOf (s : String) : String := (scopeAliases.lookup s).getD s

def normalizeScope (scopeStr : String) : String :=
  if scopeStr = "" then scopeStr else join " " ((split scopeStr).map aliasOf)

/-- The set `set(normalize_scope(scope or "").split())`. -/
def scopeSet (scope : String) : List String := split (normalizeScope scope)

def grantsWrite (scope : String) : Bool := advWriteScopes.any fun w => w ∈ scopeSet scope

/-- The set equality `set(...) == {"adv:read"}`. -/
def readOnlyScope (scopeStr : String) : Bool :=
  "adv:read" ∈ scopeSet scopeStr && (scopeSet scopeStr).all (· = "adv:read")

def expandScopes (scope : String) : List String :=
  let granted := scopeSet scope
  let granted := if "adv" ∈ granted then granted ++ ["adv:read", "adv:write"] else granted
  if "adv:write" ∈ granted then granted ++ ["adv:read"] else granted

/-! ### Aliases -/

lemma aliases_advScopes : ∀ t ∈ scopeAliases.map Prod.snd, t ∈ advScopes := by decide

lemma advScopes_isWord : ∀ t ∈ advScopes, IsWord t := by decide

/-- An alias stands for one of the three scopes; every other word stands for itself. -/
lemma aliasOf_cases (s : String) : aliasOf s ∈ advScopes ∨ aliasOf s = s := by
  unfold aliasOf
  cases h : scopeAliases.lookup s with
  | none => exact Or.inr rfl
  | some t =>
    obtain ⟨l₁, l₂, he, -⟩ := List.lookup_eq_some_iff.1 h
    exact Or.inl (aliases_advScopes t (by rw [he]; simp))

lemma isWord_aliasOf {s : String} (h : IsWord s) : IsWord (aliasOf s) := by
  rcases aliasOf_cases s with h' | h'
  · exact advScopes_isWord _ h'
  · rw [h']; exact h

/-! ### The words of a normal form -/

/-- The words of a normal form are the aliases of the words. -/
theorem scopeSet_eq (s : String) : scopeSet s = (split s).map aliasOf := by
  unfold scopeSet normalizeScope
  split_ifs with h
  · subst h; simp [split_empty]
  · refine split_join rfl (by decide) fun w hw => ?_
    obtain ⟨v, hv, rfl⟩ := List.mem_map.1 hw
    exact isWord_aliasOf (isWord_of_mem_split hv)

end AdvMcp.OAuth
