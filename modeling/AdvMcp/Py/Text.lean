import Mathlib.Data.List.DropRight
import AdvMcp.Lib.Words

/-!
# Python's `str`

The string methods the module calls, on Lean strings.  White space is what `str.isspace` says it
is, for every code point.
-/

namespace AdvMcp.Py

open AdvMcp.Lib

/-- `str.isspace` of one character. -/
def isSpace (c : Char) : Bool :=
  let n := c.toNat
  (9 ≤ n && n ≤ 13) || (28 ≤ n && n ≤ 32) || n == 0x85 || n == 0xa0 || n == 0x1680 ||
    (0x2000 ≤ n && n ≤ 0x200a) || n == 0x2028 || n == 0x2029 || n == 0x202f || n == 0x205f ||
    n == 0x3000

/-- `s.split()`. -/
def split (s : String) : List String := (words isSpace s.toList).map String.ofList

/-- `s.split(sep)`, for a one-character separator. -/
def splitOn (sep : Char) (s : String) : List String := (s.toList.splitOn sep).map String.ofList

/-- `sep.join(ws)`. -/
def join (sep : String) (ws : List String) : String := sep.intercalate ws

/-- `s.strip()`. -/
def strip (s : String) : String :=
  String.ofList ((s.toList.dropWhile isSpace).rdropWhile isSpace)

/-- `s.rstrip(c)`, for one character. -/
def rstrip (c : Char) (s : String) : String := String.ofList (s.toList.rdropWhile (· == c))

/-- `s.replace(c, t)`, for one character. -/
def replace (c : Char) (t s : String) : String :=
  String.ofList (s.toList.flatMap fun d => if d == c then t.toList else [d])

/-- `s.startswith(p)`. -/
def startsWith (p s : String) : Bool := p.toList.isPrefixOf s.toList

/-- `sub in s` -/
def inText (sub s : String) : Bool := s.toList.tails.any sub.toList.isPrefixOf

/-- `str.lower`.  Of its tables the code relies on the ASCII part only. -/
structure Lower where
  lower : String → String
  ascii : ∀ s : String, (∀ c ∈ s.toList, c.toNat < 128) →
    lower s = String.ofList (s.toList.map Char.toLower)

/-- The lowering that leaves every other character alone. -/
def asciiLower : Lower := ⟨fun s => String.ofList (s.toList.map Char.toLower), fun _ _ => rfl⟩

/-- Texts are decided character by character, also where `Char` is known to be finite. -/
instance decidableAllChars (p : Char → Prop) [DecidablePred p] (l : List Char) : Decidable (∀ c ∈ l, p c) :=
  List.decidableBAll p l

/-- What `s.split()` returns: a non-empty string without white space. -/
def IsWord (w : String) : Prop := w ≠ "" ∧ ∀ c ∈ w.toList, isSpace c = false

instance (w : String) : Decidable (IsWord w) := by unfold IsWord; infer_instance

lemma isWord_of_mem_split {s w : String} (h : w ∈ split s) : IsWord w := by
  obtain ⟨l, hl, rfl⟩ := List.mem_map.1 h
  obtain ⟨h0, hc⟩ := mem_words hl
  exact ⟨mt String.ofList_eq_empty_iff.1 h0, by simpa using hc⟩

lemma split_empty : split "" = [] := by simp [split]

lemma isSpace_of_printable {c : Char} (h : 33 ≤ c.toNat ∧ c.toNat < 128) : isSpace c = false := by
  unfold isSpace
  simp
  omega

lemma strip_of_clean {s : String} (h : ∀ c ∈ s.toList, isSpace c = false) : strip s = s := by
  unfold strip
  have h1 : s.toList.dropWhile isSpace = s.toList := by
    rw [List.dropWhile_eq_self_iff]
    intro hl
    simp [h _ (List.getElem_mem hl)]
  have h2 : s.toList.rdropWhile isSpace = s.toList := by
    rw [List.rdropWhile_eq_self_iff]
    intro hl
    simp [h _ (List.getLast_mem hl)]
  rw [h1, h2, String.ofList_toList]

/-- `sep.join(ws).split()` is `ws`, for a white space character. -/
theorem split_join {sep : String} {x : Char} (hs : sep.toList = [x]) (hx : isSpace x = true)
    {ws : List String} (h : ∀ w ∈ ws, IsWord w) : split (join sep ws) = ws := by
  unfold split join
  rw [String.toList_intercalate, hs, words_intercalate hx]
  · rw [List.map_map]
    conv_rhs => rw [← List.map_id ws]
    exact List.map_congr_left fun w _ => String.ofList_toList
  · intro l hl
    obtain ⟨w, hw, rfl⟩ := List.mem_map.1 hl
    obtain ⟨h0, hc⟩ := h w hw
    refine ⟨fun he => h0 ?_, hc⟩
    rw [← String.ofList_toList (s := w), he]

/-- The words of texts that are joined by white space are those of the texts. -/
lemma mem_split_join {sep : String} {x : Char} (hs : sep.toList = [x]) (hx : isSpace x = true)
    {ws : List String} {w : String} : w ∈ split (join sep ws) ↔ ∃ v ∈ ws, w ∈ split v := by
  unfold split join
  rw [String.toList_intercalate, hs, words_intercalate_flatMap hx]
  simp only [List.mem_map, List.mem_flatMap]
  constructor
  · rintro ⟨l, ⟨_, ⟨v, hv, rfl⟩, hl⟩, rfl⟩
    exact ⟨v, hv, l, hl, rfl⟩
  · rintro ⟨v, hv, l, hl, rfl⟩
    exact ⟨l, ⟨_, ⟨v, hv, rfl⟩, hl⟩, rfl⟩

/-! ### ASCII letters and digits -/

lemma isAlpha_iff (c : Char) :
    c.isAlpha = true ↔ 65 ≤ c.toNat ∧ c.toNat ≤ 90 ∨ 97 ≤ c.toNat ∧ c.toNat ≤ 122 := by
  have hupper : c.isUpper = true ↔ 65 ≤ c.toNat ∧ c.toNat ≤ 90 := by
    show decide (c.val ≥ 'A'.val ∧ c.val ≤ 'Z'.val) = true ↔ _
    rw [decide_eq_true_iff, ge_iff_le, UInt32.le_iff_toNat_le, UInt32.le_iff_toNat_le]
    rfl
  have hlower : c.isLower = true ↔ 97 ≤ c.toNat ∧ c.toNat ≤ 122 := by
    show (decide (c.val ≥ 'a'.val) && decide (c.val ≤ 'z'.val)) = true ↔ _
    rw [Bool.and_eq_true, decide_eq_true_iff, decide_eq_true_iff, ge_iff_le, UInt32.le_iff_toNat_le,
      UInt32.le_iff_toNat_le]
    rfl
  show (c.isUpper || c.isLower) = true ↔ _
  rw [Bool.or_eq_true, hupper, hlower]

lemma isAlphanum_toNat {c : Char} (h : c.isAlphanum = true) : 48 ≤ c.toNat ∧ c.toNat ≤ 122 := by
  rcases Bool.or_eq_true_iff.1 h with h | h
  · rw [isAlpha_iff] at h
    omega
  · simp only [Char.isDigit, Bool.and_eq_true, decide_eq_true_eq, UInt32.le_iff_toNat_le, ge_iff_le] at h
    have hdigit : 48 ≤ c.toNat ∧ c.toNat ≤ 57 := h
    omega

end AdvMcp.Py
