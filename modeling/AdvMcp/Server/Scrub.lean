import AdvMcp.Lib.Decimal
import AdvMcp.Lib.Passes
import AdvMcp.Server.Sanitizer
import Mathlib.Data.List.Infix

/-!
# The texts that are taken out of error messages

The substitutions of `server/sanitizer.py`: `_reduce_traceback`, `_SCRUB_PATTERNS` in their order, and the
white space that `sanitize_message` collapses.

* `scrubPatterns`, `scrub` — the patterns and the whole substitution, on lists of characters;
* `messageOf` — `sanitize_message` on lists of characters.

Besides the definitions the facts about one part of them: what is stripped, and how long a reduced traceback
is.
-/

namespace AdvMcp.Server

open AdvMcp.Py AdvMcp.Lib Regex

/-! ### Classes of characters -/

/-- The letters of other scripts that match one of `[a-z]` under `re.IGNORECASE`. -/
def foldedLetters : List Char := [Char.ofNat 0x130, Char.ofNat 0x131, Char.ofNat 0x212a, Char.ofNat 0x17f]

/-- `\d` and `\w`.  Of the tables of all scripts the part of ASCII is fixed. -/
structure CharTable where
  digits : Digits
  word : Char → Bool
  ascii : ∀ c, c.toNat < 128 → word c = (c.isAlphanum || c == '_')
  folded : ∀ c ∈ foldedLetters, word c = true
  space : ∀ c, isSpace c = true → word c = false

/-- `c` matches the letter `l` under `re.IGNORECASE`. -/
def foldsTo (l c : Char) : Bool :=
  c.toLower == l.toLower || (l.toLower == 'i' && (c == Char.ofNat 0x130 || c == Char.ofNat 0x131)) ||
    (l.toLower == 'k' && c == Char.ofNat 0x212a) || (l.toLower == 's' && c == Char.ofNat 0x17f)

/-- A text under `re.IGNORECASE` -/
def litI (s : String) : Regex :=
  s.toList.foldr (fun c r => seq (if c.isAlpha then set (foldsTo c) else chr c) r) eps

/-- `^`, under `re.MULTILINE` -/
def lineStart : Regex := look fun prev _ => prev.all (· == '\n')

/-- `$`, under `re.MULTILINE` -/
def lineEnd : Regex := look fun _ next => next.all (· == '\n')

/-- `.` -/
def anyChar : Regex := set (· != '\n')

/-- `[ \t]` -/
def isBlank (c : Char) : Bool := c == ' ' || c == '\t'

/-- `\s` -/
def space : Regex := set isSpace

/-- `[^...]` -/
def noneOf (p : Char → Bool) : Regex := set fun c => !p c

/-- `[0-9a-fA-F]` -/
def hexDigit : Regex := set fun c => c.isDigit || ('a' ≤ c && c ≤ 'f') || ('A' ≤ c && c ≤ 'F')

/-- `[A-Za-z0-9_.]` -/
def isPathChar (c : Char) : Bool := c.isAlphanum || c == '_' || c == '.'

section Patterns

variable (T : CharTable)

/-- `\d` -/
def digit : Regex := set T.digits.isDigit

/-- `\b` -/
def boundary : Regex := look fun prev next => prev.any T.word != next.any T.word

/-! ### The patterns -/

/-- `^\s*File "[^"]+", line \d+.*$` -/
def fileLine : Regex :=
  seqs [lineStart, star space, lit "File \"", plus (noneOf (· == '"')), lit "\", line ", plus (digit T),
    star anyChar, lineEnd]

/-- `Traceback \(most recent call last\):` -/
def tracebackHeader : Regex := lit "Traceback (most recent call last):"

/-- `^[ \t]*(?:DETAIL|HINT|CONTEXT|QUERY|LINE \d+):.*$` -/
def diagnosticLine : Regex :=
  seqs [lineStart, star (set isBlank),
    alt (litI "DETAIL") (alt (litI "HINT") (alt (litI "CONTEXT") (alt (litI "QUERY")
      (seq (litI "LINE ") (plus (digit T)))))),
    chr ':', star anyChar, lineEnd]

/-- `(?:/[^/\s]+)+/[^/\s]+\.py\b` -/
def pythonPath : Regex :=
  let component := seq (chr '/') (plus (noneOf fun c => c == '/' || isSpace c))
  seqs [plus component, component, lit ".py", boundary T]

/-- `"[^"]+\.py"` -/
def quotedPython : Regex := seqs [chr '"', plus (noneOf (· == '"')), lit ".py\""]

/-- `,?\s*line\s+\d+` -/
def lineNumber : Regex := seqs [opt (chr ','), star space, lit "line", plus space, plus (digit T)]

/-- `<class '[^']+'>` -/
def classRepr : Regex := seqs [lit "<class '", plus (noneOf (· == '\x27')), lit "'>"]

/-- `\b[Oo]bject at 0x[0-9a-fA-F]+` -/
def objectAddress : Regex :=
  seqs [boundary T, set (fun c => c == 'O' || c == 'o'), lit "bject at 0x", plus hexDigit]

/-- `\bat 0x[0-9a-fA-F]+` -/
def address : Regex := seqs [boundary T, lit "at 0x", plus hexDigit]

/-- `\b(?:odoo|mgn_mcp_server)\.[A-Za-z0-9_.]+:` -/
def modulePath : Regex :=
  seqs [boundary T, alt (lit "odoo") (lit "mgn_mcp_server"), chr '.', plus (set isPathChar), chr ':']

/-- `\bpsycopg2(?:\.[A-Za-z0-9_.]+)?\b` -/
def psycopg : Regex :=
  seqs [boundary T, litI "psycopg2",
    opt (seq (chr '.') (plus (set fun c => isPathChar c || foldedLetters.contains c))), boundary T]

/-- `_SCRUB_PATTERNS` -/
def scrubPatterns : List Pass :=
  [⟨fileLine T, [], of_decide_eq_true rfl⟩, ⟨tracebackHeader, [], of_decide_eq_true rfl⟩,
    ⟨diagnosticLine T, [], of_decide_eq_true rfl⟩, ⟨pythonPath T, [], of_decide_eq_true rfl⟩,
    ⟨quotedPython, [], of_decide_eq_true rfl⟩, ⟨lineNumber T, [], of_decide_eq_true rfl⟩,
    ⟨classRepr, [], of_decide_eq_true rfl⟩, ⟨objectAddress T, "object".toList, of_decide_eq_true rfl⟩,
    ⟨address T, [], of_decide_eq_true rfl⟩, ⟨modulePath T, [], of_decide_eq_true rfl⟩,
    ⟨psycopg T, [], of_decide_eq_true rfl⟩]

/-- `[ \t]{2,}` -/
def blanks : Pass := ⟨atLeast isBlank 2, [' '], of_decide_eq_true rfl⟩

/-- `\n{3,}` -/
def emptyLines : Pass := ⟨atLeast (· == '\n') 3, ['\n', '\n'], of_decide_eq_true rfl⟩

/-! ### `_reduce_traceback` -/

/-- The boundaries of `str.splitlines()` -/
def isLineBreak (c : Char) : Bool :=
  let n := c.toNat
  (10 ≤ n && n ≤ 13) || (28 ≤ n && n ≤ 30) || n == 0x85 || n == 0x2028 || n == 0x2029

/-- `text.splitlines()`; a `\r\n` is one boundary. -/
def splitlines : List Char → List (List Char)
  | [] => []
  | c :: t =>
    if c = '\r' && t.head? = some '\n' then splitlines t
    else if isLineBreak c then [] :: splitlines t
    else
      match splitlines t with
      | [] => [[c]]
      | line :: lines => (c :: line) :: lines

/-- `text.strip()` -/
def stripChars (t : List Char) : List Char := (t.dropWhile isSpace).rdropWhile isSpace

/-- `re.match(r, line)` -/
def matchesStart (r : Regex) (line : List Char) : Bool := !(run r (none, line)).isEmpty

/-- The text in front of the first match, behind the character `prev`. -/
def beforeMatch (r : Regex) : Option Char → List Char → List Char
  | _, [] => []
  | prev, c :: t => if (r.first (prev, c :: t)).isSome then [] else c :: beforeMatch r (some c) t

def tracebackMarker : List Char := "Traceback (most recent call last)".toList

/-- `_EXCEPTION_LINE_RE`: `^[A-Za-z_][\w.]*(?:Error|Exception|Warning|Violation)\b` -/
def exceptionLine : Regex :=
  seqs [set (fun c => c.isAlpha || c == '_'), star (set fun c => T.word c || c == '.'),
    alt (lit "Error") (alt (lit "Exception") (alt (lit "Warning") (lit "Violation"))), boundary T]

/-- `_POSTGRES_DIAG_RE`: `^(DETAIL|HINT|CONTEXT|LINE \d)` -/
def postgresDiag : Regex :=
  alt (litI "DETAIL") (alt (litI "HINT") (alt (litI "CONTEXT") (seq (litI "LINE ") (digit T))))

/-- The lines from the exception on, or the last one. -/
def fromException (tail : List (List Char)) : List (List Char) :=
  match tail.dropWhile fun line => !matchesStart (exceptionLine T) line with
  | [] => tail.drop (tail.length - 1)
  | lines => lines

/-- What is left of the lines of a traceback. -/
def finalLines (text : List Char) : List (List Char) :=
  let lines := ((splitlines text).map stripChars).filter (· ≠ [])
  let lines := lines.rdropWhile (matchesStart (postgresDiag T))
  fromException T (lines.rtakeWhile fun line => !"File \"".toList.isPrefixOf line)

/-- `_reduce_traceback`; without a line nothing is left of the text either. -/
def reduceTraceback (text : List Char) : List Char :=
  if !text.tails.any tracebackMarker.isPrefixOf then text
  else
    let final := ['\n'].intercalate (finalLines T text)
    let final := stripChars (beforeMatch (seqs [plus space, lit "DETAIL:"]) none final)
    if final.any Char.isAlpha then final else genericErrorMessage.toList

/-! ### `sanitize_message` -/

/-- The substitutions of `sanitize_message`. -/
def passes : List Pass := scrubPatterns T ++ [blanks, emptyLines]

def scrub (text : String) : String :=
  String.ofList (runPasses id id (passes T) (reduceTraceback T text.toList))

end Patterns

lemma isSpace_toNat {c : Char} (h : isSpace c = true) :
    c.toNat ≤ 32 ∨ 0x85 ≤ c.toNat ∧ c.toNat ≤ 0xa0 ∨ 0x1680 ≤ c.toNat ∧ c.toNat ≠ 0x212a := by
  unfold isSpace at h
  simp only [Bool.or_eq_true, Bool.and_eq_true, decide_eq_true_eq, beq_iff_eq] at h
  omega

/-- The ASCII part, and the folded letters. -/
def asciiTable : CharTable where
  digits := asciiDigits
  word c := c.isAlphanum || c == '_' || foldedLetters.contains c
  ascii c h := by
    have hf : foldedLetters.contains c = false := by
      rw [Bool.eq_false_iff]
      intro hc
      rw [List.contains_iff_mem] at hc
      simp only [foldedLetters, List.mem_cons, List.not_mem_nil, or_false] at hc
      rcases hc with rfl | rfl | rfl | rfl <;> exact absurd h (by decide)
    rw [hf, Bool.or_false]
  folded c hc := by
    rw [List.contains_iff_mem.2 hc, Bool.or_true]
  space c hc := by
    have hs := isSpace_toNat hc
    have ha : c.isAlphanum = false := by
      rw [Bool.eq_false_iff]
      intro h
      have hn := isAlphanum_toNat h
      omega
    have hu : (c == '_') = false := by
      rw [beq_eq_false_iff_ne]
      rintro rfl
      exact absurd hs (by decide)
    have hf : foldedLetters.contains c = false := by
      rw [Bool.eq_false_iff]
      intro h
      rw [List.contains_iff_mem] at h
      simp only [foldedLetters, List.mem_cons, List.not_mem_nil, or_false] at h
      rcases h with rfl | rfl | rfl | rfl <;> exact absurd hs (by decide)
    rw [ha, hu, hf]
    rfl

/-! ### Stripping -/

section Strip

/-- A text is its stripped text between white space. -/
lemma stripChars_middle (t : List Char) : ∃ a b, t = a ++ stripChars t ++ b ∧ (∀ c ∈ a, isSpace c = true) ∧
    ∀ c ∈ b, isSpace c = true := by
  refine ⟨t.takeWhile isSpace, (t.dropWhile isSpace).rtakeWhile isSpace, ?_, ?_, ?_⟩
  · unfold stripChars
    rw [List.append_assoc, List.rdropWhile_append_rtakeWhile, List.takeWhile_append_dropWhile]
  · exact fun c hc => List.mem_takeWhile_imp hc
  · exact fun c hc => List.mem_rtakeWhile_imp hc

lemma length_stripChars (t : List Char) : (stripChars t).length ≤ t.length := by
  obtain ⟨a, b, ht, -, -⟩ := stripChars_middle t
  have hlen := congrArg List.length ht
  rw [List.length_append, List.length_append] at hlen
  omega

/-- A text that keeps its length is not stripped. -/
lemma stripChars_of_length {t : List Char} (h : t.length ≤ (stripChars t).length) : stripChars t = t := by
  obtain ⟨a, b, ht, -, -⟩ := stripChars_middle t
  have hlen := congrArg List.length ht
  rw [List.length_append, List.length_append] at hlen
  have ha : a = [] := List.length_eq_zero_iff.1 (by omega)
  have hb : b = [] := List.length_eq_zero_iff.1 (by omega)
  rw [ha, hb, List.nil_append, List.append_nil] at ht
  exact ht.symm

lemma stripChars_idem (t : List Char) : stripChars (stripChars t) = stripChars t := by
  have hprefix := List.rdropWhile_prefix isSpace (t.dropWhile isSpace)
  have hdrop : (stripChars t).dropWhile isSpace = stripChars t := by
    rw [List.dropWhile_eq_self_iff]
    intro hl
    have hself := List.dropWhile_eq_self_iff.1 (List.dropWhile_idempotent isSpace t)
    have hpos : 0 < (t.dropWhile isSpace).length := Nat.lt_of_lt_of_le hl hprefix.length_le
    have hget : (stripChars t)[0] = (t.dropWhile isSpace)[0] := hprefix.getElem hl
    rw [hget]
    exact hself _
  show ((stripChars t).dropWhile isSpace).rdropWhile isSpace = stripChars t
  rw [hdrop]
  exact List.rdropWhile_idempotent _ _

end Strip

/-! ### The length of a reduced traceback -/

section Reduced

variable {T : CharTable}

/-- The length of the lines, with a separator behind each. -/
def linesLength : List (List Char) → ℕ
  | [] => 0
  | line :: lines => line.length + 1 + linesLength lines

lemma linesLength_cons (line : List Char) (lines : List (List Char)) :
    linesLength (line :: lines) = line.length + 1 + linesLength lines := rfl

lemma linesLength_splitlines (t : List Char) : linesLength (splitlines t) ≤ t.length + 1 := by
  induction t with
  | nil => exact Nat.zero_le _
  | cons c t ih =>
    rw [List.length_cons]
    unfold splitlines
    split_ifs
    · omega
    · rw [linesLength_cons, List.length_nil]
      omega
    · split
      · rw [linesLength_cons]
        simp only [List.length_cons, List.length_nil]
        have hnil : linesLength [] = 0 := rfl
        omega
      · rename_i line lines heq
        rw [heq, linesLength_cons] at ih
        rw [linesLength_cons, List.length_cons]
        omega

lemma linesLength_sublist {lines lines' : List (List Char)} (h : List.Sublist lines lines') :
    linesLength lines ≤ linesLength lines' := by
  induction h with
  | slnil => exact Nat.le_refl _
  | cons line _ ih =>
    rw [linesLength_cons]
    omega
  | cons_cons line _ ih =>
    rw [linesLength_cons, linesLength_cons]
    omega

lemma linesLength_strip (lines : List (List Char)) : linesLength (lines.map stripChars) ≤ linesLength lines := by
  induction lines with
  | nil => exact Nat.le_refl _
  | cons line lines ih =>
    have hlen := length_stripChars line
    rw [List.map_cons, linesLength_cons, linesLength_cons]
    omega

lemma fromException_sublist (tail : List (List Char)) : List.Sublist (fromException T tail) tail := by
  unfold fromException
  split
  · exact List.drop_sublist _ _
  · rename_i lines hne
    exact List.dropWhile_sublist _

lemma linesLength_finalLines (text : List Char) : linesLength (finalLines T text) ≤ text.length + 1 := by
  have hsub : List.Sublist (finalLines T text) ((splitlines text).map stripChars) := by
    unfold finalLines
    refine (fromException_sublist _).trans ((List.rtakeWhile_suffix _ _).sublist.trans ?_)
    exact (List.rdropWhile_prefix _ _).sublist.trans List.filter_sublist
  have h₁ := linesLength_sublist hsub
  have h₂ := linesLength_strip (splitlines text)
  have h₃ := linesLength_splitlines text
  omega

lemma length_intercalate (lines : List (List Char)) : (['\n'].intercalate lines).length ≤ linesLength lines - 1 := by
  induction lines with
  | nil => exact Nat.zero_le _
  | cons line lines ih =>
    rw [linesLength_cons]
    cases lines with
    | nil =>
      rw [List.intercalate_singleton]
      omega
    | cons line' lines =>
      rw [linesLength_cons] at ih ⊢
      rw [List.intercalate_cons_cons, List.length_append, List.length_append, List.length_singleton]
      omega

lemma length_beforeMatch (r : Regex) (prev : Option Char) (t : List Char) :
    (beforeMatch r prev t).length ≤ t.length := by
  induction t generalizing prev with
  | nil => exact Nat.le_refl _
  | cons c t ih =>
    have hrest := ih (some c)
    unfold beforeMatch
    split_ifs
    · exact Nat.zero_le _
    · rw [List.length_cons, List.length_cons]
      omega

/-- **Reducing a traceback** leaves no longer text, or the generic message. -/
lemma reduceTraceback_cases (text : List Char) : (reduceTraceback T text).length ≤ text.length ∨
    reduceTraceback T text = genericErrorMessage.toList ∧ text.tails.any tracebackMarker.isPrefixOf = true := by
  unfold reduceTraceback
  split_ifs with hmarker
  · exact Or.inl (Nat.le_refl _)
  · simp only
    have hmark : text.tails.any tracebackMarker.isPrefixOf = true := by simpa using hmarker
    split_ifs
    · left
      have h₁ := linesLength_finalLines (T := T) text
      have h₂ := length_intercalate (finalLines T text)
      have h₃ := length_beforeMatch (seqs [plus space, lit "DETAIL:"]) none (['\n'].intercalate (finalLines T text))
      have h₄ := length_stripChars
        (beforeMatch (seqs [plus space, lit "DETAIL:"]) none (['\n'].intercalate (finalLines T text)))
      omega
    · exact Or.inr ⟨rfl, hmark⟩

lemma length_of_marker {text : List Char} (h : text.tails.any tracebackMarker.isPrefixOf = true) :
    33 ≤ text.length := by
  obtain ⟨tail, htail, hpre⟩ := List.any_eq_true.1 h
  have h₁ := (List.isPrefixOf_iff_prefix.1 hpre).length_le
  have h₂ := ((List.mem_tails _ _).1 htail).length_le
  have h₃ : tracebackMarker.length = 33 := by decide
  omega

end Reduced

/-! ### The message -/

section Message

variable (T : CharTable)

/-- What the substitutions leave of a text. -/
def scrubbed (text : List Char) : List Char := stripChars (runPasses id id (passes T) (reduceTraceback T text))

/-- The message of a text. -/
def messageOf (text : List Char) : List Char :=
  if scrubbed T text = [] then genericErrorMessage.toList else scrubbed T text

lemma scrubbed_nil : scrubbed T [] = [] := by
  have hlen := length_runPasses (passes T) []
  have hnil : runPasses id id (passes T) [] = [] := List.length_eq_zero_iff.1 (by simpa using hlen)
  show stripChars (runPasses id id (passes T) []) = []
  rw [hnil]
  rfl

lemma toList_sanitizeMessage (text : String) :
    (sanitizeMessage (scrub T) text).toList = messageOf T text.toList := by
  have hscrub : strip (scrub T text) = String.ofList (scrubbed T text.toList) := by
    unfold strip scrub scrubbed stripChars
    rw [String.toList_ofList]
  unfold sanitizeMessage messageOf
  by_cases h0 : text = ""
  · have hnil : scrubbed T text.toList = [] := by
      rw [h0]
      exact scrubbed_nil T
    exact (congrArg String.toList (if_pos h0)).trans (if_pos hnil).symm
  · rw [if_neg h0]
    simp only [hscrub]
    by_cases h1 : scrubbed T text.toList = []
    · rw [if_pos (String.ofList_eq_empty_iff.2 h1), if_pos h1]
    · rw [if_neg (mt String.ofList_eq_empty_iff.1 h1), if_neg h1, String.toList_ofList]

end Message

end AdvMcp.Server
