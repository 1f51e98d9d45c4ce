import AdvMcp.Py.Exc

/-!
# What the client is told of an exception

`server/sanitizer.py`.  The substitutions of `sanitize_message` are a parameter: a function on texts.
-/

namespace AdvMcp.Server

open AdvMcp.Py

/-- `isinstance(exc, SAFE_EXCEPTIONS)` -/
def safe (e : PyExc) : Bool :=
  e.cls ∈ [.userError, .accessError, .validationError, .missingError]

def genericErrorMessage : String := "Internal server error"

/-- `sanitize_message`; `scrub` stands for `_reduce_traceback` and the substitutions. -/
def sanitizeMessage (scrub : String → String) (text : String) : String :=
  if text = "" then genericErrorMessage
  else
    let text := strip (scrub text)
    if text = "" then genericErrorMessage else text

/-- `_exc_message` -/
def excMessage (e : PyExc) : String := e.arg.getD e.text

def sanitizeException (scrub : String → String) (e : PyExc) : String :=
  if safe e then sanitizeMessage scrub (excMessage e) else genericErrorMessage

variable {scrub : String → String}

/-- The client is always told something. -/
lemma sanitizeMessage_ne (text : String) : sanitizeMessage scrub text ≠ "" := by
  unfold sanitizeMessage
  simp only
  split_ifs with h0 h1
  · decide
  · decide
  · exact h1

lemma sanitizeException_ne (e : PyExc) : sanitizeException scrub e ≠ "" := by
  unfold sanitizeException
  split_ifs
  · exact sanitizeMessage_ne _
  · decide

end AdvMcp.Server
