import Workbench.Interrupt
/-!
# Cancellation tokens

A token is cancelled by hand or with its parent, never with its child. The
copies of a token are the same token. This file also walks the causes of an
error to tell whether it comes from a cancellation.
-/

namespace Workbench

/-- One token of a family. -/
structure CancelToken where
  /-- An earlier token of the family whose cancellation it follows. -/
  parent : Option Nat
  /-- Whether it was cancelled itself. -/
  cancelled : Bool
deriving DecidableEq, Repr, Inhabited

/-- **Tokens in the order of their creation**, the newest first; a token is
known by the number of tokens older than it. -/
structure TokenFamily where
  newest : List CancelToken
deriving DecidableEq, Repr, Inhabited

namespace TokenFamily

/-- No tokens. -/
def empty : TokenFamily := ⟨[]⟩

/-- The number the next token will have. -/
def size (f : TokenFamily) : Nat := f.newest.length

/-- A new token that stands alone. -/
def create (f : TokenFamily) (cancelled : Bool) : TokenFamily := ⟨⟨none, cancelled⟩ :: f.newest⟩

/-- A new token that follows another. -/
def child (f : TokenFamily) (parent : Nat) : TokenFamily := ⟨⟨some parent, false⟩ :: f.newest⟩

/-- Cancels the token `n` of a list. -/
def cancelIn (n : Nat) : List CancelToken → List CancelToken
  | [] => []
  | token :: older =>
    if n = older.length then { token with cancelled := true } :: older
    else token :: cancelIn n older

/-- Requests cancellation. -/
def cancel (f : TokenFamily) (n : Nat) : TokenFamily := ⟨cancelIn n f.newest⟩

/-- Whether the token `n` of a list is cancelled, or one it follows. -/
def isCancelledIn (n : Nat) : List CancelToken → Bool
  | [] => false
  | token :: older =>
    if n = older.length then
      token.cancelled || (token.parent.any fun parent => isCancelledIn parent older)
    else isCancelledIn n older

/-- **Whether a token is cancelled**, by hand or with one that it follows. -/
def isCancelled (f : TokenFamily) (n : Nat) : Bool := isCancelledIn n f.newest

/-- The interrupt a token gives to a computation that nobody else sees. -/
def interrupt (f : TokenFamily) (n : Nat) : Interrupt :=
  if f.isCancelled n then .fired else .never

end TokenFamily

/-! ## Causes -/

/-- An error with its causes. -/
inductive Cause where
  /-- The operation was cancelled. -/
  | cancelled
  | message (text : String) (source : Option Cause)
deriving Repr, Inhabited

namespace Cause

/-- The text of an error, without its causes. -/
def text : Cause → String
  | cancelled => cancelledMessage
  | message text _ => text

/-- **Whether an error or one of its causes is a cancellation.** The texts
say nothing. -/
def isCancelled : Cause → Bool
  | cancelled => true
  | message _ none => false
  | message _ (some source) => source.isCancelled

end Cause

end Workbench
