import WorkspaceSession.Text.Pieces

/-! Errors with causes: what went wrong, then why, down to the root. -/
namespace WorkspaceSession

structure ErrorChain where
  outermost : String
  causes : List String := []
deriving DecidableEq, Inhabited

namespace ErrorChain

def context (e : ErrorChain) (text : String) : ErrorChain := ⟨text, e.outermost :: e.causes⟩

def texts (e : ErrorChain) : List String := e.outermost :: e.causes

def full (e : ErrorChain) : String := Text.join ": " e.texts

end ErrorChain
end WorkspaceSession
