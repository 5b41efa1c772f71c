import DdeTrayLoader.Transition.Outstanding

/-!
# Activation tokens

An `XdgActivation` asks the compositor for one token, which the application that is about to be
activated needs to get the focus. Its `tokenReady` comes with the answer of the compositor, or at
once with an empty token when the compositor does not know the protocol.
-/

namespace DdeTrayLoader.Plugin

open DdeTrayLoader.Transition

/-- The requests for tokens, with what each token is for. -/
structure XdgActivation (κ : Type) where
  /-- `isActive()` -/
  active : Bool
  tokens : Outstanding κ String

namespace XdgActivation

variable {κ : Type}

def create (active : Bool) : XdgActivation κ := ⟨active, .none⟩

/-- `requestToken` of a new `XdgActivation`, with the token of its `tokenReady` if that comes at
once. -/
def requestToken (s : XdgActivation κ) (purpose : κ) : XdgActivation κ × Option String :=
  if s.active then ({ s with tokens := s.tokens.wait purpose }, none)
  else ({ s with tokens := s.tokens.answerNow purpose "" }, some "")

/-- The compositor's answer to the `i`-th request, with what its token is for. -/
def done (s : XdgActivation κ) (i : ℕ) (token : String) : XdgActivation κ × Option κ :=
  ({ s with tokens := s.tokens.answer i token }, s.tokens.pending[i]?)

/-- A request waits, or its token is empty and comes at once. -/
theorem requestToken_cases (s : XdgActivation κ) (purpose : κ) :
    s.requestToken purpose = ({ s with tokens := s.tokens.wait purpose }, none) ∨
      s.requestToken purpose = ({ s with tokens := s.tokens.answerNow purpose "" }, some "") := by
  unfold requestToken
  split_ifs
  · exact .inl rfl
  · exact .inr rfl

end XdgActivation

end DdeTrayLoader.Plugin
