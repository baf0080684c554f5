import Descent.Parser.Basic

/-! The caller's state: reading it, writing it, and choosing by it. None of these
looks at the text. -/
namespace Descent.Parser
variable {ω σ α : Type}

/-- Finds the state. -/
def getState : Parser ω σ σ := fun s t w => accept s t s w

/-- Sets the state. -/
def replaceState (state : σ) : Parser ω σ Unit := fun _ t w => accept state t () w

/-- Changes the state. -/
def transformState (f : σ → σ) : Parser ω σ Unit := fun s t w => accept (f s) t () w

/-- Chooses the parser by the state. -/
def readState (f : σ → Parser ω σ α) : Parser ω σ α := fun s t w => f s s t w

end Descent.Parser
