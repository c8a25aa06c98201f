import WorkspaceSession.Domain.Direction
import WorkspaceSession.Domain.Label

/-! Domain names. Different spellings of a name are read as one, and names that could be taken for
others are refused. -/
namespace WorkspaceSession.Domain

def read? (cs : List Char) : Option (List Char) := do
  let spelled ← cs.mapM standsFor?
  let labels ← (Text.pieces '.' (Text.composed spelled.flatten)).mapM readLabel?
  if directionsFit labels then some (Text.glue ['.'] labels) else none

end WorkspaceSession.Domain
