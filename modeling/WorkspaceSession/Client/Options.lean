/-! What a caller asks of a database client. -/
namespace WorkspaceSession

structure ClientOptions where
  applicationName : Option String := none
  searchPath : List String := []
  searchPathPrefix : List String := []
deriving DecidableEq, Inhabited

end WorkspaceSession
