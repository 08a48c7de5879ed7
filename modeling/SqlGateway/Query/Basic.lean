import SqlGateway.Value

/-!
A query: the text of a statement and the parameters that its placeholders stand for.
-/

namespace SqlGateway

structure Query where
  sql : String
  params : Params
  deriving Repr

end SqlGateway
