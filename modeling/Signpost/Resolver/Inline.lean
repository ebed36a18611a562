import Signpost.Resolver

/-!
Data given in the document itself, nothing in it being resolved.
-/

namespace Signpost

namespace Resolver

/-- Resolves a definition to the data of its `inline`. -/
def inline : Resolver where
  sort := "inline"
  telltale := "inline"
  resolve _ d :=
    match d.get? "inline" with
    | some value => return .data value.toData
    | none => throw (.missingProperty "inline" d)

end Resolver

end Signpost
