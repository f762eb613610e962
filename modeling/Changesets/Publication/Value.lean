/-!
Whether a changeset is published: not said, said by a boolean, or as a draft.
-/
namespace Changesets.Publication

inductive Value
  | absent
  | explicit (published : Bool)
  | draft
  deriving DecidableEq

end Changesets.Publication
