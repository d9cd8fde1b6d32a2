import AbiBindings.Emit.Warning

/-!
# Notes

What a run says beside its results: what it did, and what there is to warn of.
-/

namespace AbiBindings

/-- One note. -/
inductive Note where
  | wrote (path : String)
  | nothingToBind (path contract : String)
  | warning (w : Warning)

/-- The wording of a note. -/
def Note.message : Note → String
  | wrote path => "Wrote " ++ path
  | nothingToBind path contract => "No functions or events in " ++ path ++ ", skipping " ++ contract
  | warning w => w.message

/-- Whether a note is a warning. -/
def Note.isWarning : Note → Bool
  | warning _ => true
  | _ => false

end AbiBindings
