import SecondaryIndex.Bytes

namespace SecondaryIndex.Versioned

/-!
# The history of a key

Each commit that writes a key leaves a version stamped with the number of the
commit; a deletion leaves a version without a value.  A reader sees the newest
version that is no newer than its snapshot.
-/

/-- What a commit left under a key. -/
structure Version where
  stamp : Nat
  value : Option Bytes
  deriving Repr, DecidableEq

/-- The versions of one key, newest first. -/
abbrev History :=
  List Version

namespace History

/-- The value that a snapshot shows. -/
def visible
    (snapshot : Nat)
    (history : History) :
    Option Bytes :=
  match history.find? fun version => version.stamp ≤ snapshot with
  | some version => version.value
  | none => none

/-- Add the newest version; another write of the same commit takes its place. -/
def push
    (stamp : Nat)
    (value : Option Bytes) :
    History → History
  | [] =>
      [⟨stamp, value⟩]
  | newest :: older =>
      if newest.stamp = stamp then
        ⟨stamp, value⟩ :: older
      else
        ⟨stamp, value⟩ :: newest :: older

end History

end SecondaryIndex.Versioned
