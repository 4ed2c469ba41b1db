/-!
# Payloads

What a store holds under a key. Snapshots hold text only: `SnapshotText` says which values are
saved, and as what text, and what value a saved text becomes.
-/

namespace ExpiringCache

/-- Values that a snapshot may hold. -/
class SnapshotText (ν : Type) where
  /-- The text of a value, if it is saved at all. -/
  toText? : ν → Option String
  /-- The value reloaded from a text. -/
  ofText : String → ν

instance : SnapshotText String where
  toText? := some
  ofText text := text

inductive Payload where
  | text (text : String)
  | number (n : Int)
  | bytes (bytes : List UInt8)
deriving DecidableEq

/-- Only text is saved. -/
instance : SnapshotText Payload where
  toText?
    | .text text => some text
    | _ => none
  ofText := .text

end ExpiringCache
