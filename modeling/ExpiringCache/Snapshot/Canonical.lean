import ExpiringCache.Snapshot.Format
/-!
# Canonical images

Images with the same records in another order describe the same snapshot. `canonical` puts the
records of a complete image in order, by the bytes of the key and then by all bytes of the record;
bytes that are no complete image stay as they are. Text is not looked into, only lengths count.
-/

namespace ExpiringCache.Snapshot

/-- A record whose key and value are any bytes. -/
abbrev RawRecord := List UInt8 × List UInt8

def RawRecord.encode (record : RawRecord) : List UInt8 :=
  encodeBytes record.1 ++ encodeBytes record.2

/-- Reads exactly the given number of raw records, after which no byte is left. -/
def rawRecords? : Nat → List UInt8 → Option (List RawRecord)
  | 0, bytes => if bytes.isEmpty then some [] else none
  | count + 1, bytes => do
    let (key, bytes) ← (takeBytes bytes).toOption
    let (value, bytes) ← (takeBytes bytes).toOption
    let later ← rawRecords? count bytes
    return (key, value) :: later

def RawRecord.le (a b : RawRecord) : Bool :=
  a.1 < b.1 || (a.1 = b.1 && a.encode ≤ b.encode)

/-- The image with its records in order, if the bytes are a complete image. -/
def canonical (bytes : List UInt8) : List UInt8 :=
  let ordered? := do
    let (count, rest) ← (takeWord bytes).toOption
    let records ← rawRecords? count rest
    return encodeWord count ++ (records.mergeSort RawRecord.le).flatMap RawRecord.encode
  ordered?.getD bytes

end ExpiringCache.Snapshot
