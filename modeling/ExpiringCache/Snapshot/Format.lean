import ExpiringCache.Snapshot.CodecError
import ExpiringCache.Table
/-!
# The snapshot format

A snapshot image is the number of its records followed by the records; a record is a key and a
value, each written as the number of its UTF-8 bytes followed by the bytes. Numbers take eight
bytes, the lowest first.

`decode` undoes `encode` and ignores what follows the last record. `scan` reads up to a number of
records and stops at the first fault, so it never reads more records than the bytes hold.
-/

namespace ExpiringCache.Snapshot

abbrev Record := String × String

/-- A number in the given number of bytes, the lowest first. -/
def littleEndian : Nat → Nat → List UInt8
  | 0, _ => []
  | width + 1, n => UInt8.ofNat (n % 256) :: littleEndian width (n / 256)

/-- The number that bytes denote, the lowest first. -/
def ofLittleEndian : List UInt8 → Nat
  | [] => 0
  | b :: rest => b.toNat + 256 * ofLittleEndian rest

def wordSize : Nat := 8

def encodeWord (n : Nat) : List UInt8 := littleEndian wordSize n

/-- Bytes with their number in front. -/
def encodeBytes (bytes : List UInt8) : List UInt8 := encodeWord bytes.length ++ bytes

def encodeRecord (record : Record) : List UInt8 :=
  encodeBytes (Utf8.encode record.1) ++ encodeBytes (Utf8.encode record.2)

def encode (records : List Record) : List UInt8 :=
  encodeWord records.length ++ records.flatMap encodeRecord

def takeWord (bytes : List UInt8) : Except CodecError (Nat × List UInt8) :=
  if bytes.length < wordSize then .error (.io (.plain .unexpectedEnd))
  else .ok (ofLittleEndian (bytes.take wordSize), bytes.drop wordSize)

/-- Reads bytes with their number in front. -/
def takeBytes (bytes : List UInt8) : Except CodecError (List UInt8 × List UInt8) := do
  let (length, bytes) ← takeWord bytes
  if bytes.length < length then throw (.io (.described .unexpectedEnd ""))
  return (bytes.take length, bytes.drop length)

def takeText (bytes : List UInt8) : Except CodecError (String × List UInt8) := do
  let (content, bytes) ← takeBytes bytes
  match Utf8.decode content with
  | .ok text => return (text, bytes)
  | .error fault => throw (.invalidUtf8 fault)

def takeRecord (bytes : List UInt8) : Except CodecError (Record × List UInt8) := do
  let (key, bytes) ← takeText bytes
  let (value, bytes) ← takeText bytes
  return ((key, value), bytes)

/-- What was read of a run of records. -/
structure Scan where
  records : List Record
  rest : List UInt8
  /-- Why reading stopped before the wanted number of records, if it did. -/
  fault? : Option CodecError
deriving DecidableEq

/-- Reads the given number of records, or fewer if a fault stops it. -/
def scan : Nat → List UInt8 → Scan
  | 0, bytes => { records := [], rest := bytes, fault? := none }
  | count + 1, bytes =>
    match takeRecord bytes with
    | .error fault => { records := [], rest := bytes, fault? := some fault }
    | .ok (record, rest) =>
      let later := scan count rest
      { later with records := record :: later.records }

def decode (bytes : List UInt8) : Except CodecError (List Record) := do
  let (count, bytes) ← takeWord bytes
  let run := scan count bytes
  match run.fault? with
  | some fault => throw fault
  | none => return run.records

/-- The values by key; the last record of a key counts. -/
def latest (records : List Record) : Table String String :=
  records.foldl (fun table record => table.insert record.1 record.2) ∅

@[simp]
theorem length_littleEndian (width n : Nat) : (littleEndian width n).length = width := by
  induction width generalizing n with
  | zero => rfl
  | succ width ih => simp [littleEndian, ih]

theorem ofLittleEndian_littleEndian (width n : Nat) :
    ofLittleEndian (littleEndian width n) = n % Nat.pow 256 width := by
  induction width generalizing n with
  | zero => exact (Nat.mod_one n).symm
  | succ width ih =>
      have hpow : Nat.pow 256 (width + 1) = 256 * Nat.pow 256 width := Nat.mul_comm _ _
      have hbyte : (UInt8.ofNat (n % 256)).toNat = n % 256 := by simp
      rw [littleEndian, ofLittleEndian, ih, hbyte, hpow, Nat.mod_mul]

@[simp]
theorem length_encodeWord (n : Nat) : (encodeWord n).length = wordSize := length_littleEndian _ _

theorem takeWord_encodeWord_append {n : Nat} (h : n < UInt64.size) (rest : List UInt8) :
    takeWord (encodeWord n ++ rest) = .ok (n, rest) := by
  have hlength : ¬(encodeWord n ++ rest).length < wordSize := by simp
  have htake : (encodeWord n ++ rest).take wordSize = encodeWord n :=
    List.take_left' (length_encodeWord n)
  have hdrop : (encodeWord n ++ rest).drop wordSize = rest :=
    List.drop_left' (length_encodeWord n)
  have hword : ofLittleEndian (encodeWord n) = n := by
    rw [encodeWord, ofLittleEndian_littleEndian]
    exact Nat.mod_eq_of_lt h
  rw [takeWord, if_neg hlength, htake, hdrop, hword]

theorem takeBytes_encodeBytes_append {bytes : List UInt8} (h : bytes.length < UInt64.size)
    (rest : List UInt8) : takeBytes (encodeBytes bytes ++ rest) = .ok (bytes, rest) := by
  have hlength : ¬(bytes ++ rest).length < bytes.length := by simp
  simp only [takeBytes, encodeBytes, List.append_assoc, takeWord_encodeWord_append h, bind,
    Except.bind, if_neg hlength, pure, Except.pure, List.take_left, List.drop_left]

theorem takeText_encode_append {text : String} (h : (Utf8.encode text).length < UInt64.size)
    (rest : List UInt8) :
    takeText (encodeBytes (Utf8.encode text) ++ rest) = .ok (text, rest) := by
  simp only [takeText, takeBytes_encodeBytes_append h, bind, Except.bind, Utf8.decode_encode, pure,
    Except.pure]

/-- A record that an image can hold: the numbers of its bytes fit into words. -/
def Fits (record : Record) : Prop :=
  (Utf8.encode record.1).length < UInt64.size ∧ (Utf8.encode record.2).length < UInt64.size

theorem takeRecord_encodeRecord_append {record : Record} (h : Fits record) (rest : List UInt8) :
    takeRecord (encodeRecord record ++ rest) = .ok (record, rest) := by
  simp only [takeRecord, encodeRecord, List.append_assoc, takeText_encode_append h.1,
    takeText_encode_append h.2, bind, Except.bind, pure, Except.pure]

theorem scan_encodeRecord_append {records : List Record} (h : ∀ record ∈ records, Fits record)
    (rest : List UInt8) :
    scan records.length (records.flatMap encodeRecord ++ rest) =
      { records, rest, fault? := none } := by
  induction records with
  | nil => rfl
  | cons record records ih =>
      have hhead := h record List.mem_cons_self
      have htail := ih fun other hother => h other (List.mem_cons_of_mem _ hother)
      simp only [List.length_cons, List.flatMap_cons, List.append_assoc, scan,
        takeRecord_encodeRecord_append hhead, htail]

theorem decode_encode_append {records : List Record} (hcount : records.length < UInt64.size)
    (h : ∀ record ∈ records, Fits record) (rest : List UInt8) :
    decode (encode records ++ rest) = .ok records := by
  simp only [decode, encode, List.append_assoc, takeWord_encodeWord_append hcount, bind,
    Except.bind, scan_encodeRecord_append h, pure, Except.pure]

end ExpiringCache.Snapshot
