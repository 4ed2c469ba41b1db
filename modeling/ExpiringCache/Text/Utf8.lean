/-!
# Text as bytes

A text is written as its UTF-8 bytes. Reading bytes that are no UTF-8 fails with the place of the
first ill-formed part: either a maximal part of one to three bytes that starts no character, or the
beginning of a character cut off by the end of the bytes.
-/

namespace ExpiringCache.Utf8

inductive Fault where
  /-- Bytes that start no character, after so many good ones. -/
  | illFormed (length : Nat) (offset : Nat)
  /-- A character cut off by the end, after so many good bytes. -/
  | cutOff (offset : Nat)
deriving DecidableEq

def Fault.text : Fault → String
  | illFormed length offset => s!"invalid utf-8 sequence of {length} bytes from index {offset}"
  | cutOff offset => s!"incomplete utf-8 byte sequence from index {offset}"

def encode (text : String) : List UInt8 := text.toByteArray.data.toList

/-- What a first byte asks of the bytes after it: the range of the second byte, and how many more
follow that, each from `0x80` to `0xBF`. -/
structure Lead where
  low : UInt8 := 0x80
  high : UInt8 := 0xBF
  more : Nat

/-- The lead of a character of two bytes or more. -/
def lead? (b : UInt8) : Option Lead :=
  if 0xC2 ≤ b ∧ b ≤ 0xDF then some { more := 0 }
  else if b = 0xE0 then some { low := 0xA0, more := 1 }
  else if b = 0xED then some { high := 0x9F, more := 1 }
  else if 0xE1 ≤ b ∧ b ≤ 0xEF then some { more := 1 }
  else if b = 0xF0 then some { low := 0x90, more := 2 }
  else if b = 0xF4 then some { high := 0x8F, more := 2 }
  else if 0xF1 ≤ b ∧ b ≤ 0xF3 then some { more := 2 }
  else none

/-- How the bytes after a first byte continue its character. -/
inductive Continuation where
  /-- They complete it; these bytes follow. -/
  | complete (rest : List UInt8)
  /-- Only so many of them belong to it. -/
  | broken (length : Nat)
  /-- They end too early. -/
  | ended

/-- Matches the bytes after a first byte, given that so many bytes of the character are read. -/
def continuation (read : Nat) (lead : Lead) : List UInt8 → Continuation
  | [] => .ended
  | b :: rest =>
    if lead.low ≤ b ∧ b ≤ lead.high then
      match lead.more with
      | 0 => .complete rest
      | more + 1 => continuation (read + 1) { more } rest
    else .broken read

theorem length_lt_of_continuation {read : Nat} {lead : Lead} {bytes rest : List UInt8}
    (h : continuation read lead bytes = .complete rest) : rest.length < bytes.length := by
  induction bytes generalizing read lead with
  | nil => simp [continuation] at h
  | cons b bytes ih =>
      simp only [continuation] at h
      split at h
      · split at h
        · obtain rfl := Continuation.complete.inj h
          simp
        · have := ih h
          simp only [List.length_cons]
          omega
      · simp at h

/-- The first ill-formed part of bytes that are no UTF-8, after so many good ones. -/
def firstFault (offset : Nat) : List UInt8 → Fault
  | [] => .cutOff offset
  | b :: bytes =>
    if b < 0x80 then firstFault (offset + 1) bytes
    else
      match lead? b with
      | none => .illFormed 1 offset
      | some lead =>
        match h : continuation 1 lead bytes with
        | .complete rest => firstFault (offset + 1 + (bytes.length - rest.length)) rest
        | .broken length => .illFormed length offset
        | .ended => .cutOff offset
termination_by bytes => bytes.length
decreasing_by
  · simp
  · have := length_lt_of_continuation h
    simp only [List.length_cons]
    omega

def decode (bytes : List UInt8) : Except Fault String :=
  match String.fromUTF8? ⟨bytes.toArray⟩ with
  | some text => .ok text
  | none => .error (firstFault 0 bytes)

theorem encode_inj {s t : String} : encode s = encode t ↔ s = t := by
  constructor
  · intro h
    have hdata : s.toByteArray.data = t.toByteArray.data := Array.toList_inj.1 h
    exact String.toByteArray_inj.1 (ByteArray.ext hdata)
  · rintro rfl
    rfl

@[simp]
theorem decode_encode (text : String) : decode (encode text) = .ok text := by
  have hread : String.fromUTF8? ⟨(encode text).toArray⟩ = some text := dif_pos text.isValidUTF8
  rw [decode, hread]

theorem eq_encode_of_decode {bytes : List UInt8} {text : String} (h : decode bytes = .ok text) :
    bytes = encode text := by
  simp only [decode, String.fromUTF8?] at h
  split at h
  · rename_i found heq
    obtain rfl := Except.ok.inj h
    split at heq
    · obtain rfl := Option.some.inj heq
      rfl
    · simp at heq
  · simp at h

theorem decode_eq_ok_iff {bytes : List UInt8} {text : String} :
    decode bytes = .ok text ↔ bytes = encode text :=
  ⟨eq_encode_of_decode, fun h => h ▸ decode_encode text⟩

end ExpiringCache.Utf8
